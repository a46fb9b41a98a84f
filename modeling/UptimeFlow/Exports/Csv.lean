import Mathlib.Data.List.Forall2
import UptimeFlow.Access.Roles
import UptimeFlow.Rfc4180

/-!
# UptimeFlow.Exports.Csv

Reports as comma-separated values.

A row is an object, and a column a property that is looked up in it; a row that
lacks a column has what every object inherits under that name.  Fields are quoted
where the grammar needs it, so the text is read back as one record a row, as long
as there is a column at all and the last record is not a single empty field, which
leaves no trace in the text (`toCsv_reads_iff`).
-/

namespace UptimeFlow.Exports

open Access (objectPrototype)
open Rfc4180

/-! ## writing -/

/-- A cell; a number is the text `String` makes of it. -/
inductive CsvCell where
  | undefined
  | null
  | bool (b : Bool)
  | number (text : Text)
  | string (s : Text)
deriving DecidableEq, Repr

/-- The own properties of an object, in order. -/
abbrev CsvRow := List (Text × CsvCell)

/-- `String(value)`. -/
def CsvCell.text : CsvCell → Text
  | .undefined => "undefined".toList
  | .null => "null".toList
  | .bool b => (if b then "true" else "false").toList
  | .number text => text
  | .string s => s

/-- `/[",\n\r]/`. -/
def isSpecial (c : Char) : Bool := c = '"' || c = ',' || c = '\n' || c = '\r'

/-- `s.replace(/"/g, '""')`. -/
def doubleQuotes (s : Text) : Text := s.flatMap fun c => if c = '"' then ['"', '"'] else [c]

/-- Escape a single field. -/
def csvField (value : CsvCell) : Text :=
  if value = .null ∨ value = .undefined then []
  else if value.text.any isSpecial then '"' :: doubleQuotes value.text ++ ['"']
  else value.text

/-- What every object has under a name, as text: a function, or the prototype itself. -/
def inherited (name : Text) : Option Text :=
  if name = "__proto__".toList then some "[object Object]".toList
  else if name = "constructor".toList then some "function Object() \x7b [native code] \x7d".toList
  else if String.ofList name ∈ objectPrototype then
    some ("function ".toList ++ name ++ "() \x7b [native code] \x7d".toList)
  else none

/-- `row[c]`. -/
def lookup (row : CsvRow) (c : Text) : CsvCell :=
  match row.find? fun p => p.1 = c with
  | some p => p.2
  | none =>
      match inherited c with
      | some text => .string text
      | none => .undefined

/-- Every key of every row, in the order of first appearance. -/
def deriveColumns (rows : List CsvRow) : List Text :=
  rows.foldl (fun seen row =>
    row.foldl (fun seen p => if seen.contains p.1 then seen else seen ++ [p.1]) seen) []

/-- The columns of an export. -/
def columnsOf (rows : List CsvRow) (columns : Option (List Text)) : List Text :=
  columns.getD (deriveColumns rows)

/-- Serialize rows. -/
def toCsv (rows : List CsvRow) (columns : Option (List Text)) : Text :=
  let cols := columnsOf rows columns
  let header := [','].intercalate (cols.map fun c => csvField (.string c))
  let body := ['\n'].intercalate
    (rows.map fun row => [','].intercalate (cols.map fun c => csvField (lookup row c)))
  if body ≠ [] then header ++ '\n' :: body else header

example : toCsv [[("a".toList, .string "x,y".toList)], [("b".toList, .bool true)]] none =
    "a,b\n\"x,y\",\n,true".toList := by decide

/-! ## what is meant -/

/-- The string form of a value, empty for null and undefined. -/
def form (value : CsvCell) : Text :=
  if value = .null ∨ value = .undefined then [] else value.text

/-- The string form of a row's own cell, empty where there is none. -/
def cellForm (row : CsvRow) (c : Text) : Text :=
  match row.find? fun p => p.1 = c with
  | some p => form p.2
  | none => []

/-- The column names, and a record a row. -/
def meant (rows : List CsvRow) (cols : List Text) : List (List Text) :=
  cols :: rows.map fun row => cols.map (cellForm row)

/-- The text is read back as what is meant. -/
def Reads (rows : List CsvRow) (columns : Option (List Text)) : Prop :=
  parse (toCsv rows columns) = some (meant rows (columnsOf rows columns))

/-- The row lacks a column that every object has something under. -/
def Borrows (row : CsvRow) (c : Text) : Prop :=
  (row.find? fun p => p.1 = c) = none ∧ (inherited c).isSome

/-- There is a column, the last record is not one empty field, and no row borrows a cell. -/
structure Legible (rows : List CsvRow) (cols : List Text) : Prop where
  columns : cols ≠ []
  last : (meant rows cols).getLast? ≠ some [[]]
  own : ∀ row ∈ rows, ∀ c ∈ cols, ¬ Borrows row c

/-! ## fields -/

theorem isText_of_not_isSpecial {c : Char} (h : isSpecial c = false) : IsText c := by
  simp only [isSpecial, Bool.or_eq_false_iff, decide_eq_false_iff_not] at h
  obtain ⟨⟨⟨hquote, hcomma⟩, hlf⟩, hcr⟩ := h
  exact ⟨hcomma, hquote, hcr, hlf⟩

/-- A field is written so that it is read as its string form. -/
theorem isField_csvField (value : CsvCell) : IsField (csvField value) (form value) := by
  unfold csvField form
  split_ifs with hempty hspecial
  · exact .plain (by simp)
  · exact .quoted value.text
  · refine .plain fun c hc => isText_of_not_isSpecial ?_
    rw [Bool.eq_false_iff]
    exact fun hc' => hspecial (List.any_eq_true.2 ⟨c, hc, hc'⟩)

theorem csvField_eq_nil_iff (value : CsvCell) : csvField value = [] ↔ form value = [] := by
  unfold csvField form
  split_ifs with hempty hspecial
  · rfl
  · simp only [List.cons_append, List.cons_ne_nil, false_iff]
    intro hnil
    rw [hnil] at hspecial
    cases hspecial
  · rfl

theorem form_string (s : Text) : form (.string s) = s := if_neg (by simp)

theorem inherited_ne_nil {c text : Text} (h : inherited c = some text) : text ≠ [] := by
  unfold inherited at h
  split_ifs at h
  all_goals
    cases h
    simp

/-- What is written of a cell is what is meant, unless it is borrowed. -/
theorem form_lookup_iff {row : CsvRow} {c : Text} :
    form (lookup row c) = cellForm row c ↔ ¬ Borrows row c := by
  unfold lookup cellForm Borrows
  cases row.find? fun p => p.1 = c with
  | some p => simp
  | none =>
      cases htext : inherited c with
      | none => simp [form]
      | some text => simp [form_string, inherited_ne_nil htext]

/-! ## texts -/

section
variable (rows : List CsvRow) (cols : List Text)

/-- The fields as they are written, and what they are read as. -/
def written : List (List Text) :=
  (cols.map fun c => csvField (.string c)) ::
    rows.map fun row => cols.map fun c => csvField (lookup row c)

def forms : List (List Text) :=
  cols :: rows.map fun row => cols.map fun c => form (lookup row c)

end

section
variable {rows : List CsvRow} {cols : List Text}

theorem isRecord_map (h : cols ≠ []) (value : Text → CsvCell) :
    IsRecord (cols.map fun c => csvField (value c)) (cols.map fun c => form (value c)) := by
  refine ⟨by simpa using h, ?_⟩
  rw [List.forall₂_map_left_iff, List.forall₂_map_right_iff, List.forall₂_same]
  exact fun c _ => isField_csvField (value c)

theorem forall₂_written (rows : List CsvRow) (h : cols ≠ []) : List.Forall₂ IsRecord (written rows cols) (forms rows cols) := by
  refine .cons ?_ ?_
  · have hheader := isRecord_map h CsvCell.string
    simpa [form_string] using hheader
  · rw [List.forall₂_map_left_iff, List.forall₂_map_right_iff, List.forall₂_same]
    exact fun row _ => isRecord_map h (lookup row)

theorem map_csvField_iff (cols : List Text) (value : Text → CsvCell) :
    (cols.map fun c => csvField (value c)) = [[]] ↔ (cols.map fun c => form (value c)) = [[]] := by
  simp [List.map_eq_singleton_iff, csvField_eq_nil_iff]

theorem getLast?_written :
    (written rows cols).getLast? = some [[]] ↔ (forms rows cols).getLast? = some [[]] := by
  unfold written forms
  rw [List.getLast?_cons, List.getLast?_cons, List.getLast?_map, List.getLast?_map]
  cases rows.getLast? with
  | none =>
      have hheader := map_csvField_iff cols CsvCell.string
      simpa [form_string] using hheader
  | some row => simpa using map_csvField_iff cols (lookup row)

/-- The text is the lines of its records, unless the rows come out empty. -/
theorem toCsv_eq (rows : List CsvRow) (columns : Option (List Text)) :
    toCsv rows columns =
      if rows ≠ [] ∧ lines (written rows (columnsOf rows columns)).tail = [] then
        lines (written [] (columnsOf rows columns))
      else lines (written rows (columnsOf rows columns)) := by
  unfold toCsv
  generalize columnsOf rows columns = cols
  have hbody : lines (written rows cols).tail = ['\n'].intercalate
      (rows.map fun row => [','].intercalate (cols.map fun c => csvField (lookup row c))) := by
    simp [lines, written, line, Function.comp_def]
  have hheader : lines (written [] cols) =
      [','].intercalate (cols.map fun c => csvField (.string c)) := by
    simp [lines, written, line]
  dsimp only
  rw [← hbody, ← hheader]
  by_cases hrows : rows = []
  · subst hrows
    simp [written, lines]
  · have hlines : lines (written rows cols) =
        lines (written [] cols) ++ '\n' :: lines (written rows cols).tail := by
      rw [hheader]
      exact lines_cons (by simpa [written] using hrows)
    rw [hlines]
    by_cases hnil : lines (written rows cols).tail = []
    · rw [if_neg (by simp [hnil]), if_pos ⟨hrows, hnil⟩]
    · rw [if_pos hnil, if_neg (by simp [hnil])]

/-- The rows come out empty only if all there is to them is one empty field. -/
theorem getLast?_of_body (hcols : cols ≠ []) (hrows : rows ≠ [])
    (hbody : lines (written rows cols).tail = []) : (written rows cols).getLast? = some [[]] := by
  have hall : ∀ texts ∈ (written rows cols).tail, texts ≠ [] := by
    intro texts htexts
    obtain ⟨row, _, rfl⟩ := List.mem_map.1 htexts
    simpa using hcols
  have htail := lines_eq_nil (by simpa [written] using hrows) hall hbody
  unfold written at htail ⊢
  rw [List.tail_cons] at htail
  rw [htail]
  rfl

variable {columns : Option (List Text)}

/-- Read back, the text is what was written, -/
theorem parse_toCsv (hcols : columnsOf rows columns ≠ [])
    (hlast : (forms rows (columnsOf rows columns)).getLast? ≠ some [[]]) :
    parse (toCsv rows columns) = some (forms rows (columnsOf rows columns)) := by
  have hlast' := getLast?_written.not.2 hlast
  rw [toCsv_eq, if_neg fun h => hlast' (getLast?_of_body hcols h.1 h.2),
    parse_lines (by simp [written]) (forall₂_written rows hcols), if_neg hlast']

/-- but for a last record that is one empty field. -/
theorem parse_toCsv_short (hcols : columnsOf rows columns ≠ [])
    (hlast : (forms rows (columnsOf rows columns)).getLast? = some [[]]) :
    ∃ records, parse (toCsv rows columns) = some records ∧ records.length ≤ rows.length := by
  rw [toCsv_eq]
  split_ifs with hbody
  · have hheader := parse_lines (by simp [written])
      (forall₂_written [] hcols)
    refine ⟨_, hheader, ?_⟩
    have hpos := List.length_pos_iff.2 hbody.1
    have hle : ∀ records : List (List Text), records.length ≤ 1 → records.length ≤ rows.length :=
      fun _ h => by omega
    apply hle
    split
    · simp [forms]
    · simp [forms]
  · refine ⟨_, parse_lines (by simp [written]) (forall₂_written rows hcols), ?_⟩
    rw [if_pos (getLast?_written.2 hlast)]
    simp [forms]

/-- What is written is what is meant just if no cell is borrowed. -/
theorem forms_eq_meant_iff : forms rows cols = meant rows cols ↔
    ∀ row ∈ rows, ∀ c ∈ cols, ¬ Borrows row c := by
  unfold forms meant
  simp [List.map_inj_left, form_lookup_iff]

/-- **The text of an export** is read back as the column names and a record a row, each of the
string forms of the row's cells, just if it is legible. -/
theorem toCsv_reads_iff (rows : List CsvRow) (columns : Option (List Text)) :
    Reads rows columns ↔ Legible rows (columnsOf rows columns) := by
  unfold Reads
  constructor
  · intro h
    have hcols : columnsOf rows columns ≠ [] :=
      ne_nil_of_parse h _ (by simp [meant])
    have hlast : (forms rows (columnsOf rows columns)).getLast? ≠ some [[]] := by
      intro hlast
      obtain ⟨records, hparse, hlength⟩ := parse_toCsv_short hcols hlast
      rw [h] at hparse
      cases hparse
      rw [meant, List.length_cons, List.length_map] at hlength
      omega
    have hforms := parse_toCsv hcols hlast
    rw [h] at hforms
    have hsame := (Option.some.inj hforms).symm
    exact ⟨hcols, by rwa [← hsame], forms_eq_meant_iff.1 hsame⟩
  · intro h
    have hsame := forms_eq_meant_iff.2 h.own
    rw [parse_toCsv h.columns (by rw [hsame]; exact h.last), hsame]

end

/-- The one row of an export of one empty cell is lost. -/
theorem not_reads_null : ¬ Reads [[("a".toList, .null)]] (some ["a".toList]) := by
  unfold Reads
  decide

end UptimeFlow.Exports
