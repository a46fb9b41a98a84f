import Mathlib.Data.List.Basic

/-!
# UptimeFlow.Rfc4180

Comma-separated values as RFC 4180 defines them, and reading them.

A field is either plain text, or text of any kind between quotes, in which a
quote is written twice.  Commas end fields and line breaks end records; a line
break is CRLF, or LF alone.  A record has at least one field.  The last record may
end in a line break or not, so nothing behind the last line break is no record.
-/

namespace UptimeFlow.Rfc4180

abbrev Text := List Char

/-- Where the reader is in a field: outside of quotes, between them, or behind what may be the
closing one. -/
inductive Mode where
  | plain | quoted | closed
deriving DecidableEq, Repr

/-- The reader: the field so far and the fields before it in the record, both reversed. -/
def parseFrom : Mode → Text → List Text → Text → Option (List (List Text))
  | .plain, [], [], [] => some []
  | .quoted, _, _, [] => none
  | _, field, fields, [] => some [(field.reverse :: fields).reverse]
  | .quoted, field, fields, c :: cs =>
      if c = '"' then parseFrom .closed field fields cs
      else parseFrom .quoted (c :: field) fields cs
  | _, field, fields, '\r' :: '\n' :: cs =>
      (parseFrom .plain [] [] cs).map ((field.reverse :: fields).reverse :: ·)
  | mode, field, fields, c :: cs =>
      if c = ',' then parseFrom .plain [] (field.reverse :: fields) cs
      else if c = '\n' then
        (parseFrom .plain [] [] cs).map ((field.reverse :: fields).reverse :: ·)
      else if c = '\r' then none
      else if mode = .closed then
        -- the quote before was the first of two
        if c = '"' then parseFrom .quoted ('"' :: field) fields cs else none
      else if c = '"' then if field = [] then parseFrom .quoted [] fields cs else none
      else parseFrom .plain (c :: field) fields cs

/-- The records of a text, unless it has another form. -/
def parse (cs : Text) : Option (List (List Text)) := parseFrom .plain [] [] cs

example : parse "a,\"b\"\",\n\"\r\n,\n".toList =
    some [["a".toList, "b\",\n".toList], [[], []]] := by decide

/-! ## the steps of the reader -/

/-- Neither a comma nor a quote nor a line break. -/
def IsText (c : Char) : Prop := c ≠ ',' ∧ c ≠ '"' ∧ c ≠ '\r' ∧ c ≠ '\n'

section
variable {mode : Mode} {field : Text} {fields : List Text} {cs : Text} {c : Char}

/-- Between quotes only a quote counts. -/
theorem parseFrom_quoted_cons (field : Text) (fields : List Text) (c : Char) (cs : Text) :
    parseFrom .quoted field fields (c :: cs) =
      if c = '"' then parseFrom .closed field fields cs
      else parseFrom .quoted (c :: field) fields cs := rfl

/-- Outside of quotes every character has its part, but for the one that needs a second. -/
theorem parseFrom_cons (h : mode ≠ .quoted) (hc : c ≠ '\r') :
    parseFrom mode field fields (c :: cs) =
      if c = ',' then parseFrom .plain [] (field.reverse :: fields) cs
      else if c = '\n' then (parse cs).map ((field.reverse :: fields).reverse :: ·)
      else if mode = .closed then
        if c = '"' then parseFrom .quoted ('"' :: field) fields cs else none
      else if c = '"' then if field = [] then parseFrom .quoted [] fields cs else none
      else parseFrom .plain (c :: field) fields cs := by
  rw [parseFrom]
  · simp only [hc, if_false]
    rfl
  · exact fun _ hcr _ => hc hcr
  · exact h

theorem parseFrom_comma (h : mode ≠ .quoted) :
    parseFrom mode field fields (',' :: cs) = parseFrom .plain [] (field.reverse :: fields) cs := by
  rw [parseFrom_cons h (by decide), if_pos rfl]

theorem parseFrom_lf (h : mode ≠ .quoted) :
    parseFrom mode field fields ('\n' :: cs) =
      (parse cs).map ((field.reverse :: fields).reverse :: ·) := by
  rw [parseFrom_cons h (by decide), if_neg (by decide), if_pos rfl]

theorem parseFrom_nil (h : mode ≠ .quoted) (hne : mode = .closed ∨ field ≠ [] ∨ fields ≠ []) :
    parseFrom mode field fields [] = some [(field.reverse :: fields).reverse] := by
  cases mode with
  | quoted => contradiction
  | closed => rfl
  | plain =>
      cases field with
      | cons => rfl
      | nil =>
          cases fields with
          | cons => rfl
          | nil => simp at hne

theorem parseFrom_text (h : IsText c) :
    parseFrom .plain field fields (c :: cs) = parseFrom .plain (c :: field) fields cs := by
  obtain ⟨hcomma, hquote, hcr, hlf⟩ := h
  rw [parseFrom_cons (by simp) hcr, if_neg hcomma, if_neg hlf, if_neg (by simp), if_neg hquote]

theorem parseFrom_quote : parseFrom .plain [] fields ('"' :: cs) = parseFrom .quoted [] fields cs := by
  rw [parseFrom_cons (by simp) (by decide), if_neg (by decide), if_neg (by decide),
    if_neg (by simp), if_pos rfl, if_pos rfl]

theorem parseFrom_quoted (h : c ≠ '"') :
    parseFrom .quoted field fields (c :: cs) = parseFrom .quoted (c :: field) fields cs := by
  rw [parseFrom_quoted_cons, if_neg h]

theorem parseFrom_close : parseFrom .quoted field fields ('"' :: cs) =
    parseFrom .closed field fields cs := by
  rw [parseFrom_quoted_cons, if_pos rfl]

theorem parseFrom_twice : parseFrom .quoted field fields ('"' :: '"' :: cs) =
    parseFrom .quoted ('"' :: field) fields cs := by
  rw [parseFrom_close, parseFrom_cons (by simp) (by decide), if_neg (by decide),
    if_neg (by decide), if_pos rfl, if_pos rfl]

end

/-! ## fields -/

/-- A character between quotes. -/
def twice (c : Char) : Text := if c = '"' then ['"', '"'] else [c]

/-- The text of a field, and what it stands for. -/
inductive IsField : Text → Text → Prop where
  | plain {s : Text} (h : ∀ c ∈ s, IsText c) : IsField s s
  | quoted (s : Text) : IsField ('"' :: s.flatMap twice ++ ['"']) s

theorem parseFrom_plain {s : Text} (h : ∀ c ∈ s, IsText c) (field : Text) (fields : List Text)
    (cs : Text) :
    parseFrom .plain field fields (s ++ cs) = parseFrom .plain (s.reverse ++ field) fields cs := by
  induction s generalizing field with
  | nil => rfl
  | cons c s ih =>
      obtain ⟨hc, hs⟩ := List.forall_mem_cons.1 h
      rw [List.cons_append, parseFrom_text hc, ih hs]
      simp

theorem parseFrom_twices (s field : Text) (fields : List Text) (cs : Text) :
    parseFrom .quoted field fields (s.flatMap twice ++ cs) =
      parseFrom .quoted (s.reverse ++ field) fields cs := by
  induction s generalizing field with
  | nil => rfl
  | cons c s ih =>
      rw [List.flatMap_cons, twice]
      by_cases hc : c = '"'
      · subst hc
        rw [if_pos rfl, List.append_assoc, List.cons_append, List.cons_append, parseFrom_twice,
          List.nil_append, ih]
        simp
      · rw [if_neg hc, List.append_assoc, List.cons_append, parseFrom_quoted hc, List.nil_append, ih]
        simp

/-- Behind a field its value has been read. -/
theorem parseFrom_field {text value : Text} (h : IsField text value) :
    ∃ mode, mode ≠ .quoted ∧ (mode = .closed ∨ value = text) ∧ ∀ fields cs,
      parseFrom .plain [] fields (text ++ cs) = parseFrom mode value.reverse fields cs := by
  cases h with
  | plain h =>
      refine ⟨.plain, by simp, .inr rfl, fun fields cs => ?_⟩
      rw [parseFrom_plain h, List.append_nil]
  | quoted =>
      refine ⟨.closed, by simp, .inl rfl, fun fields cs => ?_⟩
      rw [List.append_assoc, List.cons_append, parseFrom_quote, parseFrom_twices, List.append_nil,
        List.singleton_append, parseFrom_close]

/-! ## records -/

/-- The text of a record, from those of its fields. -/
def line (texts : List Text) : Text := [','].intercalate texts

theorem line_cons {text : Text} {texts : List Text} (h : texts ≠ []) :
    line (text :: texts) = text ++ ',' :: line texts := by
  unfold line
  rw [List.intercalate_cons_of_ne_nil h]
  simp

/-- The fields of a record, and what they stand for. -/
def IsRecord (texts values : List Text) : Prop := texts ≠ [] ∧ List.Forall₂ IsField texts values

/-- A record ends at a line break. -/
theorem parseFrom_line_lf {texts values : List Text} (h : IsRecord texts values)
    (fields : List Text) (cs : Text) :
    parseFrom .plain [] fields (line texts ++ '\n' :: cs) =
      (parse cs).map ((fields.reverse ++ values) :: ·) := by
  obtain ⟨hne, hall⟩ := h
  induction hall generalizing fields with
  | nil => contradiction
  | @cons text value texts values hfield hall ih =>
      obtain ⟨mode, hmode, _, hparse⟩ := parseFrom_field hfield
      by_cases htexts : texts = []
      · subst htexts
        cases hall
        rw [show line [text] = text by simp [line], hparse, parseFrom_lf hmode]
        simp
      · rw [line_cons htexts, List.append_assoc, hparse, List.cons_append, parseFrom_comma hmode,
          List.reverse_reverse, ih _ htexts]
        simp

/-- The last record ends with the text, unless it is one empty field. -/
theorem parseFrom_line {texts values : List Text} (h : IsRecord texts values) (fields : List Text)
    (hnonempty : fields ≠ [] ∨ texts ≠ [[]]) :
    parseFrom .plain [] fields (line texts) = some [fields.reverse ++ values] := by
  obtain ⟨hne, hall⟩ := h
  induction hall generalizing fields with
  | nil => contradiction
  | @cons text value texts values hfield hall ih =>
      obtain ⟨mode, hmode, hclosed, hparse⟩ := parseFrom_field hfield
      by_cases htexts : texts = []
      · subst htexts
        cases hall
        have hread : mode = .closed ∨ value.reverse ≠ [] ∨ fields ≠ [] := by
          rcases hclosed with hclosed | rfl
          · exact .inl hclosed
          · rcases hnonempty with hfields | htext
            · exact .inr (.inr hfields)
            · exact .inr (.inl fun hnil => htext (by simpa using hnil))
        rw [show line [text] = text ++ [] by simp [line], hparse, parseFrom_nil hmode hread]
        simp
      · rw [line_cons htexts, hparse, parseFrom_comma hmode, List.reverse_reverse,
          ih (value :: fields) (.inl (by simp)) htexts]
        simp

/-! ## texts -/

/-- The records of a text, one a line. -/
def lines (records : List (List Text)) : Text := ['\n'].intercalate (records.map line)

theorem lines_cons {texts : List Text} {records : List (List Text)} (h : records ≠ []) :
    lines (texts :: records) = line texts ++ '\n' :: lines records := by
  unfold lines
  rw [List.map_cons, List.intercalate_cons_of_ne_nil (by simpa using h)]
  simp

theorem line_eq_nil {texts : List Text} (hne : texts ≠ []) (h : line texts = []) :
    texts = [[]] := by
  cases texts with
  | nil => contradiction
  | cons text texts =>
      by_cases htexts : texts = []
      · subst htexts
        simpa [line] using h
      · simp [line_cons htexts] at h

/-- An empty text has one record, of one empty field. -/
theorem lines_eq_nil {records : List (List Text)} (hne : records ≠ [])
    (hall : ∀ texts ∈ records, texts ≠ []) (h : lines records = []) : records = [[[]]] := by
  cases records with
  | nil => contradiction
  | cons texts records =>
      by_cases hrecords : records = []
      · subst hrecords
        rw [line_eq_nil (hall texts List.mem_cons_self) (by simpa [lines] using h)]
      · simp [lines_cons hrecords] at h

/-- **A text** is read as the records it is written from, but for a last one that is a single empty
field: that cannot be told from a line break at the end. -/
theorem parse_lines {records values : List (List Text)} (hne : records ≠ [])
    (h : List.Forall₂ IsRecord records values) :
    parse (lines records) =
      some (if records.getLast? = some [[]] then values.dropLast else values) := by
  induction h with
  | nil => contradiction
  | @cons texts value records values hrecord hall ih =>
      by_cases hrecords : records = []
      · subst hrecords
        cases hall
        rw [show lines [texts] = line texts by simp [lines]]
        by_cases hempty : texts = [[]]
        · subst hempty
          rfl
        · rw [parse, parseFrom_line hrecord [] (.inr hempty)]
          simp [hempty]
      · have hvalues : values ≠ [] := by
          rintro rfl
          cases hall
          contradiction
        rw [lines_cons hrecords, parse, parseFrom_line_lf hrecord, ih hrecords,
          List.getLast?_cons_of_ne_nil hrecords]
        split <;> simp [List.dropLast_cons_of_ne_nil hvalues]

/-- No record is without fields. -/
theorem ne_nil_of_parseFrom {mode : Mode} {field : Text} {fields : List Text} {cs : Text}
    {records : List (List Text)} (h : parseFrom mode field fields cs = some records) :
    ∀ record ∈ records, record ≠ [] := by
  fun_induction parseFrom mode field fields cs generalizing records
  case case1 =>
      cases h
      simp
  case case3 =>
      cases h
      simp
  -- the reader gives up
  case case2 | case9 | case11 | case13 => cases h
  -- a record ends
  case case6 | case8 =>
      rename_i ih
      obtain ⟨rest, hrest, rfl⟩ := Option.map_eq_some_iff.1 h
      exact List.forall_mem_cons.2 ⟨by simp, ih hrest⟩
  case case4 | case5 | case7 | case10 | case12 | case14 =>
      rename_i ih
      exact ih h

theorem ne_nil_of_parse {cs : Text} {records : List (List Text)} (h : parse cs = some records) :
    ∀ record ∈ records, record ≠ [] := ne_nil_of_parseFrom h

end UptimeFlow.Rfc4180
