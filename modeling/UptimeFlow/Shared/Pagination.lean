import Mathlib.Data.Prod.Lex
import Mathlib.Order.OrderDual
import UptimeFlow.Base64url
import UptimeFlow.IsoDate
import UptimeFlow.JsonWriting
import UptimeFlow.Keyset
import UptimeFlow.Monitoring.Schema

/-!
# UptimeFlow.Shared.Pagination

Cursors, and the pages of a listing in (createdAt, id) order.

A cursor is an opaque text that carries the id and the instant of the row last
delivered.  What a client sends back may be any text: one that is no cursor is
refused, and so is one whose id or instant the database cannot compare with.
How malformed UTF-8 is patched up, and the formats of dates that `toISOString`
does not write, are parameters.
-/

namespace UptimeFlow.Shared

open Keyset
open Monitoring (Instant)

/-! ## cursors -/

structure Cursor where
  id : List Char
  createdAt : List Char
deriving DecidableEq, Repr

inductive Failure where
  | badRequest (message : String)
  | notFound (message : String)
  | query
deriving DecidableEq, Repr

abbrev Page (ρ : Type*) := Keyset.Page ρ (List Char)

def utf8 (cs : List Char) : List UInt8 := (String.ofList cs).toUTF8.data.toList

def encodeCursor (cursor : Cursor) : List Char :=
  Base64url.encode
    (utf8 (JsonText.stringify [("id".toList, cursor.id), ("createdAt".toList, cursor.createdAt)]))

section
variable (lossy : List UInt8 → List Char) (legacy : List Char → Option Instant)

/-- `toString("utf8")`; malformed bytes are patched up. -/
def ofUtf8 (bytes : List UInt8) : List Char :=
  match String.fromUTF8? ⟨bytes.toArray⟩ with
  | some s => s.toList
  | none => lossy bytes

def decodeCursor (raw : List Char) : Option Cursor := do
  let parsed ← JsonText.parse (ofUtf8 lossy (Base64url.decode raw))
  match parsed.get "id".toList, parsed.get "createdAt".toList with
  | some (.string id), some (.string createdAt) =>
      if id ≠ [] ∧ createdAt ≠ [] then some { id, createdAt } else none
  | _, _ => none

/-- Decode a client-supplied cursor or 400 on garbage. -/
def parseCursor : Option (List Char) → Except Failure (Option Cursor)
  | none | some [] => .ok none
  | some raw =>
      match decodeCursor lossy raw with
      | none => .error (.badRequest "Invalid pagination cursor.")
      | some cursor => .ok (some cursor)

/-- `new Date(text)`, unless it is invalid. -/
def newDate (text : List Char) : Option Instant := IsoDate.read text <|> legacy text

theorem ofUtf8_utf8 (cs : List Char) : ofUtf8 lossy (utf8 cs) = cs := by
  have hbytes : (⟨(utf8 cs).toArray⟩ : ByteArray) = (String.ofList cs).toUTF8 := by
    rw [utf8, Array.toArray_toList]
  have hvalid : String.fromUTF8? (String.ofList cs).toUTF8 = some (String.ofList cs) :=
    dif_pos (String.ofList cs).isValidUTF8
  rw [ofUtf8, hbytes, hvalid]
  exact String.toList_ofList

/-- The cursor a page carries is read back. -/
theorem decodeCursor_encodeCursor {id createdAt : List Char} (hid : id ≠ [])
    (hcreatedAt : createdAt ≠ []) :
    decodeCursor lossy (encodeCursor { id, createdAt }) = some { id, createdAt } := by
  have hparse : JsonText.parse
      (JsonText.stringify [("id".toList, id), ("createdAt".toList, createdAt)]) =
      some (.object [("id".toList, .string id), ("createdAt".toList, .string createdAt)]) :=
    JsonText.parse_stringify _
  have hget := JsonText.Value.get_pair (a := "id".toList) (b := "createdAt".toList) (by decide)
    (.string id) (.string createdAt)
  rw [decodeCursor, encodeCursor, Base64url.decode_encode, ofUtf8_utf8, hparse]
  simp only [Option.bind_eq_bind, Option.bind_some, hget.1, hget.2,
    ne_eq, hid, hcreatedAt, not_false_eq_true, and_self, if_true]

theorem decodeCursor_nil : decodeCursor lossy [] = none := by
  have hnil := ofUtf8_utf8 lossy []
  have hbytes : Base64url.decode [] = utf8 [] := by decide
  rw [decodeCursor, hbytes, hnil]
  rfl

/-- **A cursor survives the trip to the client and back.** -/
theorem parseCursor_encodeCursor {id createdAt : List Char} (hid : id ≠ [])
    (hcreatedAt : createdAt ≠ []) :
    parseCursor lossy (some (encodeCursor { id, createdAt })) = .ok (some { id, createdAt }) := by
  have hdecode := decodeCursor_encodeCursor lossy hid hcreatedAt
  cases hraw : encodeCursor { id, createdAt } with
  | nil =>
      rw [hraw, decodeCursor_nil] at hdecode
      contradiction
  | cons c cs =>
      rw [hraw] at hdecode
      simp only [parseCursor, hdecode]

theorem newDate_toISOString (t : Instant) : newDate legacy (IsoDate.toISOString t) = some t := by
  rw [newDate, IsoDate.read_toISOString]
  rfl

end

/-! ## listings -/

/-- The texts of ids, and the texts a column of them compares with. -/
structure IdText (ι : Type) where
  write : ι → List Char
  read : List Char → Option ι
  read_write : ∀ i, read (write i) = some i
  write_ne_nil : ∀ i, write i ≠ []

/-- Ids that are texts themselves. -/
def textIds : IdText { s : String // s ≠ "" } where
  write i := i.1.toList
  read cs := if h : String.ofList cs ≠ "" then some ⟨String.ofList cs, h⟩ else none
  read_write := fun ⟨s, hs⟩ => by simp [String.ofList_toList, hs]
  write_ne_nil := fun ⟨s, hs⟩ h => hs (String.toList_eq_nil_iff.1 h)

/-- A table's ids and the instants its rows are listed by. -/
structure Columns (ρ ι : Type) extends IdText ι where
  id : ρ → ι
  createdAt : ρ → Instant

variable {ρ ι : Type} [LinearOrder ι] (cols : Columns ρ ι)

/-- Keyset condition for (createdAt, id) ascending order. -/
def afterCursorAsc (cursor : Instant × ι) (r : ρ) : Bool :=
  cursor.1 < cols.createdAt r || (cols.createdAt r = cursor.1 && cursor.2 < cols.id r)

/-- Keyset condition for (createdAt, id) descending order. -/
def afterCursorDesc (cursor : Instant × ι) (r : ρ) : Bool :=
  cols.createdAt r < cursor.1 || (cols.createdAt r = cursor.1 && cols.id r < cursor.2)

/-- `a` comes before `b` in (createdAt, id) order. -/
def Ascending (a b : ρ) : Prop :=
  cols.createdAt a < cols.createdAt b ∨ cols.createdAt a = cols.createdAt b ∧ cols.id a < cols.id b

/-- `a` comes before `b` in descending (createdAt, id) order. -/
def Descending (a b : ρ) : Prop := Ascending cols b a

instance (a b : ρ) : Decidable (Ascending cols a b) := inferInstanceAs (Decidable (_ ∨ _))

instance (a b : ρ) : Decidable (Descending cols a b) := inferInstanceAs (Decidable (Ascending _ _ _))

/-- `orderBy: [{ createdAt: "asc" }, { id: "asc" }]`. -/
def orderByAsc (rows : List ρ) : List ρ := rows.insertionSort fun a b => ¬ Ascending cols b a

/-- `orderBy: [{ createdAt: "desc" }, { id: "desc" }]`. -/
def orderByDesc (rows : List ρ) : List ρ := rows.insertionSort fun a b => ¬ Descending cols b a

def cursorOf (r : ρ) : List Char :=
  encodeCursor { id := cols.write (cols.id r), createdAt := IsoDate.toISOString (cols.createdAt r) }

/-- Build a page from `limit + 1` fetched rows: trims the sentinel row and derives the next
cursor from the last visible item. -/
def buildPage (rows : List ρ) (limit : Nat) : Page ρ :=
  let hasMore : Bool := limit < rows.length
  let items := if hasMore then rows.take limit else rows
  { items
    nextCursor :=
      match items.getLast? with
      | some last => if hasMore then some (cursorOf cols last) else none
      | none => none }

/-- What the database compares the cursor's texts as. -/
def position (legacy : List Char → Option Instant) (cursor : Cursor) :
    Except Failure (Instant × ι) :=
  match newDate legacy cursor.createdAt, cols.read cursor.id with
  | some createdAt, some id => .ok (createdAt, id)
  | _, _ => .error .query

section
variable (lossy : List UInt8 → List Char) (legacy : List Char → Option Instant)

/-- The condition of a listing: that of its cursor, if there is one. -/
def whereAfter (after : Instant × ι → ρ → Bool) (raw : Option (List Char)) :
    Except Failure (ρ → Bool) := do
  match ← parseCursor lossy raw with
  | none => return fun _ => true
  | some cursor => return after (← position cols legacy cursor)

/-- A listing in ascending order, of the rows in its scope. -/
def listAsc (rows : List ρ) (raw : Option (List Char)) (limit : Nat) : Except Failure (Page ρ) := do
  let cond ← whereAfter cols lossy legacy (afterCursorAsc cols) raw
  return buildPage cols ((orderByAsc cols (rows.filter cond)).take (limit + 1)) limit

/-- A listing in descending order, of the rows in its scope. -/
def listDesc (rows : List ρ) (raw : Option (List Char)) (limit : Nat) :
    Except Failure (Page ρ) := do
  let cond ← whereAfter cols lossy legacy (afterCursorDesc cols) raw
  return buildPage cols ((orderByDesc cols (rows.filter cond)).take (limit + 1)) limit

end

/-! ## what a listing serves -/

/-- The position of a row in (createdAt, id) order. -/
def key (r : ρ) : Lex (Instant × ι) := toLex (cols.createdAt r, cols.id r)

theorem ascending_iff (a b : ρ) : Ascending cols a b ↔ key cols a < key cols b := by
  rw [key, key, Prod.Lex.toLex_lt_toLex]
  rfl

theorem descending_iff (a b : ρ) :
    Descending cols a b ↔ OrderDual.toDual (key cols a) < OrderDual.toDual (key cols b) :=
  (ascending_iff cols b a).trans OrderDual.toDual_lt_toDual.symm

theorem afterCursorAsc_iff (a b : ρ) :
    afterCursorAsc cols (cols.createdAt a, cols.id a) b = true ↔ Ascending cols a b := by
  rw [afterCursorAsc, Ascending, Bool.or_eq_true, Bool.and_eq_true, decide_eq_true_eq,
    decide_eq_true_eq, decide_eq_true_eq, eq_comm (a := cols.createdAt b)]

theorem afterCursorDesc_iff (a b : ρ) :
    afterCursorDesc cols (cols.createdAt a, cols.id a) b = true ↔ Descending cols a b := by
  simp [afterCursorDesc, Descending, Ascending]

omit [LinearOrder ι] in
/-- One row more than the page holds tells whether there are more. -/
theorem buildPage_take (left : List ρ) {limit : Nat} (hlimit : 1 ≤ limit) :
    buildPage cols (left.take (limit + 1)) limit = pageOf (cursorOf cols) limit left := by
  by_cases hmore : limit < left.length
  · obtain ⟨last, -, hlast⟩ := getLast?_take hlimit hmore
    have hlen : limit < (left.take (limit + 1)).length := by
      rw [List.length_take]
      omega
    have htake : (left.take (limit + 1)).take limit = left.take limit := by
      rw [List.take_take, Nat.min_eq_left (by omega)]
    simp only [buildPage, pageOf, hlen, hmore, htake, hlast, decide_true, if_true, Option.map_some]
  · have hall : left.take (limit + 1) = left := List.take_of_length_le (by omega)
    have htake : left.take limit = left := List.take_of_length_le (by omega)
    simp only [buildPage, pageOf, hall, htake, hmore, decide_false, if_false, Bool.false_eq_true]
    cases left.getLast? <;> rfl

omit [LinearOrder ι] in
theorem whereAfter_of_parse {lossy : List UInt8 → List Char} {legacy : List Char → Option Instant}
    {after : Instant × ι → ρ → Bool} {raw : Option (List Char)} {cursor : Cursor} {p : Instant × ι}
    (hparse : parseCursor lossy raw = .ok (some cursor))
    (hposition : position cols legacy cursor = .ok p) :
    whereAfter cols lossy legacy after raw = .ok (after p) := by
  rw [whereAfter, hparse]
  simp only [bind, Except.bind, hposition, pure, Except.pure]

omit [LinearOrder ι] in
/-- The cursor of a row is read back as its position. -/
theorem parse_cursorOf (lossy : List UInt8 → List Char) (legacy : List Char → Option Instant)
    (l : ρ) : ∃ cursor, parseCursor lossy (some (cursorOf cols l)) = .ok (some cursor) ∧
      position cols legacy cursor = .ok (cols.createdAt l, cols.id l) := by
  obtain ⟨text, htext⟩ : ∃ text, text = IsoDate.toISOString (cols.createdAt l) := ⟨_, rfl⟩
  have hdate : newDate legacy text = some (cols.createdAt l) := by
    rw [htext, newDate_toISOString]
  have htext_ne : text ≠ [] := by
    rw [htext]
    exact IsoDate.toISOString_ne_nil _
  have hparse := parseCursor_encodeCursor lossy (cols.write_ne_nil (cols.id l)) htext_ne
  refine ⟨⟨cols.write (cols.id l), text⟩, ?_, ?_⟩
  · rw [cursorOf, ← htext]
    exact hparse
  · unfold position
    rw [hdate, cols.read_write]

omit [LinearOrder ι] in
theorem whereAfter_cursorOf (lossy : List UInt8 → List Char) (legacy : List Char → Option Instant)
    (after : Instant × ι → ρ → Bool) (last : Option ρ) :
    whereAfter cols lossy legacy after (last.map (cursorOf cols)) =
      .ok fun r => last.all fun l => after (cols.createdAt l, cols.id l) r := by
  cases last with
  | none => rfl
  | some l =>
      obtain ⟨cursor, hparse, hposition⟩ := parse_cursorOf cols lossy legacy l
      simp only [Option.map_some, Option.all_some]
      exact whereAfter_of_parse cols hparse hposition

theorem insertionSort_congr {r s : ρ → ρ → Prop} [DecidableRel r] [DecidableRel s]
    (h : ∀ a b, r a b ↔ s a b) (rows : List ρ) : rows.insertionSort r = rows.insertionSort s := by
  obtain rfl : r = s := by
    ext a b
    exact h a b
  congr

theorem listAsc_serves (lossy : List UInt8 → List Char) (legacy : List Char → Option Instant)
    {limit : Nat} (hlimit : 1 ≤ limit) :
    Serves (key cols) (cursorOf cols) limit id
      (fun rows raw => listAsc cols lossy legacy rows raw limit) := by
  intro rows last
  have hcond : rows.filter (fun r => last.all fun l =>
      afterCursorAsc cols (cols.createdAt l, cols.id l) r) =
      rows.filter (beyond (key cols) (last.map (key cols))) := by
    refine List.filter_congr fun r _ => ?_
    cases last with
    | none => rfl
    | some l =>
        rw [Bool.eq_iff_iff]
        simp only [Option.all_some, Option.map_some, beyond, decide_eq_true_eq]
        exact (afterCursorAsc_iff cols l r).trans (ascending_iff cols l r)
  have hsort : ∀ rows : List ρ, orderByAsc cols rows =
      rows.insertionSort fun a b => key cols a ≤ key cols b := fun rows =>
    insertionSort_congr (fun a b => by rw [ascending_iff, not_lt]) rows
  simp only [listAsc, whereAfter_cursorOf, bind, Except.bind, pure, Except.pure]
  rw [buildPage_take cols _ hlimit, hcond, hsort]
  rfl

theorem listDesc_serves (lossy : List UInt8 → List Char) (legacy : List Char → Option Instant)
    {limit : Nat} (hlimit : 1 ≤ limit) :
    Serves (fun r => OrderDual.toDual (key cols r)) (cursorOf cols) limit id
      (fun rows raw => listDesc cols lossy legacy rows raw limit) := by
  intro rows last
  have hcond : rows.filter (fun r => last.all fun l =>
      afterCursorDesc cols (cols.createdAt l, cols.id l) r) =
      rows.filter (beyond (fun r => OrderDual.toDual (key cols r))
        (last.map fun r => OrderDual.toDual (key cols r))) := by
    refine List.filter_congr fun r _ => ?_
    cases last with
    | none => rfl
    | some l =>
        rw [Bool.eq_iff_iff]
        simp only [Option.all_some, Option.map_some, beyond, decide_eq_true_eq]
        exact (afterCursorDesc_iff cols l r).trans (descending_iff cols l r)
  have hsort : ∀ rows : List ρ, orderByDesc cols rows =
      rows.insertionSort fun a b => OrderDual.toDual (key cols a) ≤ OrderDual.toDual (key cols b) :=
    fun rows => insertionSort_congr (fun a b => by rw [descending_iff, not_lt]) rows
  simp only [listDesc, whereAfter_cursorOf, bind, Except.bind, pure, Except.pure]
  rw [buildPage_take cols _ hlimit, hcond, hsort]
  rfl

omit [LinearOrder ι] in
/-- Rows with distinct ids have distinct positions. -/
theorem nodup_key {rows : List ρ} (h : (rows.map cols.id).Nodup) : (rows.map (key cols)).Nodup := by
  refine List.Nodup.of_map (fun k => (ofLex k).2) ?_
  rw [List.map_map]
  exact h

/-! ## views of a listing -/

section
variable {ω : Type} (g : ρ → ω) (shown : Columns ω ι)

/-- The columns of rows that are shown as `g` shows them. -/
def Columns.under : Columns ρ ι :=
  { shown.toIdText with id := shown.id ∘ g, createdAt := shown.createdAt ∘ g }

theorem orderByDesc_under (rows : List ρ) :
    (orderByDesc (shown.under g) rows).map g = orderByDesc shown (rows.map g) := by
  rw [orderByDesc, orderByDesc]
  exact List.map_insertionSort _ _ g rows fun _ _ _ _ => Iff.rfl

omit [LinearOrder ι] in
/-- A page tells of its rows what is shown of them. -/
theorem buildPage_under (rows : List ρ) (limit : Nat) :
    buildPage shown (rows.map g) limit =
      ⟨(buildPage (shown.under g) rows limit).items.map g,
        (buildPage (shown.under g) rows limit).nextCursor⟩ := by
  simp only [buildPage, List.length_map, ← List.map_take]
  rw [← apply_ite (List.map g), List.getLast?_map]
  cases (if decide (limit < rows.length) = true then rows.take limit else rows).getLast? <;> rfl

/-- The condition of a listing reads what is shown. -/
theorem whereAfter_under {lossy : List UInt8 → List Char} {legacy : List Char → Option Instant}
    {raw : Option (List Char)} {after : ρ → Bool}
    (h : whereAfter (shown.under g) lossy legacy (afterCursorDesc (shown.under g)) raw = .ok after)
    {r r' : ρ} (hr : g r = g r') : after r = after r' := by
  unfold whereAfter at h
  cases hparse : parseCursor lossy raw with
  | error e =>
      rw [hparse] at h
      cases h
  | ok cursor =>
      rw [hparse] at h
      cases cursor with
      | none =>
          cases h
          rfl
      | some cursor =>
          simp only [bind, Except.bind, pure, Except.pure] at h
          cases hposition : position (shown.under g) legacy cursor with
          | error e =>
              rw [hposition] at h
              cases h
          | ok p =>
              rw [hposition] at h
              cases h
              change afterCursorDesc shown p (g r) = afterCursorDesc shown p (g r')
              rw [hr]

end

end UptimeFlow.Shared
