import UptimeFlow.Monitors.Schema
import UptimeFlow.Trimming

/-!
# UptimeFlow.Monitors.Headers

Request headers as the form shows them: one `Key: Value` a line.

`parseHeaders` reads the lines into a record and `serializeHeaders` writes a
record as lines.  Texts and records do not correspond one to one: spaces are
trimmed, the last of two values for a key wins, and `__proto__` is no key at all.
`WellFormed` records are those that are read back from their text
(`parseHeaders_serialize`), and what is read is such a record
(`wellFormed_of_parse`); so what was read once is read again (`headers_readBack`).
-/

namespace UptimeFlow.Monitors

open Trimming

/-! ## (de)serialization -/

/-- `${k}: ${v}`. -/
def headerLine (h : String × String) : List Char := h.1.toList ++ ':' :: ' ' :: h.2.toList

/-- Render a header record as newline-separated "Key: Value" lines. -/
def serializeHeaders (headers : Option Headers) : String :=
  match headers with
  | none => ""
  | some headers => String.ofList (join '\n' (headers.map headerLine))

/-- `headers[key] = value`: a key keeps its place, and `__proto__` is not set. -/
def setHeader (headers : Headers) (key value : String) : Headers :=
  if key = "__proto__" then headers
  else if headers.any fun h => h.1 = key then
    headers.map fun h => if h.1 = key then (key, value) else h
  else headers ++ [(key, value)]

/-- One line: a blank one holds no header, and one without a key is an error. -/
def parseLine (rawLine : List Char) : Except String (Option (String × String)) :=
  let line := Js.trim rawLine
  if line = [] then .ok none
  else
    let idx := line.idxOf ':'
    -- at the start, or not found
    if idx = 0 ∨ idx = line.length then
      .error s!"Invalid header line: \"{String.ofList line}\". Use \"Key: Value\"."
    else
      let key := Js.trim (line.take idx)
      let value := Js.trim (line.drop (idx + 1))
      if key = [] then .error s!"Invalid header line: \"{String.ofList line}\"."
      else .ok (some (String.ofList key, String.ofList value))

/-- The loop over the lines: it ends at the first malformed one. -/
def parseLines : List (List Char) → Headers → Except String Headers
  | [], headers => .ok headers
  | rawLine :: lines, headers =>
      match parseLine rawLine with
      | .error e => .error e
      | .ok none => parseLines lines headers
      | .ok (some h) => parseLines lines (setHeader headers h.1 h.2)

/-- Parse "Key: Value" lines into a record; no header at all is `none`. -/
def parseHeaders (text : String) : Except String (Option Headers) :=
  let trimmed := Js.trim text.toList
  if trimmed = [] then .ok none
  else (parseLines (trimmed.splitOn '\n') []).map fun headers =>
    if headers.length > 0 then some headers else none

example : parseHeaders " A: 1\n\nB:2\nA : 3 " = .ok (some [("A", "3"), ("B", "2")]) := by
  decide +kernel

/-! ## well-formed records -/

/-- A key and value that are read back from their line. -/
structure Header (h : String × String) : Prop where
  key_trimmed : Trimmed Js.isSpace h.1.toList
  value_trimmed : Trimmed Js.isSpace h.2.toList
  key_ne : h.1 ≠ ""
  key_colon : ':' ∉ h.1.toList
  key_newline : '\n' ∉ h.1.toList
  value_newline : '\n' ∉ h.2.toList
  key_proto : h.1 ≠ "__proto__"

structure WellFormed (headers : Headers) : Prop where
  header : ∀ h ∈ headers, Header h
  keys_nodup : (headers.map Prod.fst).Nodup

theorem wellFormed_nil : WellFormed [] :=
  ⟨fun _ hh => absurd hh List.not_mem_nil, List.nodup_nil⟩

/-- Setting a header keeps the record well formed. -/
theorem WellFormed.setHeader {headers : Headers} (h : WellFormed headers) {key value : String}
    (hnew : key ≠ "__proto__" → Header (key, value)) :
    WellFormed (setHeader headers key value) := by
  unfold Monitors.setHeader
  split
  · exact h
  · next hproto =>
    split
    · constructor
      · intro x hx
        obtain ⟨y, hy, rfl⟩ := List.mem_map.1 hx
        split
        · exact hnew hproto
        · exact h.header y hy
      · have hkeys : (headers.map fun h => if h.1 = key then (key, value) else h).map Prod.fst =
            headers.map Prod.fst := by
          rw [List.map_map]
          refine List.map_congr_left fun x _ => ?_
          rw [Function.comp_apply]
          split
          · next hx => exact hx.symm
          · rfl
        rw [hkeys]
        exact h.keys_nodup
    · next hfresh =>
      constructor
      · intro x hx
        rcases List.mem_append.1 hx with hx | hx
        · exact h.header x hx
        · rw [List.mem_singleton.1 hx]
          exact hnew hproto
      · rw [List.map_append, List.map_singleton, List.nodup_append]
        refine ⟨h.keys_nodup, List.nodup_singleton _, ?_⟩
        intro a ha b hb
        obtain ⟨x, hx, rfl⟩ := List.mem_map.1 ha
        rw [List.mem_singleton.1 hb]
        exact fun he => hfresh (List.any_eq_true.2 ⟨x, hx, by simp [he]⟩)

/-! ## reading -/

theorem trim_eq (cs : List Char) : Js.trim cs = Trimming.trim Js.isSpace cs := rfl

theorem parseLine_congr {rawLine rawLine' : List Char} (h : Js.trim rawLine = Js.trim rawLine') :
    parseLine rawLine = parseLine rawLine' := by
  unfold parseLine
  rw [h]

/-- What is read from a line is a header. -/
theorem header_of_parseLine {rawLine : List Char} (hnewline : '\n' ∉ rawLine) {h : String × String}
    (hparse : parseLine rawLine = .ok (some h)) (hproto : h.1 ≠ "__proto__") : Header h := by
  unfold parseLine at hparse
  dsimp only at hparse
  split at hparse
  · cases hparse
  · split at hparse
    · cases hparse
    · split at hparse
      · cases hparse
      · next hkey =>
        obtain rfl := Option.some.inj (Except.ok.inj hparse)
        have hkeyMem : ∀ c ∈ Js.trim ((Js.trim rawLine).take ((Js.trim rawLine).idxOf ':')),
            c ∈ (Js.trim rawLine).take ((Js.trim rawLine).idxOf ':') := fun c hc => mem_of_mem_trim hc
        have hline : ∀ c ∈ Js.trim rawLine, c ∈ rawLine := fun c hc => mem_of_mem_trim hc
        constructor
        · simp only [String.toList_ofList]
          exact trimmed_trim _
        · simp only [String.toList_ofList]
          exact trimmed_trim _
        · intro he
          have hlist := congrArg String.toList he
          simp only [String.toList_ofList] at hlist
          exact hkey hlist
        · simp only [String.toList_ofList]
          intro hc
          have htake := hkeyMem _ hc
          have hlt := (List.mem_take_iff_idxOf_lt (List.mem_of_mem_take htake)).1 htake
          exact absurd hlt (lt_irrefl _)
        · simp only [String.toList_ofList]
          exact fun hc => hnewline (hline _ (List.mem_of_mem_take (hkeyMem _ hc)))
        · simp only [String.toList_ofList]
          exact fun hc => hnewline (hline _ (List.mem_of_mem_drop (mem_of_mem_trim hc)))
        · exact hproto

/-- What is read from lines is well formed. -/
theorem wellFormed_of_parseLines {lines : List (List Char)} (hlines : ∀ l ∈ lines, '\n' ∉ l)
    {headers headers' : Headers} (hheaders : WellFormed headers)
    (h : parseLines lines headers = .ok headers') : WellFormed headers' := by
  induction lines generalizing headers with
  | nil =>
      obtain rfl := Except.ok.inj h
      exact hheaders
  | cons l lines ih =>
      obtain ⟨hl, hlines⟩ := List.forall_mem_cons.1 hlines
      rw [parseLines] at h
      cases hparse : parseLine l with
      | error e =>
          rw [hparse] at h
          cases h
      | ok line =>
          rw [hparse] at h
          cases line with
          | none => exact ih hlines hheaders h
          | some kv => exact ih hlines (hheaders.setHeader (header_of_parseLine hl hparse)) h

/-- **What is read is well formed**, and not empty. -/
theorem wellFormed_of_parse {text : String} {headers : Headers}
    (h : parseHeaders text = .ok (some headers)) : WellFormed headers ∧ headers ≠ [] := by
  unfold parseHeaders at h
  dsimp only at h
  split at h
  · cases h
  · cases hlines : parseLines ((Js.trim text.toList).splitOn '\n') [] with
    | error e =>
        rw [hlines] at h
        cases h
    | ok headers' =>
        rw [hlines, Except.map] at h
        have hwell := wellFormed_of_parseLines (fun l hl => not_mem_of_mem_splitOn hl)
          wellFormed_nil hlines
        have hsome := Except.ok.inj h
        split at hsome
        · next hlength =>
          obtain rfl := Option.some.inj hsome
          exact ⟨hwell, List.ne_nil_of_length_pos hlength⟩
        · cases hsome

/-! ## writing -/

theorem Header.trim_line {h : String × String} (hh : Header h) :
    Js.trim (headerLine h) = h.1.toList ++ ':' :: (' ' :: h.2.toList).rdropWhile Js.isSpace := by
  have hne : h.1.toList ≠ [] := fun he => hh.key_ne (String.toList_inj.1 he)
  have hcolon : (':' :: ' ' :: h.2.toList).rdropWhile Js.isSpace =
      ':' :: (' ' :: h.2.toList).rdropWhile Js.isSpace := rdropWhile_cons_neg (by decide)
  rw [trim_eq, headerLine, hh.key_trimmed.trim_append hne, rdropWhile_append, hcolon]
  rw [hcolon]
  simp

/-- A line is read as the header it was written from. -/
theorem Header.parseLine {h : String × String} (hh : Header h) :
    parseLine (headerLine h) = .ok (some h) := by
  have hne : h.1.toList ≠ [] := fun he => hh.key_ne (String.toList_inj.1 he)
  have hidx : (h.1.toList ++ ':' :: (' ' :: h.2.toList).rdropWhile Js.isSpace).idxOf ':' =
      h.1.toList.length := by
    rw [List.idxOf_append, if_neg hh.key_colon, List.idxOf_cons_self, Nat.zero_add]
  have hkey : Js.trim h.1.toList = h.1.toList := hh.key_trimmed
  have hvalue : Js.trim ((' ' :: h.2.toList).rdropWhile Js.isSpace) = h.2.toList := by
    rw [trim_eq, trim_rdropWhile, trim_cons_pos (by decide)]
    exact hh.value_trimmed
  unfold Monitors.parseLine
  dsimp only
  rw [hh.trim_line, hidx, if_neg (by simp), if_neg, List.take_left, hkey, if_neg hne,
    ← List.drop_drop, List.drop_left, List.drop_one, List.tail_cons, hvalue, String.ofList_toList,
    String.ofList_toList]
  rw [not_or]
  constructor
  · exact fun he => hne (List.length_eq_zero_iff.1 he)
  · simp

theorem setHeader_fresh {headers : Headers} {h : String × String} (hh : Header h)
    (hfresh : h.1 ∉ headers.map Prod.fst) : setHeader headers h.1 h.2 = headers ++ [h] := by
  have hany : ¬ (headers.any fun x => x.1 = h.1) = true := by
    intro hany
    obtain ⟨x, hx, he⟩ := List.any_eq_true.1 hany
    exact hfresh (of_decide_eq_true he ▸ List.mem_map_of_mem hx)
  rw [setHeader, if_neg hh.key_proto, if_neg hany]

/-- Lines that are those of headers but for spaces, read in turn. -/
theorem parseLines_headerLines {headers entries : Headers} {lines : List (List Char)}
    (hentries : ∀ h ∈ entries, Header h) (hkeys : ((headers ++ entries).map Prod.fst).Nodup)
    (hlines : List.Forall₂ (fun l h => Js.trim l = Js.trim (headerLine h)) lines entries) :
    parseLines lines headers = .ok (headers ++ entries) := by
  induction hlines generalizing headers with
  | nil => rw [parseLines, List.append_nil]
  | @cons l h lines entries hl _ ih =>
      obtain ⟨hh, hentries⟩ := List.forall_mem_cons.1 hentries
      have hfresh : h.1 ∉ headers.map Prod.fst := by
        rw [List.map_append, List.nodup_append] at hkeys
        exact fun hmem => hkeys.2.2 _ hmem _ (List.mem_map_of_mem List.mem_cons_self) rfl
      rw [parseLines, parseLine_congr hl, hh.parseLine]
      dsimp only
      rw [setHeader_fresh hh hfresh, ih hentries (by rwa [List.append_assoc, List.singleton_append]),
        List.append_assoc, List.singleton_append]

theorem Header.newline {h : String × String} (hh : Header h) : '\n' ∉ headerLine h := by
  simp only [headerLine, List.mem_append, List.mem_cons, not_or]
  exact ⟨hh.key_newline, by decide, by decide, hh.value_newline⟩

/-- A header's line starts with a character that stays. -/
theorem Header.head {h : String × String} (hh : Header h) :
    ∃ x xs, headerLine h = x :: xs ∧ Js.isSpace x = false := by
  have htrimmed := hh.key_trimmed
  cases hkey : h.1.toList with
  | nil => exact absurd (String.toList_inj.1 hkey) hh.key_ne
  | cons x xs =>
      rw [hkey] at htrimmed
      exact ⟨x, xs ++ ':' :: ' ' :: h.2.toList, by rw [headerLine, hkey]; rfl, htrimmed.head⟩

/-- **Well-formed records are read back** from their text, trimmed or not. -/
theorem parseHeaders_serialize {headers : Headers} (h : WellFormed headers) (hne : headers ≠ [])
    {text : String}
    (htext : Js.trim text.toList = Js.trim (serializeHeaders (some headers)).toList) :
    parseHeaders text = .ok (some headers) := by
  obtain ⟨init, last, rfl⟩ := List.eq_nil_or_concat'  headers |>.resolve_left hne
  have hlast : Header last := h.header last (by simp)
  have hrdrop : (headerLine last).rdropWhile Js.isSpace = Js.trim (headerLine last) := by
    obtain ⟨x, xs, hline, hx⟩ := hlast.head
    rw [trim_eq, hline, trim_cons_neg hx]
  have hrdropNe : (headerLine last).rdropWhile Js.isSpace ≠ [] := by
    rw [hrdrop, hlast.trim_line]
    simp
  have htrim : Js.trim text.toList =
      join '\n' (init.map headerLine ++ [(headerLine last).rdropWhile Js.isSpace]) := by
    rw [htext, serializeHeaders, String.toList_ofList, List.map_append, List.map_singleton, trim_eq]
    refine trim_join '\n' hrdropNe fun l hl => ?_
    rw [← List.map_singleton, ← List.map_append] at hl
    obtain ⟨x, hx, rfl⟩ := List.mem_map.1 hl
    exact (h.header x hx).head
  have hsplit : (Js.trim text.toList).splitOn '\n' =
      init.map headerLine ++ [(headerLine last).rdropWhile Js.isSpace] := by
    rw [htrim]
    refine List.splitOn_intercalate '\n' (fun l hl => ?_) (by simp)
    rcases List.mem_append.1 hl with hl | hl
    · obtain ⟨x, hx, rfl⟩ := List.mem_map.1 hl
      exact (h.header x (List.mem_append_left _ hx)).newline
    · rw [List.mem_singleton.1 hl]
      exact fun hmem => hlast.newline ((List.rdropWhile_prefix _ _).subset hmem)
  have hlines : parseLines ((Js.trim text.toList).splitOn '\n') [] = .ok (init ++ [last]) := by
    have hinit : List.Forall₂ (fun l h => Js.trim l = Js.trim (headerLine h))
        (init.map headerLine) init :=
      List.forall₂_map_left_iff.2 (List.forall₂_same.2 fun _ _ => rfl)
    rw [hsplit, ← List.nil_append (init ++ [last])]
    refine parseLines_headerLines h.header h.keys_nodup (List.rel_append hinit ?_)
    exact .cons (trim_rdropWhile _) .nil
  have hblank : Js.trim text.toList ≠ [] := by
    intro hnil
    rw [hnil, List.splitOn_nil] at hsplit
    cases init with
    | nil => exact hrdropNe (List.cons.inj hsplit).1.symm
    | cons x init => simp at hsplit
  rw [parseHeaders, if_neg hblank, hlines, Except.map, if_pos (by simp)]

/-- Only a record without headers shows as a blank text. -/
theorem trim_serializeHeaders_iff {headers : Option Headers} :
    Js.trim (serializeHeaders headers).toList = [] ↔ headers = none ∨ headers = some [] := by
  cases headers with
  | none => simp [serializeHeaders, trim_eq]
  | some headers =>
      cases headers with
      | nil => simp [serializeHeaders, trim_eq, join]
      | cons h headers =>
          have hcolon : ':' ∈ (serializeHeaders (some (h :: headers))).toList := by
            rw [serializeHeaders, String.toList_ofList, List.map_cons, join]
            cases headers with
            | nil => simp [headerLine]
            | cons h' headers => simp [headerLine, List.intercalate_cons_cons]
          rw [trim_eq, trim_eq_nil_iff]
          simp only [reduceCtorEq, Option.some.injEq, or_self, iff_false]
          exact fun hall => absurd (hall _ hcolon) (by decide)

/-! ## round trips -/

theorem WellFormed.perm {record entries : Headers} (h : WellFormed record)
    (hentries : entries.Perm record) : WellFormed entries :=
  ⟨fun x hx => h.header x (hentries.mem_iff.1 hx),
    (hentries.map Prod.fst).nodup_iff.2 h.keys_nodup⟩

/-- **Records and texts of headers are read back**, in whatever order `Object.entries` lists the
entries: keys that are numbers come first there, wherever they were set. -/
theorem headers_readBack :
    (∀ record entries : Headers, WellFormed record → record ≠ [] → entries.Perm record →
      parseHeaders (serializeHeaders (some entries)) = .ok (some entries)) ∧
    (∀ (text : String) (record entries : Headers), parseHeaders text = .ok (some record) →
      entries.Perm record →
        parseHeaders (serializeHeaders (some entries)) = .ok (some entries)) := by
  have hrecord : ∀ record entries : Headers, WellFormed record → record ≠ [] →
      entries.Perm record →
        parseHeaders (serializeHeaders (some entries)) = .ok (some entries) := by
    intro record entries hwell hne hentries
    have hne' : entries ≠ [] := fun hnil => hne (by rw [hnil] at hentries; exact hentries.nil_eq.symm)
    exact parseHeaders_serialize (hwell.perm hentries) hne' rfl
  refine ⟨hrecord, fun text record entries hparse hentries => ?_⟩
  obtain ⟨hwell, hne⟩ := wellFormed_of_parse hparse
  exact hrecord record entries hwell hne hentries

/-- The header `2` is set second and listed first. -/
theorem headers_readBack_number :
    parseHeaders (serializeHeaders (some [("2", ""), ("A", "x:y")])) =
        .ok (some [("2", ""), ("A", "x:y")]) ∧
      parseHeaders "A: x:y\n\n 2:1\n2 : " = .ok (some [("A", "x:y"), ("2", "")]) ∧
      parseHeaders (serializeHeaders (some [("2", ""), ("A", "x:y")])) =
        .ok (some [("2", ""), ("A", "x:y")]) := by
  have hparse : parseHeaders "A: x:y\n\n 2:1\n2 : " = .ok (some [("A", "x:y"), ("2", "")]) := by
    decide +kernel
  exact ⟨headers_readBack.1 _ _ (wellFormed_of_parse hparse).1 (by decide) (.swap _ _ _), hparse,
    headers_readBack.2 _ _ _ hparse (.swap _ _ _)⟩

end UptimeFlow.Monitors
