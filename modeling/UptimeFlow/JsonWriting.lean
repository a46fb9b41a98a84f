import Mathlib.Data.Option.Basic
import UptimeFlow.JsonText

/-!
# UptimeFlow.JsonWriting

Writing JSON, and reading it back.

A value is written without white space.  What is no number is written as
`null`, so a value that is written and read is not the value but its
`Value.normal` (`parse_write`).  A number ends where no character can go on
with it, which is why what is behind a value is asked to be a `Stops`.
-/

namespace UptimeFlow.JsonText

/-! ## numbers in a text -/

/-- What may follow a value: nothing, or the token behind it. -/
inductive Stops : List Char → Prop where
  | nil : Stops []
  | comma (cs : List Char) : Stops (',' :: cs)
  | bracket (cs : List Char) : Stops (']' :: cs)
  | brace (cs : List Char) : Stops ('}' :: cs)

/-- The sign of a number, and what is behind it. -/
def signOf : List Char → List Char × List Char
  | '-' :: rest => (['-'], rest)
  | cs => ([], cs)

/-- The fraction of a number, and what is behind it. -/
def fractionOf : List Char → Option (List Char × List Char)
  | '.' :: rest =>
      let ds := rest.takeWhile Char.isDigit
      if ds = [] then none else some ('.' :: ds, rest.dropWhile Char.isDigit)
  | cs => some ([], cs)

/-- The sign of an exponent, and what is behind it. -/
def exponentSign : List Char → List Char × List Char
  | '+' :: rest => (['+'], rest)
  | '-' :: rest => (['-'], rest)
  | cs => ([], cs)

/-- The exponent of a number, and what is behind it. -/
def exponentOf : List Char → Option (List Char × List Char)
  | e :: rest =>
      if e = 'e' ∨ e = 'E' then
        let (sign, rest) := exponentSign rest
        let ds := rest.takeWhile Char.isDigit
        if ds = [] then none else some (e :: (sign ++ ds), rest.dropWhile Char.isDigit)
      else some ([], e :: rest)
  | [] => some ([], [])

theorem number_eq (cs : List Char) :
    number cs =
      let whole := (signOf cs).2.takeWhile Char.isDigit
      if whole ≠ [] ∧ (whole.head? = some '0' → whole.length = 1) then
        (fractionOf ((signOf cs).2.dropWhile Char.isDigit)).bind fun f =>
          (exponentOf f.2).map fun e =>
            (.number ((signOf cs).1 ++ whole ++ f.1 ++ e.1), e.2)
      else none := by
  unfold number
  split
  next sign cs' hsign =>
  have hsign : signOf cs = (sign, cs') := by
    split at hsign
    · exact hsign
    · next hne => rw [signOf.eq_2 _ hne, hsign]
  simp only [hsign]
  by_cases hwhole : cs'.takeWhile Char.isDigit ≠ [] ∧
      ((cs'.takeWhile Char.isDigit).head? = some '0' → (cs'.takeWhile Char.isDigit).length = 1)
  swap
  · rw [if_neg hwhole, guard, if_neg hwhole]
    rfl
  rw [if_pos hwhole, guard, if_pos hwhole]
  generalize cs'.dropWhile Char.isDigit = behind
  generalize cs'.takeWhile Char.isDigit = whole
  simp only [Option.pure_def, Option.bind_eq_bind, Option.bind_some, Option.bind_none]
  have hexponent : ∀ (f rest : List Char) (e : Char), (e = 'e' ∨ e = 'E') →
      (exponentOf (e :: rest)).map (fun p => (Value.number (sign ++ whole ++ f ++ p.1), p.2)) =
        if (exponentSign rest).2.takeWhile Char.isDigit = [] then none
        else some (.number (sign ++ whole ++ f ++
          e :: ((exponentSign rest).1 ++ (exponentSign rest).2.takeWhile Char.isDigit)),
          (exponentSign rest).2.dropWhile Char.isDigit) := by
    intro f rest e he
    rw [exponentOf, if_pos he]
    dsimp only
    split <;> rfl
  split
  case' h_1 rest =>
    simp only [fractionOf]
    split
    · rfl
    rw [Option.bind_some]
    generalize rest.dropWhile Char.isDigit = behind
  case' h_2 hne => rw [fractionOf.eq_2 _ hne, Option.bind_some]
  -- the exponent is read in the same way behind a fraction and without one
  all_goals
    split
    · next e rest =>
      split
      · next he =>
        rw [hexponent _ _ _ he]
        split
        · rfl
        · rfl
        · next hplus hminus => rw [exponentSign.eq_3 _ hplus hminus]
      · next he =>
        rw [exponentOf, if_neg he]
        rfl
    · rfl

/-- Digits end at a stop. -/
theorem takeWhile_append_stops {rest : List Char} (hrest : Stops rest) (cs : List Char) :
    (cs ++ rest).takeWhile Char.isDigit = cs.takeWhile Char.isDigit := by
  have hstop : rest.takeWhile Char.isDigit = [] := by
    cases hrest <;> rfl
  rw [List.takeWhile_append, hstop, List.append_nil]
  split
  · next hall => exact (List.takeWhile_prefix _).eq_of_length hall |>.symm
  · rfl

theorem dropWhile_append_stops {rest : List Char} (hrest : Stops rest) (cs : List Char) :
    (cs ++ rest).dropWhile Char.isDigit = cs.dropWhile Char.isDigit ++ rest := by
  have hboth := List.takeWhile_append_dropWhile (p := Char.isDigit) (l := cs ++ rest)
  have hone := List.takeWhile_append_dropWhile (p := Char.isDigit) (l := cs)
  rw [takeWhile_append_stops hrest] at hboth
  nth_rewrite 3 [← hone] at hboth
  rw [List.append_assoc] at hboth
  exact List.append_cancel_left hboth

theorem signOf_append {cs : List Char} (hcs : cs ≠ []) (rest : List Char) :
    signOf (cs ++ rest) = ((signOf cs).1, (signOf cs).2 ++ rest) := by
  cases cs with
  | nil => contradiction
  | cons c cs =>
      by_cases hc : c = '-'
      · subst hc
        rfl
      · have hplain : ∀ cs', signOf (c :: cs') = ([], c :: cs') :=
          fun cs' => signOf.eq_2 _ fun _ he => hc (List.cons.inj he).1
        rw [List.cons_append, hplain, hplain]
        rfl

theorem fractionOf_append {cs rest : List Char} (hrest : Stops rest) {p : List Char × List Char}
    (h : fractionOf cs = some p) : fractionOf (cs ++ rest) = some (p.1, p.2 ++ rest) := by
  cases cs with
  | nil =>
      obtain rfl := Option.some.inj h
      cases hrest <;> rfl
  | cons c cs =>
      by_cases hc : c = '.'
      · subst hc
        simp only [fractionOf, List.cons_append] at h ⊢
        rw [takeWhile_append_stops hrest, dropWhile_append_stops hrest]
        split at h
        · cases h
        · next hds =>
          obtain rfl := Option.some.inj h
          rw [if_neg hds]
      · have hplain : ∀ cs', fractionOf (c :: cs') = some ([], c :: cs') :=
          fun cs' => fractionOf.eq_2 _ fun _ he => hc (List.cons.inj he).1
        rw [hplain] at h
        obtain rfl := Option.some.inj h
        exact hplain _

theorem exponentSign_append {cs rest : List Char} (hrest : Stops rest) :
    exponentSign (cs ++ rest) = ((exponentSign cs).1, (exponentSign cs).2 ++ rest) := by
  cases cs with
  | nil => cases hrest <;> rfl
  | cons c cs =>
      by_cases hplus : c = '+'
      · subst hplus
        rfl
      by_cases hminus : c = '-'
      · subst hminus
        rfl
      have hplain : ∀ cs', exponentSign (c :: cs') = ([], c :: cs') := fun cs' =>
        exponentSign.eq_3 _ (fun _ he => hplus (List.cons.inj he).1)
          (fun _ he => hminus (List.cons.inj he).1)
      rw [List.cons_append, hplain, hplain]
      rfl

theorem exponentOf_append {cs rest : List Char} (hrest : Stops rest) {p : List Char × List Char}
    (h : exponentOf cs = some p) : exponentOf (cs ++ rest) = some (p.1, p.2 ++ rest) := by
  cases cs with
  | nil =>
      obtain rfl := Option.some.inj h
      cases hrest <;> rfl
  | cons e cs =>
      rw [List.cons_append]
      by_cases he : e = 'e' ∨ e = 'E'
      · simp only [exponentOf, if_pos he] at h ⊢
        rw [exponentSign_append hrest]
        dsimp only
        rw [takeWhile_append_stops hrest, dropWhile_append_stops hrest]
        split at h
        · cases h
        · next hds =>
          obtain rfl := Option.some.inj h
          rw [if_neg hds]
      · simp only [exponentOf, if_neg he] at h ⊢
        obtain rfl := Option.some.inj h
        rfl

/-- A number is read as far as it goes, whatever is behind the stop. -/
theorem number_append {cs rest : List Char} (hrest : Stops rest) {p : Value × List Char}
    (h : number cs = some p) : number (cs ++ rest) = some (p.1, p.2 ++ rest) := by
  rw [number_eq] at h ⊢
  dsimp only at h ⊢
  split at h
  swap
  · cases h
  next hwhole =>
  have hcs : cs ≠ [] := by
    rintro rfl
    exact hwhole.1 rfl
  obtain ⟨f, hf, e, he, rfl⟩ : ∃ f, fractionOf ((signOf cs).2.dropWhile Char.isDigit) = some f ∧
      ∃ e, exponentOf f.2 = some e ∧
        (.number ((signOf cs).1 ++ (signOf cs).2.takeWhile Char.isDigit ++ f.1 ++ e.1), e.2) = p := by
    simpa [Option.bind_eq_some_iff] using h
  rw [signOf_append hcs]
  dsimp only
  rw [takeWhile_append_stops hrest, dropWhile_append_stops hrest, if_pos hwhole,
    fractionOf_append hrest hf, Option.bind_some, exponentOf_append hrest he]
  rfl

theorem signOf_eq_append (cs : List Char) : (signOf cs).1 ++ (signOf cs).2 = cs := by
  unfold signOf
  split <;> rfl

theorem fractionOf_eq_append {cs : List Char} {p : List Char × List Char}
    (h : fractionOf cs = some p) : p.1 ++ p.2 = cs := by
  unfold fractionOf at h
  split at h
  · next rest =>
    dsimp only at h
    split at h
    · cases h
    · obtain rfl := Option.some.inj h
      exact congrArg ('.' :: ·) List.takeWhile_append_dropWhile
  · obtain rfl := Option.some.inj h
    rfl

theorem exponentSign_eq_append (cs : List Char) :
    (exponentSign cs).1 ++ (exponentSign cs).2 = cs := by
  unfold exponentSign
  split <;> rfl

theorem exponentOf_eq_append {cs : List Char} {p : List Char × List Char}
    (h : exponentOf cs = some p) : p.1 ++ p.2 = cs := by
  cases cs with
  | nil =>
      obtain rfl := Option.some.inj h
      rfl
  | cons e cs =>
      by_cases he : e = 'e' ∨ e = 'E'
      · simp only [exponentOf, if_pos he] at h
        split at h
        · cases h
        · obtain rfl := Option.some.inj h
          rw [List.cons_append, List.append_assoc, List.takeWhile_append_dropWhile,
            exponentSign_eq_append]
      · rw [exponentOf, if_neg he] at h
        obtain rfl := Option.some.inj h
        rfl

/-- The text of a number is its parts, one after the other. -/
theorem number_eq_append {cs : List Char} {p : Value × List Char} (h : number cs = some p) :
    ∃ digits, p.1 = .number digits ∧ digits ++ p.2 = cs := by
  rw [number_eq] at h
  dsimp only at h
  split at h
  swap
  · cases h
  obtain ⟨f, hf, e, he, rfl⟩ : ∃ f, fractionOf ((signOf cs).2.dropWhile Char.isDigit) = some f ∧
      ∃ e, exponentOf f.2 = some e ∧
        (.number ((signOf cs).1 ++ (signOf cs).2.takeWhile Char.isDigit ++ f.1 ++ e.1), e.2) = p := by
    simpa [Option.bind_eq_some_iff] using h
  refine ⟨_, rfl, ?_⟩
  simp only [List.append_assoc]
  rw [exponentOf_eq_append he, fractionOf_eq_append hf, List.takeWhile_append_dropWhile,
    signOf_eq_append]

/-! ## writing values -/

/-- Whether a text is a number and nothing else. -/
def isNumber (digits : List Char) : Bool :=
  match number digits with
  | some (_, []) => true
  | _ => false

theorem number_of_isNumber {digits : List Char} (h : isNumber digits = true) :
    number digits = some (.number digits, []) := by
  unfold isNumber at h
  split at h
  · next v hnumber =>
    obtain ⟨digits', hv, htext⟩ := number_eq_append hnumber
    dsimp only at hv htext
    rw [List.append_nil] at htext
    rw [hnumber, hv, htext]
  · cases h

/-- What a value may start with that is neither quoted, nested nor a name. -/
def startsNumber (c : Char) : Bool := c = '-' || c.isDigit

theorem ne_of_startsNumber {c d : Char} (h : startsNumber c = true)
    (hd : startsNumber d = false) : c ≠ d := by
  rintro rfl
  rw [h] at hd
  cases hd

theorem isSpace_of_startsNumber {c : Char} (h : startsNumber c = true) : isSpace c = false := by
  rw [startsNumber, Bool.or_eq_true, decide_eq_true_eq] at h
  obtain rfl | hdigit := h
  · decide
  · have hrange : 48 ≤ c.toNat ∧ c.toNat ≤ 57 := Char.isDigit_iff_toNat.1 hdigit
    simp [isSpace]
    omega

theorem number_head {cs : List Char} {p : Value × List Char} (h : number cs = some p) :
    ∃ c cs', cs = c :: cs' ∧ startsNumber c = true := by
  rw [number_eq] at h
  dsimp only at h
  split at h
  swap
  · cases h
  next hwhole =>
  cases cs with
  | nil => exact absurd rfl hwhole.1
  | cons c cs =>
      refine ⟨c, cs, rfl, ?_⟩
      rw [startsNumber, Bool.or_eq_true, decide_eq_true_eq]
      by_cases hc : c = '-'
      · exact .inl hc
      · right
        rw [signOf.eq_2 _ fun _ he => hc (List.cons.inj he).1, List.takeWhile_cons] at hwhole
        by_contra hdigit
        exact hwhole.1 (by rw [if_neg hdigit])

mutual

/-- The text of a value, without white space; what is no number is written as `null`. -/
def Value.write : Value → List Char
  | .null => ['n', 'u', 'l', 'l']
  | .bool true => ['t', 'r', 'u', 'e']
  | .bool false => ['f', 'a', 'l', 's', 'e']
  | .number digits => if isNumber digits then digits else ['n', 'u', 'l', 'l']
  | .string s => quote s
  | .array items => '[' :: (writeItems items ++ [']'])
  | .object members => '{' :: (writeMembers members ++ ['}'])

def writeItems : List Value → List Char
  | [] => []
  | [v] => v.write
  | v :: vs => v.write ++ ',' :: writeItems vs

def writeMembers : List (List Char × Value) → List Char
  | [] => []
  | [(key, v)] => quote key ++ ':' :: v.write
  | (key, v) :: ms => quote key ++ ':' :: (v.write ++ ',' :: writeMembers ms)

end

mutual

/-- What a value is once it is written and read. -/
def Value.normal : Value → Value
  | .number digits => if isNumber digits then .number digits else .null
  | .array items => .array (normalItems items)
  | .object members => .object (normalMembers members)
  | .null => .null
  | .bool b => .bool b
  | .string s => .string s

def normalItems : List Value → List Value
  | [] => []
  | v :: vs => v.normal :: normalItems vs

def normalMembers : List (List Char × Value) → List (List Char × Value)
  | [] => []
  | (key, v) :: ms => (key, v.normal) :: normalMembers ms

end

theorem normalItems_eq_map (vs : List Value) : normalItems vs = vs.map Value.normal := by
  induction vs with
  | nil => rfl
  | cons v vs ih => rw [normalItems, ih, List.map_cons]

theorem normalMembers_eq_map (ms : List (List Char × Value)) :
    normalMembers ms = ms.map fun m => (m.1, m.2.normal) := by
  induction ms with
  | nil => rfl
  | cons m ms ih => rw [normalMembers, ih, List.map_cons]

mutual

theorem Value.normal_normal : ∀ v : Value, v.normal.normal = v.normal
  | .null | .bool _ | .string _ => rfl
  | .number digits => by
      rw [Value.normal]
      split
      · next h => rw [Value.normal, if_pos h]
      · rfl
  | .array items => by
      rw [Value.normal, Value.normal, normalItems_normalItems items]
  | .object members => by
      rw [Value.normal, Value.normal, normalMembers_normalMembers members]

theorem normalItems_normalItems : ∀ vs : List Value, normalItems (normalItems vs) = normalItems vs
  | [] => rfl
  | v :: vs => by
      rw [normalItems, normalItems, Value.normal_normal v, normalItems_normalItems vs]

theorem normalMembers_normalMembers :
    ∀ ms : List (List Char × Value), normalMembers (normalMembers ms) = normalMembers ms
  | [] => rfl
  | (key, v) :: ms => by
      rw [normalMembers, normalMembers, Value.normal_normal v, normalMembers_normalMembers ms]

end

theorem writeItems_cons (v w : Value) (vs : List Value) :
    writeItems (v :: w :: vs) = v.write ++ ',' :: writeItems (w :: vs) := by
  rw [writeItems]
  nofun

theorem writeMembers_cons (key : List Char) (v : Value) (m : List Char × Value)
    (ms : List (List Char × Value)) :
    writeMembers ((key, v) :: m :: ms) =
      quote key ++ ':' :: (v.write ++ ',' :: writeMembers (m :: ms)) := by
  rw [writeMembers]
  nofun

/-- A value starts with what is neither white space nor a closing bracket. -/
theorem write_head (v : Value) :
    ∃ c cs, v.write = c :: cs ∧ isSpace c = false ∧ c ≠ ']' := by
  cases v with
  | null => exact ⟨_, _, rfl, by decide, by decide⟩
  | bool b => cases b <;> exact ⟨_, _, rfl, by decide, by decide⟩
  | string s => exact ⟨'"', _, rfl, by decide, by decide⟩
  | array items => exact ⟨'[', _, rfl, by decide, by decide⟩
  | object members => exact ⟨'{', _, rfl, by decide, by decide⟩
  | number digits =>
      rw [Value.write]
      split
      · next h =>
        obtain ⟨c, cs, rfl, hc⟩ := number_head (number_of_isNumber h)
        exact ⟨c, cs, rfl, isSpace_of_startsNumber hc, ne_of_startsNumber hc (by decide)⟩
      · exact ⟨_, _, rfl, by decide, by decide⟩

/-- What starts as a number is read as one. -/
theorem value_number {c : Char} (h : startsNumber c = true) (fuel : Nat) (cs : List Char) :
    value (fuel + 1) (c :: cs) = number (c :: cs) := by
  have hne : ∀ d, startsNumber d = false → c ≠ d := fun d => ne_of_startsNumber h
  rw [value, skipSpace_cons (isSpace_of_startsNumber h)]
  split
  · next heq => exact absurd (List.cons.inj heq).1 (hne _ (by decide))
  · next heq => exact absurd (List.cons.inj heq).1 (hne _ (by decide))
  · next heq => exact absurd (List.cons.inj heq).1 (hne _ (by decide))
  · next heq => exact absurd (List.cons.inj heq).1 (hne _ (by decide))
  · next heq => exact absurd (List.cons.inj heq).1 (hne _ (by decide))
  · next heq => exact absurd (List.cons.inj heq).1 (hne _ (by decide))
  · rfl

/-- A member is read up to its colon. -/
theorem members_quote (fuel : Nat) (key rest : List Char) :
    members (fuel + 1) (quote key ++ ':' :: rest) =
      match value fuel rest with
      | none => none
      | some (v, rest) =>
          match skipSpace rest with
          | ',' :: rest => (members fuel rest).map fun p => ((key, v) :: p.1, p.2)
          | '}' :: rest => some ([(key, v)], rest)
          | _ => none := by
  have hquote : quote key ++ ':' :: rest = '"' :: (key.flatMap escape ++ '"' :: ':' :: rest) := by
    simp [quote]
  rw [hquote, members, skipSpace_cons (by decide)]
  simp only [chars_quote]
  rw [skipSpace_cons (by decide)]
  rfl

mutual

/-- A value is read back, given fuel for its text. -/
theorem value_write : ∀ (v : Value) (fuel : Nat) {rest : List Char}, Stops rest →
    v.write.length < fuel → value fuel (v.write ++ rest) = some (v.normal, rest)
  | _, 0, _, _, hfuel => absurd hfuel (Nat.not_lt_zero _)
  | .null, fuel + 1, _, _, _ => rfl
  | .bool true, fuel + 1, _, _, _ => rfl
  | .bool false, fuel + 1, _, _, _ => rfl
  | .string s, fuel + 1, rest, _, _ => value_quote fuel s rest
  | .number digits, fuel + 1, rest, hrest, _ => by
      rw [Value.write, Value.normal]
      split
      · next h =>
        have hnumber := number_append hrest (number_of_isNumber h)
        obtain ⟨c, cs, rfl, hc⟩ := number_head (number_of_isNumber h)
        rw [List.cons_append, value_number hc, ← List.cons_append]
        exact hnumber
      · rfl
  | .array [], fuel + 1, _, _, _ => rfl
  | .object [], fuel + 1, _, _, _ => rfl
  | .array (v :: vs), fuel + 1, rest, _, hfuel => by
      have hitems := items_write v vs fuel rest (by
        simp only [Value.write, List.length_cons, List.length_append] at hfuel
        omega)
      obtain ⟨c, cs, hhead, hspace, hbracket⟩ := write_head v
      have hfirst : ∃ cs', writeItems (v :: vs) ++ ']' :: rest = c :: cs' := by
        cases vs with
        | nil => exact ⟨cs ++ ']' :: rest, by rw [writeItems, hhead, List.cons_append]⟩
        | cons w ws =>
            rw [writeItems_cons, hhead]
            exact ⟨_, rfl⟩
      obtain ⟨cs', hfirst⟩ := hfirst
      have htext : (Value.array (v :: vs)).write ++ rest = '[' :: c :: cs' := by
        rw [Value.write, List.cons_append, List.append_assoc, ← hfirst]
        rfl
      rw [htext, value, skipSpace_cons (by decide)]
      simp only
      rw [skipSpace_cons hspace]
      split
      · next heq => exact absurd (List.cons.inj heq).1 hbracket
      · rw [← hfirst, hitems]
        rfl
  | .object ((key, v) :: ms), fuel + 1, rest, _, hfuel => by
      have hmembers := members_write key v ms fuel rest (by
        simp only [Value.write, List.length_cons, List.length_append] at hfuel
        omega)
      have hfirst : ∃ cs', writeMembers ((key, v) :: ms) ++ '}' :: rest = '"' :: cs' := by
        cases ms with
        | nil => exact ⟨_, rfl⟩
        | cons m ms =>
            rw [writeMembers_cons]
            exact ⟨_, rfl⟩
      obtain ⟨cs', hfirst⟩ := hfirst
      have htext : (Value.object ((key, v) :: ms)).write ++ rest = '{' :: '"' :: cs' := by
        rw [Value.write, List.cons_append, List.append_assoc, ← hfirst]
        rfl
      rw [htext, value, skipSpace_cons (by decide)]
      simp only
      rw [skipSpace_cons (by decide)]
      show Option.map _ (members fuel ('"' :: cs')) = _
      rw [← hfirst, hmembers]
      rfl

theorem items_write : ∀ (v : Value) (vs : List Value) (fuel : Nat) (rest : List Char),
    (writeItems (v :: vs)).length + 1 < fuel →
      items fuel (writeItems (v :: vs) ++ ']' :: rest) = some (normalItems (v :: vs), rest)
  | _, _, 0, _, hfuel => absurd hfuel (Nat.not_lt_zero _)
  | v, [], fuel + 1, rest, hfuel => by
      have hv := value_write v fuel (.bracket rest) (by
        rw [writeItems] at hfuel
        omega)
      rw [writeItems, items, hv]
      dsimp only
      rw [skipSpace_cons (by decide)]
      rfl
  | v, w :: ws, fuel + 1, rest, hfuel => by
      rw [writeItems_cons] at hfuel ⊢
      simp only [List.length_append, List.length_cons] at hfuel
      obtain ⟨c, cs, hhead, -⟩ := write_head v
      have hlen : 0 < v.write.length := by rw [hhead]; exact Nat.succ_pos _
      have hv := value_write v fuel (.comma (writeItems (w :: ws) ++ ']' :: rest)) (by omega)
      have hrest := items_write w ws fuel rest (by omega)
      rw [List.append_assoc, List.cons_append, items, hv]
      dsimp only
      rw [skipSpace_cons (by decide)]
      simp only
      rw [hrest]
      rfl

theorem members_write : ∀ (key : List Char) (v : Value) (ms : List (List Char × Value))
    (fuel : Nat) (rest : List Char), (writeMembers ((key, v) :: ms)).length < fuel →
      members fuel (writeMembers ((key, v) :: ms) ++ '}' :: rest) =
        some (normalMembers ((key, v) :: ms), rest)
  | _, _, _, 0, _, hfuel => absurd hfuel (Nat.not_lt_zero _)
  | key, v, [], fuel + 1, rest, hfuel => by
      rw [writeMembers, List.length_append, List.length_cons] at hfuel
      have hv := value_write v fuel (.brace rest) (by omega)
      rw [writeMembers, List.append_assoc, List.cons_append, members_quote, hv]
      simp only
      rw [skipSpace_cons (by decide)]
      rfl
  | key, v, (key', v') :: ms, fuel + 1, rest, hfuel => by
      rw [writeMembers_cons] at hfuel ⊢
      simp only [List.length_append, List.length_cons] at hfuel
      have hv := value_write v fuel (.comma (writeMembers ((key', v') :: ms) ++ '}' :: rest))
        (by omega)
      have hrest := members_write key' v' ms fuel rest (by omega)
      rw [List.append_assoc, List.cons_append, List.append_assoc, List.cons_append, members_quote,
        hv]
      simp only
      rw [skipSpace_cons (by decide)]
      simp only
      rw [hrest]
      rfl

end

/-- **Round trip**: a value is read back as it was written. -/
theorem parse_write (v : Value) : parse v.write = some v.normal := by
  have hvalue := value_write v _ .nil (Nat.lt_succ_self v.write.length)
  rw [List.append_nil] at hvalue
  unfold parse
  rw [hvalue]
  rfl

/-! ## writing objects of strings -/

def stringifyMember (m : List Char × List Char) : List Char := quote m.1 ++ ':' :: quote m.2

def stringifyMembers : List (List Char × List Char) → List Char
  | [] => []
  | [m] => stringifyMember m
  | m :: ms => stringifyMember m ++ ',' :: stringifyMembers ms

/-- An object, without white space. -/
def stringify (ms : List (List Char × List Char)) : List Char :=
  '{' :: (stringifyMembers ms ++ ['}'])

/-- An object of strings is written as any object. -/
theorem stringify_eq_write (ms : List (List Char × List Char)) :
    stringify ms = (Value.object (ms.map fun m => (m.1, .string m.2))).write := by
  have hmembers : stringifyMembers ms = writeMembers (ms.map fun m => (m.1, .string m.2)) := by
    fun_induction stringifyMembers ms with
    | case1 => rfl
    | case2 m => rfl
    | case3 m ms hms ih =>
        cases ms with
        | nil => exact absurd rfl hms
        | cons next ms =>
            rw [List.map_cons] at ih ⊢
            rw [ih, List.map_cons, writeMembers_cons]
            simp [stringifyMember, Value.write]
  rw [stringify, hmembers, Value.write]

/-- **Round trip**: an object of strings is read back as it was written. -/
theorem parse_stringify (ms : List (List Char × List Char)) :
    parse (stringify ms) = some (.object (ms.map fun m => (m.1, .string m.2))) := by
  rw [stringify_eq_write, parse_write, Value.normal, normalMembers_eq_map, List.map_map]
  rfl

example : stringify [("id".toList, "a\"b".toList)] = "\x7b\"id\":\"a\\\"b\"\x7d".toList := by decide

end UptimeFlow.JsonText
