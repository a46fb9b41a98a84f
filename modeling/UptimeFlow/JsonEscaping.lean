import Mathlib.Data.List.DropRight
import UptimeFlow.JsonWriting

/-!
# UptimeFlow.JsonEscaping

JSON with some characters of its text written as `\uXXXX`.

A character that no token but a string is made of can be written so wherever
the text has it: a text that is JSON stays the same value (`parse_escapeText`).
A backslash before such a character is no JSON to begin with, and a high
surrogate left open before it is as lost as it was.
-/

namespace UptimeFlow.JsonText

/-! ## the escaped text -/

/-- `\uXXXX` -/
def unicodeEscape (c : Char) : List Char :=
  ['\\', 'u', hexDigit (c.toNat / 4096), hexDigit (c.toNat / 256 % 16),
    hexDigit (c.toNat / 16 % 16), hexDigit (c.toNat % 16)]

/-- The text with every special character escaped. -/
def escapeText (special : Char → Bool) (cs : List Char) : List Char :=
  cs.flatMap fun c => if special c then unicodeEscape c else [c]

/-- What tokens are made of, besides letters, digits and white space. -/
def punctuation : List Char := ['{', '}', '[', ']', ':', ',', '"', '\\', '/', '+', '-', '.']

def isLetter (c : Char) : Bool :=
  (65 ≤ c.toNat && c.toNat ≤ 90) || (97 ≤ c.toNat && c.toNat ≤ 122)

/-- One code unit, and no token but a string is made of it. -/
def onlyInStrings (c : Char) : Bool :=
  32 < c.toNat && c.toNat < 0x10000 && !c.isDigit && !isLetter c && !punctuation.contains c

variable {special : Char → Bool} {c : Char} {cs : List Char}

theorem escapeText_cons_neg (h : special c = false) (cs : List Char) :
    escapeText special (c :: cs) = c :: escapeText special cs := by
  rw [escapeText, List.flatMap_cons, h]
  rfl

theorem escapeText_cons_pos (h : special c = true) (cs : List Char) :
    escapeText special (c :: cs) = '\\' :: 'u' :: hexDigit (c.toNat / 4096) ::
      hexDigit (c.toNat / 256 % 16) :: hexDigit (c.toNat / 16 % 16) :: hexDigit (c.toNat % 16) ::
        escapeText special cs := by
  rw [escapeText, List.flatMap_cons, h]
  rfl

theorem length_le_escapeText (cs : List Char) : cs.length ≤ (escapeText special cs).length := by
  induction cs with
  | nil => exact Nat.le_refl _
  | cons c cs ih =>
      cases h : special c with
      | false => simpa [escapeText_cons_neg h] using ih
      | true =>
          simp only [escapeText_cons_pos h, List.length_cons]
          omega

theorem hex4_unicodeEscape (h : c.toNat < 0x10000) :
    hex4 (hexDigit (c.toNat / 4096)) (hexDigit (c.toNat / 256 % 16))
      (hexDigit (c.toNat / 16 % 16)) (hexDigit (c.toNat % 16)) = some c.toNat := by
  simp only [hex4, hexValue_hexDigit _ (show c.toNat / 4096 < 16 by omega),
    hexValue_hexDigit _ (show c.toNat / 256 % 16 < 16 by omega),
    hexValue_hexDigit _ (show c.toNat / 16 % 16 < 16 by omega),
    hexValue_hexDigit _ (show c.toNat % 16 < 16 by omega)]
  simp
  omega

/-- No character is half of a surrogate pair. -/
theorem not_surrogate (c : Char) : isHigh c.toNat = false ∧ isLow c.toNat = false := by
  have hvalid : c.toNat < 0xD800 ∨ 0xDFFF < c.toNat ∧ c.toNat < 0x110000 := c.valid
  simp only [isHigh, isLow, Bool.and_eq_false_iff, decide_eq_false_iff_not]
  omega

/-! ## strings -/

section
variable (hspecial : ∀ c, special c = true → onlyInStrings c = true)
include hspecial

/-- What a token is made of is left as it is. -/
theorem special_eq_false (h : onlyInStrings c = false) : special c = false := by
  cases hc : special c with
  | false => rfl
  | true => rw [hspecial c hc] at h; exact h

theorem special_digit (h : c.isDigit = true) : special c = false :=
  special_eq_false hspecial (by simp [onlyInStrings, h])

theorem special_space (h : isSpace c = true) : special c = false := by
  refine special_eq_false hspecial ?_
  have hle : c.toNat ≤ 32 := by
    simp [isSpace] at h
    omega
  simp [onlyInStrings, hle]

theorem special_hex {n : Nat} (h : hexValue c = some n) : special c = false := by
  unfold hexValue at h
  split at h
  · next hdigit => exact special_digit hspecial hdigit
  have hletter : isLetter c = true := by
    have hle : ∀ a b : Char, a ≤ b ↔ a.toNat ≤ b.toNat := fun a b => UInt32.le_iff_toNat_le
    simp only [hle] at h
    split at h
    · next hlower =>
      have ha : 'a'.toNat = 97 := rfl
      have hf : 'f'.toNat = 102 := rfl
      simp only [isLetter, Bool.or_eq_true, Bool.and_eq_true, decide_eq_true_eq]
      omega
    split at h
    · next hupper =>
      have ha : 'A'.toNat = 65 := rfl
      have hf : 'F'.toNat = 70 := rfl
      simp only [isLetter, Bool.or_eq_true, Bool.and_eq_true, decide_eq_true_eq]
      omega
    · cases h
  exact special_eq_false hspecial (by simp [onlyInStrings, hletter])

theorem special_unescape {d : Char} (h : unescape c = some d) : special c = false := by
  refine special_eq_false hspecial ?_
  unfold unescape at h
  split at h
  · next hc => rcases hc with rfl | rfl | rfl <;> decide
  split at h
  · next hc => subst hc; decide
  split at h
  · next hc => subst hc; decide
  split at h
  · next hc => subst hc; decide
  split at h
  · next hc => subst hc; decide
  split at h
  · next hc => subst hc; decide
  · cases h

/-- An escaped character is read as itself, whatever surrogate is open before it. -/
theorem chars_unicodeEscape (hc : special c = true) (high : Option Nat) (cs : List Char) :
    chars high (escapeText special (c :: cs)) =
      (chars none (escapeText special cs)).map fun p => (lone high ++ c :: p.1, p.2) := by
  have hcode := hspecial c hc
  simp only [onlyInStrings, Bool.and_eq_true, decide_eq_true_eq] at hcode
  obtain ⟨hhigh, hlow⟩ := not_surrogate c
  have hunit : unit high c.toNat = lone high ++ [c] := by
    cases high <;> simp [unit, lone, hlow, Char.ofNat_toNat]
  rw [escapeText_cons_pos hc, chars, hex4_unicodeEscape hcode.1.1.1.2]
  simp only [hhigh, hunit, Bool.false_eq_true, if_false, List.append_assoc, List.singleton_append]

theorem special_hex4 {a b c d : Char} {n : Nat} (h : hex4 a b c d = some n) :
    special a = false ∧ special b = false ∧ special c = false ∧ special d = false := by
  simp only [hex4, Option.bind_eq_bind, Option.bind_eq_some_iff] at h
  obtain ⟨_, ha, _, hb, _, hc, _, hd, -⟩ := h
  exact ⟨special_hex hspecial ha, special_hex hspecial hb, special_hex hspecial hc,
    special_hex hspecial hd⟩

/-- A string is read as it was, and what is behind it is escaped. -/
theorem chars_escapeText {high : Option Nat} {s rest : List Char}
    (h : chars high cs = some (s, rest)) :
    chars high (escapeText special cs) = some (s, escapeText special rest) := by
  have hquote : special '"' = false := special_eq_false hspecial (by decide)
  have hslash : special '\\' = false := special_eq_false hspecial (by decide)
  have hu : special 'u' = false := special_eq_false hspecial (by decide)
  induction high, cs using chars.induct generalizing s rest with
  | case1 high cs =>
      rw [chars] at h
      obtain ⟨rfl, rfl⟩ := Prod.mk.inj (Option.some.inj h)
      rw [escapeText_cons_neg hquote, chars]
  | case2 high a b c d cs hhex =>
      rw [chars, hhex] at h
      cases h
  | case3 high a b c d cs n hhex hhigh ih =>
      obtain ⟨ha, hb, hc, hd⟩ := special_hex4 hspecial hhex
      rw [chars, hhex] at h
      dsimp only at h
      rw [if_pos hhigh, Option.map_eq_some_iff] at h
      obtain ⟨p, hp, hsame⟩ := h
      obtain ⟨rfl, rfl⟩ := Prod.mk.inj hsame
      rw [escapeText_cons_neg hslash, escapeText_cons_neg hu, escapeText_cons_neg ha,
        escapeText_cons_neg hb, escapeText_cons_neg hc, escapeText_cons_neg hd, chars, hhex]
      dsimp only
      rw [if_pos hhigh, ih hp]
      rfl
  | case4 high a b c d cs n hhex hhigh ih =>
      obtain ⟨ha, hb, hc, hd⟩ := special_hex4 hspecial hhex
      rw [chars, hhex] at h
      dsimp only at h
      rw [if_neg hhigh, Option.map_eq_some_iff] at h
      obtain ⟨p, hp, hsame⟩ := h
      obtain ⟨rfl, rfl⟩ := Prod.mk.inj hsame
      rw [escapeText_cons_neg hslash, escapeText_cons_neg hu, escapeText_cons_neg ha,
        escapeText_cons_neg hb, escapeText_cons_neg hc, escapeText_cons_neg hd, chars, hhex]
      dsimp only
      rw [if_neg hhigh, ih hp]
      rfl
  | case5 high c cs hnot hnone =>
      rw [chars.eq_3 _ _ _ hnot, hnone] at h
      cases h
  | case6 high c cs hnot d hsome ih =>
      have hc := special_unescape hspecial hsome
      have hne : c ≠ 'u' := by
        rintro rfl
        cases hsome
      rw [chars.eq_3 _ _ _ hnot, hsome, Option.map_eq_some_iff] at h
      obtain ⟨p, hp, hsame⟩ := h
      obtain ⟨rfl, rfl⟩ := Prod.mk.inj hsame
      rw [escapeText_cons_neg hslash, escapeText_cons_neg hc,
        chars.eq_3 _ _ _ fun _ _ _ _ _ hu _ => hne hu, hsome]
      dsimp only
      rw [ih hp]
      rfl
  | case7 high c cs hquote hunicode hescape hcontrol =>
      rw [chars.eq_4 _ _ _ hquote hunicode hescape, if_pos hcontrol] at h
      cases h
  | case8 high c cs hne hunicode hescape hcontrol ih =>
      rw [chars.eq_4 _ _ _ hne hunicode hescape, if_neg hcontrol, Option.map_eq_some_iff] at h
      obtain ⟨p, hp, hsame⟩ := h
      obtain ⟨rfl, rfl⟩ := Prod.mk.inj hsame
      cases hc : special c with
      | true =>
          rw [chars_unicodeEscape hspecial hc, ih hp]
          rfl
      | false =>
          -- a backslash here would end the text
          have hplain : c ≠ '\\' := by
            intro hback
            cases cs with
            | nil => cases hp
            | cons d cs => exact hescape d cs hback rfl
          rw [escapeText_cons_neg hc, chars.eq_4 _ _ _ hne (fun _ _ _ _ _ hc _ => hplain hc)
            (fun _ _ hc _ => hplain hc), if_neg hcontrol, ih hp]
          rfl
  | case9 => cases h

/-! ## numbers -/

omit hspecial in
/-- What the escaped text starts with: the same character, or a backslash. -/
theorem escapeText_head (special : Char → Bool) (c : Char) (cs : List Char) :
    ∃ d ds, escapeText special (c :: cs) = d :: ds ∧
      (special c = false ∧ d = c ∨ special c = true ∧ d = '\\') := by
  cases hc : special c with
  | false => exact ⟨c, _, escapeText_cons_neg hc cs, .inl ⟨rfl, rfl⟩⟩
  | true => exact ⟨'\\', _, escapeText_cons_pos hc cs, .inr ⟨rfl, rfl⟩⟩

omit hspecial in
theorem escapeText_head_ne (special : Char → Bool) {x : Char} (hx : x ≠ '\\') (hc : c ≠ x)
    (cs : List Char) :
    ∃ d ds, escapeText special (c :: cs) = d :: ds ∧ d ≠ x := by
  obtain ⟨d, ds, heq, ⟨-, rfl⟩ | ⟨-, rfl⟩⟩ := escapeText_head special c cs
  · exact ⟨d, ds, heq, hc⟩
  · exact ⟨_, ds, heq, hx.symm⟩

omit hspecial in
theorem takeWhile_escapeText {p : Char → Bool} (hslash : p '\\' = false)
    (hp : ∀ c, p c = true → special c = false) (cs : List Char) :
    (escapeText special cs).takeWhile p = cs.takeWhile p ∧
      (escapeText special cs).dropWhile p = escapeText special (cs.dropWhile p) := by
  induction cs with
  | nil => exact ⟨rfl, rfl⟩
  | cons c cs ih =>
      cases hc : p c with
      | true =>
          rw [escapeText_cons_neg (hp c hc), List.takeWhile_cons_of_pos hc,
            List.takeWhile_cons_of_pos hc, List.dropWhile_cons_of_pos hc,
            List.dropWhile_cons_of_pos hc, ih.1]
          exact ⟨rfl, ih.2⟩
      | false =>
          obtain ⟨d, ds, heq, hd⟩ := escapeText_head special c cs
          have hd : ¬ p d = true := by
            rcases hd with ⟨-, rfl⟩ | ⟨-, rfl⟩
            · simp [hc]
            · simp [hslash]
          have hc' : ¬ p c = true := by simp [hc]
          rw [List.takeWhile_cons_of_neg hc', List.dropWhile_cons_of_neg hc', heq,
            List.takeWhile_cons_of_neg hd, List.dropWhile_cons_of_neg hd]
          exact ⟨rfl, rfl⟩

theorem digits_escapeText (cs : List Char) :
    (escapeText special cs).takeWhile Char.isDigit = cs.takeWhile Char.isDigit ∧
      (escapeText special cs).dropWhile Char.isDigit =
        escapeText special (cs.dropWhile Char.isDigit) :=
  takeWhile_escapeText (by decide) (fun _ => special_digit hspecial) cs

theorem skipSpace_escapeText (cs : List Char) :
    skipSpace (escapeText special cs) = escapeText special (skipSpace cs) :=
  (takeWhile_escapeText (by decide) (fun _ => special_space hspecial) cs).2

theorem signOf_escapeText (cs : List Char) :
    signOf (escapeText special cs) = ((signOf cs).1, escapeText special (signOf cs).2) := by
  cases cs with
  | nil => rfl
  | cons c cs =>
      by_cases hc : c = '-'
      · subst hc
        rw [escapeText_cons_neg (special_eq_false hspecial (by decide)), signOf, signOf]
      · obtain ⟨d, ds, heq, hd⟩ := escapeText_head_ne special (by decide) hc cs
        have hplain : signOf (c :: cs) = ([], c :: cs) :=
          signOf.eq_2 _ fun _ he => hc (List.cons.inj he).1
        rw [hplain, heq]
        exact signOf.eq_2 _ fun _ he => hd (List.cons.inj he).1

theorem fractionOf_escapeText {p : List Char × List Char} (h : fractionOf cs = some p) :
    fractionOf (escapeText special cs) = some (p.1, escapeText special p.2) := by
  cases cs with
  | nil =>
      obtain rfl := Option.some.inj h
      rfl
  | cons c cs =>
      by_cases hc : c = '.'
      · subst hc
        have hdigits := digits_escapeText hspecial cs
        rw [escapeText_cons_neg (special_eq_false hspecial (by decide))]
        simp only [fractionOf, hdigits.1, hdigits.2] at h ⊢
        split at h
        · cases h
        · next hds =>
          obtain rfl := Option.some.inj h
          rw [if_neg hds]
      · obtain ⟨d, ds, heq, hd⟩ := escapeText_head_ne special (by decide) hc cs
        rw [fractionOf.eq_2 _ fun _ he => hc (List.cons.inj he).1] at h
        obtain rfl := Option.some.inj h
        rw [heq]
        exact fractionOf.eq_2 _ fun _ he => hd (List.cons.inj he).1

theorem exponentSign_escapeText (cs : List Char) :
    exponentSign (escapeText special cs) =
      ((exponentSign cs).1, escapeText special (exponentSign cs).2) := by
  cases cs with
  | nil => rfl
  | cons c cs =>
      by_cases hplus : c = '+'
      · subst hplus
        rw [escapeText_cons_neg (special_eq_false hspecial (by decide)), exponentSign, exponentSign]
      by_cases hminus : c = '-'
      · subst hminus
        rw [escapeText_cons_neg (special_eq_false hspecial (by decide)), exponentSign, exponentSign]
      have hplain : exponentSign (c :: cs) = ([], c :: cs) :=
        exponentSign.eq_3 _ (fun _ he => hplus (List.cons.inj he).1)
          (fun _ he => hminus (List.cons.inj he).1)
      obtain ⟨d, ds, heq, hd⟩ := escapeText_head special c cs
      have hd : d ≠ '+' ∧ d ≠ '-' := by
        rcases hd with ⟨-, rfl⟩ | ⟨-, rfl⟩
        · exact ⟨hplus, hminus⟩
        · decide
      rw [hplain, heq]
      exact exponentSign.eq_3 _ (fun _ he => hd.1 (List.cons.inj he).1)
        (fun _ he => hd.2 (List.cons.inj he).1)

theorem exponentOf_escapeText {p : List Char × List Char} (h : exponentOf cs = some p) :
    exponentOf (escapeText special cs) = some (p.1, escapeText special p.2) := by
  cases cs with
  | nil =>
      obtain rfl := Option.some.inj h
      rfl
  | cons e cs =>
      by_cases he : e = 'e' ∨ e = 'E'
      · have hspecialE : special e = false := by
          rcases he with rfl | rfl <;> exact special_eq_false hspecial (by decide)
        rw [escapeText_cons_neg hspecialE]
        simp only [exponentOf, if_pos he, exponentSign_escapeText hspecial] at h ⊢
        have hdigits := digits_escapeText hspecial (exponentSign cs).2
        rw [hdigits.1, hdigits.2]
        split at h
        · cases h
        · next hds =>
          obtain rfl := Option.some.inj h
          rw [if_neg hds]
      · obtain ⟨d, ds, heq, hd⟩ := escapeText_head special e cs
        have hd : ¬ (d = 'e' ∨ d = 'E') := by
          rcases hd with ⟨-, rfl⟩ | ⟨-, rfl⟩
          · exact he
          · decide
        rw [exponentOf, if_neg he] at h
        obtain rfl := Option.some.inj h
        dsimp only
        rw [heq, exponentOf, if_neg hd]

/-- A number is read as it was. -/
theorem number_escapeText {p : Value × List Char} (h : number cs = some p) :
    number (escapeText special cs) = some (p.1, escapeText special p.2) := by
  rw [number_eq] at h ⊢
  have hdigits := digits_escapeText hspecial (signOf cs).2
  rw [signOf_escapeText hspecial]
  dsimp only at h ⊢
  rw [hdigits.1, hdigits.2]
  split at h
  swap
  · cases h
  next hwhole =>
  obtain ⟨f, hf, e, he, rfl⟩ : ∃ f, fractionOf ((signOf cs).2.dropWhile Char.isDigit) = some f ∧
      ∃ e, exponentOf f.2 = some e ∧
        (.number ((signOf cs).1 ++ (signOf cs).2.takeWhile Char.isDigit ++ f.1 ++ e.1), e.2) = p := by
    simpa [Option.bind_eq_some_iff] using h
  rw [if_pos hwhole, fractionOf_escapeText hspecial hf, Option.bind_some,
    exponentOf_escapeText hspecial he]
  rfl

/-! ## values -/

section
omit hspecial
variable {fuel : Nat} {rest behind : List Char}

/-! What is read, by what the text starts with. -/

theorem value_object_nil (h : skipSpace cs = '{' :: rest) (hrest : skipSpace rest = '}' :: behind) :
    value (fuel + 1) cs = some (.object [], behind) := by
  rw [value, h]
  simp only [hrest]

theorem value_object (h : skipSpace cs = '{' :: rest)
    (hrest : ∀ behind, skipSpace rest ≠ '}' :: behind) :
    value (fuel + 1) cs =
      (members fuel (skipSpace rest)).map fun p => (.object p.1, p.2) := by
  rw [value, h]
  simp only

theorem value_array_nil (h : skipSpace cs = '[' :: rest) (hrest : skipSpace rest = ']' :: behind) :
    value (fuel + 1) cs = some (.array [], behind) := by
  rw [value, h]
  simp only [hrest]

theorem value_array (h : skipSpace cs = '[' :: rest)
    (hrest : ∀ behind, skipSpace rest ≠ ']' :: behind) :
    value (fuel + 1) cs = (items fuel (skipSpace rest)).map fun p => (.array p.1, p.2) := by
  rw [value, h]
  simp only

theorem value_string (h : skipSpace cs = '"' :: rest) :
    value (fuel + 1) cs = (chars none rest).map fun p => (.string p.1, p.2) := by
  rw [value, h]
  rfl

theorem value_true (h : skipSpace cs = 't' :: 'r' :: 'u' :: 'e' :: rest) :
    value (fuel + 1) cs = some (.bool true, rest) := by
  rw [value, h]
  rfl

theorem value_false (h : skipSpace cs = 'f' :: 'a' :: 'l' :: 's' :: 'e' :: rest) :
    value (fuel + 1) cs = some (.bool false, rest) := by
  rw [value, h]
  rfl

theorem value_null (h : skipSpace cs = 'n' :: 'u' :: 'l' :: 'l' :: rest) :
    value (fuel + 1) cs = some (.null, rest) := by
  rw [value, h]
  rfl

theorem value_skipSpace (fuel : Nat) (cs : List Char) :
    value (fuel + 1) (skipSpace cs) = value (fuel + 1) cs := by
  have htwice : skipSpace (skipSpace cs) = skipSpace cs := List.dropWhile_idempotent _ _
  rw [value, value, htwice]

theorem value_of_number (hc : startsNumber c = true) (h : skipSpace cs = c :: rest) :
    value (fuel + 1) cs = number (c :: rest) := by
  rw [← value_skipSpace, h, value_number hc]

end

/-- With fuel enough, what is read of a text is read of the escaped one. -/
structure Unescapes (special : Char → Bool) (fuel : Nat) : Prop where
  value : ∀ {cs : List Char} {p : Value × List Char}, value fuel cs = some p →
    ∀ fuel' ≥ fuel,
      JsonText.value fuel' (escapeText special cs) = some (p.1, escapeText special p.2)
  members : ∀ {cs : List Char} {p : List (List Char × Value) × List Char},
    members fuel cs = some p → ∀ fuel' ≥ fuel,
      JsonText.members fuel' (escapeText special cs) = some (p.1, escapeText special p.2)
  items : ∀ {cs : List Char} {p : List Value × List Char}, items fuel cs = some p →
    ∀ fuel' ≥ fuel,
      JsonText.items fuel' (escapeText special cs) = some (p.1, escapeText special p.2)

omit hspecial in
/-- A text that does not start with a character does not when it is escaped. -/
theorem escapeText_ne {x : Char} (hx : x ≠ '\\') {cs : List Char}
    (h : ∀ behind, cs ≠ x :: behind) (behind : List Char) :
    escapeText special cs ≠ x :: behind := by
  cases cs with
  | nil => nofun
  | cons c cs =>
      have hc : c ≠ x := fun hc => h cs (by rw [hc])
      obtain ⟨d, ds, heq, hd⟩ := escapeText_head_ne special hx hc cs
      rw [heq]
      exact fun he => hd (List.cons.inj he).1

theorem Unescapes.value_succ {fuel : Nat} (ih : Unescapes special fuel) {p : Value × List Char}
    (h : JsonText.value (fuel + 1) cs = some p) {fuel' : Nat} (hfuel : fuel' ≥ fuel) :
    JsonText.value (fuel' + 1) (escapeText special cs) = some (p.1, escapeText special p.2) := by
  have hplain : ∀ c, onlyInStrings c = false → ∀ cs,
      escapeText special (c :: cs) = c :: escapeText special cs :=
    fun c hc => escapeText_cons_neg (special_eq_false hspecial hc)
  have hskip := skipSpace_escapeText hspecial
  rw [JsonText.value] at h
  split at h
  · next rest heq =>
    have htext : skipSpace (escapeText special cs) = '{' :: escapeText special rest := by
      rw [hskip, heq, hplain _ (by decide)]
    split at h
    · next behind hrest =>
      obtain rfl := Option.some.inj h
      have hbrace : skipSpace (escapeText special rest) = '}' :: escapeText special behind := by
        rw [hskip, hrest, hplain _ (by decide)]
      exact value_object_nil htext hbrace
    · next hrest =>
      obtain ⟨q, hq, rfl⟩ := Option.map_eq_some_iff.1 h
      have hmore : ∀ behind, skipSpace (escapeText special rest) ≠ '}' :: behind := by
        rw [hskip]
        exact escapeText_ne (by decide) fun behind => hrest behind
      rw [value_object htext hmore, hskip, ih.members hq _ hfuel]
      rfl
  · next rest heq =>
    have htext : skipSpace (escapeText special cs) = '[' :: escapeText special rest := by
      rw [hskip, heq, hplain _ (by decide)]
    split at h
    · next behind hrest =>
      obtain rfl := Option.some.inj h
      have hbracket : skipSpace (escapeText special rest) = ']' :: escapeText special behind := by
        rw [hskip, hrest, hplain _ (by decide)]
      exact value_array_nil htext hbracket
    · next hrest =>
      obtain ⟨q, hq, rfl⟩ := Option.map_eq_some_iff.1 h
      have hmore : ∀ behind, skipSpace (escapeText special rest) ≠ ']' :: behind := by
        rw [hskip]
        exact escapeText_ne (by decide) fun behind => hrest behind
      rw [value_array htext hmore, hskip, ih.items hq _ hfuel]
      rfl
  · next rest heq =>
    obtain ⟨q, hq, rfl⟩ := Option.map_eq_some_iff.1 h
    rw [value_string (by rw [hskip, heq, hplain _ (by decide)]), chars_escapeText hspecial hq]
    rfl
  · next rest heq =>
    obtain rfl := Option.some.inj h
    refine value_true ?_
    rw [hskip, heq, hplain _ (by decide), hplain _ (by decide), hplain _ (by decide),
      hplain _ (by decide)]
  · next rest heq =>
    obtain rfl := Option.some.inj h
    refine value_false ?_
    rw [hskip, heq, hplain _ (by decide), hplain _ (by decide), hplain _ (by decide),
      hplain _ (by decide), hplain _ (by decide)]
  · next rest heq =>
    obtain rfl := Option.some.inj h
    refine value_null ?_
    rw [hskip, heq, hplain _ (by decide), hplain _ (by decide), hplain _ (by decide),
      hplain _ (by decide)]
  · obtain ⟨c, rest, heq, hc⟩ := number_head h
    have hnumber := number_escapeText hspecial h
    have hstart : special c = false := by
      rw [startsNumber, Bool.or_eq_true, decide_eq_true_eq] at hc
      obtain rfl | hdigit := hc
      · exact special_eq_false hspecial (by decide)
      · exact special_digit hspecial hdigit
    have htext : skipSpace (escapeText special cs) = c :: escapeText special rest := by
      rw [hskip, heq, escapeText_cons_neg hstart]
    rw [value_of_number hc htext, ← escapeText_cons_neg hstart, ← heq, hnumber]

theorem Unescapes.items_succ {fuel : Nat} (ih : Unescapes special fuel)
    {p : List Value × List Char} (h : JsonText.items (fuel + 1) cs = some p) {fuel' : Nat}
    (hfuel : fuel' ≥ fuel) :
    JsonText.items (fuel' + 1) (escapeText special cs) = some (p.1, escapeText special p.2) := by
  have hplain : ∀ c, onlyInStrings c = false → ∀ cs,
      escapeText special (c :: cs) = c :: escapeText special cs :=
    fun c hc => escapeText_cons_neg (special_eq_false hspecial hc)
  have hskip := skipSpace_escapeText hspecial
  rw [JsonText.items] at h ⊢
  cases hvalue : JsonText.value fuel cs with
  | none =>
      rw [hvalue] at h
      cases h
  | some q =>
      obtain ⟨v, rest⟩ := q
      rw [hvalue] at h
      rw [ih.value hvalue _ hfuel]
      dsimp only at h ⊢
      rw [hskip]
      split at h
      · next behind heq =>
        obtain ⟨q, hq, rfl⟩ := Option.map_eq_some_iff.1 h
        rw [heq, hplain _ (by decide)]
        simp only [ih.items hq _ hfuel, Option.map_some]
      · next behind heq =>
        obtain rfl := Option.some.inj h
        rw [heq, hplain _ (by decide)]
        rfl
      · cases h

theorem Unescapes.members_succ {fuel : Nat} (ih : Unescapes special fuel)
    {p : List (List Char × Value) × List Char} (h : JsonText.members (fuel + 1) cs = some p)
    {fuel' : Nat} (hfuel : fuel' ≥ fuel) :
    JsonText.members (fuel' + 1) (escapeText special cs) = some (p.1, escapeText special p.2) := by
  have hplain : ∀ c, onlyInStrings c = false → ∀ cs,
      escapeText special (c :: cs) = c :: escapeText special cs :=
    fun c hc => escapeText_cons_neg (special_eq_false hspecial hc)
  have hskip := skipSpace_escapeText hspecial
  rw [JsonText.members] at h ⊢
  rw [hskip]
  split at h
  swap
  · cases h
  next rest hquote =>
  rw [hquote, hplain _ (by decide)]
  simp only
  cases hkey : chars none rest with
  | none =>
      rw [hkey] at h
      cases h
  | some q =>
      obtain ⟨key, rest⟩ := q
      rw [hkey] at h
      rw [chars_escapeText hspecial hkey]
      dsimp only at h ⊢
      rw [hskip]
      split at h
      swap
      · cases h
      next rest hcolon =>
      rw [hcolon, hplain _ (by decide)]
      simp only
      cases hvalue : JsonText.value fuel rest with
      | none =>
          rw [hvalue] at h
          cases h
      | some q =>
          obtain ⟨v, rest⟩ := q
          rw [hvalue] at h
          rw [ih.value hvalue _ hfuel]
          dsimp only at h ⊢
          rw [hskip]
          split at h
          · next behind heq =>
            obtain ⟨q, hq, rfl⟩ := Option.map_eq_some_iff.1 h
            rw [heq, hplain _ (by decide)]
            simp only [ih.members hq _ hfuel, Option.map_some]
          · next behind heq =>
            obtain rfl := Option.some.inj h
            rw [heq, hplain _ (by decide)]
            rfl
          · cases h

theorem unescapes (fuel : Nat) : Unescapes special fuel := by
  induction fuel with
  | zero => exact ⟨(nomatch ·), (nomatch ·), (nomatch ·)⟩
  | succ fuel ih =>
      refine ⟨fun h fuel' hfuel => ?_, fun h fuel' hfuel => ?_, fun h fuel' hfuel => ?_⟩
      · obtain ⟨fuel', rfl⟩ : ∃ n, fuel' = n + 1 := ⟨fuel' - 1, by omega⟩
        exact ih.value_succ hspecial h (by omega)
      · obtain ⟨fuel', rfl⟩ : ∃ n, fuel' = n + 1 := ⟨fuel' - 1, by omega⟩
        exact ih.members_succ hspecial h (by omega)
      · obtain ⟨fuel', rfl⟩ : ∃ n, fuel' = n + 1 := ⟨fuel' - 1, by omega⟩
        exact ih.items_succ hspecial h (by omega)

/-- **JSON stays what it is** when characters that only strings have are escaped in its text. -/
theorem parse_escapeText {v : Value} (h : parse cs = some v) :
    parse (escapeText special cs) = some v := by
  unfold parse at h ⊢
  cases hvalue : value (cs.length + 1) cs with
  | none =>
      rw [hvalue] at h
      cases h
  | some p =>
      have hfuel : (escapeText special cs).length + 1 ≥ cs.length + 1 :=
        Nat.succ_le_succ (length_le_escapeText cs)
      rw [hvalue] at h
      rw [(unescapes hspecial _).value hvalue _ hfuel]
      dsimp only at h ⊢
      rw [skipSpace_escapeText hspecial]
      split at h
      · next hend =>
        rw [hend]
        exact h
      · cases h

end

end UptimeFlow.JsonText
