import Mathlib.Data.List.Basic

/-!
# UptimeFlow.JsonText

JSON as text, and reading it.

Texts are lists of characters.  A number is kept as the digits it was written
with.  An escaped surrogate that is no half of a pair is in no text of
characters; it reads as U+FFFD.
-/

namespace UptimeFlow.JsonText

inductive Value where
  | null
  | bool (b : Bool)
  | number (digits : List Char)
  | string (s : List Char)
  | array (items : List Value)
  | object (members : List (List Char × Value))
deriving Repr

/-- The member of an object; of several with one key the last counts. -/
def Value.get (key : List Char) : Value → Option Value
  | .object members => (members.reverse.find? fun m => m.1 = key).map (·.2)
  | _ => none

theorem Value.get_pair {a b : List Char} (hab : a ≠ b) (v w : Value) :
    (Value.object [(a, v), (b, w)]).get a = some v ∧
      (Value.object [(a, v), (b, w)]).get b = some w := by
  simp [Value.get, hab.symm]

/-! ## strings -/

def hexDigit (n : Nat) : Char :=
  if n < 10 then Char.ofNat ('0'.toNat + n) else Char.ofNat ('a'.toNat + (n - 10))

def hexValue (c : Char) : Option Nat :=
  if c.isDigit then some (c.toNat - '0'.toNat)
  else if 'a' ≤ c ∧ c ≤ 'f' then some (c.toNat - 'a'.toNat + 10)
  else if 'A' ≤ c ∧ c ≤ 'F' then some (c.toNat - 'A'.toNat + 10)
  else none

theorem hexValue_hexDigit : ∀ n < 16, hexValue (hexDigit n) = some n := by decide

/-- The code unit of four hexadecimal digits. -/
def hex4 (a b c d : Char) : Option Nat := do
  let a ← hexValue a
  let b ← hexValue b
  let c ← hexValue c
  let d ← hexValue d
  return ((a * 16 + b) * 16 + c) * 16 + d

/-- A character as it stands in a quoted string. -/
def escape (c : Char) : List Char :=
  if c = '"' then ['\\', '"']
  else if c = '\\' then ['\\', '\\']
  else if c.toNat = 8 then ['\\', 'b']
  else if c.toNat = 9 then ['\\', 't']
  else if c.toNat = 10 then ['\\', 'n']
  else if c.toNat = 12 then ['\\', 'f']
  else if c.toNat = 13 then ['\\', 'r']
  else if c.toNat < 32 then
    ['\\', 'u', '0', '0', hexDigit (c.toNat / 16), hexDigit (c.toNat % 16)]
  else [c]

/-- What a letter behind a backslash stands for. -/
def unescape (c : Char) : Option Char :=
  if c = '"' ∨ c = '\\' ∨ c = '/' then some c
  else if c = 'b' then some (Char.ofNat 8)
  else if c = 't' then some (Char.ofNat 9)
  else if c = 'n' then some (Char.ofNat 10)
  else if c = 'f' then some (Char.ofNat 12)
  else if c = 'r' then some (Char.ofNat 13)
  else none

def isHigh (n : Nat) : Bool := 0xD800 ≤ n && n < 0xDC00
def isLow (n : Nat) : Bool := 0xDC00 ≤ n && n < 0xE000

def replacement : Char := Char.ofNat 0xFFFD

/-- A high surrogate that is not followed by a low one. -/
def lone : Option Nat → List Char
  | none => []
  | some _ => [replacement]

/-- What a code unit adds behind an open high surrogate. -/
def unit : Option Nat → Nat → List Char
  | some high, n =>
      if isLow n then [Char.ofNat (0x10000 + (high - 0xD800) * 0x400 + (n - 0xDC00))]
      else [replacement, Char.ofNat n]
  | none, n => if isLow n then [replacement] else [Char.ofNat n]

/-- The characters up to the closing quote, and what is behind it; `high` is a high surrogate
that waits for its low one. -/
def chars : Option Nat → List Char → Option (List Char × List Char)
  | high, '"' :: rest => some (lone high, rest)
  | high, '\\' :: 'u' :: a :: b :: c :: d :: rest =>
      match hex4 a b c d with
      | none => none
      | some n =>
          if isHigh n then (chars (some n) rest).map fun p => (lone high ++ p.1, p.2)
          else (chars none rest).map fun p => (unit high n ++ p.1, p.2)
  | high, '\\' :: c :: rest =>
      match unescape c with
      | none => none
      | some c => (chars none rest).map fun p => (lone high ++ c :: p.1, p.2)
  | high, c :: rest =>
      if c.toNat < 32 then none
      else (chars none rest).map fun p => (lone high ++ c :: p.1, p.2)
  | _, [] => none

def quote (s : List Char) : List Char := '"' :: (s.flatMap escape ++ ['"'])

/-- One character is read back. -/
theorem chars_escape (c : Char) (rest : List Char) :
    chars none (escape c ++ rest) = (chars none rest).map fun p => (c :: p.1, p.2) := by
  have hofNat : ∀ n, c.toNat = n → Char.ofNat n = c := by
    rintro n rfl
    exact Char.ofNat_toNat c
  unfold escape
  split
  · next h => simp [h, chars, unescape, lone]
  split
  · next h => simp [h, chars, unescape, lone]
  split
  · next h =>
      obtain rfl := hofNat 8 h
      simp [chars, unescape, lone]
  split
  · next h =>
      obtain rfl := hofNat 9 h
      simp [chars, unescape, lone]
  split
  · next h =>
      obtain rfl := hofNat 10 h
      simp [chars, unescape, lone]
  split
  · next h =>
      obtain rfl := hofNat 12 h
      simp [chars, unescape, lone]
  split
  · next h =>
      obtain rfl := hofNat 13 h
      simp [chars, unescape, lone]
  split
  · next h =>
      have hhex : hex4 '0' '0' (hexDigit (c.toNat / 16)) (hexDigit (c.toNat % 16)) = some c.toNat := by
        have h₀ : hexValue '0' = some 0 := by decide
        simp only [hex4, h₀, hexValue_hexDigit _ (show c.toNat / 16 < 16 by omega),
          hexValue_hexDigit _ (show c.toNat % 16 < 16 by omega)]
        simp
        omega
      have hhigh : isHigh c.toNat = false := by simp [isHigh]; omega
      have hlow : isLow c.toNat = false := by simp [isLow]; omega
      simp [chars, hhex, hhigh, unit, hlow]
  · next hquote hslash _ _ _ _ _ hcontrol =>
      rw [List.singleton_append, chars.eq_def]
      split
      · simp_all
      · simp_all
      · simp_all
      · next heq =>
          obtain ⟨rfl, rfl⟩ := List.cons_eq_cons.1 heq
          rw [if_neg hcontrol]
          rfl
      · simp_all

/-- What was quoted is read back. -/
theorem chars_quote (s rest : List Char) :
    chars none (s.flatMap escape ++ '"' :: rest) = some (s, rest) := by
  induction s with
  | nil => rfl
  | cons c s ih => rw [List.flatMap_cons, List.append_assoc, chars_escape, ih, Option.map_some]

/-! ## values -/

/-- The white space between tokens. -/
def isSpace (c : Char) : Bool := [0x9, 0xA, 0xD, 0x20].contains c.toNat

def skipSpace (cs : List Char) : List Char := cs.dropWhile isSpace

/-- A number: a sign, digits, a fraction and an exponent. -/
def number (cs : List Char) : Option (Value × List Char) := do
  let (sign, cs) := match cs with
    | '-' :: rest => (['-'], rest)
    | _ => ([], cs)
  let whole := cs.takeWhile Char.isDigit
  guard (whole ≠ [] ∧ (whole.head? = some '0' → whole.length = 1))
  let cs := cs.dropWhile Char.isDigit
  let (fraction, cs) ← match cs with
    | '.' :: rest =>
        let ds := rest.takeWhile Char.isDigit
        if ds = [] then none else some ('.' :: ds, rest.dropWhile Char.isDigit)
    | _ => some ([], cs)
  let (exponent, cs) ← match cs with
    | e :: rest =>
        if e = 'e' ∨ e = 'E' then
          let (sign, rest) := match rest with
            | '+' :: rest => (['+'], rest)
            | '-' :: rest => (['-'], rest)
            | _ => ([], rest)
          let ds := rest.takeWhile Char.isDigit
          if ds = [] then none else some (e :: (sign ++ ds), rest.dropWhile Char.isDigit)
        else some ([], cs)
    | [] => some ([], [])
  return (.number (sign ++ whole ++ fraction ++ exponent), cs)

mutual

/-- A value and what is behind it, with enough fuel for its nesting and its length. -/
def value : Nat → List Char → Option (Value × List Char)
  | 0, _ => none
  | fuel + 1, cs =>
      match skipSpace cs with
      | '{' :: rest =>
          match skipSpace rest with
          | '}' :: rest => some (.object [], rest)
          | rest => (members fuel rest).map fun p => (.object p.1, p.2)
      | '[' :: rest =>
          match skipSpace rest with
          | ']' :: rest => some (.array [], rest)
          | rest => (items fuel rest).map fun p => (.array p.1, p.2)
      | '"' :: rest => (chars none rest).map fun p => (.string p.1, p.2)
      | 't' :: 'r' :: 'u' :: 'e' :: rest => some (.bool true, rest)
      | 'f' :: 'a' :: 'l' :: 's' :: 'e' :: rest => some (.bool false, rest)
      | 'n' :: 'u' :: 'l' :: 'l' :: rest => some (.null, rest)
      | rest => number rest

/-- The members of an object, up to its closing brace. -/
def members : Nat → List Char → Option (List (List Char × Value) × List Char)
  | 0, _ => none
  | fuel + 1, cs =>
      match skipSpace cs with
      | '"' :: rest =>
          match chars none rest with
          | none => none
          | some (key, rest) =>
              match skipSpace rest with
              | ':' :: rest =>
                  match value fuel rest with
                  | none => none
                  | some (v, rest) =>
                      match skipSpace rest with
                      | ',' :: rest => (members fuel rest).map fun p => ((key, v) :: p.1, p.2)
                      | '}' :: rest => some ([(key, v)], rest)
                      | _ => none
              | _ => none
      | _ => none

/-- The items of an array, up to its closing bracket. -/
def items : Nat → List Char → Option (List Value × List Char)
  | 0, _ => none
  | fuel + 1, cs =>
      match value fuel cs with
      | none => none
      | some (v, rest) =>
          match skipSpace rest with
          | ',' :: rest => (items fuel rest).map fun p => (v :: p.1, p.2)
          | ']' :: rest => some ([v], rest)
          | _ => none

end

/-- Every level of nesting and every member takes a character at least. -/
def parse (cs : List Char) : Option Value :=
  match value (cs.length + 1) cs with
  | none => none
  | some (v, rest) => if skipSpace rest = [] then some v else none

theorem skipSpace_cons {c : Char} (h : isSpace c = false) (rest : List Char) :
    skipSpace (c :: rest) = c :: rest := by
  rw [skipSpace, List.dropWhile_cons_of_neg (by simp [h])]

/-- A string value is read back. -/
theorem value_quote (fuel : Nat) (s rest : List Char) :
    value (fuel + 1) (quote s ++ rest) = some (.string s, rest) := by
  have hquote : quote s ++ rest = '"' :: (s.flatMap escape ++ '"' :: rest) := by simp [quote]
  rw [hquote, value, skipSpace_cons (by decide)]
  simp only [chars_quote, Option.map_some]

end UptimeFlow.JsonText
