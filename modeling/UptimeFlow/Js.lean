import Mathlib.Algebra.GroupWithZero.Nat
import Mathlib.Data.List.Basic

/-!
# UptimeFlow.Js

The JavaScript operators the modelled code relies on, where Lean's own behave
differently.

Numbers are integers here; a bitwise operator takes them to 32 bits, works on
the bit patterns and reads the result as a signed number, except `>>>`, which
reads it as an unsigned one.  Shift distances count modulo 32.  Texts are
lists of characters.
-/

namespace UptimeFlow.Js

/-! ## 32-bit operators -/

/-- `ToInt32`, as a bit pattern. -/
def toInt32 (n : Int) : BitVec 32 := BitVec.ofInt 32 n

/-- `a << k`. -/
def shiftLeft (a : Int) (k : Nat) : Int := (toInt32 a <<< (k % 32)).toInt

/-- `a >> k`. -/
def shiftRight (a : Int) (k : Nat) : Int := ((toInt32 a).sshiftRight (k % 32)).toInt

/-- `a >>> k`. -/
def unsignedShiftRight (a : Int) (k : Nat) : Int := (toInt32 a >>> (k % 32)).toNat

/-- `a | b`. -/
def bitOr (a b : Int) : Int := (toInt32 a ||| toInt32 b).toInt

/-- `a & b`. -/
def bitAnd (a b : Int) : Int := (toInt32 a &&& toInt32 b).toInt

example : shiftLeft 255 24 = -16777216 ∧ unsignedShiftRight (-1) 0 = 4294967295 := by decide

/-! ## texts -/

/-- `toString(radix)` of a number that is not negative. -/
def toString (radix : Nat) (n : Int) : List Char := Nat.toDigits radix n.toNat

/-- The value of a run of digits. -/
def digits (radix : Nat) (value : Char → Nat) (cs : List Char) : Nat :=
  cs.foldl (fun n c => radix * n + value c) 0

def hexValue (c : Char) : Nat :=
  if c.isDigit then c.toNat - '0'.toNat
  else if 'a' ≤ c then c.toNat - 'a'.toNat + 10
  else c.toNat - 'A'.toNat + 10

/-- `Number(cs)` of decimal digits. -/
def parseDecimal (cs : List Char) : Nat := digits 10 (fun c => c.toNat - '0'.toNat) cs

/-- `parseInt(cs, 16)` of hexadecimal digits. -/
def parseHex (cs : List Char) : Nat := digits 16 hexValue cs

/-- The state of `split`: what is left to skip of a separator, and the piece so far,
reversed. -/
def splitFrom (sep : List Char) : Nat → List Char → List Char → List (List Char)
  | _, piece, [] => [piece.reverse]
  | skip + 1, piece, _ :: cs => splitFrom sep skip piece cs
  | 0, piece, c :: cs =>
      if sep.isPrefixOf (c :: cs) then piece.reverse :: splitFrom sep (sep.length - 1) [] cs
      else splitFrom sep 0 (c :: piece) cs

/-- `cs.split(sep)` for a separator that is not empty. -/
def split (sep cs : List Char) : List (List Char) := splitFrom sep 0 [] cs

example : split "::".toList ":::1".toList = ["".toList, ":1".toList] := by decide

/-- The white space and line terminators `trim` removes. -/
def isSpace (c : Char) : Bool :=
  [0x9, 0xA, 0xB, 0xC, 0xD, 0x20, 0xA0, 0x1680, 0x2028, 0x2029, 0x202F, 0x205F, 0x3000,
    0xFEFF].contains c.toNat || (0x2000 ≤ c.toNat && c.toNat ≤ 0x200A)

/-- `cs.trim()`. -/
def trim (cs : List Char) : List Char :=
  ((cs.dropWhile isSpace).reverse.dropWhile isSpace).reverse

/-- `cs.length`: the number of UTF-16 code units. -/
def length (cs : List Char) : Nat := (cs.map fun c => if c.toNat < 0x10000 then 1 else 2).sum

end UptimeFlow.Js
