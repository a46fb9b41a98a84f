import Mathlib.Data.List.Basic

/-!
# UptimeFlow.Base64url

Bytes as base64url text.

Three bytes become four digits of six bits; what is left over at the end
becomes two or three digits, without padding.  Reading accepts the digits of
the ordinary alphabet as well and skips what is no digit.
-/

namespace UptimeFlow.Base64url

/-! ## digits -/

/-- The digit of a number below 64. -/
def digit (n : Nat) : Char :=
  if n < 26 then Char.ofNat ('A'.toNat + n)
  else if n < 52 then Char.ofNat ('a'.toNat + (n - 26))
  else if n < 62 then Char.ofNat ('0'.toNat + (n - 52))
  else if n = 62 then '-' else '_'

/-- The number of a digit of either alphabet. -/
def value (c : Char) : Option Nat :=
  if c.isUpper then some (c.toNat - 'A'.toNat)
  else if c.isLower then some (c.toNat - 'a'.toNat + 26)
  else if c.isDigit then some (c.toNat - '0'.toNat + 52)
  else if c = '-' ∨ c = '+' then some 62
  else if c = '_' ∨ c = '/' then some 63
  else none

theorem value_digit : ∀ n < 64, value (digit n) = some n := by decide +kernel

/-! ## six bits at a time -/

def sextets : List UInt8 → List Nat
  | [] => []
  | [a] => [a.toNat / 4, a.toNat % 4 * 16]
  | [a, b] => [a.toNat / 4, a.toNat % 4 * 16 + b.toNat / 16, b.toNat % 16 * 4]
  | a :: b :: c :: rest =>
      a.toNat / 4 :: (a.toNat % 4 * 16 + b.toNat / 16) :: (b.toNat % 16 * 4 + c.toNat / 64) ::
        c.toNat % 64 :: sextets rest

/-- The bytes of a run of six-bit numbers; bits that fill no byte are dropped. -/
def bytes : List Nat → List UInt8
  | [w, x] => [UInt8.ofNat (w * 4 + x / 16)]
  | [w, x, y] => [UInt8.ofNat (w * 4 + x / 16), UInt8.ofNat (x % 16 * 16 + y / 4)]
  | w :: x :: y :: z :: rest =>
      UInt8.ofNat (w * 4 + x / 16) :: UInt8.ofNat (x % 16 * 16 + y / 4) ::
        UInt8.ofNat (y % 4 * 64 + z) :: bytes rest
  | _ => []

theorem sextets_lt (bs : List UInt8) : ∀ n ∈ sextets bs, n < 64 := by
  fun_induction sextets bs with
  | case1 => simp
  | case2 a =>
      have := a.toNat_lt
      simp
      omega
  | case3 a b =>
      have := a.toNat_lt
      have := b.toNat_lt
      simp
      omega
  | case4 a b c rest ih =>
      have := a.toNat_lt
      have := b.toNat_lt
      have := c.toNat_lt
      simp only [List.forall_mem_cons]
      exact ⟨by omega, by omega, by omega, by omega, ih⟩

/-- A byte put together from its parts. -/
theorem ofNat_eq {n : Nat} {a : UInt8} (h : n = a.toNat) : UInt8.ofNat n = a := by
  rw [h, UInt8.ofNat_toNat]

theorem bytes_sextets (bs : List UInt8) : bytes (sextets bs) = bs := by
  fun_induction sextets bs with
  | case1 => rfl
  | case2 a =>
      have ha : UInt8.ofNat (a.toNat / 4 * 4 + a.toNat % 4 * 16 / 16) = a := ofNat_eq (by omega)
      rw [bytes, ha]
  | case3 a b =>
      have hb := b.toNat_lt
      have h₁ : UInt8.ofNat (a.toNat / 4 * 4 + (a.toNat % 4 * 16 + b.toNat / 16) / 16) = a :=
        ofNat_eq (by omega)
      have h₂ : UInt8.ofNat ((a.toNat % 4 * 16 + b.toNat / 16) % 16 * 16 + b.toNat % 16 * 4 / 4) = b :=
        ofNat_eq (by omega)
      rw [bytes, h₁, h₂]
  | case4 a b c rest ih =>
      have hb := b.toNat_lt
      have hc := c.toNat_lt
      have h₁ : UInt8.ofNat (a.toNat / 4 * 4 + (a.toNat % 4 * 16 + b.toNat / 16) / 16) = a :=
        ofNat_eq (by omega)
      have h₂ : UInt8.ofNat ((a.toNat % 4 * 16 + b.toNat / 16) % 16 * 16 +
          (b.toNat % 16 * 4 + c.toNat / 64) / 4) = b := ofNat_eq (by omega)
      have h₃ : UInt8.ofNat ((b.toNat % 16 * 4 + c.toNat / 64) % 4 * 64 + c.toNat % 64) = c :=
        ofNat_eq (by omega)
      rw [bytes, h₁, h₂, h₃, ih]

/-! ## texts -/

def encode (bs : List UInt8) : List Char := (sextets bs).map digit

def decode (cs : List Char) : List UInt8 := bytes (cs.filterMap value)

/-- **Round trip**: what was encoded is read back. -/
theorem decode_encode (bs : List UInt8) : decode (encode bs) = bs := by
  have hvalues : (encode bs).filterMap value = sextets bs := by
    rw [encode, List.filterMap_map]
    have hsome : ∀ n ∈ sextets bs, (value ∘ digit) n = some n :=
      fun n hn => value_digit n (sextets_lt bs n hn)
    rw [List.filterMap_congr hsome, List.filterMap_some]
  rw [decode, hvalues, bytes_sextets]

example : encode [0x4D, 0x61, 0x6E, 0xFF] = "TWFu_w".toList := by decide

end UptimeFlow.Base64url
