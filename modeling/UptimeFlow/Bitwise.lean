import UptimeFlow.Js

/-!
# UptimeFlow.Bitwise

What the 32-bit operators come to on numbers that fit.

On numbers below 2^32 `>>>` divides and `&` with a run of ones takes the
remainder; shifting and adding with `|` multiplies and adds, read as a signed
number until `>>> 0`.  Two numbers agree under a mask of leading ones if and
only if they have the same quotient (`and_mask_eq_iff`).
-/

namespace UptimeFlow.Js

/-! ## bit patterns -/

theorem toInt32_natCast (n : Nat) : toInt32 n = BitVec.ofNat 32 n := by
  rw [toInt32, BitVec.ofInt_natCast]

theorem toInt32_toInt (x : BitVec 32) : toInt32 x.toInt = x := BitVec.ofInt_toInt

theorem toNat_toInt32 {n : Nat} (h : n < 2 ^ 32) : (toInt32 n).toNat = n := by
  rw [toInt32_natCast, BitVec.toNat_ofNat, Nat.mod_eq_of_lt h]

/-- Below 2^31 the sign bit is clear. -/
theorem toInt_of_lt {x : BitVec 32} (h : x.toNat < 2 ^ 31) : x.toInt = x.toNat := by
  rw [BitVec.toInt_eq_toNat_of_lt]
  omega

/-! ## quotients and remainders -/

theorem unsignedShiftRight_eq_div {n k : Nat} (hn : n < 2 ^ 32) (hk : k < 32) :
    unsignedShiftRight n k = (n / 2 ^ k : Nat) := by
  rw [unsignedShiftRight, BitVec.toNat_ushiftRight, toNat_toInt32 hn, Nat.mod_eq_of_lt hk,
    Nat.shiftRight_eq_div_pow]

theorem shiftRight_eq_div {n k : Nat} (hn : n < 2 ^ 31) (hk : k < 32) :
    shiftRight n k = (n / 2 ^ k : Nat) := by
  have hsign : (toInt32 n).msb = false := by
    rw [BitVec.msb_eq_false_iff_two_mul_lt, toNat_toInt32 (by omega)]
    omega
  have hsmall : n / 2 ^ k < 2 ^ 31 := Nat.lt_of_le_of_lt (Nat.div_le_self n _) hn
  rw [shiftRight, Nat.mod_eq_of_lt hk, BitVec.sshiftRight_eq_of_msb_false hsign, toInt_of_lt]
  · rw [BitVec.toNat_ushiftRight, toNat_toInt32 (by omega), Nat.shiftRight_eq_div_pow]
  · rw [BitVec.toNat_ushiftRight, toNat_toInt32 (by omega), Nat.shiftRight_eq_div_pow]
    exact hsmall

theorem bitAnd_ones {n k : Nat} (hn : n < 2 ^ 32) (hk : k < 32) :
    bitAnd n (2 ^ k - 1 : Nat) = (n % 2 ^ k : Nat) := by
  have hpow : 2 ^ k ≤ 2 ^ 31 := Nat.pow_le_pow_right (by decide) (by omega)
  have hmod : n % 2 ^ k < 2 ^ k := Nat.mod_lt n (Nat.two_pow_pos k)
  have hand : (toInt32 n &&& toInt32 (2 ^ k - 1 : Nat)).toNat = n % 2 ^ k := by
    rw [BitVec.toNat_and, toNat_toInt32 hn, toNat_toInt32 (by omega), Nat.and_two_pow_sub_one_eq_mod]
  rw [bitAnd, toInt_of_lt (by rw [hand]; omega), hand]

/-! ## bytes, one after the other -/

/-- The bit pattern with a byte behind it. -/
def pushByte (x : BitVec 32) (byte : Nat) : BitVec 32 := x <<< 8 ||| BitVec.ofNat 32 byte

theorem bitOr_shiftLeft (x : BitVec 32) (byte : Nat) :
    bitOr (shiftLeft x.toInt 8) byte = (pushByte x byte).toInt := by
  rw [bitOr, shiftLeft, toInt32_toInt, toInt32_toInt, toInt32_natCast]
  rfl

theorem toNat_pushByte {x : BitVec 32} {byte : Nat} (hx : x.toNat < 2 ^ 24) (hbyte : byte < 256) :
    (pushByte x byte).toNat = x.toNat * 256 + byte := by
  have hshift : (x <<< 8).toNat = x.toNat <<< 8 := by
    rw [BitVec.toNat_shiftLeft, Nat.mod_eq_of_lt]
    rw [Nat.shiftLeft_eq]
    omega
  rw [pushByte, BitVec.toNat_or, hshift, BitVec.toNat_ofNat, Nat.mod_eq_of_lt (by omega),
    ← Nat.shiftLeft_add_eq_or_of_lt (by omega), Nat.shiftLeft_eq]

theorem unsignedShiftRight_zero (x : BitVec 32) : unsignedShiftRight x.toInt 0 = x.toNat := by
  rw [unsignedShiftRight, toInt32_toInt]
  rfl

/-! ## masks -/

/-- The pattern of leading ones. -/
def mask (k : Nat) : BitVec 32 := BitVec.allOnes 32 <<< k

theorem and_mask (x : BitVec 32) (k : Nat) : x &&& mask k = (x >>> k) <<< k := by
  ext i hi
  rw [mask, BitVec.getElem_and, BitVec.getElem_shiftLeft, BitVec.getElem_shiftLeft,
    BitVec.getElem_ushiftRight, BitVec.getElem_allOnes]
  by_cases hk : i < k
  · simp [hk]
  · have hback : k + (i - k) = i := by omega
    simp [hk, hback, BitVec.getLsbD_eq_getElem hi]

theorem mask_ushiftRight (x : BitVec 32) (k : Nat) : (x &&& mask k) >>> k = x >>> k := by
  ext i hi
  rw [BitVec.getElem_ushiftRight, BitVec.getElem_ushiftRight, BitVec.getLsbD_and, mask,
    BitVec.getLsbD_shiftLeft, BitVec.getLsbD_allOnes]
  have hback : k + i - k = i := by omega
  by_cases hin : k + i < 32
  · simp [hin, hback, hi]
  · rw [BitVec.getLsbD_of_ge x _ (by omega)]
    rfl

theorem and_mask_eq_iff (x y : BitVec 32) (k : Nat) :
    x &&& mask k = y &&& mask k ↔ x.toNat / 2 ^ k = y.toNat / 2 ^ k := by
  rw [← Nat.shiftRight_eq_div_pow, ← Nat.shiftRight_eq_div_pow, ← BitVec.toNat_ushiftRight,
    ← BitVec.toNat_ushiftRight, BitVec.toNat_inj]
  constructor
  · intro h
    rw [← mask_ushiftRight, h, mask_ushiftRight]
  · intro h
    rw [and_mask, h, and_mask]

end UptimeFlow.Js
