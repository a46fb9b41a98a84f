import UptimeFlow.Bitwise
import UptimeFlow.Splitting
import UptimeFlow.Security.Ssrf

/-!
# UptimeFlow.Security.Quads

The IPv4 addresses the guard blocks.

A quad is four octets between dots, and its value is the unsigned number they
are the bytes of.  `ipv4ToInt` reads exactly the quads, with their values
(`ipv4ToInt_eq_some_iff`), and `inCidr4` compares leading bits, whatever the
sign of the numbers on the way (`inCidr4_iff`).  A listed range starts where
its length divides, so comparing leading bits is lying in it.
-/

namespace UptimeFlow.Security

/-! ## quads -/

/-- One to three decimal digits, for a number of at most 255. -/
structure IsOctet (text : List Char) (n : Nat) : Prop where
  digits : ∀ c ∈ text, c.isDigit = true
  nonempty : 1 ≤ text.length
  short : text.length ≤ 3
  value : Js.parseDecimal text = n
  le : n ≤ 255

/-- Four octets between dots. -/
inductive IsQuad : List Char → Nat → Prop where
  | octets {a b c d : List Char} {i j k l : Nat} (ha : IsOctet a i) (hb : IsOctet b j)
      (hc : IsOctet c k) (hd : IsOctet d l) :
      IsQuad (a ++ '.' :: (b ++ '.' :: (c ++ '.' :: d))) (((i * 256 + j) * 256 + k) * 256 + l)

theorem IsQuad.lt {ip : List Char} {v : Nat} (h : IsQuad ip v) : v < 2 ^ 32 := by
  obtain ⟨ha, hb, hc, hd⟩ := h
  have := ha.le
  have := hb.le
  have := hc.le
  have := hd.le
  omega

theorem IsOctet.dot_not_mem {text : List Char} {n : Nat} (h : IsOctet text n) : '.' ∉ text := by
  intro hmem
  have hdigit := h.digits '.' hmem
  revert hdigit
  decide

theorem isOctetText_iff {part : List Char} :
    isOctetText part = true ↔
      (∀ c ∈ part, c.isDigit = true) ∧ 1 ≤ part.length ∧ part.length ≤ 3 := by
  simp only [isOctetText, Bool.and_eq_true, decide_eq_true_eq, List.all_eq_true]
  tauto

/-- The loop goes on at an octet. -/
theorem foldOctets_cons {part : List Char} {n : Nat} (h : IsOctet part n) (x : BitVec 32)
    (parts : List (List Char)) :
    foldOctets x.toInt (part :: parts) = foldOctets (Js.pushByte x n).toInt parts := by
  have htext : isOctetText part = true := isOctetText_iff.2 ⟨h.digits, h.nonempty, h.short⟩
  have hle : ¬ n > 255 := Nat.not_lt.2 h.le
  rw [foldOctets, htext, h.value]
  dsimp only
  rw [if_neg (by decide), if_neg hle, Js.bitOr_shiftLeft]

/-- It ends at anything else. -/
theorem isOctet_of_foldOctets {n m : Int} {part : List Char} {parts : List (List Char)}
    (h : foldOctets n (part :: parts) = some m) : ∃ octet, IsOctet part octet := by
  rw [foldOctets] at h
  cases htext : isOctetText part with
  | false =>
      rw [htext] at h
      cases h
  | true =>
      obtain ⟨hdigits, hnonempty, hshort⟩ := isOctetText_iff.1 htext
      refine ⟨_, hdigits, hnonempty, hshort, rfl, ?_⟩
      by_contra hlarge
      rw [htext] at h
      dsimp only at h
      rw [if_neg (by decide), if_pos (by omega)] at h
      cases h

theorem intercalate_quad (a b c d : List Char) :
    ['.'].intercalate [a, b, c, d] = a ++ '.' :: (b ++ '.' :: (c ++ '.' :: d)) := by
  simp [List.intercalate]

theorem split_quad {a b c d : List Char} (ha : '.' ∉ a) (hb : '.' ∉ b) (hc : '.' ∉ c)
    (hd : '.' ∉ d) :
    Js.split ['.'] (a ++ '.' :: (b ++ '.' :: (c ++ '.' :: d))) = [a, b, c, d] := by
  rw [Js.split_singleton, ← intercalate_quad,
    List.splitOn_intercalate _ (by simp [ha, hb, hc, hd]) (by simp)]

/-- The four bytes of a quad, one after the other. -/
theorem toNat_pushBytes {i j k l : Nat} (hi : i ≤ 255) (hj : j ≤ 255) (hk : k ≤ 255)
    (hl : l ≤ 255) :
    (Js.pushByte (Js.pushByte (Js.pushByte (Js.pushByte 0 i) j) k) l).toNat =
      ((i * 256 + j) * 256 + k) * 256 + l := by
  have h₁ : (Js.pushByte 0 i).toNat = i := by
    rw [Js.toNat_pushByte (by decide) (by omega)]
    exact Nat.zero_add i
  have h₂ : (Js.pushByte (Js.pushByte 0 i) j).toNat = i * 256 + j := by
    rw [Js.toNat_pushByte (by omega) (by omega), h₁]
  have h₃ : (Js.pushByte (Js.pushByte (Js.pushByte 0 i) j) k).toNat = (i * 256 + j) * 256 + k := by
    rw [Js.toNat_pushByte (by omega) (by omega), h₂]
  rw [Js.toNat_pushByte (by omega) (by omega), h₃]

theorem ipv4ToInt_of_isQuad {ip : List Char} {v : Nat} (h : IsQuad ip v) :
    ipv4ToInt ip = some (v : Int) := by
  cases h with
  | octets ha hb hc hd =>
      have hzero : (0 : Int) = (0 : BitVec 32).toInt := rfl
      rw [ipv4ToInt, split_quad ha.dot_not_mem hb.dot_not_mem hc.dot_not_mem hd.dot_not_mem,
        if_neg (by simp), hzero, foldOctets_cons ha, foldOctets_cons hb, foldOctets_cons hc,
        foldOctets_cons hd, foldOctets, Option.map_some, Js.unsignedShiftRight_zero,
        toNat_pushBytes ha.le hb.le hc.le hd.le]

/-- Only quads are read. -/
theorem isQuad_of_ipv4ToInt {ip : List Char} {n : Int} (h : ipv4ToInt ip = some n) :
    ∃ v, IsQuad ip v := by
  have hjoin := Js.intercalate_split (by simp : ['.'] ≠ []) ip
  rw [ipv4ToInt] at h
  split at h
  · cases h
  · next hlength =>
    obtain ⟨a, b, c, d, hparts⟩ : ∃ a b c d, Js.split ['.'] ip = [a, b, c, d] :=
      List.length_eq_four.1 (not_not.1 hlength)
    rw [hparts] at h hjoin
    obtain ⟨m, hm, -⟩ := Option.map_eq_some_iff.1 h
    have hzero : (0 : Int) = (0 : BitVec 32).toInt := rfl
    obtain ⟨i, ha⟩ := isOctet_of_foldOctets hm
    rw [hzero, foldOctets_cons ha] at hm
    obtain ⟨j, hb⟩ := isOctet_of_foldOctets hm
    rw [foldOctets_cons hb] at hm
    obtain ⟨k, hc⟩ := isOctet_of_foldOctets hm
    rw [foldOctets_cons hc] at hm
    obtain ⟨l, hd⟩ := isOctet_of_foldOctets hm
    refine ⟨((i * 256 + j) * 256 + k) * 256 + l, ?_⟩
    rw [← hjoin, intercalate_quad]
    exact .octets ha hb hc hd

/-- **The texts that are read are the quads**, and they are read as their values. -/
theorem ipv4ToInt_eq_some_iff {ip : List Char} {n : Int} :
    ipv4ToInt ip = some n ↔ ∃ v : Nat, IsQuad ip v ∧ n = v := by
  constructor
  · intro h
    obtain ⟨v, hv⟩ := isQuad_of_ipv4ToInt h
    rw [ipv4ToInt_of_isQuad hv] at h
    exact ⟨v, hv, (Option.some.inj h).symm⟩
  · rintro ⟨v, hv, rfl⟩
    exact ipv4ToInt_of_isQuad hv

theorem IsQuad.unique {ip : List Char} {v w : Nat} (hv : IsQuad ip v) (hw : IsQuad ip w) :
    v = w := by
  have h := ipv4ToInt_of_isQuad hv
  rw [ipv4ToInt_of_isQuad hw] at h
  exact (Int.ofNat.inj (Option.some.inj h)).symm

/-! ## ranges -/

/-- The mask of a prefix is its leading ones. -/
theorem cidrMask {bits : Nat} (hbits : bits ≤ 32) :
    Js.toInt32 (if bits = 0 then 0
      else Js.unsignedShiftRight (Js.shiftLeft 0xffffffff (32 - bits)) 0) =
        Js.mask (32 - bits) := by
  by_cases hzero : bits = 0
  · subst hzero
    rfl
  · have hones : Js.toInt32 0xffffffff = BitVec.allOnes 32 := by decide
    rw [if_neg hzero, Js.shiftLeft, Js.unsignedShiftRight_zero, Nat.mod_eq_of_lt (by omega), hones,
      Js.toInt32_natCast, BitVec.ofNat_toNat, BitVec.setWidth_eq]
    rfl

/-- **Two addresses are under one prefix** if and only if they agree as unsigned numbers without
the bits behind it. -/
theorem inCidr4_iff {base : List Char} {b : Nat} (hb : IsQuad base b) {v : Nat} (hv : v < 2 ^ 32)
    {bits : Nat} (hbits : bits ≤ 32) :
    inCidr4 v base bits = true ↔ v / 2 ^ (32 - bits) = b / 2 ^ (32 - bits) := by
  rw [inCidr4, ipv4ToInt_of_isQuad hb]
  simp only [decide_eq_true_eq]
  rw [Js.bitAnd, Js.bitAnd, BitVec.toInt_inj, cidrMask hbits, Js.and_mask_eq_iff, Js.toNat_toInt32 hv,
    Js.toNat_toInt32 hb.lt]

/-- Where a range starts at a multiple of its length, that is lying in it. -/
theorem div_eq_div_iff_mem {v b k : Nat} (hb : b % 2 ^ k = 0) :
    v / 2 ^ k = b / 2 ^ k ↔ b ≤ v ∧ v < b + 2 ^ k := by
  obtain ⟨q, rfl⟩ := Nat.dvd_of_mod_eq_zero hb
  have hpos : 0 < 2 ^ k := Nat.two_pow_pos k
  rw [Nat.mul_div_cancel_left q hpos, Nat.div_eq_iff hpos, Nat.mul_comm q]
  omega

/-- The addresses of the listed ranges. -/
def InBlockedV4 (v : Nat) : Prop :=
  ∃ r ∈ blockedV4, ∃ b, IsQuad r.1.toList b ∧ b ≤ v ∧ v < b + 2 ^ (32 - r.2)

theorem blockedV4_aligned :
    ∀ r ∈ blockedV4, r.2 ≤ 32 ∧ ∃ b, IsQuad r.1.toList b ∧ b % 2 ^ (32 - r.2) = 0 := by
  have hall : ∀ r ∈ blockedV4, r.2 ≤ 32 ∧
      ∃ n ∈ ipv4ToInt r.1.toList, n.toNat % 2 ^ (32 - r.2) = 0 := by
    decide
  intro r hr
  obtain ⟨hbits, n, hn, haligned⟩ := hall r hr
  obtain ⟨b, hb, rfl⟩ := ipv4ToInt_eq_some_iff.1 hn
  exact ⟨hbits, b, hb, haligned⟩

theorem any_inCidr4_iff {v : Nat} (hv : v < 2 ^ 32) :
    (blockedV4.any fun (base, bits) => inCidr4 v base.toList bits) = true ↔ InBlockedV4 v := by
  rw [List.any_eq_true]
  constructor
  · rintro ⟨r, hr, hin⟩
    obtain ⟨hbits, b, hb, haligned⟩ := blockedV4_aligned r hr
    exact ⟨r, hr, b, hb, (div_eq_div_iff_mem haligned).1 ((inCidr4_iff hb hv hbits).1 hin)⟩
  · rintro ⟨r, hr, b, hb, hin⟩
    obtain ⟨hbits, b', hb', haligned⟩ := blockedV4_aligned r hr
    obtain rfl := hb.unique hb'
    exact ⟨r, hr, (inCidr4_iff hb hv hbits).2 ((div_eq_div_iff_mem haligned).2 hin)⟩

theorem isBlockedIpv4_of_isQuad {ip : List Char} {v : Nat} (h : IsQuad ip v) :
    isBlockedIpv4 ip = true ↔ InBlockedV4 v := by
  rw [isBlockedIpv4, ipv4ToInt_of_isQuad h]
  exact any_inCidr4_iff h.lt

theorem isBlockedIpv4_of_not_isQuad {ip : List Char} (h : ¬∃ v, IsQuad ip v) :
    isBlockedIpv4 ip = true := by
  rw [isBlockedIpv4]
  cases hn : ipv4ToInt ip with
  | none => rfl
  | some n => exact absurd (isQuad_of_ipv4ToInt hn) h

/-- What the guard makes of a text: signed operators do not show. -/
structure ReadsUnsigned (ip : List Char) : Prop where
  other : (¬∃ v, IsQuad ip v) → isBlockedIpv4 ip = true
  quad : ∀ v, IsQuad ip v → (isBlockedIpv4 ip = true ↔ InBlockedV4 v)
  value : ∀ v, IsQuad ip v → ipv4ToInt ip = some (v : Int)
  cidr : ∀ v, IsQuad ip v → ∀ base b, IsQuad base b → ∀ bits ≤ 32,
    (inCidr4 v base bits = true ↔ v / 2 ^ (32 - bits) = b / 2 ^ (32 - bits))

/-- **The guard blocks** what is no quad, and of the quads exactly those in a listed range. -/
theorem readsUnsigned (ip : List Char) : ReadsUnsigned ip where
  other := isBlockedIpv4_of_not_isQuad
  quad _ h := isBlockedIpv4_of_isQuad h
  value _ h := ipv4ToInt_of_isQuad h
  cidr _ h _ _ hb _ hbits := inCidr4_iff hb h.lt hbits

end UptimeFlow.Security
