import UptimeFlow.Security.Groups

/-!
# UptimeFlow.Security.Embedded

The IPv6 addresses the guard blocks.

A mapped or a compatible address is written out as the quad it holds and
classified as that (`isQuad_groupsToV4`); the others are classified by their
first group.  Addresses that hold an IPv4 address in another way are among
these: nothing looks into them.
-/

namespace UptimeFlow.Security

/-! ## kinds of addresses -/

/-- The ways to hold an IPv4 address. -/
inductive Scheme where
  /-- `::ffff:0:0/96` -/
  | mapped
  /-- `::/96` -/
  | compatible
  /-- `64:ff9b::/96` -/
  | nat64
  /-- `2002::/16` -/
  | sixToFour
deriving DecidableEq, Repr

/-- The address of these groups holds the IPv4 address of value `v`. -/
inductive Embeds (v : Nat) : Scheme → List Nat → Prop where
  | mapped : Embeds v .mapped [0, 0, 0, 0, 0, 0xffff, v / 2 ^ 16, v % 2 ^ 16]
  | compatible : Embeds v .compatible [0, 0, 0, 0, 0, 0, v / 2 ^ 16, v % 2 ^ 16]
  | nat64 : Embeds v .nat64 [0x64, 0xff9b, 0, 0, 0, 0, v / 2 ^ 16, v % 2 ^ 16]
  | sixToFour (rest : List Nat) :
      Embeds v .sixToFour (0x2002 :: v / 2 ^ 16 :: v % 2 ^ 16 :: rest)

/-- The addresses that lead nowhere else, whatever they hold. -/
inductive IsLocal : List Nat → Prop where
  | unspecified : IsLocal [0, 0, 0, 0, 0, 0, 0, 0]
  | loopback : IsLocal [0, 0, 0, 0, 0, 0, 0, 1]
  | linkLocal {first : Nat} {rest : List Nat} (h : 0xfe80 ≤ first ∧ first ≤ 0xfebf) :
      IsLocal (first :: rest)
  | uniqueLocal {first : Nat} {rest : List Nat} (h : 0xfc00 ≤ first ∧ first ≤ 0xfdff) :
      IsLocal (first :: rest)
  | multicast {first : Nat} {rest : List Nat} (h : 0xff00 ≤ first ∧ first ≤ 0xffff) :
      IsLocal (first :: rest)

/-! ## back to a quad -/

theorem isOctet_toString {n : Nat} (h : n ≤ 255) : IsOctet (Js.toString 10 n) n where
  digits := Js.mem_toDigits (by decide) (by decide) n
  nonempty := Nat.length_toDigits_pos
  short := (Nat.length_toDigits_le_iff (by decide) (by decide)).2 (by omega)
  value := Js.digits_toDigits (by decide) (by decide) n
  le := h

/-- The two bytes of a group. -/
theorem group_bytes {g : Nat} (h : g < 2 ^ 16) :
    Js.bitAnd (Js.shiftRight g 8) 0xff = (g / 256 : Nat) ∧ Js.bitAnd g 0xff = (g % 256 : Nat) := by
  have hones : (0xff : Int) = (2 ^ 8 - 1 : Nat) := rfl
  constructor
  · rw [hones, Js.shiftRight_eq_div (by omega) (by decide), Js.bitAnd_ones (by omega) (by decide),
      Nat.mod_eq_of_lt (by omega)]
    rfl
  · rw [hones, Js.bitAnd_ones (by omega) (by decide)]
    rfl

/-- The last two groups are written as the quad they hold. -/
theorem isQuad_groupsToV4 {v : Nat} (h : v < 2 ^ 32) :
    IsQuad (groupsToV4 (v / 2 ^ 16 : Nat) (v % 2 ^ 16 : Nat)) v := by
  obtain ⟨hhigh, hlow⟩ := group_bytes (g := v / 2 ^ 16) (by omega)
  obtain ⟨hhigh', hlow'⟩ := group_bytes (g := v % 2 ^ 16) (by omega)
  have hquad := IsQuad.octets (isOctet_toString (n := v / 2 ^ 16 / 256) (by omega))
    (isOctet_toString (n := v / 2 ^ 16 % 256) (by omega))
    (isOctet_toString (n := v % 2 ^ 16 / 256) (by omega))
    (isOctet_toString (n := v % 2 ^ 16 % 256) (by omega))
  have hvalue : ((v / 2 ^ 16 / 256 * 256 + v / 2 ^ 16 % 256) * 256 + v % 2 ^ 16 / 256) * 256 +
      v % 2 ^ 16 % 256 = v := by omega
  rw [hvalue] at hquad
  rw [groupsToV4, hhigh, hlow, hhigh', hlow']
  simpa using hquad

/-- An IPv4 address is classified as any other way to write it. -/
theorem isBlockedIpv4_groupsToV4 {quad : List Char} {v : Nat} (hquad : IsQuad quad v)
    (hblocked : isBlockedIpv4 quad = true) :
    isBlockedIpv4 (groupsToV4 (v / 2 ^ 16 : Nat) (v % 2 ^ 16 : Nat)) = true :=
  (isBlockedIpv4_of_isQuad (isQuad_groupsToV4 hquad.lt)).2
    ((isBlockedIpv4_of_isQuad hquad).1 hblocked)

/-! ## blocked groups -/

theorem isBlockedIpv6_mapped {ip quad : List Char} {v : Nat} (hquad : IsQuad quad v)
    (hblocked : isBlockedIpv4 quad = true)
    (h : parseIpv6 ip = some [0, 0, 0, 0, 0, 0xffff, v / 2 ^ 16, v % 2 ^ 16]) :
    isBlockedIpv6 ip = true := by
  have hback := isBlockedIpv4_groupsToV4 hquad hblocked
  simp only [isBlockedIpv6, h]
  simpa using hback

theorem isBlockedIpv6_compatible {ip quad : List Char} {v : Nat} (hquad : IsQuad quad v)
    (hblocked : isBlockedIpv4 quad = true)
    (h : parseIpv6 ip = some [0, 0, 0, 0, 0, 0, v / 2 ^ 16, v % 2 ^ 16]) :
    isBlockedIpv6 ip = true := by
  have hback := isBlockedIpv4_groupsToV4 hquad hblocked
  generalize v / 2 ^ 16 = high at h hback
  generalize v % 2 ^ 16 = low at h hback
  simp only [isBlockedIpv6, h]
  split
  · rfl
  next hzero =>
  split
  · rfl
  split
  · exact hback
  split
  · exact hback
  next hcompatible =>
  -- of the addresses with six zero groups only the unspecified one is not compatible
  refine absurd ?_ hcompatible
  have hgroups : high = 0 → low ≠ 0 := by simpa using hzero
  simpa [← imp_iff_not_or] using hgroups

theorem bitAnd_multicast : ∀ low < 256, Js.bitAnd (0xff00 + low : Nat) 0xff00 = 0xff00 := by
  decide +kernel

theorem isBlockedIpv6_of_isLocal {ip : List Char} {gs : List Nat} (hgs : IsLocal gs)
    (h : parseIpv6 ip = some gs) : isBlockedIpv6 ip = true := by
  simp only [isBlockedIpv6, h]
  cases hgs with
  | unspecified => rfl
  | loopback => rfl
  | @linkLocal first rest hfirst =>
      have hne : first ≠ 0 := by omega
      simp [hne, hfirst]
  | @uniqueLocal first rest hfirst =>
      have hne : first ≠ 0 := by omega
      simp [hne, hfirst]
  | @multicast first rest hfirst =>
      have hne : first ≠ 0 := by omega
      have hand := bitAnd_multicast (first - 0xff00) (by omega)
      rw [Nat.add_sub_cancel' hfirst.1] at hand
      simp [hne, hand]

theorem isBlockedIpv6_of_embeds {ip quad : List Char} {v : Nat} {scheme : Scheme} {gs : List Nat}
    (hscheme : scheme = .mapped ∨ scheme = .compatible) (hgs : Embeds v scheme gs)
    (hquad : IsQuad quad v) (hblocked : isBlockedIpv4 quad = true)
    (h : parseIpv6 ip = some gs) : isBlockedIpv6 ip = true := by
  cases hgs with
  | mapped => exact isBlockedIpv6_mapped hquad hblocked h
  | compatible => exact isBlockedIpv6_compatible hquad hblocked h
  | nat64 => simp at hscheme
  | sixToFour rest => simp at hscheme

/-! ## any address -/

/-- An IPv6 address is no quad. -/
theorem IsIpv6.colon_mem {ip : List Char} {gs : List Nat} (h : IsIpv6 ip gs) : ':' ∈ ip := by
  have haddress : ∀ {text}, IsAddress true text gs → ':' ∈ text := by
    intro text haddress
    cases haddress with
    | full h hlength =>
        cases h with
        | one h => simp at hlength
        | quad _ h => simp at hlength
        | cons h hrest => simp
    | gap hhead htail hlength => simp
  cases h with
  | plain h => exact haddress h
  | zoned h zone => exact List.mem_append_left _ (haddress h)

theorem isBlockedIp_of_ipv6 (isIP : String → Nat) {ip : String} {gs : List Nat}
    (hip : IsIpv6 ip.toList gs) (h : isBlockedIpv6 ip.toList = true) :
    isBlockedIp isIP ip = true := by
  have hv4 : isBlockedIpv4 ip.toList = true := by
    refine isBlockedIpv4_of_not_isQuad ?_
    rintro ⟨v, hv⟩
    exact hv.colon_not_mem hip.colon_mem
  simp [isBlockedIp, hv4, h]

/-- What the guard makes of the texts of an IPv6 address. -/
structure BlocksEmbedded (isIP : String → Nat) (ip : String) : Prop where
  embedded : ∀ gs, IsIpv6 ip.toList gs → ∀ quad v, IsQuad quad v → isBlockedIpv4 quad = true →
    ∀ scheme, scheme = .mapped ∨ scheme = .compatible → Embeds v scheme gs →
      isBlockedIp isIP ip = true
  hereOnly : ∀ gs, IsIpv6 ip.toList gs → IsLocal gs → isBlockedIp isIP ip = true

/-- **The guard blocks** an address that is mapped from a blocked one or compatible with it, and
every local one, however it is written. -/
theorem blocksEmbedded (isIP : String → Nat) (ip : String) : BlocksEmbedded isIP ip where
  embedded _ hip _ _ hquad hblocked _ hscheme hgs :=
    isBlockedIp_of_ipv6 isIP hip
      (isBlockedIpv6_of_embeds hscheme hgs hquad hblocked (parseIpv6_eq_some_iff.2 hip))
  hereOnly _ hip hlocal :=
    isBlockedIp_of_ipv6 isIP hip (isBlockedIpv6_of_isLocal hlocal (parseIpv6_eq_some_iff.2 hip))

/-- Nobody looks for the loopback address behind the prefix of NAT64. -/
theorem not_blocked_nat64 :
    ¬∀ quad v scheme gs, IsQuad quad v → isBlockedIpv4 quad = true → Embeds v scheme gs →
      IsIpv6 "64:ff9b::7f00:1".toList gs →
        isBlockedIp (fun _ => 6) "64:ff9b::7f00:1" = true := by
  intro h
  have hread : ipv4ToInt "127.0.0.1".toList = some 2130706433 := by decide
  obtain ⟨v, hquad, hv⟩ := ipv4ToInt_eq_some_iff.1 hread
  obtain rfl : v = 2130706433 := by omega
  have hgroups : parseIpv6 "64:ff9b::7f00:1".toList =
      some [0x64, 0xff9b, 0, 0, 0, 0, 2130706433 / 2 ^ 16, 2130706433 % 2 ^ 16] := by decide
  have hblocked := h _ _ _ _ hquad (by decide) .nat64 (parseIpv6_eq_some_iff.1 hgroups)
  revert hblocked
  decide

end UptimeFlow.Security
