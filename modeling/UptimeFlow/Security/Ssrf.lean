import UptimeFlow.Js

/-!
# UptimeFlow.Security.Ssrf

The classification of addresses and the connect-time lookup that guard every
outbound request made on behalf of a user.

`isIP` is Node's test for an address literal — 4, 6, or 0 for any other text.
The only thing to know about the lookup hook is `secureLookup_safe`: with
private networks not allowed it hands out no blocked address.
-/

namespace UptimeFlow.Security

/-! ## IPv4 -/

/-- `/^\d{1,3}$/`. -/
def isOctetText (part : List Char) : Bool :=
  1 ≤ part.length && part.length ≤ 3 && part.all Char.isDigit

/-- The loop of `ipv4ToInt` over the dot-separated parts. -/
def foldOctets (n : Int) : List (List Char) → Option Int
  | [] => some n
  | part :: parts =>
      if !isOctetText part then none
      else
        let octet := Js.parseDecimal part
        if octet > 255 then none else foldOctets (Js.bitOr (Js.shiftLeft n 8) octet) parts

def ipv4ToInt (ip : List Char) : Option Int :=
  let parts := Js.split ['.'] ip
  if parts.length ≠ 4 then none
  else (foldOctets 0 parts).map (Js.unsignedShiftRight · 0)

def inCidr4 (ipInt : Int) (base : List Char) (bits : Nat) : Bool :=
  match ipv4ToInt base with
  | none => false
  | some baseInt =>
      let mask :=
        if bits = 0 then 0 else Js.unsignedShiftRight (Js.shiftLeft 0xffffffff (32 - bits)) 0
      Js.bitAnd ipInt mask = Js.bitAnd baseInt mask

/-- Reserved, private and non-routable IPv4 ranges. -/
def blockedV4 : List (String × Nat) :=
  [("0.0.0.0", 8), ("10.0.0.0", 8), ("100.64.0.0", 10), ("127.0.0.0", 8), ("169.254.0.0", 16),
    ("172.16.0.0", 12), ("192.0.0.0", 24), ("192.0.2.0", 24), ("192.168.0.0", 16),
    ("198.18.0.0", 15), ("198.51.100.0", 24), ("203.0.113.0", 24), ("224.0.0.0", 4),
    ("240.0.0.0", 4)]

def isBlockedIpv4 (ip : List Char) : Bool :=
  match ipv4ToInt ip with
  | none => true
  | some n => blockedV4.any fun (base, bits) => inCidr4 n base.toList bits

/-! ## IPv6 -/

/-- The text up to and including its last colon, and what follows. -/
def splitLastColon (input : List Char) : List Char × List Char :=
  let after := (input.reverse.takeWhile (· ≠ ':')).reverse
  (input.take (input.length - after.length), after)

/-- Rewrite an embedded dotted quad into hex groups. -/
def normalizeEmbeddedV4 (input : List Char) : Option (List Char) :=
  if !input.contains '.' then some input
  else
    let (before, after) := splitLastColon input
    match ipv4ToInt after with
    | none => none
    | some v4 =>
        let hi := Js.toString 16 (Js.bitAnd (Js.unsignedShiftRight v4 16) 0xffff)
        let lo := Js.toString 16 (Js.bitAnd v4 0xffff)
        some (before ++ hi ++ [':'] ++ lo)

/-- `/^[0-9a-fA-F]{1,4}$/`. -/
def isGroupText (g : List Char) : Bool :=
  1 ≤ g.length && g.length ≤ 4 &&
    g.all fun c => c.isDigit || ('a' ≤ c && c ≤ 'f') || ('A' ≤ c && c ≤ 'F')

def toGroups (str : List Char) : Option (List Nat) :=
  if str = [] then some []
  else (Js.split [':'] str).mapM fun g => if isGroupText g then some (Js.parseHex g) else none

/-- Parse an IPv6 address to exactly eight groups. -/
def parseIpv6 (input : List Char) : Option (List Nat) :=
  -- drop the zone id
  let stripped := input.takeWhile (· ≠ '%')
  match normalizeEmbeddedV4 stripped with
  | none => none
  | some norm =>
      match Js.split [':', ':'] norm with
      | [_] =>
          match toGroups norm with
          | none => none
          | some groups => if groups.length = 8 then some groups else none
      | [head, tail] =>
          match toGroups head, toGroups tail with
          | some head, some tail =>
              -- "::" stands for at least one zero group
              if head.length + tail.length ≤ 7 then
                some (head ++ List.replicate (8 - head.length - tail.length) 0 ++ tail)
              else none
          | _, _ => none
      | _ => none

def groupsToV4 (g6 g7 : Int) : List Char :=
  Js.toString 10 (Js.bitAnd (Js.shiftRight g6 8) 0xff) ++ ['.'] ++
    Js.toString 10 (Js.bitAnd g6 0xff) ++ ['.'] ++
    Js.toString 10 (Js.bitAnd (Js.shiftRight g7 8) 0xff) ++ ['.'] ++
    Js.toString 10 (Js.bitAnd g7 0xff)

def isBlockedIpv6 (ip : List Char) : Bool :=
  match parseIpv6 ip with
  | none => true
  | some g =>
      let g₆ := g.getD 6 0
      let g₇ := g.getD 7 0
      if g.all (· = 0) then true
      else if (g.take 7).all (· = 0) && g₇ = 1 then true
      -- IPv4-mapped
      else if (g.take 5).all (· = 0) && g.getD 5 0 = 0xffff then isBlockedIpv4 (groupsToV4 g₆ g₇)
      -- IPv4-compatible
      else if (g.take 6).all (· = 0) && (g₆ ≠ 0 || g₇ ≠ 0) then isBlockedIpv4 (groupsToV4 g₆ g₇)
      else
        let first := g.getD 0 0
        if 0xfc00 ≤ first && first ≤ 0xfdff then true
        else if 0xfe80 ≤ first && first ≤ 0xfebf then true
        else Js.bitAnd first 0xff00 = 0xff00

/-! ## any address -/

/-- Whether an address points at a private, reserved or non-routable place; what is no
address at all does. -/
def isBlockedIp (isIP : String → Nat) (ip : String) : Bool :=
  let kind := isIP ip
  if kind = 4 then isBlockedIpv4 ip.toList
  else if kind = 6 then isBlockedIpv6 ip.toList
  else true

example : isBlockedIpv4 "169.254.169.254".toList = true ∧
    isBlockedIpv4 "93.184.216.34".toList = false := by decide

example : isBlockedIpv6 "::ffff:127.0.0.1".toList = true ∧
    isBlockedIpv6 "2606:4700:4700::1111".toList = false := by decide

/-! ## the lookup hook -/

/-- An address a resolver returns. -/
structure Address where
  address : String
  family : Nat
deriving DecidableEq, Repr

structure LookupError where
  message : String
  code : String
deriving DecidableEq, Repr

/-- The answer of the system's resolver when it is asked for all addresses. -/
abbrev DnsAnswer := Except LookupError (List Address)

/-- What a lookup hook calls back with. -/
inductive Resolved where
  | all (addresses : List Address)
  | one (address : Address)
deriving DecidableEq, Repr

def Resolved.addresses : Resolved → List Address
  | .all addresses => addresses
  | .one address => [address]

/-- `dns.lookup`, asked for all addresses or for one. -/
def dnsLookup (answer : DnsAnswer) (hostname : String) (all : Bool) :
    Except LookupError Resolved :=
  match answer with
  | .error e => .error e
  | .ok addresses =>
      if all then .ok (.all addresses)
      else match addresses with
        | [] => .error ⟨"getaddrinfo ENOTFOUND " ++ hostname, "ENOTFOUND"⟩
        | first :: _ => .ok (.one first)

/-- The lookup hook of `createSecureLookup`: every resolved address is classified, and the
ones handed out are the ones classified. -/
def secureLookup (isIP : String → Nat) (allow : Bool) (answer : DnsAnswer) (hostname : String)
    (all : Bool) : Except LookupError Resolved :=
  if allow then dnsLookup answer hostname all
  else
    match answer with
    | .error e => .error e
    | .ok [] => .error ⟨"No address for \"" ++ hostname ++ "\"", "ssrf_no_address"⟩
    | .ok (first :: rest) =>
        match (first :: rest).find? fun a => isBlockedIp isIP a.address with
        | some a =>
            .error ⟨"Blocked address " ++ a.address ++ " for \"" ++ hostname ++ "\"", "ssrf_blocked"⟩
        | none => .ok (if all then .all (first :: rest) else .one first)

/-- **The hook hands out no blocked address.** -/
theorem secureLookup_safe {isIP : String → Nat} {answer : DnsAnswer} {hostname : String}
    {all : Bool} {resolved : Resolved}
    (h : secureLookup isIP false answer hostname all = .ok resolved) :
    ∀ a ∈ resolved.addresses, isBlockedIp isIP a.address = false := by
  simp only [secureLookup, Bool.false_eq_true, if_false] at h
  split at h
  · simp at h
  · simp at h
  · next first rest =>
      split at h
      · simp at h
      · next hnone =>
          have hsafe : ∀ a ∈ first :: rest, isBlockedIp isIP a.address = false := by
            simpa using hnone
          rw [Except.ok.injEq] at h
          subst h
          intro a ha
          cases all with
          | true => exact hsafe a ha
          | false =>
              rw [List.mem_singleton.mp ha]
              exact hsafe first (by simp)

end UptimeFlow.Security
