import Mathlib.Data.List.TakeWhile
import UptimeFlow.Numerals
import UptimeFlow.Security.Quads

/-!
# UptimeFlow.Security.Groups

The texts of an IPv6 address, and that `parseIpv6` reads exactly them.

An address is eight groups between colons; `::` stands for the zero groups that
are missing, and the last two groups may be written as a quad (`IsAddress`).
The parser first rewrites the quad and then splits: `readGroups` reads the
addresses without a quad, and rewriting takes an address with one to one
without (`IsAddress.rewrite`), and only those (`IsAddress.of_rewrite`).
-/

namespace UptimeFlow.Security

/-! ## the grammar -/

def isHexDigit (c : Char) : Bool := c.isDigit || ('a' ≤ c && c ≤ 'f') || ('A' ≤ c && c ≤ 'F')

/-- One to four hexadecimal digits. -/
structure IsGroup (text : List Char) (n : Nat) : Prop where
  digits : ∀ c ∈ text, isHexDigit c = true
  nonempty : 1 ≤ text.length
  short : text.length ≤ 4
  value : Js.parseHex text = n

/-- Groups between colons, the last two as a quad if one likes and `quad` allows it. -/
inductive IsGroups (quad : Bool) : List Char → List Nat → Prop where
  | one {text : List Char} {n : Nat} (h : IsGroup text n) : IsGroups quad text [n]
  | quad {text : List Char} {v : Nat} (hquad : quad = true) (h : IsQuad text v) :
      IsGroups quad text [v / 2 ^ 16, v % 2 ^ 16]
  | cons {text rest : List Char} {n : Nat} {groups : List Nat} (h : IsGroup text n)
      (hrest : IsGroups quad rest groups) :
      IsGroups quad (text ++ ':' :: rest) (n :: groups)

/-- What may stand on a side of `::`. -/
inductive IsSide (quad : Bool) : List Char → List Nat → Prop where
  | nil : IsSide quad [] []
  | groups {text : List Char} {gs : List Nat} (h : IsGroups quad text gs) : IsSide quad text gs

inductive IsAddress (quad : Bool) : List Char → List Nat → Prop where
  | full {text : List Char} {gs : List Nat} (h : IsGroups quad text gs) (hlength : gs.length = 8) :
      IsAddress quad text gs
  /-- `::` stands for at least one zero group. -/
  | gap {head tail : List Char} {hs ts : List Nat} (hhead : IsSide false head hs)
      (htail : IsSide quad tail ts) (hlength : hs.length + ts.length ≤ 7) :
      IsAddress quad (head ++ ':' :: ':' :: tail)
        (hs ++ List.replicate (8 - hs.length - ts.length) 0 ++ ts)

/-- An address, and its zone. -/
inductive IsIpv6 : List Char → List Nat → Prop where
  | plain {text : List Char} {gs : List Nat} (h : IsAddress true text gs) : IsIpv6 text gs
  | zoned {text : List Char} {gs : List Nat} (h : IsAddress true text gs) (zone : List Char) :
      IsIpv6 (text ++ '%' :: zone) gs

/-! ## groups -/

theorem isGroupText_iff {text : List Char} :
    isGroupText text = true ↔ IsGroup text (Js.parseHex text) := by
  constructor
  · intro h
    simp only [isGroupText, Bool.and_eq_true, decide_eq_true_eq, List.all_eq_true] at h
    exact ⟨h.2, h.1.1, h.1.2, rfl⟩
  · intro h
    simp only [isGroupText, Bool.and_eq_true, decide_eq_true_eq, List.all_eq_true]
    exact ⟨⟨h.nonempty, h.short⟩, h.digits⟩

theorem IsGroup.not_mem {text : List Char} {n : Nat} (h : IsGroup text n) {c : Char}
    (hc : isHexDigit c = false) : c ∉ text := by
  intro hmem
  rw [h.digits c hmem] at hc
  cases hc

theorem hexValue_lt {c : Char} (h : isHexDigit c = true) : Js.hexValue c < 16 := by
  have hle : ∀ x y : Char, x ≤ y ↔ x.toNat ≤ y.toNat := fun x y => by
    rw [Char.le_def, UInt32.le_iff_toNat_le]
    rfl
  simp only [isHexDigit, Char.isDigit_iff_toNat, hle, Bool.or_eq_true, Bool.and_eq_true,
    decide_eq_true_eq] at h
  simp only [Js.hexValue, Char.isDigit_iff_toNat, hle]
  simp only [Char.reduceToNat] at h ⊢
  grind

theorem IsGroup.lt {text : List Char} {n : Nat} (h : IsGroup text n) : n < 2 ^ 16 := by
  have hlt : Js.parseHex text < 16 ^ text.length :=
    Js.digits_lt fun c hc => hexValue_lt (h.digits c hc)
  have hpow : 16 ^ text.length ≤ 16 ^ 4 := Nat.pow_le_pow_right (by decide) h.short
  rw [← h.value]
  exact Nat.lt_of_lt_of_le hlt hpow

/-- What a group is written as. -/
theorem isGroup_toString {n : Nat} (h : n < 2 ^ 16) : IsGroup (Js.toString 16 n) n where
  digits := Js.mem_toDigits (by decide) (by decide) n
  nonempty := Nat.length_toDigits_pos
  short := (Nat.length_toDigits_le_iff (by decide) (by decide)).2 h
  value := Js.digits_toDigits (by decide) (by decide) n

/-! ## the colons of an address -/

theorem IsGroup.head_ne {text : List Char} {n : Nat} (h : IsGroup text n) (rest : List Char) :
    ∀ cs, text ++ rest ≠ ':' :: cs := by
  intro cs he
  cases text with
  | nil => exact absurd h.nonempty (by simp)
  | cons c text =>
      obtain rfl := (List.cons.inj he).1
      exact h.not_mem (by decide) List.mem_cons_self

/-- Groups start with a digit. -/
theorem IsGroups.head_ne {text : List Char} {gs : List Nat} (h : IsGroups false text gs) :
    ∀ cs, text ≠ ':' :: cs := by
  intro cs
  cases h with
  | one h =>
      have hne := h.head_ne [] cs
      rwa [List.append_nil] at hne
  | quad hquad => cases hquad
  | cons h _ => exact h.head_ne _ cs

theorem not_infix_of_not_mem {text rest : List Char} (htext : ':' ∉ text)
    (hrest : ¬ [':', ':'] <:+: rest) : ¬ [':', ':'] <:+: text ++ rest := by
  induction text with
  | nil => exact hrest
  | cons c text ih =>
      rw [List.cons_append, List.infix_cons_iff, not_or]
      refine ⟨fun hprefix => List.ne_of_not_mem_cons htext ?_,
        ih (List.not_mem_of_not_mem_cons htext)⟩
      exact (List.cons_prefix_cons.1 hprefix).1

theorem IsGroups.not_infix {text : List Char} {gs : List Nat} (h : IsGroups false text gs) :
    ¬ [':', ':'] <:+: text := by
  induction h with
  | one h =>
      have hmem : ':' ∉ _ := h.not_mem (by decide)
      have hnot := not_infix_of_not_mem hmem (by simp : ¬ [':', ':'] <:+: [])
      rwa [List.append_nil] at hnot
  | quad hquad => cases hquad
  | cons h hrest ih =>
      refine not_infix_of_not_mem (h.not_mem (by decide)) ?_
      rw [List.infix_cons_iff, not_or]
      refine ⟨fun hprefix => ?_, ih⟩
      obtain ⟨cs, hcs⟩ := (List.cons_prefix_cons.1 hprefix).2
      exact hrest.head_ne cs hcs.symm

theorem IsGroups.ne_nil {text : List Char} {gs : List Nat} (h : IsGroups false text gs) :
    text ≠ [] := by
  cases h with
  | one h => exact List.ne_nil_of_length_pos h.nonempty
  | quad hquad => cases hquad
  | cons h hrest => simp

/-- Groups end with a digit. -/
theorem IsGroups.getLast?_ne {text : List Char} {gs : List Nat} (h : IsGroups false text gs) :
    text.getLast? ≠ some ':' := by
  induction h with
  | one h =>
      intro hlast
      exact h.not_mem (by decide) (List.mem_of_getLast? hlast)
  | quad hquad => cases hquad
  | cons h hrest ih =>
      have hlast : ∀ rest : List Char, rest ≠ [] →
          ∀ text, (text ++ ':' :: rest).getLast? = rest.getLast? := by
        intro rest hne text
        rw [List.getLast?_append_of_ne_nil _ (by simp), List.getLast?_cons_of_ne_nil hne]
      rw [hlast _ hrest.ne_nil]
      exact ih

/-! ## reading groups -/

theorem split_colon_append {text : List Char} (h : ':' ∉ text) (rest : List Char) :
    Js.split [':'] (text ++ ':' :: rest) = text :: Js.split [':'] rest := by
  refine Js.split_append (by simp) fun s hs hsuffix hprefix => h ?_
  cases s with
  | nil => contradiction
  | cons c s =>
      obtain rfl := (List.cons_prefix_cons.1 hprefix).1
      exact hsuffix.mem List.mem_cons_self

theorem split_colon_of_not_mem {text : List Char} (h : ':' ∉ text) :
    Js.split [':'] text = [text] := by
  refine Js.split_of_not_infix fun hinside => h ?_
  exact hinside.mem List.mem_cons_self

theorem toGroups_of_ne_nil {text : List Char} (h : text ≠ []) :
    toGroups text = (Js.split [':'] text).mapM fun g =>
      if isGroupText g then some (Js.parseHex g) else none :=
  if_neg h

theorem toGroups_of_isGroups {text : List Char} {gs : List Nat} (h : IsGroups false text gs) :
    toGroups text = some gs := by
  rw [toGroups_of_ne_nil h.ne_nil]
  induction h with
  | one h =>
      rw [split_colon_of_not_mem (h.not_mem (by decide))]
      obtain rfl := h.value
      simp [isGroupText_iff.2 h]
  | quad hquad => cases hquad
  | cons h hrest ih =>
      rw [split_colon_append (h.not_mem (by decide)), List.mapM_cons, ih]
      obtain rfl := h.value
      simp [isGroupText_iff.2 h]

theorem isGroups_of_mapM {pieces : List (List Char)} (hpieces : pieces ≠ []) {gs : List Nat}
    (h : (pieces.mapM fun g => if isGroupText g then some (Js.parseHex g) else none) = some gs) :
    IsGroups false ([':'].intercalate pieces) gs := by
  induction pieces generalizing gs with
  | nil => contradiction
  | cons piece pieces ih =>
      rw [List.mapM_cons] at h
      cases htext : isGroupText piece with
      | false => simp [htext] at h
      | true =>
          have hpiece : IsGroup piece (Js.parseHex piece) := isGroupText_iff.1 htext
          obtain ⟨rest, hrest, rfl⟩ : ∃ rest, (pieces.mapM fun g =>
              if isGroupText g then some (Js.parseHex g) else none) = some rest ∧
                Js.parseHex piece :: rest = gs := by
            simpa [htext, Option.bind_eq_some_iff] using h
          by_cases hnil : pieces = []
          · subst hnil
            obtain rfl := Option.some.inj hrest
            simpa using IsGroups.one hpiece
          · rw [List.intercalate_cons_of_ne_nil hnil]
            simpa using IsGroups.cons hpiece (ih hnil hrest)

theorem toGroups_eq_some_iff {text : List Char} {gs : List Nat} :
    toGroups text = some gs ↔ IsSide false text gs := by
  constructor
  · intro h
    by_cases hnil : text = []
    · subst hnil
      obtain rfl := Option.some.inj h
      exact .nil
    · rw [toGroups_of_ne_nil hnil] at h
      have hgroups := isGroups_of_mapM (Js.split_ne_nil _ _) h
      rw [Js.intercalate_split (by simp)] at hgroups
      exact .groups hgroups
  · intro h
    cases h with
    | nil => rfl
    | groups h => exact toGroups_of_isGroups h

/-- The groups of an address whose quad is rewritten. -/
def readGroups (norm : List Char) : Option (List Nat) :=
  match Js.split [':', ':'] norm with
  | [_] =>
      match toGroups norm with
      | none => none
      | some groups => if groups.length = 8 then some groups else none
  | [head, tail] =>
      match toGroups head, toGroups tail with
      | some head, some tail =>
          if head.length + tail.length ≤ 7 then
            some (head ++ List.replicate (8 - head.length - tail.length) 0 ++ tail)
          else none
      | _, _ => none
  | _ => none

theorem parseIpv6_eq (input : List Char) :
    parseIpv6 input = (normalizeEmbeddedV4 (input.takeWhile (· ≠ '%'))).bind readGroups := by
  rw [parseIpv6]
  cases normalizeEmbeddedV4 (input.takeWhile (· ≠ '%')) with
  | none => rfl
  | some norm => rfl

theorem IsSide.not_infix {text : List Char} {gs : List Nat} (h : IsSide false text gs) :
    ¬ [':', ':'] <:+: text := by
  cases h with
  | nil => simp
  | groups h => exact h.not_infix

theorem IsSide.getLast?_ne {text : List Char} {gs : List Nat} (h : IsSide false text gs) :
    text.getLast? ≠ some ':' := by
  cases h with
  | nil => nofun
  | groups h => exact h.getLast?_ne

/-- No `::` starts before the first. -/
theorem split_gap {head tail : List Char} {hs ts : List Nat} (hhead : IsSide false head hs)
    (htail : IsSide false tail ts) :
    Js.split [':', ':'] (head ++ ':' :: ':' :: tail) = [head, tail] := by
  have hgap : head ++ ':' :: ':' :: tail = head ++ ([':', ':'] ++ tail) := rfl
  rw [hgap, Js.split_append (by simp), Js.split_of_not_infix htail.not_infix]
  intro s hs hsuffix hprefix
  obtain _ | ⟨c, s⟩ := s
  · contradiction
  obtain ⟨rfl, hrest⟩ := List.cons_prefix_cons.1 hprefix
  obtain _ | ⟨d, s⟩ := s
  · obtain ⟨front, rfl⟩ := hsuffix
    exact hhead.getLast?_ne List.getLast?_concat
  · obtain ⟨rfl, -⟩ := List.cons_prefix_cons.1 hrest
    have hinside : [':', ':'] <:+: ':' :: ':' :: s := ⟨[], s, rfl⟩
    exact hhead.not_infix (hinside.trans hsuffix.isInfix)

theorem intercalate_gap (head tail : List Char) :
    [':', ':'].intercalate [head, tail] = head ++ ':' :: ':' :: tail := by
  simp [List.intercalate]

/-- **What is read without a quad** is the addresses without a quad. -/
theorem readGroups_eq_some_iff {norm : List Char} {gs : List Nat} :
    readGroups norm = some gs ↔ IsAddress false norm gs := by
  constructor
  · intro h
    have hjoin := Js.intercalate_split (by simp : [':', ':'] ≠ []) norm
    unfold readGroups at h
    split at h
    · next piece hsplit =>
      cases hgroups : toGroups norm with
      | none =>
          rw [hgroups] at h
          cases h
      | some groups =>
          rw [hgroups] at h
          dsimp only at h
          split at h
          · next hlength =>
            obtain rfl := Option.some.inj h
            cases toGroups_eq_some_iff.1 hgroups with
            | nil => cases hlength
            | groups hside => exact .full hside hlength
          · cases h
    · next head tail hsplit =>
      rw [hsplit] at hjoin
      cases hhead : toGroups head with
      | none =>
          rw [hhead] at h
          cases h
      | some hs =>
          cases htail : toGroups tail with
          | none =>
              rw [hhead, htail] at h
              cases h
          | some ts =>
              rw [hhead, htail] at h
              dsimp only at h
              split at h
              · next hlength =>
                obtain rfl := Option.some.inj h
                rw [← hjoin, intercalate_gap]
                exact .gap (toGroups_eq_some_iff.1 hhead) (toGroups_eq_some_iff.1 htail) hlength
              · cases h
    · cases h
  · intro h
    unfold readGroups
    cases h with
    | full h hlength =>
        rw [Js.split_of_not_infix h.not_infix, toGroups_of_isGroups h]
        exact if_pos hlength
    | gap hhead htail hlength =>
        rw [split_gap hhead htail]
        dsimp only
        rw [toGroups_eq_some_iff.2 hhead, toGroups_eq_some_iff.2 htail]
        exact if_pos hlength

/-! ## rewriting the quad -/

/-- What stands before the last colon of an address, the colon included. -/
def EndsInColon (before : List Char) : Prop := before = [] ∨ ∃ front, before = front ++ [':']

theorem endsInColon_append {before : List Char} (h : EndsInColon before) (front : List Char) :
    EndsInColon (front ++ ':' :: before) := by
  obtain rfl | ⟨rest, rfl⟩ := h
  · exact .inr ⟨front, rfl⟩
  · exact .inr ⟨front ++ ':' :: rest, by simp⟩

theorem splitLastColon_append {before after : List Char} (hbefore : EndsInColon before)
    (hafter : ':' ∉ after) : splitLastColon (before ++ after) = (before, after) := by
  have htake : (before ++ after).reverse.takeWhile (· ≠ ':') = after.reverse := by
    have hall : ∀ c ∈ after.reverse, (decide (c ≠ ':')) = true := by
      intro c hc
      refine decide_eq_true fun he => hafter ?_
      rw [← he]
      exact List.mem_reverse.1 hc
    rw [List.reverse_append, List.takeWhile_append_of_pos hall]
    obtain rfl | ⟨front, rfl⟩ := hbefore
    · simp
    · simp
  rw [splitLastColon, htake]
  simp

/-- Every text splits at its last colon. -/
theorem exists_splitLastColon (text : List Char) :
    ∃ before after, text = before ++ after ∧ EndsInColon before ∧ ':' ∉ after := by
  induction text with
  | nil => exact ⟨[], [], rfl, .inl rfl, by simp⟩
  | cons c text ih =>
      obtain ⟨before, after, rfl, hbefore, hafter⟩ := ih
      by_cases hc : c = ':'
      · subst hc
        exact ⟨':' :: before, after, rfl, endsInColon_append hbefore [], hafter⟩
      · obtain rfl | ⟨front, rfl⟩ := hbefore
        · exact ⟨[], c :: after, rfl, .inl rfl, by simp [Ne.symm hc, hafter]⟩
        · exact ⟨c :: front ++ [':'], after, rfl, .inr ⟨c :: front, rfl⟩, hafter⟩

/-- The two groups of a quad, as they are written. -/
def quadGroups (v : Nat) : List Char :=
  Js.toString 16 (v / 2 ^ 16 : Nat) ++ ':' :: Js.toString 16 (v % 2 ^ 16 : Nat)

theorem IsQuad.mem {ip : List Char} {v : Nat} (h : IsQuad ip v) : '.' ∈ ip := by
  cases h
  simp

theorem IsQuad.colon_not_mem {ip : List Char} {v : Nat} (h : IsQuad ip v) : ':' ∉ ip := by
  have hoctet : ∀ {text n}, IsOctet text n → ':' ∉ text := by
    intro text n htext hmem
    have hdigit := htext.digits ':' hmem
    revert hdigit
    decide
  cases h with
  | octets ha hb hc hd => simp [hoctet ha, hoctet hb, hoctet hc, hoctet hd]

theorem normalizeEmbeddedV4_of_not_mem {text : List Char} (h : '.' ∉ text) :
    normalizeEmbeddedV4 text = some text := by
  have hcontains : text.contains '.' = false := by simpa using h
  rw [normalizeEmbeddedV4, hcontains]
  rfl

theorem normalizeEmbeddedV4_append {before after : List Char} (hbefore : EndsInColon before)
    (hafter : ':' ∉ after) (hdot : '.' ∈ before ++ after) :
    normalizeEmbeddedV4 (before ++ after) =
      (ipv4ToInt after).map fun n => before ++ quadGroups n.toNat := by
  have hcontains : (before ++ after).contains '.' = true := by simpa using hdot
  rw [normalizeEmbeddedV4, hcontains, splitLastColon_append hbefore hafter, if_neg (by decide)]
  dsimp only
  cases hn : ipv4ToInt after with
  | none => rfl
  | some n =>
      obtain ⟨v, hv, rfl⟩ := ipv4ToInt_eq_some_iff.1 hn
      have hsmall : v / 2 ^ 16 < 2 ^ 16 := by
        have := hv.lt
        omega
      have hones : (0xffff : Int) = (2 ^ 16 - 1 : Nat) := rfl
      have hlow : Js.bitAnd v 0xffff = (v % 2 ^ 16 : Nat) := by
        rw [hones, Js.bitAnd_ones hv.lt (by decide)]
      have hhigh : Js.bitAnd (Js.unsignedShiftRight v 16) 0xffff = (v / 2 ^ 16 : Nat) := by
        rw [hones, Js.unsignedShiftRight_eq_div hv.lt (by decide),
          Js.bitAnd_ones (by omega) (by decide), Nat.mod_eq_of_lt hsmall]
      dsimp only [Option.map_some]
      rw [hlow, hhigh, quadGroups, Int.toNat_natCast, List.append_assoc, List.append_assoc]
      rfl

theorem isGroups_quadGroups {v : Nat} (h : v < 2 ^ 32) :
    IsGroups false (quadGroups v) [v / 2 ^ 16, v % 2 ^ 16] :=
  .cons (isGroup_toString (by omega)) (.one (isGroup_toString (by omega)))

/-- Behind a colon groups can be rewritten to groups without a quad. -/
theorem IsGroups.rewrite {text : List Char} {gs : List Nat} (h : IsGroups true text gs)
    {before : List Char} (hbefore : EndsInColon before) (hdot : '.' ∉ before) :
    ∃ norm, normalizeEmbeddedV4 (before ++ text) = some (before ++ norm) ∧
      IsGroups false norm gs := by
  induction h generalizing before with
  | one h =>
      refine ⟨_, normalizeEmbeddedV4_of_not_mem ?_, .one h⟩
      rw [List.mem_append, not_or]
      exact ⟨hdot, h.not_mem (by decide)⟩
  | quad _ h =>
      refine ⟨_, ?_, isGroups_quadGroups h.lt⟩
      rw [normalizeEmbeddedV4_append hbefore h.colon_not_mem (List.mem_append_right _ h.mem),
        ipv4ToInt_of_isQuad h]
      rfl
  | @cons text rest n groups h hrest ih =>
      have hcolon : EndsInColon (before ++ (text ++ [':'])) := .inr ⟨before ++ text, by simp⟩
      have hplain : '.' ∉ before ++ (text ++ [':']) := by
        simp [hdot, h.not_mem (show isHexDigit '.' = false by decide)]
      obtain ⟨norm, hnorm, hgroups⟩ := ih hcolon hplain
      refine ⟨text ++ ':' :: norm, ?_, .cons h hgroups⟩
      simpa using hnorm

theorem IsSide.dot_not_mem {text : List Char} {gs : List Nat} (h : IsSide false text gs) :
    '.' ∉ text := by
  cases h with
  | nil => simp
  | groups h =>
      induction h with
      | one h => exact h.not_mem (by decide)
      | quad hquad => cases hquad
      | cons h hrest ih => simp [h.not_mem (show isHexDigit '.' = false by decide), ih]

/-- An address is rewritten to one without a quad, of the same groups. -/
theorem IsAddress.rewrite {text : List Char} {gs : List Nat} (h : IsAddress true text gs) :
    ∃ norm, normalizeEmbeddedV4 text = some norm ∧ IsAddress false norm gs := by
  cases h with
  | full h hlength =>
      obtain ⟨norm, hnorm, hgroups⟩ := h.rewrite (.inl rfl) List.not_mem_nil
      exact ⟨norm, hnorm, .full hgroups hlength⟩
  | @gap head tail hs ts hhead htail hlength =>
      have hcolon : EndsInColon (head ++ [':', ':']) := .inr ⟨head ++ [':'], by simp⟩
      have hdot : '.' ∉ head ++ [':', ':'] := by simp [hhead.dot_not_mem]
      have hgap : ∀ side, head ++ ':' :: ':' :: side = head ++ [':', ':'] ++ side := by simp
      cases htail with
      | nil =>
          refine ⟨head ++ [':', ':'], normalizeEmbeddedV4_of_not_mem hdot, .gap hhead .nil hlength⟩
      | groups htail =>
          obtain ⟨norm, hnorm, hgroups⟩ := htail.rewrite hcolon hdot
          refine ⟨head ++ ':' :: ':' :: norm, ?_, .gap hhead (.groups hgroups) hlength⟩
          rw [hgap tail, hgap norm, hnorm]

theorem append_colon_inj {xs ys us vs : List Char} (hxs : ':' ∉ xs) (hus : ':' ∉ us)
    (h : xs ++ ':' :: ys = us ++ ':' :: vs) : xs = us ∧ ys = vs := by
  have hsplit := congrArg (Js.split [':']) h
  rw [split_colon_append hxs, split_colon_append hus] at hsplit
  obtain rfl := (List.cons.inj hsplit).1
  exact ⟨rfl, (List.cons.inj (List.append_cancel_left h)).2⟩

/-- What ends in a colon has a first one. -/
theorem EndsInColon.first {before : List Char} (h : EndsInColon before) (hne : before ≠ []) :
    ∃ first others, before = first ++ ':' :: others ∧ ':' ∉ first ∧ EndsInColon others := by
  obtain rfl | ⟨front, rfl⟩ := h
  · contradiction
  clear hne
  induction front with
  | nil => exact ⟨[], [], rfl, List.not_mem_nil, .inl rfl⟩
  | cons c front ih =>
      by_cases hc : c = ':'
      · subst hc
        exact ⟨[], front ++ [':'], rfl, List.not_mem_nil, .inr ⟨front, rfl⟩⟩
      · obtain ⟨first, others, hfirst, hplain, hothers⟩ := ih
        refine ⟨c :: first, others, ?_, by simp [Ne.symm hc, hplain], hothers⟩
        rw [List.cons_append, hfirst, List.cons_append]

theorem IsGroups.eq_singleton {text : List Char} {gs : List Nat} (h : IsGroups false text gs)
    {n : Nat} (htext : IsGroup text n) : gs = [n] := by
  cases h with
  | one h => rw [← h.value, htext.value]
  | quad hquad => cases hquad
  | cons h hrest =>
      refine absurd ?_ (htext.not_mem (show isHexDigit ':' = false by decide))
      simp

/-- Groups that end in those of a quad are groups with the quad. -/
theorem IsGroups.of_rewrite {text : List Char} {gs : List Nat} (h : IsGroups false text gs)
    {before after : List Char} {v : Nat} (hbefore : EndsInColon before) (hafter : IsQuad after v)
    (htext : text = before ++ quadGroups v) : IsGroups true (before ++ after) gs := by
  have hv := hafter.lt
  have hhigh : IsGroup (Js.toString 16 (v / 2 ^ 16 : Nat)) (v / 2 ^ 16) :=
    isGroup_toString (by omega)
  have hlow : IsGroup (Js.toString 16 (v % 2 ^ 16 : Nat)) (v % 2 ^ 16) :=
    isGroup_toString (by omega)
  induction h generalizing before with
  | @one text n h =>
      refine absurd ?_ (h.not_mem (show isHexDigit ':' = false by decide))
      rw [htext, quadGroups]
      simp
  | quad hquad => cases hquad
  | @cons text rest n groups h hrest ih =>
      have hplain := h.not_mem (show isHexDigit ':' = false by decide)
      by_cases hnil : before = []
      · subst hnil
        obtain ⟨rfl, rfl⟩ := append_colon_inj hplain (hhigh.not_mem (by decide)) htext
        obtain rfl := h.value.symm.trans hhigh.value
        obtain rfl := hrest.eq_singleton hlow
        exact .quad rfl hafter
      · obtain ⟨first, others, rfl, hfirst, hothers⟩ := hbefore.first hnil
        rw [List.append_assoc, List.cons_append] at htext
        obtain ⟨rfl, rfl⟩ := append_colon_inj hplain hfirst htext
        rw [List.append_assoc, List.cons_append]
        exact .cons h (ih hothers rfl)

theorem IsGroups.mono {text : List Char} {gs : List Nat} (h : IsGroups false text gs) :
    IsGroups true text gs := by
  induction h with
  | one h => exact .one h
  | quad hquad => cases hquad
  | cons h hrest ih => exact .cons h ih

theorem IsSide.mono {text : List Char} {gs : List Nat} (h : IsSide false text gs) :
    IsSide true text gs := by
  cases h with
  | nil => exact .nil
  | groups h => exact .groups h.mono

/-- Where `::` and the groups of a quad both stand in an address, `::` stands before them. -/
theorem gap_before_quadGroups {head tail before : List Char} {v : Nat} (hv : v < 2 ^ 32)
    (htext : head ++ ':' :: ':' :: tail = before ++ quadGroups v) :
    ∃ middle, before = head ++ ':' :: ':' :: middle ∧ tail = middle ++ quadGroups v := by
  have hhigh : IsGroup (Js.toString 16 (v / 2 ^ 16 : Nat)) (v / 2 ^ 16) :=
    isGroup_toString (by omega)
  have hlow : IsGroup (Js.toString 16 (v % 2 ^ 16 : Nat)) (v % 2 ^ 16) :=
    isGroup_toString (by omega)
  have hhighPlain := hhigh.not_mem (show isHexDigit ':' = false by decide)
  have hlowPlain := hlow.not_mem (show isHexDigit ':' = false by decide)
  have hgap : ∀ side, head ++ ':' :: ':' :: side = head ++ [':', ':'] ++ side := by simp
  rw [hgap] at htext
  obtain ⟨middle, rfl, rfl⟩ | ⟨overlap, hhead, hquad⟩ := List.append_eq_append_iff.1 htext
  · exact ⟨middle, by simp, rfl⟩
  obtain rfl | ⟨front, c, rfl⟩ := List.eq_nil_or_concat overlap
  · exact ⟨[], by simpa using hhead.symm, hquad.symm⟩
  -- a colon of `::` would be the one between the two groups
  have hlast : head ++ [':'] ++ [':'] = before ++ front ++ [c] := by simpa using hhead
  obtain ⟨hend, hc⟩ := List.append_inj' hlast rfl
  obtain rfl := List.singleton_inj.1 hc
  have hboth : Js.toString 16 (v / 2 ^ 16 : Nat) ++ ':' :: Js.toString 16 (v % 2 ^ 16 : Nat) =
      front ++ ':' :: tail := by simpa [quadGroups] using hquad
  have hfront : ':' ∉ front := by
    have hcount := congrArg (List.count ':') hboth
    simp only [List.count_append, List.count_cons_self, List.count_eq_zero.2 hhighPlain,
      List.count_eq_zero.2 hlowPlain] at hcount
    exact List.count_eq_zero.1 (by omega)
  obtain ⟨rfl, -⟩ := append_colon_inj hhighPlain hfront hboth
  have hdigit := congrArg List.getLast? hend
  rw [List.getLast?_concat,
    List.getLast?_append_of_ne_nil _ (List.ne_nil_of_length_pos hhigh.nonempty)] at hdigit
  exact absurd (List.mem_of_getLast? hdigit.symm) hhighPlain

theorem EndsInColon.of_append {xs ys : List Char} (h : EndsInColon (xs ++ ys)) :
    EndsInColon ys := by
  obtain rfl | ⟨front, c, rfl⟩ := List.eq_nil_or_concat ys
  · exact .inl rfl
  · obtain hnil | ⟨rest, hrest⟩ := h
    · simp at hnil
    · have hlast : xs ++ front ++ [c] = rest ++ [':'] := by simpa using hrest
      obtain rfl := List.singleton_inj.1 (List.append_inj' hlast rfl).2
      exact .inr ⟨front, by simp⟩

/-- **Only addresses** are rewritten to addresses. -/
theorem IsAddress.of_rewrite {text norm : List Char} {gs : List Nat}
    (htext : normalizeEmbeddedV4 text = some norm) (h : IsAddress false norm gs) :
    IsAddress true text gs := by
  by_cases hdot : '.' ∈ text
  · obtain ⟨before, after, rfl, hbefore, hafter⟩ := exists_splitLastColon text
    rw [normalizeEmbeddedV4_append hbefore hafter hdot] at htext
    obtain ⟨n, hn, rfl⟩ := Option.map_eq_some_iff.1 htext
    obtain ⟨v, hv, rfl⟩ := ipv4ToInt_eq_some_iff.1 hn
    rw [Int.toNat_natCast] at h
    generalize hnorm : before ++ quadGroups v = norm at h
    cases h with
    | full h hlength => exact .full (h.of_rewrite hbefore hv hnorm.symm) hlength
    | @gap head tail hs ts hhead htail hlength =>
        obtain ⟨middle, rfl, rfl⟩ := gap_before_quadGroups hv.lt hnorm.symm
        have hmiddle : EndsInColon middle := by
          have hall : EndsInColon (head ++ [':', ':'] ++ middle) := by simpa using hbefore
          exact hall.of_append
        rw [List.append_assoc, List.cons_append, List.cons_append]
        refine .gap hhead ?_ hlength
        generalize hside : middle ++ quadGroups v = side at htail
        cases htail with
        | nil => simp [quadGroups] at hside
        | groups h => exact .groups (h.of_rewrite hmiddle hv hside.symm)
  · rw [normalizeEmbeddedV4_of_not_mem hdot] at htext
    obtain rfl := Option.some.inj htext
    cases h with
    | full h hlength => exact .full h.mono hlength
    | gap hhead htail hlength => exact .gap hhead htail.mono hlength

/-! ## addresses -/

/-- The characters of an address without its zone. -/
def isAddressChar (c : Char) : Bool := isHexDigit c || c = ':' || c = '.'

theorem IsGroup.isAddressChar {text : List Char} {n : Nat} (h : IsGroup text n) :
    ∀ c ∈ text, isAddressChar c = true := by
  intro c hc
  simp [Security.isAddressChar, h.digits c hc]

theorem IsQuad.isAddressChar {ip : List Char} {v : Nat} (h : IsQuad ip v) :
    ∀ c ∈ ip, isAddressChar c = true := by
  have hoctet : ∀ {text n}, IsOctet text n → ∀ c ∈ text, Security.isAddressChar c = true := by
    intro text n htext c hc
    simp [Security.isAddressChar, isHexDigit, htext.digits c hc]
  have hdot : Security.isAddressChar '.' = true := by decide
  cases h with
  | octets ha hb hc hd =>
      simp only [List.forall_mem_append, List.forall_mem_cons]
      exact ⟨hoctet ha, hdot, hoctet hb, hdot, hoctet hc, hdot, hoctet hd⟩

theorem IsGroups.isAddressChar {quad : Bool} {text : List Char} {gs : List Nat}
    (h : IsGroups quad text gs) : ∀ c ∈ text, isAddressChar c = true := by
  induction h with
  | one h => exact h.isAddressChar
  | quad _ h => exact h.isAddressChar
  | cons h _ ih =>
      simp only [List.forall_mem_append, List.forall_mem_cons]
      exact ⟨h.isAddressChar, by decide, ih⟩

theorem IsSide.isAddressChar {quad : Bool} {text : List Char} {gs : List Nat}
    (h : IsSide quad text gs) : ∀ c ∈ text, isAddressChar c = true := by
  cases h with
  | nil => simp
  | groups h => exact h.isAddressChar

theorem IsAddress.isAddressChar {quad : Bool} {text : List Char} {gs : List Nat}
    (h : IsAddress quad text gs) : ∀ c ∈ text, isAddressChar c = true := by
  cases h with
  | full h _ => exact h.isAddressChar
  | gap hhead htail _ =>
      simp only [List.forall_mem_append, List.forall_mem_cons]
      exact ⟨hhead.isAddressChar, by decide, by decide, htail.isAddressChar⟩

theorem IsGroups.lt {quad : Bool} {text : List Char} {gs : List Nat} (h : IsGroups quad text gs) :
    ∀ g ∈ gs, g < 2 ^ 16 := by
  induction h with
  | one h => simpa using h.lt
  | quad _ h =>
      have := h.lt
      simp only [List.forall_mem_cons]
      exact ⟨by omega, by omega, by simp⟩
  | cons h _ ih => exact List.forall_mem_cons.2 ⟨h.lt, ih⟩

theorem IsSide.lt {quad : Bool} {text : List Char} {gs : List Nat} (h : IsSide quad text gs) :
    ∀ g ∈ gs, g < 2 ^ 16 := by
  cases h with
  | nil => simp
  | groups h => exact h.lt

/-- An address is eight groups of 16 bits. -/
theorem IsAddress.groups {quad : Bool} {text : List Char} {gs : List Nat}
    (h : IsAddress quad text gs) : gs.length = 8 ∧ ∀ g ∈ gs, g < 2 ^ 16 := by
  cases h with
  | full h hlength => exact ⟨hlength, h.lt⟩
  | @gap head tail hs ts hhead htail hlength =>
      constructor
      · simp only [List.length_append, List.length_replicate]
        omega
      · simp only [List.forall_mem_append]
        refine ⟨⟨hhead.lt, fun g hg => ?_⟩, htail.lt⟩
        rw [List.eq_of_mem_replicate hg]
        decide

theorem IsIpv6.address {text : List Char} {gs : List Nat} (h : IsIpv6 text gs) :
    IsAddress true (text.takeWhile (· ≠ '%')) gs := by
  have hplain : ∀ {text}, IsAddress true text gs → ∀ c ∈ text, decide (c ≠ '%') = true := by
    intro text haddress c hc
    refine decide_eq_true fun he => ?_
    have hchar := haddress.isAddressChar c hc
    rw [he] at hchar
    revert hchar
    decide
  cases h with
  | plain h => rwa [List.takeWhile_eq_self_iff.2 (hplain h)]
  | zoned h zone =>
      rw [List.takeWhile_append_of_pos (hplain h), List.takeWhile_cons_of_neg (by simp),
        List.append_nil]
      exact h

theorem isIpv6_of_address {text : List Char} {gs : List Nat}
    (h : IsAddress true (text.takeWhile (· ≠ '%')) gs) : IsIpv6 text gs := by
  have hjoin := List.takeWhile_append_dropWhile (p := (· ≠ '%')) (l := text)
  cases hzone : text.dropWhile (· ≠ '%') with
  | nil =>
      rw [hzone, List.append_nil] at hjoin
      rw [hjoin] at h
      exact .plain h
  | cons c zone =>
      have hc : c = '%' := by
        have hne : text.dropWhile (· ≠ '%') ≠ [] := by rw [hzone]; simp
        have hnot := List.head_dropWhile_not (· ≠ '%') hne
        simpa only [hzone, List.head_cons, decide_eq_false_iff_not, not_not] using hnot
      rw [hzone, hc] at hjoin
      rw [← hjoin]
      exact .zoned h zone

theorem parseIpv6_eq_some_iff {text : List Char} {gs : List Nat} :
    parseIpv6 text = some gs ↔ IsIpv6 text gs := by
  rw [parseIpv6_eq, Option.bind_eq_some_iff]
  constructor
  · rintro ⟨norm, hnorm, hgroups⟩
    exact isIpv6_of_address (.of_rewrite hnorm (readGroups_eq_some_iff.1 hgroups))
  · intro h
    obtain ⟨norm, hnorm, haddress⟩ := h.address.rewrite
    exact ⟨norm, hnorm, readGroups_eq_some_iff.2 haddress⟩

/-- What the parser makes of a text. -/
structure ReadsAddress (text : List Char) : Prop where
  some : ∀ gs, parseIpv6 text = some gs ↔ IsIpv6 text gs
  none : parseIpv6 text = none ↔ ∀ gs, ¬IsIpv6 text gs
  groups : ∀ gs, IsIpv6 text gs → gs.length = 8 ∧ ∀ g ∈ gs, g < 2 ^ 16

/-- **The texts that are read are the addresses**, and they are read as their groups. -/
theorem readsAddress (text : List Char) : ReadsAddress text where
  some _ := parseIpv6_eq_some_iff
  none := by
    simp only [← parseIpv6_eq_some_iff, Option.eq_none_iff_forall_ne_some]
  groups _ h := h.address.groups

end UptimeFlow.Security
