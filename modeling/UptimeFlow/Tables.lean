import Mathlib.Data.List.Find
import Mathlib.Data.List.Nodup
import Mathlib.Data.List.Pairwise
import Mathlib.Order.Defs.LinearOrder

/-!
# UptimeFlow.Tables

Relational tables as lists of rows, with the few operations a query layer
offers: update the rows a filter selects, find the latest of them, draw a
fresh identifier, and test a nullable unique key before a write.

A nullable key constrains only the rows that carry it, so two rows may share
the key `none` — the usual reading of a unique index over a nullable column.
-/

namespace UptimeFlow.Tables

variable {ρ κ ι : Type*}

/-! ## updates -/

/-- Update the rows that satisfy `p`, in place. -/
def updateWhere (p : ρ → Bool) (f : ρ → ρ) (rows : List ρ) : List ρ :=
  rows.map fun r => if p r then f r else r

@[simp] theorem updateWhere_nil (p : ρ → Bool) (f : ρ → ρ) : updateWhere p f [] = [] := rfl

theorem mem_updateWhere {p : ρ → Bool} {f : ρ → ρ} {rows : List ρ} {r : ρ} :
    r ∈ updateWhere p f rows ↔ (∃ r₀ ∈ rows, p r₀ = true ∧ f r₀ = r) ∨ (r ∈ rows ∧ p r = false) := by
  simp only [updateWhere, List.mem_map]
  constructor
  · rintro ⟨r₀, hr₀, rfl⟩
    cases hp : p r₀ with
    | true => exact .inl ⟨r₀, hr₀, hp, by simp⟩
    | false => exact .inr (by simp [hr₀, hp])
  · rintro (⟨r₀, hr₀, hp, rfl⟩ | ⟨hr, hp⟩)
    · exact ⟨r₀, hr₀, by simp [hp]⟩
    · exact ⟨r, hr, by simp [hp]⟩

/-- Every row of an updated table was there, as far as the update leaves it alone. -/
theorem exists_of_mem_updateWhere (key : ρ → κ) {p : ρ → Bool} {f : ρ → ρ} {rows : List ρ} {r : ρ}
    (h : r ∈ updateWhere p f rows) (hf : ∀ r, key (f r) = key r) :
    ∃ old ∈ rows, key old = key r := by
  obtain ⟨old, hold, -, rfl⟩ | ⟨hold, -⟩ := mem_updateWhere.1 h
  · exact ⟨old, hold, (hf old).symm⟩
  · exact ⟨r, hold, rfl⟩

/-- A selection that excludes the updated rows, before and after, does not see the update. -/
theorem filter_updateWhere {p q : ρ → Bool} {f : ρ → ρ} {rows : List ρ}
    (h : ∀ r, p r = true → q r = false ∧ q (f r) = false) :
    (updateWhere p f rows).filter q = rows.filter q := by
  induction rows with
  | nil => rfl
  | cons r rows ih =>
      rw [updateWhere, List.map_cons, ← updateWhere]
      cases hp : p r with
      | false => simp [List.filter_cons, ih]
      | true =>
          obtain ⟨hold, hnew⟩ := h r hp
          simp [hold, hnew, ih]

/-- An update of rows that are not there changes nothing. -/
theorem updateWhere_eq_self {p : ρ → Bool} {f : ρ → ρ} {rows : List ρ}
    (h : ∀ r ∈ rows, p r = false) : updateWhere p f rows = rows := by
  have hsame : ∀ r ∈ rows, (if p r then f r else r) = r := fun r hr => by simp [h r hr]
  rw [updateWhere, List.map_congr_left hsame, List.map_id']

/-- A selection that the update does not move a row into or out of commutes with it. -/
theorem updateWhere_filter {p q : ρ → Bool} {f : ρ → ρ} (hf : ∀ r, q (f r) = q r)
    (rows : List ρ) : (updateWhere p f rows).filter q = updateWhere p f (rows.filter q) := by
  rw [updateWhere, updateWhere, List.filter_map]
  congr 1
  refine List.filter_congr fun r _ => ?_
  simp only [Function.comp_apply]
  split
  · exact hf r
  · rfl

/-- A look-up by a key the update keeps finds the row it found before, updated. -/
theorem find?_updateWhere [DecidableEq ι] {id : ρ → ι} {p : ρ → Bool} {f : ρ → ρ} {rows : List ρ}
    (hf : ∀ r, id (f r) = id r) (i : ι) :
    (updateWhere p f rows).find? (fun r => id r = i) =
      (rows.find? fun r => id r = i).map fun r => if p r then f r else r := by
  rw [updateWhere, List.find?_map]
  congr 1
  refine List.find?_congr fun r _ => ?_
  simp only [Function.comp_apply]
  split
  · rw [hf r]
  · rfl

/-- Two updates of the same rows are one. -/
theorem updateWhere_updateWhere {p : ρ → Bool} {f g : ρ → ρ} (hf : ∀ r, p (f r) = p r)
    (rows : List ρ) : updateWhere p g (updateWhere p f rows) = updateWhere p (g ∘ f) rows := by
  simp only [updateWhere, List.map_map]
  refine List.map_congr_left fun r _ => ?_
  cases hp : p r with
  | true => simp [hp, hf]
  | false => simp [hp]

/-! ## slices -/

/-- A look-up whose matches all lie in a slice is answered by the slice. -/
theorem find?_filter_of_imp {p q : ρ → Bool} {rows : List ρ}
    (h : ∀ r ∈ rows, p r = true → q r = true) : (rows.filter q).find? p = rows.find? p := by
  rw [List.find?_filter]
  refine List.find?_congr fun r hr => ?_
  have := h r hr
  cases hp : p r <;> simp_all

/-- A selection inside a slice is a selection from the slice. -/
theorem filter_filter_of_imp {p q : ρ → Bool} {rows : List ρ}
    (h : ∀ r ∈ rows, p r = true → q r = true) : (rows.filter q).filter p = rows.filter p := by
  rw [List.filter_filter]
  refine List.filter_congr fun r hr => ?_
  have := h r hr
  cases hp : p r <;> simp_all

/-! ## views -/

section
variable {α ω : Type*} {g : ρ → ω} {rows rows' : List ρ}

/-- What the view of a row determines is the same of two tables with one view. -/
theorem map_of_view {u u' : ρ → α} (h : rows.map g = rows'.map g)
    (hu : ∀ r r', g r = g r' → u r = u' r') : rows.map u = rows'.map u' := by
  induction rows generalizing rows' with
  | nil => cases rows' with
    | nil => rfl
    | cons _ _ => cases h
  | cons r rows ih =>
      cases rows' with
      | nil => cases h
      | cons r' rows' =>
          obtain ⟨hr, hrows⟩ := List.cons_eq_cons.1 h
          exact congrArg₂ List.cons (hu r r' hr) (ih hrows)

/-- An update of what is in view, and any update of what is not. -/
theorem updateWhere_of_view {p : ρ → Bool} {f f' : ρ → ρ} (h : rows.map g = rows'.map g)
    (hp : ∀ r r', g r = g r' → p r = p r') (hf : ∀ r r', g r = g r' → g (f r) = g (f' r')) :
    (updateWhere p f rows).map g = (updateWhere p f' rows').map g := by
  rw [updateWhere, updateWhere, List.map_map, List.map_map]
  refine map_of_view h fun r r' hr => ?_
  simp only [Function.comp_apply, hp r r' hr]
  split
  · exact hf r r' hr
  · exact hr

theorem filter_of_view {p : ρ → Bool} (h : rows.map g = rows'.map g)
    (hp : ∀ r r', g r = g r' → p r = p r') :
    (rows.filter p).map g = (rows'.filter p).map g := by
  induction rows generalizing rows' with
  | nil => cases rows' with
    | nil => rfl
    | cons _ _ => cases h
  | cons r rows ih =>
      cases rows' with
      | nil => cases h
      | cons r' rows' =>
          obtain ⟨hr, hrows⟩ := List.cons_eq_cons.1 h
          rw [List.filter_cons, List.filter_cons, hp r r' hr]
          split
          · exact congrArg₂ List.cons hr (ih hrows)
          · exact ih hrows

theorem find?_of_view {p : ρ → Bool} (h : rows.map g = rows'.map g)
    (hp : ∀ r r', g r = g r' → p r = p r') : (rows.find? p).map g = (rows'.find? p).map g := by
  rw [← List.head?_filter, ← List.head?_filter, ← List.head?_map, ← List.head?_map,
    filter_of_view h hp]

theorem any_of_view {p : ρ → Bool} (h : rows.map g = rows'.map g)
    (hp : ∀ r r', g r = g r' → p r = p r') : rows.any p = rows'.any p := by
  have hmap := congrArg (List.any · id) (map_of_view h hp)
  simpa only [List.any_map, Function.id_comp] using hmap

end

/-! ## no order -/

/-- A look-up answers the same in every order of the rows exactly where all matches do. -/
theorem find?_perm_iff {p : ρ → Bool} {f : ρ → κ} {rows : List ρ} :
    (∀ rows' : List ρ, rows'.Perm rows → (rows'.find? p).map f = (rows.find? p).map f) ↔
      ∀ a ∈ rows, ∀ b ∈ rows, p a = true → p b = true → f a = f b := by
  constructor
  · intro hsame
    have hfirst : ∀ a ∈ rows, p a = true → some (f a) = (rows.find? p).map f := by
      intro a ha hp
      obtain ⟨before, after, rfl⟩ := List.append_of_mem ha
      rw [← hsame (a :: (before ++ after)) List.perm_middle.symm, List.find?_cons_of_pos hp]
      rfl
    intro a ha b hb hpa hpb
    exact Option.some.inj ((hfirst a ha hpa).trans (hfirst b hb hpb).symm)
  · intro hall rows' hperm
    cases hfound : rows'.find? p with
    | none =>
        have hnone : rows.find? p = none := by
          rw [List.find?_eq_none] at hfound ⊢
          exact fun r hr => hfound r (hperm.mem_iff.2 hr)
        rw [hnone]
    | some a =>
        have ha := hperm.mem_iff.1 (List.mem_of_find?_eq_some hfound)
        have hpa := List.find?_some hfound
        cases hother : rows.find? p with
        | none => exact absurd hpa (List.find?_eq_none.1 hother a ha)
        | some b =>
            rw [Option.map_some, Option.map_some,
              hall a ha b (List.mem_of_find?_eq_some hother) hpa (List.find?_some hother)]

/-! ## the latest row -/

/-- The row with the largest `key` among those that satisfy `p`. -/
def findLatest [LinearOrder κ] (p : ρ → Bool) (key : ρ → κ) : List ρ → Option ρ
  | [] => none
  | r :: rows =>
      match findLatest p key rows with
      | none => if p r then some r else none
      | some l => if p r && key l ≤ key r then some r else some l

section
variable [LinearOrder κ] {p : ρ → Bool} {key : ρ → κ}

theorem findLatest_some {rows : List ρ} {r : ρ} (h : findLatest p key rows = some r) :
    r ∈ rows ∧ p r = true := by
  induction rows generalizing r with
  | nil => simp [findLatest] at h
  | cons x rows ih =>
      rw [findLatest] at h
      split at h <;> grind

theorem findLatest_none_iff {rows : List ρ} :
    findLatest p key rows = none ↔ ∀ r ∈ rows, p r = false := by
  induction rows with
  | nil => simp [findLatest]
  | cons x rows ih =>
      rw [findLatest]
      split <;> grind

end

/-! ## fresh identifiers -/

/-- An identifier above all those in use. -/
def freshId (id : ρ → Nat) : List ρ → Nat
  | [] => 0
  | r :: rows => max (id r + 1) (freshId id rows)

theorem lt_freshId (id : ρ → Nat) {rows : List ρ} {r : ρ} (h : r ∈ rows) :
    id r < freshId id rows := by
  induction rows with
  | nil => simp at h
  | cons x rows ih =>
      rw [freshId]
      rcases List.mem_cons.mp h with rfl | h
      · omega
      · have := ih h
        omega

theorem ne_freshId (id : ρ → Nat) {rows : List ρ} {r : ρ} (h : r ∈ rows) :
    id r ≠ freshId id rows := Nat.ne_of_lt (lt_freshId id h)

/-- In a table without repeated identifiers, a look-up by identifier finds the row. -/
theorem find?_of_nodup [DecidableEq ι] {id : ρ → ι} {rows : List ρ} (h : (rows.map id).Nodup)
    {r : ρ} (hr : r ∈ rows) : rows.find? (fun x => id x = id r) = some r := by
  induction rows with
  | nil => simp at hr
  | cons x rows ih =>
      rw [List.map_cons, List.nodup_cons] at h
      rcases List.mem_cons.mp hr with rfl | hr
      · simp
      · have hne : id x ≠ id r := fun he => h.1 (he ▸ List.mem_map_of_mem hr)
        rw [List.find?_cons_of_neg (by simpa using hne)]
        exact ih h.2 hr

/-- Two rows of such a table with the same identifier are one row. -/
theorem eq_of_id_eq {id : ρ → ι} {rows : List ρ} (h : (rows.map id).Nodup) {a b : ρ}
    (ha : a ∈ rows) (hb : b ∈ rows) (hid : id a = id b) : a = b :=
  List.inj_on_of_nodup_map h ha hb hid

/-- Where the values of `key` are distinct, a filter by value selects one row. -/
theorem filter_eq_singleton [DecidableEq ι] {key : ρ → ι} {rows : List ρ}
    (h : (rows.map key).Nodup) {r : ρ} (hr : r ∈ rows) :
    rows.filter (fun x => key x = key r) = [r] := by
  induction rows with
  | nil => simp at hr
  | cons x rows ih =>
      rw [List.map_cons, List.nodup_cons] at h
      rcases List.mem_cons.mp hr with rfl | hr
      · rw [List.filter_cons_of_pos (by simp), List.filter_eq_nil_iff.mpr]
        intro y hy hky
        exact h.1 (of_decide_eq_true hky ▸ List.mem_map_of_mem hy)
      · have hne : key x ≠ key r := fun he => h.1 (he ▸ List.mem_map_of_mem hr)
        rw [List.filter_cons_of_neg (by simpa using hne)]
        exact ih h.2 hr

/-- A fresh row keeps the identifiers distinct. -/
theorem nodup_concat_freshId {id : ρ → Nat} {rows : List ρ} (h : (rows.map id).Nodup) {r : ρ}
    (hr : id r = freshId id rows) : ((rows ++ [r]).map id).Nodup := by
  rw [List.map_append, List.map_singleton, List.nodup_append]
  refine ⟨h, List.nodup_singleton _, ?_⟩
  intro a ha b hb
  obtain ⟨x, hx, rfl⟩ := List.mem_map.mp ha
  rw [List.mem_singleton.mp hb, hr]
  exact ne_freshId id hx

/-- An update that keeps the identifiers keeps their list. -/
theorem map_id_updateWhere {id : ρ → ι} {p : ρ → Bool} {f : ρ → ρ} {rows : List ρ}
    (hf : ∀ r, id (f r) = id r) : (updateWhere p f rows).map id = rows.map id := by
  rw [updateWhere, List.map_map]
  refine List.map_congr_left fun r _ => ?_
  simp only [Function.comp_apply]
  split
  · exact hf r
  · rfl

/-! ## tables that only grow -/

/-- What a write can make of a table whose rows are never removed and never change hands. -/
inductive Grows (id : ρ → ι) (owner : ρ → κ) (rows : List ρ) : List ρ → Prop where
  | updated (f : ρ → ρ) (hf : ∀ r, id (f r) = id r ∧ owner (f r) = owner r) :
      Grows id owner rows (rows.map f)
  | added (r : ρ) (hr : ∀ x ∈ rows, id x ≠ id r) : Grows id owner rows (rows ++ [r])

section
variable {id : ρ → ι} {owner : ρ → κ} {rows rows' : List ρ}

theorem Grows.refl : Grows id owner rows rows := by
  have hsame : Grows id owner rows (rows.map fun r => r) := .updated _ fun _ => ⟨rfl, rfl⟩
  rwa [List.map_id'] at hsame

theorem Grows.updateWhere {p : ρ → Bool} {f : ρ → ρ}
    (hf : ∀ r, id (f r) = id r ∧ owner (f r) = owner r) :
    Grows id owner rows (updateWhere p f rows) := by
  refine .updated _ fun r => ?_
  split
  · exact hf r
  · exact ⟨rfl, rfl⟩

theorem Grows.nodup (h : Grows id owner rows rows') (hrows : (rows.map id).Nodup) :
    (rows'.map id).Nodup := by
  cases h with
  | updated f hf =>
      have hid : (rows.map f).map id = rows.map id := by
        rw [List.map_map]
        exact List.map_congr_left fun r _ => (hf r).1
      rwa [hid]
  | added r hr =>
      rw [List.map_append, List.map_singleton, List.nodup_append]
      refine ⟨hrows, List.nodup_singleton _, ?_⟩
      intro a ha b hb
      obtain ⟨x, hx, rfl⟩ := List.mem_map.1 ha
      rw [List.mem_singleton.1 hb]
      exact hr x hx

/-- A row stays under its identifier and with its owner. -/
theorem Grows.mem (h : Grows id owner rows rows') {r : ρ} (hr : r ∈ rows) :
    ∃ r' ∈ rows', id r' = id r ∧ owner r' = owner r := by
  cases h with
  | updated f hf => exact ⟨f r, List.mem_map_of_mem hr, hf r⟩
  | added new hnew => exact ⟨r, List.mem_append_left _ hr, rfl, rfl⟩

end

/-! ## nullable unique keys -/

/-- No two rows carry the same key; rows whose key is `none` are unconstrained. -/
def UniqueKey (key : ρ → Option κ) (rows : List ρ) : Prop :=
  rows.Pairwise fun a b => key a = none ∨ key a ≠ key b

/-- The check a database makes before it writes the key `k`. -/
def taken [DecidableEq κ] (key : ρ → Option κ) (k : Option κ) (rows : List ρ) : Bool :=
  k.isSome && rows.any fun r => key r = k

theorem taken_iff [DecidableEq κ] {key : ρ → Option κ} {k : Option κ} {rows : List ρ} :
    taken key k rows = true ↔ k ≠ none ∧ ∃ r ∈ rows, key r = k := by
  simp [taken, Option.isSome_iff_ne_none]

@[simp] theorem uniqueKey_nil (key : ρ → Option κ) : UniqueKey key [] := List.Pairwise.nil

/-- A row whose key is not taken may be added. -/
theorem UniqueKey.concat [DecidableEq κ] {key : ρ → Option κ} {rows : List ρ} {r : ρ}
    (h : UniqueKey key rows) (hr : taken key (key r) rows = false) :
    UniqueKey key (rows ++ [r]) := by
  rw [UniqueKey, List.pairwise_append]
  refine ⟨h, List.pairwise_singleton _ _, ?_⟩
  intro a ha b hb
  rw [List.mem_singleton] at hb
  subst hb
  by_contra hc
  rw [not_or, not_not] at hc
  have : taken key (key b) rows = true := taken_iff.mpr ⟨hc.2 ▸ hc.1, a, ha, hc.2⟩
  rw [hr] at this
  contradiction

/-- An update that clears the key or leaves it alone keeps it unique. -/
theorem UniqueKey.updateWhere {key : ρ → Option κ} {rows : List ρ} {p : ρ → Bool} {f : ρ → ρ}
    (h : UniqueKey key rows) (hf : ∀ r, key (f r) = none ∨ key (f r) = key r) :
    UniqueKey key (updateWhere p f rows) := by
  have hkey : ∀ r, key (if p r then f r else r) = none ∨ key (if p r then f r else r) = key r := by
    intro r
    split
    · exact hf r
    · exact .inr rfl
  rw [UniqueKey, Tables.updateWhere, List.pairwise_map]
  refine h.imp fun {a b} hab => ?_
  have ha := hkey a
  have hb := hkey b
  grind

/-- Two rows of a table with the same key are one row. -/
theorem UniqueKey.eq_of_key {key : ρ → Option κ} {rows : List ρ} (h : UniqueKey key rows)
    {a b : ρ} (ha : a ∈ rows) (hb : b ∈ rows) (hk : key a = key b) (hne : key a ≠ none) :
    a = b := by
  by_contra hab
  have hsym : Std.Symm fun x y : ρ => key x = none ∨ key x ≠ key y := ⟨by grind⟩
  rcases List.Pairwise.forall h ha hb hab with hnone | hdiff
  · exact hne hnone
  · exact hdiff hk

/-- A filter whose rows all carry the same key selects at most one of them. -/
theorem UniqueKey.length_filter_le_one {key : ρ → Option κ} {rows : List ρ} {p : ρ → Bool}
    {k : κ} (h : UniqueKey key rows) (hp : ∀ r ∈ rows, p r = true → key r = some k) :
    (rows.filter p).length ≤ 1 := by
  have hpair : (rows.filter p).Pairwise fun a b => key a = none ∨ key a ≠ key b :=
    h.sublist List.filter_sublist
  match hf : rows.filter p with
  | [] => simp
  | [_] => simp
  | a :: b :: rest =>
      have hmem : ∀ x, x ∈ a :: b :: rest → key x = some k := by
        intro x hx
        rw [← hf, List.mem_filter] at hx
        exact hp x hx.1 hx.2
      rw [hf, List.pairwise_cons] at hpair
      have := hpair.1 b (by simp)
      rw [hmem a (by simp), hmem b (by simp)] at this
      simp at this

end UptimeFlow.Tables
