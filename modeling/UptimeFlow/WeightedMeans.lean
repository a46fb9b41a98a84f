import Mathlib.Algebra.BigOperators.Group.List.Basic
import Mathlib.Algebra.BigOperators.Ring.List
import Mathlib.Algebra.Order.BigOperators.Group.List
import Mathlib.Algebra.Order.Field.Rat
import Mathlib.Data.Rat.Floor
import Mathlib.Tactic.FieldSimp
import Mathlib.Algebra.Order.Archimedean.Basic
import Mathlib.Tactic.Linarith
import Mathlib.Tactic.LinearCombination
import Mathlib.Tactic.Ring

/-!
# UptimeFlow.WeightedMeans

Means of groups, combined into one mean.

The mean of all values is that of the groups' means, each weighed by the number
of its values.  Weighing by other numbers gives the same mean if these are in
proportion to the numbers of values (`recombined_near`), and stays close to it
for all values only then (`proportional_of_near`).  The ratio of two sums lies
between ratios of what is added up (`exists_ratio_le`, `exists_le_ratio`).
-/

namespace UptimeFlow.WeightedMeans

variable {κ : Type*} {ks : List κ} {a w s r : κ → ℚ} {ε : ℚ}

/-- The weights are in proportion to the numbers of values. -/
def Proportional (ks : List κ) (a w : κ → ℚ) : Prop :=
  ∀ k ∈ ks, ∀ l ∈ ks, a k * w l = a l * w k

theorem sum_mul_left (c : ℚ) (ks : List κ) (f : κ → ℚ) :
    (ks.map fun k => c * f k).sum = c * (ks.map f).sum := by
  induction ks with
  | nil => simp
  | cons k ks ih => simp only [List.map_cons, List.sum_cons, ih, mul_add]

/-- Of a family that vanishes elsewhere, the sum is the one value. -/
theorem sum_single {k : κ} (hks : ks.Nodup) (hk : k ∈ ks) {f : κ → ℚ}
    (hf : ∀ l ∈ ks, l ≠ k → f l = 0) : (ks.map f).sum = f k := by
  induction ks with
  | nil => simp at hk
  | cons l ks ih =>
      obtain ⟨hl, hks⟩ := List.nodup_cons.1 hks
      rw [List.map_cons, List.sum_cons]
      rcases List.mem_cons.1 hk with rfl | hk
      · have hzero : (ks.map f).sum = 0 := List.sum_eq_zero fun x hx => by
          obtain ⟨l, hl', rfl⟩ := List.mem_map.1 hx
          exact hf l (List.mem_cons_of_mem k hl') fun he => hl (he ▸ hl')
        rw [hzero, add_zero]
      · have hne : l ≠ k := fun he => hl (he ▸ hk)
        rw [hf l List.mem_cons_self hne, zero_add]
        exact ih hks hk fun l' hl' => hf l' (List.mem_cons_of_mem l hl')

theorem sum_pos (hne : ks ≠ []) (ha : ∀ k ∈ ks, 0 < a k) : 0 < (ks.map a).sum := by
  cases ks with
  | nil => contradiction
  | cons k ks =>
      have htail : 0 ≤ (ks.map a).sum := List.sum_nonneg fun x hx => by
        obtain ⟨l, hl, rfl⟩ := List.mem_map.1 hx
        exact (ha l (List.mem_cons_of_mem k hl)).le
      have hhead := ha k List.mem_cons_self
      rw [List.map_cons, List.sum_cons]
      linarith

/-- In proportion to one another, in proportion to the sums. -/
theorem Proportional.sum (h : Proportional ks a w) {k : κ} (hk : k ∈ ks) :
    a k * (ks.map w).sum = (ks.map a).sum * w k := by
  rw [← sum_mul_left, mul_comm, ← sum_mul_left]
  refine congrArg List.sum (List.map_congr_left fun l hl => ?_)
  rw [h k hk l hl, mul_comm]

/-- Errors within `ε` of each value are within it of a weighed sum. -/
theorem abs_sum_le (e : κ → ℚ) (ks : List κ) (h : ∀ k ∈ ks, |e k| ≤ ε * a k) :
    |(ks.map e).sum| ≤ ε * (ks.map a).sum := by
  induction ks with
  | nil => simp
  | cons k ks ih =>
      have hhead := h k List.mem_cons_self
      have htail := ih fun l hl => h l (List.mem_cons_of_mem k hl)
      rw [List.map_cons, List.sum_cons, List.map_cons, List.sum_cons, mul_add]
      exact (abs_add_le _ _).trans (add_le_add hhead htail)

theorem sum_sub (f g : κ → ℚ) (ks : List κ) :
    (ks.map fun k => f k - g k).sum = (ks.map f).sum - (ks.map g).sum := by
  induction ks with
  | nil => simp
  | cons k ks ih =>
      simp only [List.map_cons, List.sum_cons, ih]
      ring

/-- **Proportional weights** recombine means that are within `ε` of the groups' to one that is
within `ε` of the mean of all values. -/
theorem recombined_near (hne : ks ≠ []) (ha : ∀ k ∈ ks, 0 < a k) (hw : ∀ k ∈ ks, 0 < w k)
    (h : Proportional ks a w) (hr : ∀ k ∈ ks, |r k - s k / a k| ≤ ε) :
    |(ks.map fun k => r k * w k).sum / (ks.map w).sum - (ks.map s).sum / (ks.map a).sum| ≤ ε := by
  have hA := sum_pos hne ha
  have hW := sum_pos hne hw
  have hweights : (ks.map fun k => r k * w k).sum / (ks.map w).sum =
      (ks.map fun k => r k * a k).sum / (ks.map a).sum := by
    rw [div_eq_div_iff hW.ne' hA.ne', mul_comm, ← sum_mul_left, mul_comm (ks.map fun k => r k * a k).sum,
      ← sum_mul_left]
    refine congrArg List.sum (List.map_congr_left fun k hk => ?_)
    have := h.sum hk
    linear_combination -r k * this
  have herror : |(ks.map fun k => r k * a k - s k).sum| ≤ ε * (ks.map a).sum := by
    refine abs_sum_le _ ks fun k hk => ?_
    have hpos := ha k hk
    have hsplit : r k * a k - s k = (r k - s k / a k) * a k := by
      field_simp
    rw [hsplit, abs_mul, abs_of_pos hpos]
    exact mul_le_mul_of_nonneg_right (hr k hk) hpos.le
  rw [hweights, ← sub_div, abs_div, abs_of_pos hA, div_le_iff₀ hA, ← sum_sub]
  exact herror

/-- A rate that stays within a bound at every multiple is zero. -/
theorem eq_zero_of_bounded {d c : ℚ} (h : ∀ x : ℕ, |x * d| ≤ c) : d = 0 := by
  by_contra hd
  have hpos : 0 < |d| := abs_pos.2 hd
  obtain ⟨x, hx⟩ := exists_nat_gt (c / |d|)
  have hlt : c < x * |d| := (div_lt_iff₀ hpos).1 hx
  have hle := h x
  rw [abs_mul, Nat.abs_cast] at hle
  linarith

/-- **Only proportional weights** keep close to the mean of all values, when one group alone has
values that grow. -/
theorem proportional_of_near (ha : ∀ k ∈ ks, 0 < a k) (hw : ∀ k ∈ ks, 0 < w k) {c : ℚ}
    (h : ∀ k ∈ ks, ∀ x : ℕ, |x * (w k / (ks.map w).sum - a k / (ks.map a).sum)| ≤ c) :
    Proportional ks a w := by
  have hrate : ∀ k ∈ ks, w k * (ks.map a).sum = a k * (ks.map w).sum := by
    intro k hk
    have hne : ks ≠ [] := List.ne_nil_of_mem hk
    have hzero := eq_zero_of_bounded (h k hk)
    rwa [sub_eq_zero, div_eq_div_iff (sum_pos hne hw).ne' (sum_pos hne ha).ne'] at hzero
  intro k hk l hl
  have hne : ks ≠ [] := List.ne_nil_of_mem hk
  have hA := sum_pos hne ha
  have hk' := hrate k hk
  have hl' := hrate l hl
  refine mul_left_cancel₀ hA.ne' ?_
  linear_combination a k * hl' - a l * hk'

/-! ## ratios of sums -/

variable {u t : κ → Nat}

theorem exists_ratio_le (hne : ks ≠ []) :
    ∃ k ∈ ks, u k * (ks.map t).sum ≤ (ks.map u).sum * t k := by
  by_contra hnone
  have hlt : ∀ k ∈ ks, (ks.map u).sum * t k < u k * (ks.map t).sum := fun k hk =>
    lt_of_not_ge fun hle => hnone ⟨k, hk, hle⟩
  have hsum := List.sum_lt_sum_of_ne_nil hne _ _ hlt
  rw [List.sum_map_mul_left, List.sum_map_mul_right] at hsum
  exact absurd hsum (lt_irrefl _)

theorem exists_le_ratio (hne : ks ≠ []) :
    ∃ k ∈ ks, (ks.map u).sum * t k ≤ u k * (ks.map t).sum := by
  by_contra hnone
  have hlt : ∀ k ∈ ks, u k * (ks.map t).sum < (ks.map u).sum * t k := fun k hk =>
    lt_of_not_ge fun hle => hnone ⟨k, hk, hle⟩
  have hsum := List.sum_lt_sum_of_ne_nil hne _ _ hlt
  rw [List.sum_map_mul_left, List.sum_map_mul_right] at hsum
  exact absurd hsum (lt_irrefl _)

end UptimeFlow.WeightedMeans
