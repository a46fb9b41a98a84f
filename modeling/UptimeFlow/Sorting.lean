import Mathlib.Data.List.Sort

/-!
# UptimeFlow.Sorting

Sorting that keeps the order of what compares equal.

`insertionSort` puts an element before the first one it is not behind, so of
two that are not apart the one that came first stays first
(`pairwise_insertionSort_stable`).  What is cut off a sorted list is behind what
is kept (`take_insertionSort`).
-/

namespace UptimeFlow.Sorting

variable {α : Type*} (r : α → α → Prop) [DecidableRel r]

/-- In order, and in the old order where both ways round are in order. -/
def Stably (s : α → α → Prop) (a b : α) : Prop := r a b ∧ (r b a → s a b)

variable {r} [Std.Total r] [IsTrans α r] {s : α → α → Prop} {l : List α}

theorem pairwise_orderedInsert_stable {a : α} (hbefore : ∀ b ∈ l, s a b)
    (hl : l.Pairwise (Stably r s)) : (l.orderedInsert r a).Pairwise (Stably r s) := by
  induction l with
  | nil => exact List.pairwise_singleton _ _
  | cons b l ih =>
      obtain ⟨hb, hrest⟩ := List.pairwise_cons.1 hl
      rw [List.orderedInsert_cons]
      split
      · next hab =>
          refine List.pairwise_cons.2 ⟨fun c hc => ⟨?_, fun _ => hbefore c hc⟩, hl⟩
          obtain rfl | hc := List.mem_cons.1 hc
          · exact hab
          · exact IsTrans.trans a b c hab (hb c hc).1
      · next hab =>
          have hba : r b a := (Std.Total.total a b).resolve_left hab
          refine List.pairwise_cons.2 ⟨fun c hc => ?_,
            ih (fun c hc => hbefore c (List.mem_cons_of_mem b hc)) hrest⟩
          obtain rfl | hc := (List.mem_orderedInsert r).1 hc
          · exact ⟨hba, fun hcb => absurd hcb hab⟩
          · exact hb c hc

/-- **The sort is stable.** -/
theorem pairwise_insertionSort_stable (hl : l.Pairwise s) :
    (l.insertionSort r).Pairwise (Stably r s) := by
  induction l with
  | nil => exact .nil
  | cons a l ih =>
      obtain ⟨ha, hrest⟩ := List.pairwise_cons.1 hl
      rw [List.insertionSort_cons]
      refine pairwise_orderedInsert_stable (fun b hb => ha b ?_) (ih hrest)
      exact (List.mem_insertionSort r).1 hb

/-- The first of a sorted list: the rest is behind each of them. -/
theorem take_insertionSort (l : List α) (n : Nat) :
    ∃ rest, l.Perm ((l.insertionSort r).take n ++ rest) ∧
      ((l.insertionSort r).take n).Pairwise r ∧
      ∀ a ∈ (l.insertionSort r).take n, ∀ b ∈ rest, r a b := by
  have hsorted : ((l.insertionSort r).take n ++ (l.insertionSort r).drop n).Pairwise r := by
    rw [List.take_append_drop]
    exact List.pairwise_insertionSort r l
  obtain ⟨htake, -, hapart⟩ := List.pairwise_append.1 hsorted
  refine ⟨(l.insertionSort r).drop n, ?_, htake, hapart⟩
  rw [List.take_append_drop]
  exact (List.perm_insertionSort r l).symm

end UptimeFlow.Sorting
