import Mathlib.Data.List.Induction
import UptimeFlow.Runs

/-!
# UptimeFlow.Past

What the operations of a run have done so far.

`Since Q P` says that at some operation of the run `P` held, and that `Q` has
held at every operation after it: with `Q` the absence of an event, it speaks
of the latest one.  A property of the history is proved like an invariant, by
adding one operation at the end (`since_concat`), and `prefixes_iff` carries an
equivalence for one more operation to whole runs.
-/

namespace UptimeFlow.Past

open Runs

variable {σ α : Type*} {step : σ → α → σ} {P Q : σ → α → Prop} {s : σ}

theorem run_concat (s : σ) (ops : List α) (a : α) :
    run step s (ops ++ [a]) = step (run step s ops) a := by
  rw [run_append, run_cons, run_nil]

theorem along_concat (ops : List α) (a : α) :
    Along step P s (ops ++ [a]) ↔ Along step P s ops ∧ P (run step s ops) a := by
  simp [along_append]

/-! ## since -/

/-- `P` held at an operation of the run, and `Q` at every operation since. -/
def Since (step : σ → α → σ) (Q P : σ → α → Prop) (s : σ) (ops : List α) : Prop :=
  ∃ before a after, ops = before ++ a :: after ∧ P (run step s before) a ∧
    Along step Q (run step s (before ++ [a])) after

theorem not_since_nil : ¬ Since step Q P s [] := by
  rintro ⟨before, a, after, hops, -⟩
  simp at hops

/-- **One more operation**: it is the one at which `P` held, or it is one of those since. -/
theorem since_concat {ops : List α} {a : α} :
    Since step Q P s (ops ++ [a]) ↔
      P (run step s ops) a ∨ (Since step Q P s ops ∧ Q (run step s ops) a) := by
  constructor
  · rintro ⟨before, b, after, hops, hP, hQ⟩
    rcases List.eq_nil_or_concat' after with rfl | ⟨after, c, rfl⟩
    · obtain ⟨rfl, hab⟩ := List.append_inj' hops rfl
      obtain rfl : a = b := by simpa using hab
      exact .inl hP
    · have hops' : ops ++ [a] = (before ++ b :: after) ++ [c] := by simpa using hops
      obtain ⟨rfl, hac⟩ := List.append_inj' hops' rfl
      obtain rfl : a = c := by simpa using hac
      have hlast := (along_concat after a).1 hQ
      refine .inr ⟨⟨before, b, after, rfl, hP, hlast.1⟩, ?_⟩
      have hrun : run step s (before ++ b :: after) = run step (run step s (before ++ [b])) after := by
        rw [← run_append, List.append_assoc, List.singleton_append]
      rw [hrun]
      exact hlast.2
  · rintro (hP | ⟨⟨before, b, after, rfl, hP, hQ⟩, hlast⟩)
    · exact ⟨ops, a, [], rfl, hP, trivial⟩
    · refine ⟨before, b, after ++ [a], by simp, hP, (along_concat after a).2 ⟨hQ, ?_⟩⟩
      rw [← run_append, List.append_assoc, List.singleton_append]
      exact hlast

/-- What has held since, in a weaker form. -/
theorem Since.mono {Q' : σ → α → Prop} {ops : List α} (h : Since step Q P s ops)
    (hQ : ∀ s a, Q s a → Q' s a) : Since step Q' P s ops := by
  obtain ⟨before, a, after, hops, hP, hafter⟩ := h
  exact ⟨before, a, after, hops, hP, Along.of_inv (I := fun _ => True) (fun _ _ _ _ => trivial)
    (fun s a _ => hQ s a) trivial hafter⟩

/-! ## histories -/

/-- Where, on histories that meet `J`, one more operation gives `H` if and only if it meets
`C`, and then keeps `J`: `H` holds of all prefixes of a run exactly when every operation
meets `C`. -/
theorem prefixes_iff {H J : List α → Prop} {C : σ → α → Prop} (hH : H []) (hJ : J [])
    (hiff : ∀ ops a, J ops → (H (ops ++ [a]) ↔ C (run step s ops) a))
    (hkeep : ∀ ops a, J ops → C (run step s ops) a → J (ops ++ [a])) (ops : List α) :
    (∀ before, before <+: ops → H before) ↔ Along step C s ops := by
  suffices hmain : ((∀ before, before <+: ops → H before) ↔ Along step C s ops) ∧
      (Along step C s ops → J ops) from hmain.1
  induction ops using List.reverseRecOn with
  | nil =>
      refine ⟨⟨fun _ => trivial, fun _ before hbefore => ?_⟩, fun _ => hJ⟩
      rw [List.prefix_nil.1 hbefore]
      exact hH
  | append_singleton ops a ih =>
      obtain ⟨hih, hJops⟩ := ih
      rw [along_concat]
      refine ⟨⟨fun hall => ?_, fun hC before hbefore => ?_⟩, fun hC => ?_⟩
      · have hC := hih.1 fun before hbefore => hall before (hbefore.trans (List.prefix_append _ _))
        exact ⟨hC, (hiff ops a (hJops hC)).1 (hall _ List.prefix_rfl)⟩
      · rcases List.prefix_concat_iff.1 hbefore with rfl | hbefore
        · exact (hiff ops a (hJops hC.1)).2 hC.2
        · exact hih.2 hC.1 before hbefore
      · exact hkeep ops a (hJops hC.1) hC.2

end UptimeFlow.Past
