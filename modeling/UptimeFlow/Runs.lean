import Mathlib.Data.List.Basic

/-!
# UptimeFlow.Runs

Runs of a deterministic step function: a state, a list of operations, and
what holds at each operation of the run.

A property of a run is stated with `Along`: every operation of the run meets
`P` in the state it finds.  A safety theorem is then one instance of
`Along.of_inv`: an invariant that a step keeps under a condition `C` carries
`P` along every run that meets `C`.
-/

namespace UptimeFlow.Runs

variable {σ α : Type*}

/-- The state after the operations, left to right. -/
def run (step : σ → α → σ) (s : σ) (ops : List α) : σ := ops.foldl step s

@[simp] theorem run_nil (step : σ → α → σ) (s : σ) : run step s [] = s := rfl

@[simp] theorem run_cons (step : σ → α → σ) (s : σ) (a : α) (ops : List α) :
    run step s (a :: ops) = run step (step s a) ops := rfl

theorem run_append (step : σ → α → σ) (s : σ) (xs ys : List α) :
    run step s (xs ++ ys) = run step (run step s xs) ys := by
  simp [run, List.foldl_append]

/-- Every operation of the run meets `P` in the state it is applied to. -/
def Along (step : σ → α → σ) (P : σ → α → Prop) : σ → List α → Prop
  | _, [] => True
  | s, a :: ops => P s a ∧ Along step P (step s a) ops

instance Along.decidable (step : σ → α → σ) (P : σ → α → Prop) [∀ s a, Decidable (P s a)] :
    (s : σ) → (ops : List α) → Decidable (Along step P s ops)
  | _, [] => isTrue trivial
  | s, a :: ops =>
      have := Along.decidable step P (step s a) ops
      inferInstanceAs (Decidable (P s a ∧ Along step P (step s a) ops))

section
variable {step : σ → α → σ} {P C : σ → α → Prop} {I : σ → Prop}

@[simp] theorem along_nil (s : σ) : Along step P s [] := trivial

@[simp] theorem along_cons (s : σ) (a : α) (ops : List α) :
    Along step P s (a :: ops) ↔ P s a ∧ Along step P (step s a) ops := Iff.rfl

theorem along_append (s : σ) (xs ys : List α) :
    Along step P s (xs ++ ys) ↔ Along step P s xs ∧ Along step P (run step s xs) ys := by
  induction xs generalizing s with
  | nil => simp
  | cons x xs ih => simp [ih, and_assoc]

/-- What holds of the operations in every state holds along the run. -/
theorem Along.of_forall {ops : List α} (h : ∀ a ∈ ops, ∀ s, P s a) (s : σ) :
    Along step P s ops := by
  induction ops generalizing s with
  | nil => exact trivial
  | cons a ops ih =>
      obtain ⟨ha, hops⟩ := List.forall_mem_cons.1 h
      exact ⟨ha s, ih hops (step s a)⟩

theorem Along.and {s : σ} {ops : List α} (hP : Along step P s ops) (hC : Along step C s ops) :
    Along step (fun s a => P s a ∧ C s a) s ops := by
  induction ops generalizing s with
  | nil => exact trivial
  | cons a ops ih => exact ⟨⟨hP.1, hC.1⟩, ih hP.2 hC.2⟩

/-- What a step keeps, a run keeps. -/
theorem inv_run (hstep : ∀ s a, I s → C s a → I (step s a)) {s : σ} {ops : List α}
    (hI : I s) (hC : Along step C s ops) : I (run step s ops) := by
  induction ops generalizing s with
  | nil => exact hI
  | cons a ops ih => exact ih (hstep s a hI hC.1) hC.2

/-- What every step keeps, every run keeps. -/
theorem inv_run_of_step (hstep : ∀ s a, I s → I (step s a)) {s : σ} (hI : I s) (ops : List α) :
    I (run step s ops) := by
  induction ops generalizing s with
  | nil => exact hI
  | cons a ops ih => exact ih (hstep s a hI)

/-- An invariant kept under `C` carries along the run whatever it implies of one
operation. -/
theorem Along.of_inv (hstep : ∀ s a, I s → C s a → I (step s a))
    (hP : ∀ s a, I s → C s a → P s a) {s : σ} {ops : List α}
    (hI : I s) (hC : Along step C s ops) : Along step P s ops := by
  induction ops generalizing s with
  | nil => exact trivial
  | cons a ops ih => exact ⟨hP s a hI hC.1, ih (hstep s a hI hC.1) hC.2⟩

/-- Where the invariant makes `P` and `C` the same condition on one operation, they
are the same condition on a run. -/
theorem along_iff (hstep : ∀ s a, I s → C s a → I (step s a))
    (hPC : ∀ s a, I s → (P s a ↔ C s a)) {s : σ} {ops : List α} (hI : I s) :
    Along step P s ops ↔ Along step C s ops := by
  constructor
  · intro hP
    induction ops generalizing s with
    | nil => exact trivial
    | cons a ops ih =>
        have hC : C s a := (hPC s a hI).mp hP.1
        exact ⟨hC, ih (hstep s a hI hC) hP.2⟩
  · exact Along.of_inv hstep (fun s a hI hC => (hPC s a hI).mpr hC) hI

/-- Along a run of operations that meet `D` and so keep the invariant, conditions that
agree on each operation agree on the run. -/
theorem along_congr {D : σ → α → Prop} (hstep : ∀ s a, I s → D s a → I (step s a))
    (hPC : ∀ s a, I s → D s a → (P s a ↔ C s a)) {s : σ} {ops : List α} (hI : I s)
    (hD : Along step D s ops) : Along step P s ops ↔ Along step C s ops := by
  induction ops generalizing s with
  | nil => simp
  | cons a ops ih =>
      rw [along_cons, along_cons, hPC s a hI hD.1, ih (hstep s a hI hD.1) hD.2]

end

end UptimeFlow.Runs
