import UptimeFlow.Effects

/-!
# UptimeFlow.Attempts

A computation that is run again until it succeeds.

A queue gives a failed job back and runs it once more in the store the failed
attempt left behind.  `Completes` is one such history: every attempt but the
last raises, the last one ends with a value.  `firstOf` makes the attempts itself,
with one parameter after the other.
-/

namespace UptimeFlow

open Eff

variable {σ ε α φ : Type}

/-- The attempts `x p` for the parameters in turn: all raise but the last, which ends with `a`
in the store `t`. -/
inductive Completes (x : φ → Eff σ ε α) : List φ → σ → α → σ → Prop where
  | done {p : φ} {s t : σ} {a : α} (h : (x p).run s = (.ok a, t)) : Completes x [p] s a t
  | again {p : φ} {ps : List φ} {s u t : σ} {e : ε} {a : α} (h : (x p).run s = (.error e, u))
      (hrest : Completes x ps u a t) : Completes x (p :: ps) s a t

/-- Attempts that all raise, from the store `s` to the store `t`. -/
inductive Fails (x : φ → Eff σ ε α) : List φ → σ → σ → Prop where
  | none {s : σ} : Fails x [] s s
  | more {p : φ} {ps : List φ} {s u t : σ} {e : ε} (h : (x p).run s = (.error e, u))
      (hrest : Fails x ps u t) : Fails x (p :: ps) s t

namespace Fails

variable {x : φ → Eff σ ε α} {I : σ → Prop} {ps : List φ} {s t : σ}

/-- What the failing attempts keep holds after them. -/
theorem inv (h : Fails x ps s t)
    (hstep : ∀ p ∈ ps, ∀ s e u, I s → (x p).run s = (.error e, u) → I u) (hI : I s) : I t := by
  induction h with
  | none => exact hI
  | more h _ ih =>
      obtain ⟨hp, hps⟩ := List.forall_mem_cons.1 hstep
      exact ih hps (hp _ _ _ hI h)

/-- A measure that no attempt lowers and one of them raises is raised by the whole. -/
theorem lt_of_mem {m : σ → Nat} (h : Fails x ps s t) (hI : I s)
    (hstep : ∀ p s e u, I s → (x p).run s = (.error e, u) → I u ∧ m s ≤ m u) {p : φ} (hp : p ∈ ps)
    (hraise : ∀ s e u, I s → (x p).run s = (.error e, u) → m s < m u) : m s < m t := by
  have hle : ∀ {qs : List φ} {s t : σ}, Fails x qs s t → I s → m s ≤ m t := by
    intro qs s t h
    induction h with
    | none => exact fun _ => Nat.le_refl _
    | more h _ ih =>
        intro hI
        obtain ⟨hkept, hless⟩ := hstep _ _ _ _ hI h
        exact Nat.le_trans hless (ih hkept)
  induction h with
  | none => cases hp
  | more h hrest ih =>
      obtain ⟨hkept, hless⟩ := hstep _ _ _ _ hI h
      obtain rfl | hp := List.mem_cons.1 hp
      · exact Nat.lt_of_lt_of_le (hraise _ _ _ hI h) (hle hrest hkept)
      · exact Nat.lt_of_le_of_lt hless (ih hkept hp)

end Fails

/-- A history is the attempts that failed, and the one that succeeded. -/
theorem Completes.split {x : φ → Eff σ ε α} {ps : List φ} {s t : σ} {a : α}
    (h : Completes x ps s a t) :
    ∃ p u, ps.getLast? = some p ∧ Fails x ps.dropLast s u ∧ (x p).run u = (.ok a, t) := by
  induction h with
  | done h => exact ⟨_, _, rfl, .none, h⟩
  | @again p ps s u t e a h hrest ih =>
      obtain ⟨q, v, hlast, hfails, hok⟩ := ih
      have hne : ps ≠ [] := by
        rintro rfl
        cases hlast
      refine ⟨q, v, ?_, ?_, hok⟩
      · rw [List.getLast?_cons, hlast]
        rfl
      · rw [List.dropLast_cons_of_ne_nil hne]
        exact .more h hfails

namespace Completes

variable {x : φ → Eff σ ε α} {I : σ → Prop}

/-- What every attempt keeps, the whole history keeps. -/
theorem inv (hstep : ∀ p s, I s → I ((x p).run s).2) {ps : List φ} {s t : σ} {a : α}
    (h : Completes x ps s a t) (hI : I s) : I t := by
  induction h with
  | done h =>
      rename_i p s t a
      have hkept := hstep p s hI
      rwa [h] at hkept
  | again h _ ih =>
      rename_i p ps s u t e a _
      have hkept := hstep p s hI
      rw [h] at hkept
      exact ih hkept

end Completes

/-! ## one after the other -/

/-- `x` with the parameters in turn, until it does not raise; the last error is raised again. -/
def firstOf (x : φ → Eff σ ε α) : List φ → ε → Eff σ ε α
  | [], lastError => raise lastError
  | p :: ps, _ => rescue (x p) fun e => firstOf x ps e

/-- It ends with the first value, or with the error of the last attempt when all have raised. -/
theorem firstOf_cases (x : φ → Eff σ ε α) {ps : List φ} (hne : ps ≠ []) (lastError : ε) (s : σ) :
    (∃ before p after a t, ps = before ++ p :: after ∧ Completes x (before ++ [p]) s a t ∧
      (firstOf x ps lastError).run s = (.ok a, t)) ∨
    ∃ before p u e t, ps = before ++ [p] ∧ Fails x before s u ∧ (x p).run u = (.error e, t) ∧
      (firstOf x ps lastError).run s = (.error e, t) := by
  induction ps generalizing lastError s with
  | nil => contradiction
  | cons p ps ih =>
      rw [firstOf, rescue_run]
      rcases hrun : (x p).run s with ⟨e | a, u⟩
      · by_cases hps : ps = []
        · subst hps
          exact .inr ⟨[], p, s, e, u, rfl, .none, hrun, rfl⟩
        · rcases ih hps e u with
            ⟨before, q, after, a, t, rfl, hcompletes, hok⟩ |
              ⟨before, q, v, e', t, rfl, hfails, hlast, herror⟩
          · exact .inl ⟨p :: before, q, after, a, t, rfl, .again hrun hcompletes, hok⟩
          · exact .inr ⟨p :: before, q, v, e', t, rfl, .more hrun hfails, hlast, herror⟩
      · exact .inl ⟨[], p, ps, a, u, rfl, .done hrun, rfl⟩

/-- What every attempt leaves alone stays as it was. -/
theorem Eff.Frames.firstOf {τ : Type} {view : σ → τ} {x : φ → Eff σ ε α}
    (h : ∀ p, Frames view (x p)) (ps : List φ) (lastError : ε) :
    Frames view (firstOf x ps lastError) := by
  induction ps generalizing lastError with
  | nil => exact fun _ => rfl
  | cons p ps ih => exact (h p).rescue fun e => ih e

end UptimeFlow
