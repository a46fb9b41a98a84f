import UptimeFlow.Effects

/-!
# UptimeFlow.Retrying

A computation that is tried again for as long as its errors allow it.

`retrying` gives up at the first error that is not worth another attempt and at
the last attempt it may make; between two attempts it waits, and what the wait
leaves in the store is known from the attempt and its error.  `Failing` is a
stretch of attempts that are all tried again, and `retrying_cases` says that a
run is one such stretch and the attempt that decides.
-/

namespace UptimeFlow.Eff

variable {σ ε α : Type}

/-- `x` up to `left` times, the first time as attempt number `attempt`. -/
def retrying (x : Eff σ ε α) (retryable : ε → Bool) (wait : Nat → ε → σ → σ) :
    Nat → Nat → ε → Eff σ ε α
  | 0, _, lastError => raise lastError
  | left + 1, attempt, _ => rescue x fun e =>
      if !retryable e || left = 0 then raise e
      else ⟨fun s => (retrying x retryable wait left (attempt + 1) e).run (wait attempt e s)⟩

/-- The attempts from number `k` on up to number `m` all fail with errors worth another one. -/
inductive Failing (x : Eff σ ε α) (retryable : ε → Bool) (wait : Nat → ε → σ → σ) :
    Nat → σ → Nat → σ → Prop where
  | none {k : Nat} {s : σ} : Failing x retryable wait k s k s
  | more {k m : Nat} {s u t : σ} {e : ε} (h : x.run s = (.error e, u)) (he : retryable e = true)
      (hrest : Failing x retryable wait (k + 1) (wait k e u) m t) : Failing x retryable wait k s m t

variable {x : Eff σ ε α} {retryable : ε → Bool} {wait : Nat → ε → σ → σ}

/-- What an attempt and the wait behind it keep holds when the attempts that failed are over. -/
theorem Failing.inv {J : Nat → σ → Prop} {k m : Nat} {s t : σ}
    (h : Failing x retryable wait k s m t)
    (hstep : ∀ k s e u, J k s → x.run s = (.error e, u) → retryable e = true →
      J (k + 1) (wait k e u)) (hJ : J k s) : J m t := by
  induction h with
  | none => exact hJ
  | more h he _ ih => exact ih (hstep _ _ _ _ hJ h he)

/-- Some attempts fail and are tried again; the next one succeeds, or fails for good, or is the
last one allowed. -/
theorem retrying_cases {left : Nat} (hleft : 0 < left) (k : Nat) (lastError : ε) (s : σ) :
    ∃ m u r t, Failing x retryable wait k s m u ∧ x.run u = (r, t) ∧
      (retrying x retryable wait left k lastError).run s = (r, t) ∧ m < k + left ∧
      ∀ e, r = .error e → retryable e = false ∨ m + 1 = k + left := by
  induction left generalizing k lastError s with
  | zero => contradiction
  | succ left ih =>
      rw [retrying, rescue_run]
      rcases hrun : x.run s with ⟨e | a, u⟩
      · by_cases hlast : (!retryable e || left = 0) = true
        · refine ⟨k, s, .error e, u, .none, hrun, by simp [hlast, raise], by omega, ?_⟩
          rintro _ ⟨⟩
          simp only [Bool.or_eq_true, Bool.not_eq_true', decide_eq_true_eq] at hlast
          exact hlast.imp id fun h => by omega
        · rw [Bool.not_eq_true, Bool.or_eq_false_iff] at hlast
          have hleft' : 0 < left := Nat.pos_of_ne_zero (of_decide_eq_false hlast.2)
          obtain ⟨m, v, r, t, hfailing, hlastRun, hresult, hlt, hend⟩ :=
            ih hleft' (k + 1) e (wait k e u)
          refine ⟨m, v, r, t, .more hrun (by simpa using hlast.1) hfailing, hlastRun, ?_,
            by omega, fun e' he' => (hend e' he').imp id fun h => by omega⟩
          simpa [hlast] using hresult
      · exact ⟨k, s, .ok a, u, .none, hrun, rfl, by omega, fun e he => by cases he⟩

end UptimeFlow.Eff
