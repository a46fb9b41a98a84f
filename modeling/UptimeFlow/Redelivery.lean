import UptimeFlow.Runs

/-!
# UptimeFlow.Redelivery

Receivers that see a message more than once.

`firsts` keeps the first delivery of each message and drops the later ones.
A receiver for which a message, once delivered, is settled — every further
delivery of it changes nothing — ends in the same state with and without the
repetitions (`run_firsts`).
-/

namespace UptimeFlow.Redelivery

open Runs

variable {σ α κ : Type*} [DecidableEq κ]

/-- The deliveries of messages that are not among `seen`, each message once. -/
def firstsFrom (message : α → κ) : List κ → List α → List α
  | _, [] => []
  | seen, d :: ds =>
      if message d ∈ seen then firstsFrom message seen ds
      else d :: firstsFrom message (message d :: seen) ds

/-- The first delivery of each message. -/
def firsts (message : α → κ) (ds : List α) : List α := firstsFrom message [] ds

section
variable {step : σ → α → σ} {message : α → κ} {C : σ → α → Prop} {I : σ → Prop}
  {Settled : σ → κ → Prop}

theorem run_firstsFrom (hstep : ∀ s d, I s → C s d → I (step s d))
    (hsettles : ∀ s d, I s → C s d → Settled (step s d) (message d))
    (hkeeps : ∀ s d k, Settled s k → Settled (step s d) k)
    (hskips : ∀ s d, C s d → Settled s (message d) → step s d = s)
    {ds : List α} {s : σ} {seen : List κ} (hI : I s) (hC : Along step C s ds)
    (hseen : ∀ k ∈ seen, Settled s k) :
    run step s (firstsFrom message seen ds) = run step s ds := by
  induction ds generalizing s seen with
  | nil => rfl
  | cons d ds ih =>
      rw [firstsFrom]
      split
      · rename_i hmem
        have hsame : step s d = s := hskips s d hC.1 (hseen _ hmem)
        have hrest : Along step C s ds := hsame ▸ hC.2
        rw [run_cons, hsame]
        exact ih hI hrest hseen
      · rw [run_cons, run_cons]
        refine ih (hstep s d hI hC.1) hC.2 fun k hk => ?_
        obtain rfl | hk := List.mem_cons.1 hk
        · exact hsettles s d hI hC.1
        · exact hkeeps s d k (hseen k hk)

/-- **Later repetitions change nothing**: a run ends where the run of the first deliveries
ends. -/
theorem run_firsts (hstep : ∀ s d, I s → C s d → I (step s d))
    (hsettles : ∀ s d, I s → C s d → Settled (step s d) (message d))
    (hkeeps : ∀ s d k, Settled s k → Settled (step s d) k)
    (hskips : ∀ s d, C s d → Settled s (message d) → step s d = s)
    {ds : List α} {s : σ} (hI : I s) (hC : Along step C s ds) :
    run step s (firsts message ds) = run step s ds :=
  run_firstsFrom hstep hsettles hkeeps hskips hI hC (by simp)

end

end UptimeFlow.Redelivery
