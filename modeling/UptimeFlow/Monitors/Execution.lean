import UptimeFlow.Effects
import UptimeFlow.Monitors.Validations

/-!
# UptimeFlow.Monitors.Execution

A check: a probe, and in-check retries while it fails.

The probe is a computation on whatever it reads its signals from, and the loop
runs it once an attempt.  On a tape of signals the position reached is the number
of probes run, so what is reported can be compared with it: the first attempt
that succeeds decides, or else the last one (`executeCheck_run`), and the status
is what the worst violation makes of it (`status_iff`).
-/

namespace UptimeFlow.Monitors

open Monitoring (CheckStatus)

/-- The outcome of a check. -/
structure ProbeOutcome extends Outcome where
  attempts : Nat
deriving DecidableEq, Repr

def isSuccess (status : CheckStatus) : Bool := status = .up || status = .degraded

section
variable {ν : Type} (js : Host ν) {σ ε : Type}

/-- The attempts from number `attempt` on, with `left` retries to go.  The backoff between two
attempts takes time only. -/
def executeFrom (monitor : MonitorSnapshot) (probe : Eff σ ε ProbeSignal) :
    Nat → Nat → Eff σ ε ProbeOutcome
  | 0, attempt => do
      let signal ← probe
      pure ⟨classifySignal js monitor signal, attempt + 1⟩
  | left + 1, attempt => do
      let signal ← probe
      let outcome := classifySignal js monitor signal
      if isSuccess outcome.status then pure ⟨outcome, attempt + 1⟩
      else executeFrom monitor probe left (attempt + 1)

/-- Run one full check: on failure, retry up to `retries` times. -/
def executeCheck (monitor : MonitorSnapshot) (retries : Nat) (probe : Eff σ ε ProbeSignal) :
    Eff σ ε ProbeOutcome :=
  executeFrom js monitor probe retries 0

/-! ## statuses -/

/-- Some violation of the signal is an error. -/
def HasError (monitor : MonitorSnapshot) (signal : ProbeSignal) : Prop :=
  ∃ v ∈ evaluateValidations js monitor signal, v.severity = .error

/-- What a status says of the signal it was read off. -/
structure Reflects (monitor : MonitorSnapshot) (signal : ProbeSignal) (status : CheckStatus) :
    Prop where
  failing : (status ≠ .up ∧ status ≠ .degraded) ↔
    signal.reachable = false ∨ HasError js monitor signal
  degraded : status = .degraded ↔ signal.reachable = true ∧
    evaluateValidations js monitor signal ≠ [] ∧
    ∀ v ∈ evaluateValidations js monitor signal, v.severity = .warn
  up : status = .up ↔ signal.reachable = true ∧ evaluateValidations js monitor signal = []

theorem statusForUnreachable_failing (errorType : Option String) :
    statusForUnreachable errorType ≠ .up ∧ statusForUnreachable errorType ≠ .degraded := by
  unfold statusForUnreachable
  split_ifs <;> simp

theorem ValidationSeverity.ne_error_iff {severity : ValidationSeverity} :
    severity ≠ .error ↔ severity = .warn := by
  cases severity <;> simp

theorem status_of_unreachable {monitor : MonitorSnapshot} {signal : ProbeSignal}
    (h : signal.reachable = false) :
    (classifySignal js monitor signal).status = statusForUnreachable signal.errorType := by
  simp [classifySignal, h]

theorem status_of_reachable (monitor : MonitorSnapshot) {signal : ProbeSignal}
    (h : signal.reachable = true) :
    (classifySignal js monitor signal).status =
      if (evaluateValidations js monitor signal).any fun v => v.severity = .error then .down
      else if (evaluateValidations js monitor signal).any fun v => v.severity = .warn then .degraded
      else .up := by
  simp [classifySignal, h]

/-- The worst of the violations decides. -/
theorem reflects_classifySignal (monitor : MonitorSnapshot) (signal : ProbeSignal) :
    Reflects js monitor signal (classifySignal js monitor signal).status := by
  cases hreach : signal.reachable with
  | false =>
      rw [status_of_unreachable js hreach]
      have hfailing := statusForUnreachable_failing signal.errorType
      constructor <;> simp [hfailing, hreach]
  | true =>
      rw [status_of_reachable js monitor hreach]
      have herror : ((evaluateValidations js monitor signal).any fun v => v.severity = .error) =
          true ↔ HasError js monitor signal := by
        simp [HasError]
      by_cases h : HasError js monitor signal
      · rw [if_pos (herror.2 h)]
        obtain ⟨v, hv, hseverity⟩ := h
        have hwarn : ¬ ∀ v ∈ evaluateValidations js monitor signal, v.severity = .warn := by
          intro hall
          rw [hall v hv] at hseverity
          cases hseverity
        constructor
        · simp [show HasError js monitor signal from ⟨v, hv, hseverity⟩]
        · simp [hwarn]
        · simp [List.ne_nil_of_mem hv]
      · rw [if_neg fun hany => h (herror.1 hany)]
        -- none of the violations is an error, so any there is warns
        have hwarn : ∀ v ∈ evaluateValidations js monitor signal, v.severity = .warn :=
          fun v hv => ValidationSeverity.ne_error_iff.1 fun hseverity => h ⟨v, hv, hseverity⟩
        cases hlist : evaluateValidations js monitor signal with
        | nil => constructor <;> simp [h, hreach, hlist]
        | cons v vs =>
            rw [hlist] at hwarn
            have hany : (v :: vs).any (fun v => v.severity = .warn) = true := by
              simp [hwarn v List.mem_cons_self]
            rw [if_pos hany]
            constructor
            · simp [h, hreach]
            · simpa [hreach, hlist] using hwarn
            · simp [hlist]

/-! ## runs -/

/-- A probe that reads its signals off a tape; the state is the number of probes run. -/
def nextSignal (signals : Nat → ProbeSignal) : Eff Nat ε ProbeSignal :=
  ⟨fun n => (.ok (signals n), n + 1)⟩

@[simp] theorem nextSignal_bind_run {α : Type} (signals : Nat → ProbeSignal)
    (f : ProbeSignal → Eff Nat ε α) (n : Nat) :
    (nextSignal signals >>= f).run n = (f (signals n)).run (n + 1) := rfl

/-- Attempt `n` would end the check. -/
def Succeeds (monitor : MonitorSnapshot) (signals : Nat → ProbeSignal) (n : Nat) : Prop :=
  (classifySignal js monitor (signals n)).status = .up ∨
    (classifySignal js monitor (signals n)).status = .degraded

theorem isSuccess_iff {monitor : MonitorSnapshot} {signals : Nat → ProbeSignal} {n : Nat} :
    isSuccess (classifySignal js monitor (signals n)).status = true ↔
      Succeeds js monitor signals n := by
  simp [isSuccess, Succeeds]

/-- The loop from an attempt on: it ends with the first attempt that succeeds, or the last. -/
theorem executeFrom_run (monitor : MonitorSnapshot) (signals : Nat → ProbeSignal)
    (left attempt : Nat) :
    ∃ last, attempt ≤ last ∧ last ≤ attempt + left ∧
      (executeFrom js monitor (nextSignal signals : Eff Nat ε ProbeSignal) left attempt).run
        attempt = (.ok ⟨classifySignal js monitor (signals last), last + 1⟩, last + 1) ∧
      (∀ k, attempt ≤ k → k < last → ¬ Succeeds js monitor signals k) ∧
      (Succeeds js monitor signals last ∨ last = attempt + left) := by
  induction left generalizing attempt with
  | zero =>
      exact ⟨attempt, Nat.le_refl _, Nat.le_refl _, rfl, by omega, .inr rfl⟩
  | succ left ih =>
      by_cases h : Succeeds js monitor signals attempt
      · refine ⟨attempt, Nat.le_refl _, by omega, ?_, by omega, .inl h⟩
        rw [executeFrom, nextSignal_bind_run, if_pos ((isSuccess_iff js).2 h)]
        rfl
      · obtain ⟨last, hle, hle', hrun, hbefore, hlast⟩ := ih (attempt + 1)
        refine ⟨last, by omega, by omega, ?_, fun k hk hlt => ?_, ?_⟩
        · rw [executeFrom, nextSignal_bind_run, if_neg fun hstop => h ((isSuccess_iff js).1 hstop)]
          exact hrun
        · by_cases hkeq : k = attempt
          · rw [hkeq]
            exact h
          · exact hbefore k (by omega) hlt
        · rcases hlast with hlast | hlast
          · exact .inl hlast
          · right
            omega

/-- **A check** of `retries` retries: it runs at most one probe more, the attempt it classifies is
the first that succeeds or else the last of them all, it reports the number of probes run, and
its status is what that attempt's signal calls for. -/
theorem executeCheck_run (monitor : MonitorSnapshot) (retries : Nat)
    (signals : Nat → ProbeSignal) :
    ∃ last, last + 1 ≤ retries + 1 ∧
      (executeCheck js monitor retries (nextSignal signals : Eff Nat ε ProbeSignal)).run 0 =
        (.ok ⟨classifySignal js monitor (signals last), last + 1⟩, last + 1) ∧
      (∀ k < last, ¬ Succeeds js monitor signals k) ∧
      (Succeeds js monitor signals last ∨ last + 1 = retries + 1) ∧
      Reflects js monitor (signals last) (classifySignal js monitor (signals last)).status := by
  obtain ⟨last, _, hle, hrun, hbefore, hlast⟩ := executeFrom_run js (ε := ε) monitor signals
    retries 0
  exact ⟨last, by omega, hrun, fun k hk => hbefore k (Nat.zero_le k) hk,
    hlast.imp_right fun h => by omega, reflects_classifySignal js monitor (signals last)⟩

end

end UptimeFlow.Monitors
