import Mathlib.Data.Bool.Basic
import Mathlib.Data.List.Induction
import UptimeFlow.Runs

/-!
# UptimeFlow.StateMachine

The pure monitor state machine: `transition` takes the persisted health, the
outcome of one check, the two counters and the two confirmation thresholds to
the next state, the next counters and the incident action they imply.

Every later module goes through the inversion lemmas of this one —
`transition_open_iff`, `transition_resolve_iff` and the `transition_state_*`
family — and never unfolds `transition` itself.  The last section follows a
monitor through a whole run of checks and settles when an incident may be
resolved.
-/

namespace UptimeFlow

open Runs

/-- The persisted health of a monitor. -/
inductive MonitorHealth where
  | up | down | degraded | pending | paused | maintenance | recovering
deriving DecidableEq, Repr

/-- The five canonical states of the machine. -/
inductive MonitorState where
  | pending | up | down | recovering | maintenance
deriving DecidableEq, Repr

/-- The health a state is persisted as. -/
def MonitorState.toHealth : MonitorState → MonitorHealth
  | .pending => .pending
  | .up => .up
  | .down => .down
  | .recovering => .recovering
  | .maintenance => .maintenance

@[simp] theorem MonitorState.toHealth_inj {s t : MonitorState} :
    s.toHealth = t.toHealth ↔ s = t := by
  cases s <;> cases t <;> simp [toHealth]

/-- What a transition asks of the incident table, if anything. -/
inductive IncidentAction where
  | open | resolve
deriving DecidableEq, Repr

structure TransitionInput where
  current : MonitorHealth
  success : Bool
  priorConsecutiveFailures : Nat
  priorConsecutiveSuccesses : Nat
  failureThreshold : Nat
  successThreshold : Nat
  inMaintenance : Bool
deriving DecidableEq, Repr

structure TransitionResult where
  state : MonitorState
  consecutiveFailures : Nat
  consecutiveSuccesses : Nat
  incident : Option IncidentAction
  changed : Bool
deriving DecidableEq, Repr

/-- Collapse the persisted enum onto the five canonical states. -/
def normalize : MonitorHealth → MonitorState
  | .down => .down
  | .recovering => .recovering
  | .pending => .pending
  | .maintenance => .maintenance
  | .up | .degraded | .paused => .up

theorem normalize_outage_iff {health : MonitorHealth} :
    normalize health = .down ∨ normalize health = .recovering ↔
      health = .down ∨ health = .recovering := by
  cases health <;> simp [normalize]

def incidentAction (prev next : MonitorState) : Option IncidentAction :=
  if next = .down ∧ prev ≠ .down ∧ prev ≠ .recovering then some .open
  else if next = .up ∧ (prev = .down ∨ prev = .recovering ∨ prev = .maintenance) then
    some .resolve
  else none

/-- The state `transition` moves to, outside maintenance. -/
def nextState (prev : MonitorState) (success failureConfirmed successConfirmed : Bool) :
    MonitorState :=
  match prev with
  | .pending => if success then .up else if failureConfirmed then .down else .pending
  | .down | .recovering =>
      if !success then .down else if successConfirmed then .up else .recovering
  -- leaving maintenance is optimistic, as staying up is
  | .maintenance => if success then .up else if failureConfirmed then .down else .up
  | .up => if success then .up else if failureConfirmed then .down else .up

def transition (input : TransitionInput) : TransitionResult :=
  let prev := normalize input.current
  let consecutiveFailures := if input.success then 0 else input.priorConsecutiveFailures + 1
  let consecutiveSuccesses := if input.success then input.priorConsecutiveSuccesses + 1 else 0
  let failureConfirmed : Bool := input.failureThreshold ≤ consecutiveFailures
  let successConfirmed : Bool := input.successThreshold ≤ consecutiveSuccesses
  let next :=
    if input.inMaintenance then .maintenance
    else nextState prev input.success failureConfirmed successConfirmed
  { state := next
    consecutiveFailures := consecutiveFailures
    consecutiveSuccesses := consecutiveSuccesses
    incident := incidentAction prev next
    changed := next ≠ prev }

/-! ## what a transition can do -/

section
variable {input : TransitionInput}

theorem transition_state_of_maintenance (h : input.inMaintenance = true) :
    (transition input).state = .maintenance := by
  simp [transition, h]

theorem transition_incident_of_maintenance (h : input.inMaintenance = true) :
    (transition input).incident = none := by
  simp [transition, h, incidentAction]

/-- Outside maintenance a state never becomes `maintenance`. -/
theorem transition_state_ne_maintenance (h : input.inMaintenance = false) :
    (transition input).state ≠ .maintenance := by
  simp only [transition, h]
  cases normalize input.current <;> cases input.success <;> grind [nextState]

/-- An incident is opened exactly by a confirmed failure outside maintenance, from a
state in which the machine takes no incident to be open. -/
theorem transition_open_iff :
    (transition input).incident = some .open ↔
      input.inMaintenance = false ∧ input.success = false ∧
        input.failureThreshold ≤ input.priorConsecutiveFailures + 1 ∧
        normalize input.current ≠ .down ∧ normalize input.current ≠ .recovering := by
  simp only [transition, incidentAction]
  cases normalize input.current <;> cases input.success <;> cases input.inMaintenance <;>
    grind [nextState]

/-- An incident is resolved by a confirmed success out of `down` or `recovering`, or by
*any* check that leaves maintenance for `up`: a success, or a failure short of its
threshold. -/
theorem transition_resolve_iff :
    (transition input).incident = some .resolve ↔
      input.inMaintenance = false ∧
        (((normalize input.current = .down ∨ normalize input.current = .recovering) ∧
            input.success = true ∧
            input.successThreshold ≤ input.priorConsecutiveSuccesses + 1) ∨
          (normalize input.current = .maintenance ∧
            (input.success = true ∨
              input.priorConsecutiveFailures + 1 < input.failureThreshold))) := by
  simp only [transition, incidentAction]
  cases normalize input.current <;> cases input.success <;> cases input.inMaintenance <;>
    grind [nextState]

/-- Opening always lands in `down`. -/
theorem transition_state_of_open (h : (transition input).incident = some .open) :
    (transition input).state = .down := by
  obtain ⟨hm, hs, hf, h1, h2⟩ := transition_open_iff.mp h
  simp only [transition, hm, hs]
  cases hn : normalize input.current <;> grind [nextState]

/-- Resolving always lands in `up`. -/
theorem transition_state_of_resolve (h : (transition input).incident = some .resolve) :
    (transition input).state = .up := by
  obtain ⟨hm, hr⟩ := transition_resolve_iff.mp h
  simp only [transition, hm]
  cases hn : normalize input.current <;> cases hs : input.success <;> grind [nextState]

/-- Out of `down`, `recovering` or `maintenance`, the machine is `up` only by resolving. -/
theorem transition_resolve_of_up (hu : (transition input).state = .up)
    (hp : normalize input.current ≠ .up) (hn : normalize input.current ≠ .pending) :
    (transition input).incident = some .resolve := by
  have hinc : (transition input).incident =
      incidentAction (normalize input.current) (transition input).state := rfl
  rw [hinc, hu]
  cases hc : normalize input.current <;> simp_all [incidentAction]

/-- Entering `down` opens, unless the machine was already `recovering` or `down`. -/
theorem transition_open_of_down (hd : (transition input).state = .down)
    (hp : normalize input.current ≠ .down) (hr : normalize input.current ≠ .recovering) :
    (transition input).incident = some .open := by
  have hinc : (transition input).incident =
      incidentAction (normalize input.current) (transition input).state := rfl
  rw [hinc, hd]
  simp [incidentAction, hp, hr]

/-- An outage that no incident is opened for was one before the check. -/
theorem transition_outage_prev (h : (transition input).incident ≠ some .open)
    (hs : (transition input).state = .down ∨ (transition input).state = .recovering) :
    normalize input.current = .down ∨ normalize input.current = .recovering := by
  by_contra hp
  rw [not_or] at hp
  rcases hs with hs | hs
  · exact h (transition_open_of_down hs hp.1 hp.2)
  · simp only [transition] at hs
    cases hc : normalize input.current <;> grind [nextState]

/-- A check that neither opens nor resolves keeps an outage an outage, in the open or
behind a maintenance window. -/
theorem transition_outage_of_none (h : (transition input).incident = none)
    (hp : normalize input.current = .down ∨ normalize input.current = .recovering ∨
      normalize input.current = .maintenance) :
    (transition input).state = .down ∨ (transition input).state = .recovering ∨
      (transition input).state = .maintenance := by
  have hinc : (transition input).incident =
      incidentAction (normalize input.current) (transition input).state := rfl
  rw [hinc] at h
  simp only [transition] at h ⊢
  rcases hp with hp | hp | hp <;> cases hm : input.inMaintenance <;> cases hs : input.success <;>
    grind [nextState, incidentAction]

end

/-! ## runs of the machine -/

/-- What a transition reads and writes of a monitor. -/
structure Machine where
  health : MonitorHealth
  consecutiveFailures : Nat
  consecutiveSuccesses : Nat
deriving DecidableEq, Repr

/-- One check as the machine sees it: its outcome, the maintenance flag and the
thresholds in force at that moment. -/
structure Check where
  success : Bool
  inMaintenance : Bool
  failureThreshold : Nat
  successThreshold : Nat
deriving DecidableEq, Repr

/-- The call of `transition` for a check of a monitor. -/
def Machine.input (m : Machine) (c : Check) : TransitionInput :=
  { current := m.health
    success := c.success
    priorConsecutiveFailures := m.consecutiveFailures
    priorConsecutiveSuccesses := m.consecutiveSuccesses
    failureThreshold := c.failureThreshold
    successThreshold := c.successThreshold
    inMaintenance := c.inMaintenance }

def Machine.decide (m : Machine) (c : Check) : TransitionResult := transition (m.input c)

/-- Persist the result of the transition. -/
def Machine.advance (m : Machine) (c : Check) : Machine :=
  { health := (m.decide c).state.toHealth
    consecutiveFailures := (m.decide c).consecutiveFailures
    consecutiveSuccesses := (m.decide c).consecutiveSuccesses }

/-- A monitor whose counters are zero: a new one, or one just resumed. -/
def Machine.start (health : MonitorHealth) : Machine := ⟨health, 0, 0⟩

/-- The machine after the checks of a run. -/
def after (health : MonitorHealth) (checks : List Check) : Machine :=
  run Machine.advance (Machine.start health) checks

theorem after_concat (health : MonitorHealth) (checks : List Check) (c : Check) :
    after health (checks ++ [c]) = (after health checks).advance c := by
  simp [after, run_append]

/-- How many of the latest entries satisfy `p`, back to the first that does not. -/
def streak {α : Type*} (p : α → Bool) (xs : List α) : Nat := (xs.reverse.takeWhile p).length

theorem streak_concat {α : Type*} (p : α → Bool) (xs : List α) (x : α) :
    streak p (xs ++ [x]) = if p x then streak p xs + 1 else 0 := by
  simp only [streak, List.reverse_append, List.reverse_singleton, List.singleton_append,
    List.takeWhile_cons]
  split <;> simp

/-- The counters of the machine are the streaks of its history. -/
theorem counters_after (health : MonitorHealth) (checks : List Check) :
    (after health checks).consecutiveSuccesses = streak (·.success) checks ∧
      (after health checks).consecutiveFailures = streak (!·.success) checks := by
  induction checks using List.reverseRecOn with
  | nil => exact ⟨rfl, rfl⟩
  | append_singleton checks c ih =>
      rw [after_concat, streak_concat, streak_concat]
      cases hc : c.success <;>
        simp [Machine.advance, Machine.decide, Machine.input, transition, hc, ih]

/-- A check made while the monitor is persisted as `MAINTENANCE`, the window being over. -/
def LeavesMaintenance (m : Machine) (c : Check) : Prop :=
  m.health = .maintenance ∧ c.inMaintenance = false

/-- The machine resolves in one of two ways. -/
theorem decide_resolve_iff (m : Machine) (c : Check) :
    (m.decide c).incident = some .resolve ↔
      c.inMaintenance = false ∧
        (((m.health = .down ∨ m.health = .recovering) ∧ c.success = true ∧
            c.successThreshold ≤ m.consecutiveSuccesses + 1) ∨
          (m.health = .maintenance ∧
            (c.success = true ∨ m.consecutiveFailures + 1 < c.failureThreshold))) := by
  rw [Machine.decide, transition_resolve_iff]
  cases h : m.health <;> simp [Machine.input, normalize, h]

/-! ## the threshold law -/

/-- `resolve` is produced only by a successful check outside maintenance at which the
successes in a row have reached the success threshold. -/
def ResolvesWhenConfirmed (health : MonitorHealth) (checks : List Check) : Prop :=
  ∀ pre c post, checks = pre ++ c :: post →
    ((after health pre).decide c).incident = some .resolve →
      c.success = true ∧ c.inMaintenance = false ∧
        c.successThreshold ≤ streak (·.success) (pre ++ [c])

/-- A monitor that is `DOWN` when a maintenance period (`period`, the checks made in it)
begins is not made `UP` by a failing check that follows the period. -/
def DownThroughMaintenance (health : MonitorHealth) (checks : List Check) : Prop :=
  ∀ pre period c post, checks = pre ++ period ++ c :: post →
    period ≠ [] → (∀ x ∈ period, x.inMaintenance = true) →
    (after health pre).health = .down → c.success = false →
      (after health (pre ++ period ++ [c])).health ≠ .up

def ThresholdLaw (health : MonitorHealth) (checks : List Check) : Prop :=
  ResolvesWhenConfirmed health checks ∧ DownThroughMaintenance health checks

/-- Every check of the run that leaves maintenance is a confirmed one: as many
successes, or as many failures, in a row as its threshold asks for. -/
def ConfirmedExits (health : MonitorHealth) (checks : List Check) : Prop :=
  ∀ pre c post, checks = pre ++ c :: post → LeavesMaintenance (after health pre) c →
    if c.success then c.successThreshold ≤ streak (·.success) (pre ++ [c])
    else c.failureThreshold ≤ streak (!·.success) (pre ++ [c])

/-- A maintenance period leaves the monitor in `MAINTENANCE`. -/
theorem after_period (health : MonitorHealth) (pre period : List Check) (hne : period ≠ [])
    (hp : ∀ x ∈ period, x.inMaintenance = true) :
    (after health (pre ++ period)).health = .maintenance := by
  obtain ⟨period, x, rfl⟩ := List.eq_nil_or_concat period |>.resolve_left hne
  have hx : x.inMaintenance = true := hp x (by simp)
  rw [List.concat_eq_append, ← List.append_assoc, after_concat, Machine.advance, Machine.decide,
    transition_state_of_maintenance (by simpa [Machine.input] using hx)]
  rfl

theorem resolvesWhenConfirmed_of_confirmedExits {health : MonitorHealth} {checks : List Check}
    (h : ConfirmedExits health checks) : ResolvesWhenConfirmed health checks := by
  intro pre c post hsplit hres
  obtain ⟨hs, hf⟩ := counters_after health pre
  obtain ⟨hm, hcase⟩ := (decide_resolve_iff _ _).mp hres
  rcases hcase with ⟨-, hsucc, hthr⟩ | ⟨hmaint, hexit⟩
  · refine ⟨hsucc, hm, ?_⟩
    rw [streak_concat, if_pos hsucc, ← hs]
    exact hthr
  · have hconf := h pre c post hsplit ⟨hmaint, hm⟩
    by_cases hsucc : c.success = true
    · rw [if_pos hsucc] at hconf
      exact ⟨hsucc, hm, hconf⟩
    · -- a failing check that resolves is short of its threshold, so it is no confirmed exit
      rw [if_neg hsucc, streak_concat, if_pos (by simp [hsucc]), ← hf] at hconf
      rcases hexit with hexit | hexit
      · exact absurd hexit hsucc
      · omega

theorem confirmedExits_of_resolvesWhenConfirmed {health : MonitorHealth} {checks : List Check}
    (h : ResolvesWhenConfirmed health checks) : ConfirmedExits health checks := by
  rintro pre c post hsplit ⟨hmaint, hm⟩
  obtain ⟨hs, hf⟩ := counters_after health pre
  by_cases hsucc : c.success = true
  · rw [if_pos hsucc]
    have hres : ((after health pre).decide c).incident = some .resolve :=
      (decide_resolve_iff _ _).mpr ⟨hm, .inr ⟨hmaint, .inl hsucc⟩⟩
    exact (h pre c post hsplit hres).2.2
  · rw [if_neg hsucc, streak_concat, if_pos (by simp [hsucc]), ← hf]
    by_contra hlt
    have hres : ((after health pre).decide c).incident = some .resolve :=
      (decide_resolve_iff _ _).mpr ⟨hm, .inr ⟨hmaint, .inr (by omega)⟩⟩
    exact hsucc (h pre c post hsplit hres).1

/-- The law for resolving already forbids a failing check to end a maintenance period
as `UP`: such a check resolves. -/
theorem downThroughMaintenance_of_resolvesWhenConfirmed {health : MonitorHealth}
    {checks : List Check} (h : ResolvesWhenConfirmed health checks) :
    DownThroughMaintenance health checks := by
  intro pre period c post hsplit hne hp _ hfail hup
  have hmaint := after_period health pre period hne hp
  rw [after_concat] at hup
  have hst : ((after health (pre ++ period)).decide c).state = .up := by
    rw [Machine.advance] at hup
    exact (MonitorState.toHealth_inj (t := .up)).mp hup
  have hres : ((after health (pre ++ period)).decide c).incident = some .resolve := by
    apply transition_resolve_of_up hst <;> simp [Machine.input, hmaint, normalize]
  have := (h (pre ++ period) c post hsplit hres).1
  rw [hfail] at this
  contradiction

/-- **Threshold law**: over a run, incidents are resolved by confirmed successes only,
and a monitor that went into maintenance `DOWN` does not come out `UP` on a failure,
exactly when every check that leaves maintenance is a confirmed one. -/
theorem thresholdLaw_iff (health : MonitorHealth) (checks : List Check) :
    ThresholdLaw health checks ↔ ConfirmedExits health checks := by
  constructor
  · exact fun h => confirmedExits_of_resolvesWhenConfirmed h.1
  · intro h
    have hres := resolvesWhenConfirmed_of_confirmedExits h
    exact ⟨hres, downThroughMaintenance_of_resolvesWhenConfirmed hres⟩

/-- Two failures confirm an outage, one success under maintenance clears the failure
counter, and the next failure leaves maintenance. -/
def unconfirmedExit : List Check :=
  [⟨false, false, 2, 1⟩, ⟨false, false, 2, 1⟩, ⟨true, true, 2, 1⟩, ⟨false, false, 2, 1⟩]

/-- The failing check that ends the maintenance period resolves the incident and turns
the monitor `UP`. -/
theorem not_thresholdLaw_unconfirmedExit :
    ¬ ResolvesWhenConfirmed .pending unconfirmedExit ∧
      ¬ DownThroughMaintenance .pending unconfirmedExit := by
  constructor
  · intro h
    have := h (unconfirmedExit.take 3) ⟨false, false, 2, 1⟩ [] rfl (by decide)
    exact absurd this.1 (by decide)
  · intro h
    exact h (unconfirmedExit.take 2) [⟨true, true, 2, 1⟩] ⟨false, false, 2, 1⟩ [] rfl (by decide)
      (by decide) (by decide) rfl (by decide)

end UptimeFlow
