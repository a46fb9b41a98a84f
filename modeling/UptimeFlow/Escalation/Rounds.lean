import UptimeFlow.Escalation.System

/-!
# UptimeFlow.Escalation.Rounds

A chain of jobs under a policy that does not change.

`LoadedPolicy.schedule` lists what the policy asks for: in every round each
step in order, after that step's own delay.  At any time the jobs done so far
and what lies `ahead` of the one job that waits make up the schedule
(`OnSchedule`); so the jobs done are a prefix of it, and when nothing waits the
whole of it: `rounds_complete`.
-/

namespace UptimeFlow.Escalation

open Runs
open Monitoring (IncidentId PolicyId EscalationContext EscalationJobData minutesToMs)

/-! ## the schedule -/

/-- One step fired: where it stands in the schedule, and the delay its job was enqueued with. -/
structure Execution where
  round : Nat
  stepIndex : Nat
  position : Int
  delay : Int
deriving DecidableEq, Repr

namespace LoadedPolicy

variable (policy : LoadedPolicy)

/-- Every step once, in order. -/
def roundOf (round : Nat) : List Execution :=
  policy.steps.mapIdx fun i step => ⟨round, i, step.position, minutesToMs step.delayMinutes⟩

/-- All rounds: the first and the repeats. -/
def schedule : List Execution := (List.range (policy.repeatCount + 1)).flatMap policy.roundOf

/-- What is left of the schedule from a place on. -/
def ahead (round stepIndex : Nat) : List Execution :=
  (policy.roundOf round).drop stepIndex ++
    (List.range' (round + 1) (policy.repeatCount - round)).flatMap policy.roundOf

theorem length_roundOf (round : Nat) : (policy.roundOf round).length = policy.steps.length :=
  List.length_mapIdx

theorem length_schedule :
    policy.schedule.length = policy.steps.length * (policy.repeatCount + 1) := by
  have hlength : ∀ n, ((List.range n).flatMap policy.roundOf).length = policy.steps.length * n := by
    intro n
    induction n with
    | zero => simp
    | succ n ih =>
        rw [List.range_succ, List.flatMap_append, List.length_append, ih, List.flatMap_singleton,
          length_roundOf, Nat.mul_succ]
  exact hlength _

theorem schedule_eq_ahead : policy.schedule = policy.ahead 0 0 := by
  rw [schedule, ahead, List.range_eq_range', List.range'_succ, List.flatMap_cons, List.drop_zero,
    Nat.sub_zero]

variable {policy}

/-- The place itself, then the places after it in the round. -/
theorem ahead_of_step {round stepIndex : Nat} {step : StepRow}
    (hstep : policy.steps[stepIndex]? = some step) :
    policy.ahead round stepIndex =
      ⟨round, stepIndex, step.position, minutesToMs step.delayMinutes⟩ ::
        policy.ahead round (stepIndex + 1) := by
  obtain ⟨hlt, rfl⟩ := List.getElem?_eq_some_iff.1 hstep
  have hround : stepIndex < (policy.roundOf round).length := by rwa [length_roundOf]
  rw [ahead, List.drop_eq_getElem_cons hround, List.cons_append, ahead]
  simp [roundOf]

/-- Past the last step the next round begins. -/
theorem ahead_of_past {round stepIndex : Nat} (hpast : policy.steps[stepIndex]? = none)
    (hround : round < policy.repeatCount) : policy.ahead round stepIndex =
      policy.ahead (round + 1) 0 := by
  rw [List.getElem?_eq_none_iff] at hpast
  have hdone : (policy.roundOf round).drop stepIndex = [] :=
    List.drop_eq_nil_of_le (by rwa [length_roundOf])
  obtain ⟨left, hleft⟩ : ∃ left, policy.repeatCount - round = left + 1 :=
    ⟨policy.repeatCount - round - 1, by omega⟩
  have hleft' : policy.repeatCount - (round + 1) = left := by omega
  rw [ahead, hdone, List.nil_append, hleft, List.range'_succ, List.flatMap_cons, ahead, hleft',
    List.drop_zero]

/-- Past the last step of the last round nothing is left. -/
theorem ahead_of_end {round stepIndex : Nat} (hpast : policy.steps[stepIndex]? = none)
    (hround : ¬ round < policy.repeatCount) : policy.ahead round stepIndex = [] := by
  rw [List.getElem?_eq_none_iff] at hpast
  have hdone : (policy.roundOf round).drop stepIndex = [] :=
    List.drop_eq_nil_of_le (by rwa [length_roundOf])
  have hleft : policy.repeatCount - round = 0 := by omega
  rw [ahead, hdone, hleft]
  rfl

end LoadedPolicy

/-! ## jobs on schedule -/

/-- The job is at a step of the policy, and was enqueued with that step's delay. -/
def AtStep (policy : LoadedPolicy) (policyId : PolicyId) (job : EscalationJobData) : Prop :=
  job.policyId = policyId ∧ ∃ step, policy.steps[job.stepIndex]? = some step ∧
    job.delay = minutesToMs step.delayMinutes

/-- **A successor is at the next place of the schedule, with the delay of its own step; without one
the schedule is at its end.** -/
theorem successor_ahead {policy : LoadedPolicy} {policyId : PolicyId} {job : EscalationJobData}
    (hsteps : policy.steps ≠ []) (hjob : AtStep policy policyId job) :
    match successor policy job with
    | some next => AtStep policy policyId next ∧
        policy.ahead job.round (job.stepIndex + 1) = policy.ahead next.round next.stepIndex
    | none => policy.ahead job.round (job.stepIndex + 1) = [] := by
  obtain ⟨hpolicyId, -⟩ := hjob
  unfold successor
  cases hnext : policy.steps[job.stepIndex + 1]? with
  | some step => exact ⟨⟨hpolicyId, step, hnext, rfl⟩, rfl⟩
  | none =>
      by_cases hround : job.round < policy.repeatCount
      · obtain ⟨first, later, hfirst⟩ := List.exists_cons_of_ne_nil hsteps
        have hhead : policy.steps[0]? = some first := by simp [hfirst]
        simp only [hround, if_true, hfirst, List.head?_cons, Option.map_some]
        exact ⟨⟨hpolicyId, first, hhead, rfl⟩, LoadedPolicy.ahead_of_past hnext hround⟩
      · simp only [hround, if_false]
        exact LoadedPolicy.ahead_of_end hnext hround

/-- The step a processed job fired. -/
def Processed.execution (p : Processed) : Option Execution :=
  p.result.stepFired.map fun position => ⟨p.job.round, p.job.stepIndex, position, p.job.delay⟩

/-- The steps fired for an incident, in order. -/
def System.executions (s : System) (id : IncidentId) : List Execution :=
  (s.processed id).filterMap Processed.execution

/-- The incident is open, the policy is the one given, and no attempt at a job fails. -/
def Steady (deps : Deps) (id : IncidentId) (policyId : PolicyId) (policy : LoadedPolicy)
    (s : System) (op : Op) : Prop :=
  (∃ incident ∈ s.db.incidentOf id, incident.status = .open) ∧
    s.db.loadPolicy policyId = some policy ∧ s.succeeds deps id op = true

instance (deps : Deps) (id : IncidentId) (policyId : PolicyId) (policy : LoadedPolicy)
    (s : System) (op : Op) : Decidable (Steady deps id policyId policy s op) :=
  inferInstanceAs (Decidable ((∃ incident ∈ s.db.incidentOf id, _) ∧ _ ∧ _))

/-- The steps fired and what lies ahead of the waiting job make up the schedule. -/
def OnSchedule (id : IncidentId) (policyId : PolicyId) (policy : LoadedPolicy) (s : System) :
    Prop :=
  (∃ job, s.pending id = [job] ∧ AtStep policy policyId job ∧
      s.executions id ++ policy.ahead job.round job.stepIndex = policy.schedule) ∨
    s.pending id = [] ∧ s.executions id = policy.schedule

theorem active_of_steady {deps : Deps} {policyId : PolicyId} {policy : LoadedPolicy} {s : System}
    {op : Op} {job : EscalationJobData} (h : Steady deps job.incidentId policyId policy s op)
    (hsteps : policy.steps ≠ []) (hpolicyId : job.policyId = policyId) :
    ∃ incident, s.db.active job = some (incident, policy) := by
  obtain ⟨⟨incident, hincident, hopen⟩, hpolicy, -⟩ := h
  refine ⟨incident, ?_⟩
  unfold Db.active
  rw [Option.mem_def] at hincident
  simp [hincident, hpolicyId, hpolicy, hopen, hsteps]

/-- **Step lemma**: while the incident stays open and the policy as it is, the chain stays on
schedule. -/
theorem OnSchedule.step {deps : Deps} {id : IncidentId} {policyId : PolicyId}
    {policy : LoadedPolicy} {s : System} (h : OnSchedule id policyId policy s) {op : Op}
    (hsteps : policy.steps ≠ []) (hsteady : Steady deps id policyId policy s op)
    (hstarts : op.starts id = false) : OnSchedule id policyId policy (s.step deps op) := by
  cases step_moves deps id s op with
  | still hpending hprocessed =>
      rwa [OnSchedule, System.executions, hpending, hprocessed]
  | started hstarts' => simp [hstarts] at hstarts'
  | failed hfails => simp [hsteady.2.2] at hfails
  | @finished job result rest hperm hpending hprocessed hfired =>
      obtain ⟨waiting, hwaiting, hat, hahead⟩ | ⟨hnone, -⟩ := h
      · rw [hwaiting] at hperm
        obtain ⟨rfl, rfl⟩ : job = waiting ∧ rest = [] := by simpa using List.perm_singleton.1 hperm
        rw [List.nil_append] at hpending
        have hmem : job ∈ s.pending id := by simp [hwaiting]
        have hid : job.incidentId = id := incident_of_pending hmem
        subst hid
        obtain ⟨incident, hactive⟩ := active_of_steady hsteady hsteps hat.1
        obtain ⟨step, hstep, hdelay⟩ := hat.2
        -- the job fires the first step of what lay ahead
        have hexecutions : (s.step deps op).executions job.incidentId =
            s.executions job.incidentId ++
              [⟨job.round, job.stepIndex, step.position, minutesToMs step.delayMinutes⟩] := by
          rw [System.executions, hprocessed, List.filterMap_append, System.executions]
          simp [Processed.execution, hfired, Db.stepOf, hactive, hstep, hdelay]
        rw [LoadedPolicy.ahead_of_step hstep, List.append_cons, ← hexecutions] at hahead
        have hnext : s.db.next job = successor policy job := by simp [Db.next, hactive]
        have hplace := successor_ahead hsteps hat
        cases hsuccessor : successor policy job with
        | none =>
            rw [hsuccessor] at hplace hnext
            rw [hplace, List.append_nil] at hahead
            exact .inr ⟨by simp [hpending, hnext], hahead⟩
        | some next =>
            rw [hsuccessor] at hplace hnext
            rw [hplace.2] at hahead
            exact .inl ⟨next, by simp [hpending, hnext], hplace.1, hahead⟩
      · rw [hnone] at hperm
        simp at hperm

/-- The first job of a chain is at the first place. -/
theorem OnSchedule.start {deps : Deps} {ctx : EscalationContext} {policy : LoadedPolicy}
    {s : System} (hsteps : policy.steps ≠ [])
    (hpolicy : s.db.loadPolicy ctx.policyId = some policy)
    (hpending : s.pending ctx.incidentId = []) (hprocessed : s.processed ctx.incidentId = []) :
    OnSchedule ctx.incidentId ctx.policyId policy (s.step deps (.start noFaults ctx)) := by
  have hrows : s.db.stepsOf ctx.policyId = policy.steps := by
    obtain ⟨row, -, rfl⟩ := Option.map_eq_some_iff.1 hpolicy
    rfl
  obtain ⟨first, later, hfirst⟩ := List.exists_cons_of_ne_nil hsteps
  have hstep : s.step deps (.start noFaults ctx) =
      { s with db := { s.db with
          escalationQueue := s.db.escalationQueue ++ [firstJob ctx first] } } := by
    rw [System.step, escalationStarter_run, hrows, hfirst]
    rfl
  rw [System.pending] at hpending
  rw [System.processed] at hprocessed
  rw [hstep]
  refine .inl ⟨firstJob ctx first, ?_, ⟨rfl, first, by simp [hfirst, firstJob], rfl⟩, ?_⟩
  · simp [System.pending, hpending, firstJob]
  · rw [System.executions, System.processed, hprocessed, List.filterMap_nil, List.nil_append,
      policy.schedule_eq_ahead]
    rfl

/-- What being on schedule says of the chain. -/
theorem OnSchedule.conclude {id : IncidentId} {policyId : PolicyId} {policy : LoadedPolicy}
    {s : System} (h : OnSchedule id policyId policy s) :
    (s.pending id).length ≤ 1 ∧ s.executions id <+: policy.schedule ∧
      (s.pending id = [] ↔ s.executions id = policy.schedule) := by
  obtain ⟨job, hjob, ⟨-, step, hstep, -⟩, hahead⟩ | ⟨hnone, hall⟩ := h
  · refine ⟨by simp [hjob], ⟨_, hahead⟩, by simp [hjob], fun hall => ?_⟩
    rw [hall] at hahead
    have hnone := List.append_cancel_left (hahead.trans (List.append_nil _).symm)
    rw [LoadedPolicy.ahead_of_step hstep] at hnone
    cases hnone
  · exact ⟨by simp [hnone], by simp [hall], by simp [hnone, hall]⟩

theorem onSchedule_run {deps : Deps} {ctx : EscalationContext} {policy : LoadedPolicy} {s : System}
    {ops : List Op} (hsteps : policy.steps ≠ []) (hpending : s.pending ctx.incidentId = [])
    (hprocessed : s.processed ctx.incidentId = [])
    (hsteady : Along (System.step deps) (Steady deps ctx.incidentId ctx.policyId policy) s
      (.start noFaults ctx :: ops))
    (honce : ∀ op ∈ ops, op.starts ctx.incidentId = false) :
    OnSchedule ctx.incidentId ctx.policyId policy
      (run (System.step deps) s (.start noFaults ctx :: ops)) := by
  obtain ⟨⟨-, hpolicy, -⟩, hlater⟩ := hsteady
  exact inv_run (s := s.step deps (.start noFaults ctx))
    (C := fun s op => Steady deps ctx.incidentId ctx.policyId policy s op ∧
      op.starts ctx.incidentId = false)
    (fun s op h hop => h.step hsteps hop.1 hop.2)
    (OnSchedule.start hsteps hpolicy hpending hprocessed)
    (hlater.and (Along.of_forall (fun op hop _ => honce op hop) _))

/-- **A chain fires every step once in each round, in order, each after its own delay, and then
ends**: at any time one job waits at most, the steps fired are a prefix of the schedule, and nothing
waits exactly when all `k * (r + 1)` of them are fired. -/
theorem rounds_complete (deps : Deps) {ctx : EscalationContext} {policy : LoadedPolicy}
    {s : System} {ops : List Op} (hsteps : policy.steps ≠ [])
    (hpending : s.pending ctx.incidentId = []) (hprocessed : s.processed ctx.incidentId = [])
    (hsteady : Along (System.step deps) (Steady deps ctx.incidentId ctx.policyId policy) s
      (.start noFaults ctx :: ops))
    (honce : ∀ op ∈ ops, op.starts ctx.incidentId = false) :
    let s' := run (System.step deps) s (.start noFaults ctx :: ops)
    (s'.pending ctx.incidentId).length ≤ 1 ∧
      s'.executions ctx.incidentId <+: policy.schedule ∧
      (s'.pending ctx.incidentId = [] ↔ s'.executions ctx.incidentId = policy.schedule) ∧
      policy.schedule.length = policy.steps.length * (policy.repeatCount + 1) := by
  intro s'
  obtain ⟨hone, hprefix, hend⟩ := (onSchedule_run hsteps hpending hprocessed hsteady honce).conclude
  exact ⟨hone, hprefix, hend, policy.length_schedule⟩

/-- Both rounds of both steps. -/
def bothRounds : List Op :=
  [.process 0 noFaults 300000 true, .process 0 noFaults 900000 true,
    .process 0 noFaults 1200000 true, .process 0 noFaults 1800000 true]

theorem rounds_complete_both :
    let s' := run (System.step ⟨fun _ _ => 0, none⟩) escalated (.start noFaults apiDown :: bothRounds)
    let policy : LoadedPolicy := ⟨1, escalated.db.stepsOf "p"⟩
    (s'.pending 7).length ≤ 1 ∧ s'.executions 7 <+: policy.schedule ∧
      (s'.pending 7 = [] ↔ s'.executions 7 = policy.schedule) ∧
      policy.schedule.length = policy.steps.length * (policy.repeatCount + 1) :=
  rounds_complete ⟨fun _ _ => 0, none⟩ (by decide) rfl rfl (by decide +kernel) (by decide)

end UptimeFlow.Escalation
