import UptimeFlow.Escalation.Jobs
import UptimeFlow.Monitoring.Incidents

/-!
# UptimeFlow.Escalation.System

The escalation system: a queue of jobs, the worker that takes them in any
order, and what goes on around it — incidents opened, acknowledged and
resolved, policies edited and removed, users, channels and schedules changed.

A job that fails is given back to the queue or, once its attempts are used up,
dropped.  `log` records the jobs that ended with a value.  The claims about one
incident's chain are drawn from `Moves`: all a step of the system can do to the
jobs of one incident.
-/

namespace UptimeFlow.Escalation

open Runs Tables OnCall
open Monitoring (Instant IncidentId OrganizationId MonitorId PolicyId MonitorRow AlertJobData
  EscalationContext EscalationJobData Race RaceOp)

/-! ## policies -/

/-- A step as the policy form submits it. -/
structure StepInput where
  delayMinutes : Int
  targets : List TargetRow
deriving DecidableEq, Repr

/-- The rows of submitted steps; a step's position is its place in the list. -/
def stepCreates (policyId : PolicyId) (steps : List StepInput) : List StepRow :=
  steps.mapIdx fun index step =>
    { policyId, position := index, delayMinutes := step.delayMinutes, targets := step.targets }

/-- Replace the steps of a live policy wholesale, and its repeat count.  An update whose targets
are not valid is rejected before it writes. -/
def Db.updatePolicy (db : Db) (organizationId : OrganizationId) (id : PolicyId)
    (repeatCount : Option Nat) (steps : List StepInput) : Db :=
  if db.policies.any fun p => p.id = id && p.organizationId = organizationId && p.deletedAt.isNone
  then
    { db with
      escalationSteps := db.escalationSteps.filter (·.policyId ≠ id) ++ stepCreates id steps
      policies := updateWhere (·.id = id) (fun p => { p with repeatCount := repeatCount.getD 0 })
        db.policies }
  else db

/-- Mark a live policy deleted; its steps stay. -/
def Db.removePolicy (db : Db) (organizationId : OrganizationId) (id : PolicyId) (now : Instant) :
    Db :=
  { db with
    policies := updateWhere
      (fun p => p.id = id && p.organizationId = organizationId && p.deletedAt.isNone)
      (fun p => { p with deletedAt := some now }) db.policies }

/-! ## the system -/

/-- A job that ended with a value. -/
structure Processed where
  job : EscalationJobData
  result : JobResult
deriving DecidableEq, Repr

structure System where
  db : Db
  /-- Updates of incidents that were decided on and are still to land. -/
  inFlight : List Monitoring.Update := []
  log : List Processed := []
deriving DecidableEq, Repr

/-- The tables and queues that others change, as they find them changed. -/
structure Surroundings where
  monitors : List MonitorRow
  alertChannels : List ChannelRow
  schedules : List ScheduleRow
  users : List UserRow
  alertQueue : List AlertJobData
  emailQueue : List QueuedEmail

inductive Op where
  /-- The pipeline starts the escalation of an incident. -/
  | start (faults : Faults) (ctx : EscalationContext)
  /-- The worker takes the `n`-th job of the queue; a failed job is given back if `retried`. -/
  | process (n : Nat) (faults : Faults) (now : Instant) (retried : Bool)
  /-- An incident of the monitor `m` is opened, acknowledged or resolved. -/
  | incident (m : MonitorId) (op : RaceOp m)
  | updatePolicy (organizationId : OrganizationId) (id : PolicyId) (repeatCount : Option Nat)
      (steps : List StepInput)
  | removePolicy (organizationId : OrganizationId) (id : PolicyId) (now : Instant)
  | elsewhere (surroundings : Surroundings)

/-- The store without the `n`-th job of the queue. -/
def Db.taken (db : Db) (n : Nat) : Db :=
  { db with escalationQueue := db.escalationQueue.eraseIdx n }

/-- A failed job is given back, or dropped. -/
def Db.giveBack (db : Db) (retried : Bool) (job : EscalationJobData) : Db :=
  if retried then { db with escalationQueue := db.escalationQueue ++ [job] } else db

namespace System

variable (deps : Deps)

def step (s : System) : Op → System
  | .start faults ctx => { s with db := ((escalationStarter faults ctx).run s.db).2 }
  | .process n faults now retried =>
      match s.db.escalationQueue[n]? with
      | none => s
      | some job =>
          match (escalationProcessor deps faults now job).run (s.db.taken n) with
          | (.ok result, db) => { s with db, log := s.log ++ [⟨job, result⟩] }
          | (.error _, db) => { s with db := db.giveBack retried job }
  | .incident _ op =>
      let race := Race.step ⟨s.db.incidents, s.inFlight⟩ op
      { s with db := { s.db with incidents := race.incidents }, inFlight := race.inFlight }
  | .updatePolicy organizationId id repeatCount steps =>
      { s with db := s.db.updatePolicy organizationId id repeatCount steps }
  | .removePolicy organizationId id now =>
      { s with db := s.db.removePolicy organizationId id now }
  | .elsewhere o =>
      { s with db := { s.db with
          monitors := o.monitors, alertChannels := o.alertChannels, schedules := o.schedules
          users := o.users, alertQueue := o.alertQueue, emailQueue := o.emailQueue } }

/-- The jobs of an incident that wait in the queue. -/
def pending (s : System) (id : IncidentId) : List EscalationJobData :=
  s.db.escalationQueue.filter (·.incidentId = id)

/-- The jobs of an incident that ended with a value, in order. -/
def processed (s : System) (id : IncidentId) : List Processed :=
  s.log.filter (·.job.incidentId = id)

end System

/-- The operation starts an escalation of the incident. -/
def Op.starts (id : IncidentId) : Op → Bool
  | .start _ ctx => ctx.incidentId = id
  | _ => false

/-- The operation makes no attempt at a job of the incident that fails. -/
def System.succeeds (deps : Deps) (id : IncidentId) (s : System) : Op → Bool
  | .process n faults now _ =>
      (s.db.escalationQueue[n]?).all fun job =>
        job.incidentId ≠ id ||
          ((escalationProcessor deps faults now job).run (s.db.taken n)).1.isOk
  | _ => true

/-- The first job of a chain. -/
def firstJob (ctx : EscalationContext) (first : StepRow) : EscalationJobData :=
  { incidentId := ctx.incidentId, organizationId := ctx.organizationId, monitorId := ctx.monitorId
    policyId := ctx.policyId, stepIndex := 0, round := 0
    delay := Monitoring.minutesToMs first.delayMinutes }

theorem escalationStarter_run (faults : Faults) (ctx : EscalationContext) (db : Db) :
    (escalationStarter faults ctx).run db =
      match faults.first [.policy], (db.stepsOf ctx.policyId).head?, faults .successor with
      | some e, _, _ => (.error e, db)
      | none, none, _ => (.ok false, db)
      | none, some _, some e => (.error e, db)
      | none, some first, none =>
          (.ok true, { db with escalationQueue := db.escalationQueue ++ [firstJob ctx first] }) := by
  rw [escalationStarter, Eff.bind_run, Faults.read_run, Faults.first_cons]
  cases faults .policy with
  | some e => rfl
  | none =>
      cases (db.stepsOf ctx.policyId).head? with
      | none => rfl
      | some first =>
          cases hfault : faults .successor with
          | some e => simp [Eff.bind_run, enqueue, Faults.write_run, hfault]
          | none => simp [Eff.bind_run, enqueue, Faults.write_run, hfault, firstJob]

/-- The step with the least position heads the steps in order. -/
theorem head_stepsOf (db : Db) (policyId : PolicyId) :
    (db.stepsOf policyId).head?.map (·.toEscalationStep) =
      findLatest (·.policyId = policyId) (fun s => -s.position)
        (db.escalationSteps.map (·.toEscalationStep)) := by
  rw [Db.stepsOf]
  induction db.escalationSteps with
  | nil => rfl
  | cons row rows ih =>
      rw [List.map_cons, findLatest, ← ih]
      by_cases hpolicy : row.policyId = policyId
      · rw [List.filter_cons_of_pos (by simpa using hpolicy), List.insertionSort_cons]
        cases hsorted : (rows.filter (·.policyId = policyId)).insertionSort
            fun a b => a.position ≤ b.position with
        | nil => simp [hpolicy]
        | cons first later =>
            by_cases hle : row.position ≤ first.position
            · simp [List.orderedInsert_cons, hle, hpolicy]
            · simp [List.orderedInsert_cons, hle, hpolicy]
      · rw [List.filter_cons_of_neg (by simpa using hpolicy)]
        cases ((rows.filter (·.policyId = policyId)).insertionSort
            fun a b => a.position ≤ b.position).head? with
        | none => simp [hpolicy]
        | some first => simp [hpolicy]

/-- **The pipeline starts a chain with the same job as the starter.** -/
theorem startEscalation_eq (ctx : EscalationContext) (db : Db) (m : Monitoring.Db)
    (hrows : m.escalationSteps = db.escalationSteps.map (·.toEscalationStep)) :
    (Monitoring.startEscalation Monitoring.noFaults ctx).run m =
      match (db.stepsOf ctx.policyId).head? with
      | none => (.ok false, m)
      | some first =>
          (.ok true, { m with escalationQueue := m.escalationQueue ++ [firstJob ctx first] }) := by
  have hfirst : m.firstStep ctx.policyId =
      (db.stepsOf ctx.policyId).head?.map (·.toEscalationStep) := by
    rw [head_stepsOf, Monitoring.Db.firstStep, hrows]
  rw [Monitoring.startEscalation, Eff.bind_run, Eff.read_run, hfirst]
  cases (db.stepsOf ctx.policyId).head? with
  | none => rfl
  | some first => rfl

/-- An open incident under a policy of two steps, to be repeated once. -/
def escalated : System where
  db := {
    incidents := [{ id := 7, organizationId := "acme", monitorId := "api", status := .open
                    severity := .major, title := "api is down", summary := none, cause := none
                    fingerprint := none, startedAt := 0, createdAt := 0 }]
    policies := [{ id := "p", organizationId := "acme", repeatCount := 1 }]
    escalationSteps := [
      { policyId := "p", position := 0, delayMinutes := 5, targets := [] },
      { policyId := "p", position := 1, delayMinutes := 10, targets := [] }] }

def apiDown : EscalationContext where
  incidentId := 7
  organizationId := "acme"
  monitorId := "api"
  policyId := "p"

/-! ## what a step does to one incident's jobs -/

/-- What an operation can do to the jobs of the incident `id`. -/
inductive Moves (deps : Deps) (id : IncidentId) (s : System) (op : Op) (s' : System) : Prop where
  | still (hpending : s'.pending id = s.pending id) (hprocessed : s'.processed id = s.processed id)
  | started {ctx : EscalationContext} {first : StepRow} (hstarts : op.starts id = true)
      (hfirst : (s.db.stepsOf ctx.policyId).head? = some first) (hid : ctx.incidentId = id)
      (hpending : s'.pending id = s.pending id ++ [firstJob ctx first])
      (hprocessed : s'.processed id = s.processed id)
  | finished {job : EscalationJobData} {result : JobResult} {rest : List EscalationJobData}
      (hperm : (job :: rest).Perm (s.pending id))
      (hpending : s'.pending id = rest ++ (s.db.next job).toList)
      (hprocessed : s'.processed id = s.processed id ++ [⟨job, result⟩])
      (hfired : result.stepFired = (s.db.stepOf job).map (·.position))
  | failed {job : EscalationJobData} {rest : List EscalationJobData}
      (hfails : s.succeeds deps id op = false) (hperm : (job :: rest).Perm (s.pending id))
      (hpending : s'.pending id = rest ∨ s'.pending id = rest ++ [job])
      (hprocessed : s'.processed id = s.processed id)

section
variable {deps : Deps} {id : IncidentId} {s : System}

theorem incident_of_pending {job : EscalationJobData} (h : job ∈ s.pending id) :
    job.incidentId = id := by
  rw [System.pending, List.mem_filter, decide_eq_true_eq] at h
  exact h.2

theorem queue_split {n : Nat} {job : EscalationJobData}
    (hjob : s.db.escalationQueue[n]? = some job) :
    s.db.escalationQueue =
        s.db.escalationQueue.take n ++ job :: s.db.escalationQueue.drop (n + 1) ∧
      (s.db.taken n).escalationQueue =
        s.db.escalationQueue.take n ++ s.db.escalationQueue.drop (n + 1) := by
  obtain ⟨hn, rfl⟩ := List.getElem?_eq_some_iff.1 hjob
  rw [← List.drop_eq_getElem_cons hn, List.take_append_drop]
  exact ⟨rfl, List.eraseIdx_eq_take_drop_succ ..⟩

/-- Taking a job of the incident off the queue. -/
theorem pending_taken {n : Nat} {job : EscalationJobData}
    (hjob : s.db.escalationQueue[n]? = some job) (hid : job.incidentId = id) :
    (job :: (s.db.taken n).escalationQueue.filter (·.incidentId = id)).Perm (s.pending id) := by
  obtain ⟨hqueue, htaken⟩ := queue_split hjob
  rw [System.pending, hqueue, htaken, List.filter_append, List.filter_append,
    List.filter_cons_of_pos (by simpa using hid)]
  exact List.perm_middle.symm

/-- Taking another incident's job off the queue. -/
theorem pending_taken_of_ne {n : Nat} {job : EscalationJobData}
    (hjob : s.db.escalationQueue[n]? = some job) (hid : job.incidentId ≠ id) :
    (s.db.taken n).escalationQueue.filter (·.incidentId = id) = s.pending id := by
  obtain ⟨hqueue, htaken⟩ := queue_split hjob
  rw [System.pending, hqueue, htaken, List.filter_append, List.filter_append,
    List.filter_cons_of_neg (by simpa using hid)]

theorem next_incident {db : Db} {job next : EscalationJobData} (h : db.next job = some next) :
    next.incidentId = job.incidentId ∧ next.policyId = job.policyId := by
  obtain ⟨found, -, hnext⟩ := Option.bind_eq_some_iff.1 h
  exact successor_chain hnext

variable (deps) in
/-- A job that is taken, and how the system goes on when it ends. -/
theorem step_process {n : Nat} {job : EscalationJobData}
    (hjob : s.db.escalationQueue[n]? = some job) (faults : Faults) (now : Instant)
    (retried : Bool) :
    ∃ r db, (escalationProcessor deps faults now job).run (s.db.taken n) = (r, db) ∧
      JobEnds deps faults now job (s.db.taken n) r db ∧
      s.step deps (.process n faults now retried) = match r with
        | .ok result => { s with db, log := s.log ++ [⟨job, result⟩] }
        | .error _ => { s with db := db.giveBack retried job } := by
  cases hrun : (escalationProcessor deps faults now job).run (s.db.taken n) with
  | mk r db =>
      refine ⟨r, db, rfl, escalationProcessor_ends deps faults now job _ hrun, ?_⟩
      rw [System.step, hjob]
      simp only [hrun]
      cases r <;> rfl

theorem step_process_moves {n : Nat} {faults : Faults} {now : Instant} {retried : Bool}
    {job : EscalationJobData} (hjob : s.db.escalationQueue[n]? = some job) :
    Moves deps id s (.process n faults now retried)
      (s.step deps (.process n faults now retried)) := by
  obtain ⟨r, db, hrun, hends, hstep⟩ := step_process deps hjob faults now retried
  rw [hstep]
  cases r with
  | ok result =>
      obtain ⟨hqueue, hfired⟩ := hends.queue_ok
      have hnext : (s.db.taken n).next job = s.db.next job := rfl
      rw [hnext] at hqueue
      by_cases hid : job.incidentId = id
      · refine .finished (pending_taken hjob hid) ?_ ?_ hfired
        · rw [System.pending, hqueue, List.filter_append]
          congr 1
          cases hnone : s.db.next job with
          | none => rfl
          | some next => simp [(next_incident hnone).1, hid]
        · simp [System.processed, hid]
      · refine .still ?_ ?_
        · rw [← pending_taken_of_ne hjob hid, System.pending, hqueue, List.filter_append]
          cases hnone : s.db.next job with
          | none => simp
          | some next => simp [(next_incident hnone).1, hid]
        · simp [System.processed, hid]
  | error e =>
      have hqueue := hends.queue_error
      by_cases hid : job.incidentId = id
      · refine .failed ?_ (pending_taken hjob hid) ?_ rfl
        · simp [System.succeeds, hjob, hid, hrun, Except.isOk, Except.toBool]
        · cases retried with
          | true => exact .inr (by simp [System.pending, Db.giveBack, hqueue, hid])
          | false => exact .inl (by simp [System.pending, Db.giveBack, hqueue])
      · refine .still ?_ rfl
        rw [← pending_taken_of_ne hjob hid]
        cases retried with
        | true => simp [System.pending, Db.giveBack, hqueue, hid]
        | false => simp [System.pending, Db.giveBack, hqueue]

theorem updatePolicy_queue (db : Db) (organizationId : OrganizationId) (policyId : PolicyId)
    (repeatCount : Option Nat) (steps : List StepInput) :
    (db.updatePolicy organizationId policyId repeatCount steps).escalationQueue =
      db.escalationQueue := by
  rw [Db.updatePolicy]
  split <;> rfl

/-- **An operation leaves the jobs of an incident alone, starts its chain, or takes one of its
jobs and replaces it by its successor**; a job that fails is given back or dropped. -/
theorem step_moves (deps : Deps) (id : IncidentId) (s : System) (op : Op) :
    Moves deps id s op (s.step deps op) := by
  cases op with
  | start faults ctx =>
      rw [System.step, escalationStarter_run]
      cases faults.first [.policy] with
      | some e => exact .still rfl rfl
      | none =>
          cases hfirst : (s.db.stepsOf ctx.policyId).head? with
          | none => exact .still rfl rfl
          | some first =>
              cases faults .successor with
              | some e => exact .still rfl rfl
              | none =>
                  by_cases hid : ctx.incidentId = id
                  · refine .started (by simpa [Op.starts] using hid) hfirst hid ?_ rfl
                    simp [System.pending, firstJob, hid]
                  · refine .still ?_ rfl
                    simp [System.pending, firstJob, hid]
  | process n faults now retried =>
      cases hjob : s.db.escalationQueue[n]? with
      | none =>
          rw [System.step, hjob]
          exact .still rfl rfl
      | some job => exact step_process_moves hjob
  | incident m op => exact .still rfl rfl
  | updatePolicy organizationId policyId repeatCount steps =>
      refine .still ?_ rfl
      rw [System.step, System.pending, updatePolicy_queue, System.pending]
  | removePolicy organizationId policyId now => exact .still rfl rfl
  | elsewhere surroundings => exact .still rfl rfl

end

end UptimeFlow.Escalation
