import UptimeFlow.Escalation.Steps

/-!
# UptimeFlow.Escalation.Jobs

What one job does.

A job acts only on an open incident under a live policy with steps
(`Db.active`); any other job leaves the store alone (`escalationProcessor_idle`).
An active job fires the step it carries, if that step exists, and enqueues
`successor`, the only successor it can have.  `JobEnds` says what it wrote when
it ended, with a value or with an error.
-/

namespace UptimeFlow.Escalation

open Monitoring (Instant OrganizationId Incident EscalationJobData)

/-! ## the job's successor -/

/-- The job that follows in the chain: the next step, or the first step of the next round. -/
def successor (policy : LoadedPolicy) (job : EscalationJobData) : Option EscalationJobData :=
  match policy.steps[job.stepIndex + 1]? with
  | some next => some (jobAt job (job.stepIndex + 1) job.round next)
  | none =>
      if job.round < policy.repeatCount then
        policy.steps.head?.map (jobAt job 0 (job.round + 1))
      else none

/-- The open incident and the policy with steps that a job acts on. -/
def Db.active (db : Db) (job : EscalationJobData) : Option (Incident × LoadedPolicy) :=
  match db.incidentOf job.incidentId, db.loadPolicy job.policyId with
  | some incident, some policy =>
      if incident.status = .open ∧ policy.steps ≠ [] then some (incident, policy) else none
  | _, _ => none

def enqueueNext (faults : Faults) : Option EscalationJobData → Work Unit
  | none => pure ()
  | some next => enqueue faults next

/-- What an active job does once it has read the incident and the policy. -/
def act (deps : Deps) (faults : Faults) (now : Instant) (job : EscalationJobData)
    (ctx : StepContext) (policy : LoadedPolicy) : Work JobResult :=
  match policy.steps[job.stepIndex]? with
  | none => do
      enqueueNext faults (successor policy job)
      pure (match successor policy job with
        | some next => .repeated next.round
        | none => .skipped .exhausted)
  | some step => do
      let fired ← executeStep deps faults ctx step now
      enqueueNext faults (successor policy job)
      pure (.fired step.position fired (successor policy job).isSome)

theorem active_eq_some {db : Db} {job : EscalationJobData} {incident : Incident}
    {policy : LoadedPolicy} (h : db.active job = some (incident, policy)) :
    db.incidentOf job.incidentId = some incident ∧ incident.status = .open ∧
      db.loadPolicy job.policyId = some policy ∧ policy.steps ≠ [] := by
  unfold Db.active at h
  split at h
  · next i p hi hp =>
    split at h
    · next hcond =>
      cases h
      exact ⟨hi, hcond.1, hp, hcond.2⟩
    · cases h
  · cases h

/-- A job that finds no open incident, or no policy with steps, writes nothing. -/
theorem escalationProcessor_idle (deps : Deps) (faults : Faults) (now : Instant) {db : Db}
    {job : EscalationJobData} (h : db.active job = none) :
    ∃ r, (escalationProcessor deps faults now job).run db = (r, db) ∧
      ∀ result, r = .ok result → ∃ reason, result = .skipped reason := by
  rw [escalationProcessor, Eff.bind_run, Faults.read_run]
  cases hfault : faults .incident with
  | some e => exact ⟨.error e, rfl, by simp⟩
  | none =>
      cases hincident : db.incidentOf job.incidentId with
      | none => exact ⟨.ok (.skipped .noIncident), by simp, by simp⟩
      | some incident =>
          by_cases hopen : incident.status = .open
          · cases hload : faults .policy with
            | some e =>
                refine ⟨.error e, ?_, by simp⟩
                simp [hopen, Eff.bind_run, Faults.read_run, hload]
            | none =>
                refine ⟨.ok (.skipped .noPolicy), ?_, by simp⟩
                cases hpolicy : db.loadPolicy job.policyId with
                | none => simp [hopen, Eff.bind_run, Faults.read_run, hload, hpolicy]
                | some policy =>
                    obtain ⟨repeatCount, steps⟩ := policy
                    cases steps with
                    | nil => simp [hopen, Eff.bind_run, Faults.read_run, hload, hpolicy]
                    | cons first later => simp [Db.active, hincident, hpolicy, hopen] at h
          · exact ⟨.ok (.skipped .stopped), by simp [hopen], by simp⟩

/-- A job of an open incident under a policy with steps. -/
theorem escalationProcessor_active (deps : Deps) (faults : Faults) (now : Instant) {db : Db}
    {job : EscalationJobData} {incident : Incident} {policy : LoadedPolicy}
    (h : db.active job = some (incident, policy)) :
    (escalationProcessor deps faults now job).run db =
      match faults.first [.incident, .policy] with
      | some e => (.error e, db)
      | none => (act deps faults now job (db.contextOf job incident) policy).run db := by
  obtain ⟨hincident, hopen, hpolicy, hsteps⟩ := active_eq_some h
  rw [escalationProcessor, Eff.bind_run, Faults.read_run, Faults.first_cons]
  cases hfault : faults .incident with
  | some e => rfl
  | none =>
      cases hload : faults .policy with
      | some e => simp [hincident, hopen, Eff.bind_run, Faults.read_run, hload, Faults.first_cons]
      | none =>
          obtain ⟨repeatCount, steps⟩ := policy
          cases steps with
          | nil => contradiction
          | cons first later =>
              simp only [hincident, Option.map_some, hopen, ne_eq, not_true_eq_false, if_false,
                Eff.bind_run, Faults.read_run, hload, hpolicy, Option.none_or, Faults.first_cons,
                Faults.first_nil]
              unfold act successor
              cases hstep : (first :: later)[job.stepIndex]? with
              | none =>
                  have hnext : (first :: later)[job.stepIndex + 1]? = none := by
                    rw [List.getElem?_eq_none_iff] at hstep ⊢
                    omega
                  rw [hnext]
                  by_cases hround : job.round < repeatCount
                  · simp [hround, enqueueNext, jobAt]
                  · simp only [hround, if_false, enqueueNext]
                    rfl
              | some step =>
                  cases hnext : (first :: later)[job.stepIndex + 1]? with
                  | some next => simp [enqueueNext, Eff.bind_run]
                  | none =>
                      by_cases hround : job.round < repeatCount
                      · simp [hround, enqueueNext, jobAt, Eff.bind_run]
                      · simp [hround, enqueueNext, Eff.bind_run]

/-! ## what a job writes -/

/-- What one job adds to the store. -/
structure Writes where
  emails : List QueuedEmail := []
  rows : List Sent := []
  jobs : List Sent := []
  events : List TimelineEvent := []
  audits : List AuditEntry := []
  next : List EscalationJobData := []

def Db.wrote (db : Db) (ctx : StepContext) (w : Writes) : Db :=
  { db with
    emailQueue := db.emailQueue ++ w.emails
    notificationDeliveries := db.notificationDeliveries ++ w.rows.map (deliveryRow ctx)
    alertQueue := db.alertQueue ++ w.jobs.map fun s => alertJob ctx s.1 s.2
    incidentEvents := db.incidentEvents ++ w.events
    auditLogs := db.auditLogs ++ w.audits
    escalationQueue := db.escalationQueue ++ w.next }

/-- The statements of a step up to the first that leaves a trace, pages apart. -/
def Db.stepSites (db : Db) (deps : Deps) (now : Instant) (organizationId : OrganizationId)
    (step : StepRow) : List Site :=
  db.loadSites deps now step ++ db.closeSites organizationId step.channelIds

/-- The users that a step fired at `now` pages. -/
def Db.pagedBy (db : Db) (deps : Deps) (faults : Faults) (now : Instant) (step : StepRow) :
    List UserRow :=
  db.reached deps faults (db.resolved deps now step.targets {}).responders

/-- What a job that fires `step` wrote when it ended with `r`. -/
structure Fires (deps : Deps) (faults : Faults) (now : Instant) (job : EscalationJobData)
    (ctx : StepContext) (policy : LoadedPolicy) (step : StepRow) (db : Db)
    (r : Except String JobResult) (w : Writes) : Prop where
  recorded : w.rows.map (·.1) <+: db.live ctx.organizationId step.channelIds
  enqueued : w.jobs <+: w.rows
  complete : ∀ result, r = .ok result →
    w.jobs = w.rows ∧ w.rows.map (·.1) = db.live ctx.organizationId step.channelIds ∧
      w.next = (successor policy job).toList ∧
      w.emails = db.newPages deps ctx step.position (db.pagedBy deps faults now step) ∧
      ∃ paged n, paged.pagedUserIds = (db.pagedBy deps faults now step).map (·.id) ∧
        w.events = [stepEvent ctx now (stepMessage step.position paged n)
          (stepMetadata step (db.resolved deps now step.targets {}) paged)] ∧
        result = .fired step.position (stepResult (db.resolved deps now step.targets {}) paged n)
          (successor policy job).isSome
  failed : ∀ e, r = .error e → w.next = []
  cut : ∀ e, faults.first (db.stepSites deps now ctx.organizationId step) = some e →
    r = .error e ∧ w.rows = [] ∧ w.events = []
  opened : faults.first (db.stepSites deps now ctx.organizationId step) = none →
    (db.live ctx.organizationId step.channelIds = [] → w.events ≠ []) ∧
      (db.live ctx.organizationId step.channelIds ≠ [] → w.rows ≠ [])

theorem enqueueNext_run (faults : Faults) (next : Option EscalationJobData) (db : Db) :
    (enqueueNext faults next).run db = match next, faults .successor with
      | none, _ => (.ok (), db)
      | some _, some e => (.error e, db)
      | some next, none => (.ok (), { db with escalationQueue := db.escalationQueue ++ [next] }) := by
  cases next with
  | none => rfl
  | some next =>
      rw [enqueueNext, enqueue, Faults.write_run]
      cases faults .successor <;> rfl

/-- A job past the last step enqueues its successor, or ends the chain. -/
theorem act_past {policy : LoadedPolicy} {job : EscalationJobData}
    (hpast : policy.steps[job.stepIndex]? = none) (deps : Deps) (faults : Faults) (now : Instant)
    (ctx : StepContext) (db : Db) :
    (act deps faults now job ctx policy).run db = match successor policy job, faults .successor with
      | none, _ => (.ok (.skipped .exhausted), db)
      | some _, some e => (.error e, db)
      | some next, none => (.ok (.repeated next.round),
          { db with escalationQueue := db.escalationQueue ++ [next] }) := by
  unfold act
  rw [hpast]
  simp only [Eff.bind_run, enqueueNext_run]
  cases successor policy job with
  | none => rfl
  | some next => cases faults .successor <;> rfl

/-- A job at a step fires it, then enqueues its successor. -/
theorem act_fires {policy : LoadedPolicy} {job : EscalationJobData} {step : StepRow}
    (hstep : policy.steps[job.stepIndex]? = some step) (deps : Deps) (faults : Faults)
    (now : Instant) (ctx : StepContext) (db : Db) :
    ∃ r w, (act deps faults now job ctx policy).run db = (r, db.wrote ctx w) ∧
      Fires deps faults now job ctx policy step db r w := by
  have hact : act deps faults now job ctx policy = (do
      let fired ← executeStep deps faults ctx step now
      enqueueNext faults (successor policy job)
      pure (.fired step.position fired (successor policy job).isSome)) := by
    unfold act
    rw [hstep]
  obtain ⟨failed, hexecute⟩ := executeStep_run deps faults ctx step now db
  cases hload : faults.first (db.loadSites deps now step) with
  | some e =>
      refine ⟨.error e, {}, ?_, ?_⟩
      · rw [hact, Eff.bind_run, hexecute, hload]
        simp [Db.wrote]
      · constructor <;> simp [Db.stepSites, Faults.first_append, hload]
  | none =>
      let found := db.resolved deps now step.targets {}
      let emails := db.newPages deps ctx step.position (db.pagedBy deps faults now step)
      let mailed : Db := { db with emailQueue := db.emailQueue ++ emails }
      let paged : Paged := ⟨(db.pagedBy deps faults now step).map (·.id), failed⟩
      have hmailed : db.paged deps ctx step.position (db.pagedBy deps faults now step) = mailed :=
        paged_eq db deps ctx step.position (reached_nodup db deps faults now step.targets)
      have hsame : mailed.alertChannels = db.alertChannels := rfl
      have hsites : faults.first (db.stepSites deps now ctx.organizationId step) =
          faults.first (mailed.closeSites ctx.organizationId found.channelIds) := by
        rw [Db.stepSites, Faults.first_append, hload, Option.none_or,
          resolved_channelIds db deps now step, Db.closeSites, Db.closeSites,
          openingSites_congr hsame, live_congr hsame]
      obtain ⟨r, rows, jobs, events, audits, hfinish, hends⟩ :=
        finishStep_run faults ctx step now found paged mailed
      rw [hload] at hexecute
      change _ = (finishStep faults ctx step now found paged).run
        (db.paged deps ctx step.position (db.pagedBy deps faults now step)) at hexecute
      rw [hmailed, hfinish] at hexecute
      obtain ⟨hrecorded, henqueued, hcomplete, hcut, hopened⟩ := hends
      rw [← hsites] at hcut hopened
      rw [resolved_channelIds db deps now step, live_congr hsame] at hrecorded hcomplete hopened
      rw [hact, Eff.bind_run, hexecute]
      cases r with
      | error e =>
          refine ⟨.error e, { emails, rows, jobs, events, audits }, ?_, hrecorded, henqueued,
            by simp, by simp, fun e' he => ?_, hopened⟩
          · simp [Db.wrote, Db.sent, Db.entered, mailed]
          · obtain ⟨hr, hrows, hevents⟩ := hcut e' he
            cases hr
            exact ⟨rfl, hrows, hevents⟩
      | ok result =>
          obtain ⟨hjobs, hrows, n, hresult, hevents⟩ := hcomplete result rfl
          have hcut' : ∀ e,
              faults.first (db.stepSites deps now ctx.organizationId step) ≠ some e := by
            intro e he
            cases (hcut e he).1
          simp only [Eff.bind_run, enqueueNext_run]
          cases hnext : successor policy job with
          | none =>
              refine ⟨.ok (.fired step.position result false), { emails, rows, jobs, events, audits },
                ?_, hrecorded, henqueued, fun result' h => ?_, by simp,
                fun e he => absurd he (hcut' e), hopened⟩
              · simp [Db.wrote, Db.sent, Db.entered, mailed]
              · cases h
                exact ⟨hjobs, hrows, by simp [hnext], rfl, paged, n, rfl, hevents,
                  by rw [hresult, hnext]; rfl⟩
          | some next =>
              cases hfault : faults .successor with
              | some e =>
                  refine ⟨.error e, { emails, rows, jobs, events, audits }, ?_, hrecorded,
                    henqueued, by simp, by simp, fun e he => absurd he (hcut' e), hopened⟩
                  simp [Db.wrote, Db.sent, Db.entered, mailed]
              | none =>
                  refine ⟨.ok (.fired step.position result true),
                    { emails, rows, jobs, events, audits, next := [next] }, ?_, hrecorded,
                    henqueued, fun result' h => ?_, by simp, fun e he => absurd he (hcut' e), hopened⟩
                  · simp [Db.wrote, Db.sent, Db.entered, mailed]
                  · cases h
                    exact ⟨hjobs, hrows, by simp [hnext], rfl, paged, n, rfl, hevents,
                      by rw [hresult, hnext]; rfl⟩

/-! ## how a job ends -/

/-- How a job can end in the store `db`: with a value or an error, and the store it leaves. -/
inductive JobEnds (deps : Deps) (faults : Faults) (now : Instant) (job : EscalationJobData)
    (db : Db) : Except String JobResult → Db → Prop where
  | unread {e : String} : JobEnds deps faults now job db (.error e) db
  | idle {reason : Skipped} (hactive : db.active job = none) :
      JobEnds deps faults now job db (.ok (.skipped reason)) db
  | exhausted {incident : Incident} {policy : LoadedPolicy}
      (hactive : db.active job = some (incident, policy))
      (hpast : policy.steps[job.stepIndex]? = none) (hnext : successor policy job = none) :
      JobEnds deps faults now job db (.ok (.skipped .exhausted)) db
  | repeated {incident : Incident} {policy : LoadedPolicy} {next : EscalationJobData}
      (hactive : db.active job = some (incident, policy))
      (hpast : policy.steps[job.stepIndex]? = none) (hnext : successor policy job = some next) :
      JobEnds deps faults now job db (.ok (.repeated next.round))
        { db with escalationQueue := db.escalationQueue ++ [next] }
  | fires {incident : Incident} {policy : LoadedPolicy} {step : StepRow}
      {r : Except String JobResult} {w : Writes} (hactive : db.active job = some (incident, policy))
      (hstep : policy.steps[job.stepIndex]? = some step)
      (hfires : Fires deps faults now job (db.contextOf job incident) policy step db r w) :
      JobEnds deps faults now job db r (db.wrote (db.contextOf job incident) w)

theorem escalationProcessor_ends (deps : Deps) (faults : Faults) (now : Instant)
    (job : EscalationJobData) (db : Db) {r : Except String JobResult} {db' : Db}
    (h : (escalationProcessor deps faults now job).run db = (r, db')) :
    JobEnds deps faults now job db r db' := by
  cases hactive : db.active job with
  | none =>
      obtain ⟨r', hrun, hskipped⟩ := escalationProcessor_idle deps faults now hactive
      rw [hrun] at h
      cases h
      cases r with
      | error e => exact .unread
      | ok result =>
          obtain ⟨reason, rfl⟩ := hskipped result rfl
          exact .idle hactive
  | some found =>
      obtain ⟨incident, policy⟩ := found
      rw [escalationProcessor_active deps faults now hactive] at h
      cases hread : faults.first [.incident, .policy] with
      | some e =>
          rw [hread] at h
          cases h
          exact .unread
      | none =>
          rw [hread] at h
          cases hstep : policy.steps[job.stepIndex]? with
          | some step =>
              obtain ⟨r', w, hrun, hfires⟩ := act_fires hstep deps faults now
                (db.contextOf job incident) db
              simp only [hrun] at h
              cases h
              exact .fires hactive hstep hfires
          | none =>
              simp only [act_past hstep] at h
              cases hnext : successor policy job with
              | none =>
                  rw [hnext] at h
                  cases h
                  exact .exhausted hactive hstep hnext
              | some next =>
                  rw [hnext] at h
                  cases hfault : faults .successor with
                  | some e =>
                      rw [hfault] at h
                      cases h
                      exact .unread
                  | none =>
                      rw [hfault] at h
                      cases h
                      exact .repeated hactive hstep hnext

/-- The step a job is about to fire. -/
def Db.stepOf (db : Db) (job : EscalationJobData) : Option StepRow :=
  (db.active job).bind fun found => found.2.steps[job.stepIndex]?

/-- The job that is about to follow. -/
def Db.next (db : Db) (job : EscalationJobData) : Option EscalationJobData :=
  (db.active job).bind fun found => successor found.2 job

/-- The position of the step a job fired. -/
def JobResult.stepFired : JobResult → Option Int
  | .fired position _ _ => some position
  | _ => none

/-- What a job reads and never writes. -/
def Db.settings (db : Db) : Db :=
  { db with
    incidentEvents := [], auditLogs := [], notificationDeliveries := [], alertQueue := []
    escalationQueue := [], emailQueue := [] }

namespace JobEnds

variable {deps : Deps} {faults : Faults} {now : Instant} {job : EscalationJobData} {db db' : Db}
  {r : Except String JobResult}

theorem settings (h : JobEnds deps faults now job db r db') : db'.settings = db.settings := by
  cases h <;> rfl

/-- A job that fails enqueues nothing. -/
theorem queue_error {e : String} (h : JobEnds deps faults now job db (.error e) db') :
    db'.escalationQueue = db.escalationQueue := by
  cases h with
  | unread => rfl
  | fires hactive hstep hfires => simp [Db.wrote, hfires.failed _ rfl]

/-- **A job that succeeds fires the step it carries, if that step exists, and enqueues exactly its
successor.** -/
theorem queue_ok {result : JobResult} (h : JobEnds deps faults now job db (.ok result) db') :
    db'.escalationQueue = db.escalationQueue ++ (db.next job).toList ∧
      result.stepFired = (db.stepOf job).map (·.position) := by
  cases h with
  | idle hactive => simp [Db.next, Db.stepOf, hactive, JobResult.stepFired]
  | exhausted hactive hpast hnext =>
      simp [Db.next, Db.stepOf, hactive, hpast, hnext, JobResult.stepFired]
  | repeated hactive hpast hnext =>
      simp [Db.next, Db.stepOf, hactive, hpast, hnext, JobResult.stepFired]
  | fires hactive hstep hfires =>
      obtain ⟨-, -, hnext, -, paged, n, -, -, rfl⟩ := hfires.complete result rfl
      simp [Db.next, Db.stepOf, hactive, hstep, hnext, JobResult.stepFired, Db.wrote]

end JobEnds

/-! ## the successor's place -/

/-- A successor belongs to the same chain. -/
theorem successor_chain {policy : LoadedPolicy} {job next : EscalationJobData}
    (h : successor policy job = some next) :
    next.incidentId = job.incidentId ∧ next.policyId = job.policyId := by
  unfold successor at h
  split at h
  · cases h
    exact ⟨rfl, rfl⟩
  · split at h
    · obtain ⟨first, -, rfl⟩ := Option.map_eq_some_iff.1 h
      exact ⟨rfl, rfl⟩
    · cases h

/-- **A successor is at a step that exists: the next of the round, or the first of the next
round.** -/
theorem successor_place {policy : LoadedPolicy} {job next : EscalationJobData}
    (h : successor policy job = some next) :
    (next.round = job.round ∧ next.stepIndex = job.stepIndex + 1 ∨
      next.round = job.round + 1 ∧ next.stepIndex = 0 ∧ job.round < policy.repeatCount) ∧
    next.stepIndex < policy.steps.length := by
  unfold successor at h
  split at h
  · next step hstep =>
    cases h
    exact ⟨.inl ⟨rfl, rfl⟩, (List.getElem?_eq_some_iff.1 hstep).1⟩
  · split at h
    · next hround =>
      obtain ⟨first, hfirst, rfl⟩ := Option.map_eq_some_iff.1 h
      refine ⟨.inr ⟨rfl, rfl, hround⟩, ?_⟩
      exact List.length_pos_of_mem (List.mem_of_mem_head? hfirst)
    · cases h

end UptimeFlow.Escalation
