import UptimeFlow.Escalation.Jobs

/-!
# UptimeFlow.Escalation.Stages

A job in its stages: between its statements others go on, and it acts on what
it has read.

The worker reads the incident and the policy, then the schedules its step
names, and only then pages.  `AtWork.proceed` takes a job from one stage to the
next; with nothing in between, the stages do what `escalationProcessor` does
(`loadStage_run`).
-/

namespace UptimeFlow.Escalation

open Tables OnCall
open Monitoring (Instant OrganizationId PolicyId Incident EscalationJobData)

/-- What a job has loaded of the step it is about to fire. -/
structure Loaded where
  ctx : StepContext
  policy : LoadedPolicy
  step : StepRow
deriving DecidableEq, Repr

inductive Stage where
  | taken
  | loaded (l : Loaded)
  | resolved (l : Loaded) (found : Targets)
deriving DecidableEq, Repr

/-- A job the worker has taken at `now`. -/
structure AtWork where
  job : EscalationJobData
  now : Instant
  stage : Stage := .taken
deriving DecidableEq, Repr

/-- What the next statements of a job come to. -/
inductive Advance where
  | ended (result : JobResult)
  | reached (stage : Stage)
deriving DecidableEq, Repr

/-- `createEscalationProcessor`, up to the step it fires. -/
def loadStage (faults : Faults) (job : EscalationJobData) : Work Advance := do
  let found ← faults.read .incident fun db =>
    (db.incidentOf job.incidentId).map fun i => (i.status, db.contextOf job i)
  match found with
  | none => pure (.ended (.skipped .noIncident))
  | some (status, ctx) =>
      if status ≠ .open then pure (.ended (.skipped .stopped))
      else
        match ← faults.read .policy (·.loadPolicy job.policyId) with
        | none | some ⟨_, []⟩ => pure (.ended (.skipped .noPolicy))
        | some ⟨repeatCount, first :: later⟩ =>
            match (first :: later)[job.stepIndex]? with
            | none =>
                if job.round < repeatCount then do
                  enqueue faults (jobAt job 0 (job.round + 1) first)
                  pure (.ended (.repeated (job.round + 1)))
                else pure (.ended (.skipped .exhausted))
            | some step => pure (.reached (.loaded ⟨ctx, ⟨repeatCount, first :: later⟩, step⟩))

/-- `executeStep` once its targets are resolved, and the successor of the job. -/
def pageStage (deps : Deps) (faults : Faults) (now : Instant) (job : EscalationJobData)
    (l : Loaded) (found : Targets) : Work JobResult := do
  let paged ← pageResponders deps faults l.ctx l.step.position found.responders
  let fired ← finishStep faults l.ctx l.step now found paged
  enqueueNext faults (successor l.policy job)
  pure (.fired l.step.position fired (successor l.policy job).isSome)

/-- The next statements of a job at work. -/
def AtWork.proceed (deps : Deps) (faults : Faults) (w : AtWork) : Work Advance :=
  match w.stage with
  | .taken => loadStage faults w.job
  | .loaded l =>
      (fun found => .reached (.resolved l found)) <$>
        resolveTargets deps faults w.now 0 l.step.targets {}
  | .resolved l found => .ended <$> pageStage deps faults w.now w.job l found

/-- The users these statements page. -/
def AtWork.pages (deps : Deps) (faults : Faults) (db : Db) (w : AtWork) : List UserRow :=
  match w.stage with
  | .resolved _ found => db.reached deps faults found.responders
  | _ => []

/-! ## the stages of the processor -/

section
variable (deps : Deps) (faults : Faults)

/-- What the processor has left to do of a job at work. -/
def AtWork.rest (w : AtWork) : Work JobResult :=
  match w.stage with
  | .taken => escalationProcessor deps faults w.now w.job
  | .loaded l =>
      resolveTargets deps faults w.now 0 l.step.targets {} >>=
        pageStage deps faults w.now w.job l
  | .resolved l found => pageStage deps faults w.now w.job l found

/-- What is left once a job has come to this. -/
def AtWork.after (w : AtWork) : Advance → Work JobResult
  | .ended result => pure result
  | .reached stage => { w with stage }.rest deps faults

/-- An active job at a step: its targets are resolved, then paged. -/
theorem act_stages {policy : LoadedPolicy} {job : EscalationJobData} {step : StepRow}
    (ctx : StepContext) (now : Instant) (hstep : policy.steps[job.stepIndex]? = some step) :
    act deps faults now job ctx policy =
      resolveTargets deps faults now 0 step.targets {} >>=
        pageStage deps faults now job ⟨ctx, policy, step⟩ := by
  have hact : act deps faults now job ctx policy = (executeStep deps faults ctx step now >>=
      fun fired => do
        enqueueNext faults (successor policy job)
        pure (.fired step.position fired (successor policy job).isSome)) := by
    unfold act
    rw [hstep]
  rw [hact, executeStep, Eff.bind_assoc]
  congr 1
  funext found
  rw [pageStage, Eff.bind_assoc]
  congr 1

theorem loadStage_rest (job : EscalationJobData) (now : Instant) :
    escalationProcessor deps faults now job =
      loadStage faults job >>= AtWork.after deps faults ⟨job, now, .taken⟩ := by
  rw [escalationProcessor, loadStage, Eff.bind_assoc]
  congr 1
  funext found
  cases found with
  | none => rfl
  | some found =>
      obtain ⟨status, ctx⟩ := found
      by_cases hopen : status = .open
      · simp only [hopen, ne_eq, not_true_eq_false, if_false]
        rw [Eff.bind_assoc]
        congr 1
        funext policy
        cases policy with
        | none => rfl
        | some policy =>
            obtain ⟨repeatCount, steps⟩ := policy
            cases steps with
            | nil => rfl
            | cons first later =>
                cases hstep : (first :: later)[job.stepIndex]? with
                | none =>
                    by_cases hround : job.round < repeatCount
                    · simp only [hstep, hround, if_true]
                      rw [Eff.bind_assoc]
                      rfl
                    · simp only [hstep, hround, if_false]
                      rfl
                | some step =>
                    simp only [hstep]
                    change _ = resolveTargets deps faults now 0 step.targets {} >>=
                      pageStage deps faults now job ⟨ctx, ⟨repeatCount, first :: later⟩, step⟩
                    rw [← act_stages deps faults ctx now hstep, act, successor]
                    simp only [hstep]
                    congr 1
                    funext fired
                    cases hnext : (first :: later)[job.stepIndex + 1]? with
                    | some next => rfl
                    | none =>
                        by_cases hround : job.round < repeatCount
                        · simp only [hround, if_true]
                          rfl
                        · simp only [hround, if_false]
                          rfl
      · simp only [hopen, ne_eq, not_false_eq_true, if_true]
        rfl

/-- **The stages do what the processor does**: the next statements, and then what is left. -/
theorem proceed_rest (w : AtWork) :
    w.rest deps faults = w.proceed deps faults >>= w.after deps faults := by
  obtain ⟨job, now, stage⟩ := w
  cases stage with
  | taken => exact loadStage_rest deps faults job now
  | loaded l =>
      change _ = ((fun found => Advance.reached (.resolved l found)) <$>
        resolveTargets deps faults now 0 l.step.targets {}) >>= _
      rw [Eff.map_bind]
      rfl
  | resolved l found =>
      change _ = (Advance.ended <$> pageStage deps faults now job l found) >>= _
      rw [Eff.map_bind]
      exact (Eff.bind_pure _).symm

end

/-! ## what a stage leaves behind -/

/-- The store is as it was, but for what jobs have written and for jobs of this policy and
organization at the end of the queue. -/
structure Leaves (policyId : PolicyId) (organizationId : OrganizationId) (db db' : Db) : Prop where
  settings : db'.settings = db.settings
  queue : ∃ next, db'.escalationQueue = db.escalationQueue ++ next ∧
    ∀ j ∈ next, j.policyId = policyId ∧ j.organizationId = organizationId

section
variable {policyId : PolicyId} {organizationId : OrganizationId} {a b c : Db}

theorem Leaves.same : Leaves policyId organizationId a a := ⟨rfl, [], by simp⟩

theorem Leaves.enqueue {next : EscalationJobData} (hpolicy : next.policyId = policyId)
    (horganization : next.organizationId = organizationId) :
    Leaves policyId organizationId a { a with escalationQueue := a.escalationQueue ++ [next] } :=
  ⟨rfl, [next], by simp [hpolicy, horganization]⟩

theorem Leaves.trans (hab : Leaves policyId organizationId a b)
    (hbc : Leaves policyId organizationId b c) : Leaves policyId organizationId a c := by
  obtain ⟨xs, hxs, hxsOwned⟩ := hab.queue
  obtain ⟨ys, hys, hysOwned⟩ := hbc.queue
  refine ⟨hbc.settings.trans hab.settings, xs ++ ys, by rw [hys, hxs, List.append_assoc], ?_⟩
  intro j hj
  obtain hj | hj := List.mem_append.1 hj
  · exact hxsOwned j hj
  · exact hysOwned j hj

end

theorem successor_owner {policy : LoadedPolicy} {job next : EscalationJobData}
    (h : successor policy job = some next) :
    next.policyId = job.policyId ∧ next.organizationId = job.organizationId := by
  unfold successor at h
  split at h
  · cases h
    exact ⟨rfl, rfl⟩
  · split at h
    · obtain ⟨first, -, rfl⟩ := Option.map_eq_some_iff.1 h
      exact ⟨rfl, rfl⟩
    · cases h

theorem enqueueNext_leaves (faults : Faults) (policy : LoadedPolicy) (job : EscalationJobData)
    (db : Db) :
    Leaves job.policyId job.organizationId db
      ((enqueueNext faults (successor policy job)).run db).2 := by
  rw [enqueueNext_run]
  cases hnext : successor policy job with
  | none => exact .same
  | some next =>
      obtain ⟨hpolicy, horganization⟩ := successor_owner hnext
      cases faults .successor with
      | some e => exact .same
      | none => exact .enqueue hpolicy horganization

theorem paged_leaves {policyId : PolicyId} {organizationId : OrganizationId} (deps : Deps)
    (ctx : StepContext) (step : Int) (users : List UserRow) (db : Db) :
    Leaves policyId organizationId db (db.paged deps ctx step users) := by
  induction users generalizing db with
  | nil => exact .same
  | cons user rest ih =>
      rw [Db.paged, List.foldl_cons, ← Db.paged]
      refine Leaves.trans ?_ (ih _)
      rw [Db.page, Db.enqueueEmail]
      split
      · exact .same
      · exact ⟨rfl, [], by simp⟩

theorem pageStage_leaves (deps : Deps) (faults : Faults) (now : Instant) (job : EscalationJobData)
    (l : Loaded) (found : Targets) (db : Db) :
    Leaves job.policyId job.organizationId db
      ((pageStage deps faults now job l found).run db).2 := by
  obtain ⟨failed, hpages⟩ :=
    pageResponders_run deps faults l.ctx l.step.position found.responders db
  rw [pageStage, Eff.bind_run, hpages]
  cases faults.first (userSites deps found.responders) with
  | some e => exact .same
  | none =>
      let reached := db.reached deps faults found.responders
      let mailed := db.paged deps l.ctx l.step.position reached
      have hmailed : Leaves job.policyId job.organizationId db mailed :=
        paged_leaves deps l.ctx l.step.position reached db
      obtain ⟨r, rows, jobs, events, audits, hfinish, -⟩ := finishStep_run faults l.ctx l.step now
        found ⟨reached.map (·.id), failed⟩ mailed
      have hclosed : Leaves job.policyId job.organizationId mailed
          ((mailed.sent l.ctx rows jobs).entered events audits) :=
        ⟨rfl, [], by simp [Db.sent, Db.entered]⟩
      simp only [Eff.bind_run]
      rw [hfinish]
      cases r with
      | error e => exact hmailed.trans hclosed
      | ok result =>
          have hnext := enqueueNext_leaves faults l.policy job
            ((mailed.sent l.ctx rows jobs).entered events audits)
          simp only
          split
          · next heq =>
            rw [heq] at hnext
            exact (hmailed.trans hclosed).trans hnext
          · next heq =>
            rw [heq] at hnext
            exact (hmailed.trans hclosed).trans hnext

/-- What the next statements of a job can come to, and the store they leave. -/
inductive Proceeds (deps : Deps) (w : AtWork) (db : Db) : Except String Advance → Db → Prop where
  | failed {e : String} {db' : Db}
      (hleaves : Leaves w.job.policyId w.job.organizationId db db') :
      Proceeds deps w db (.error e) db'
  | ended {result : JobResult} {db' : Db}
      (hleaves : Leaves w.job.policyId w.job.organizationId db db') :
      Proceeds deps w db (.ok (.ended result)) db'
  | loaded {l : Loaded} {incident : Incident} (htaken : w.stage = .taken)
      (hactive : db.active w.job = some (incident, l.policy))
      (hstep : l.policy.steps[w.job.stepIndex]? = some l.step) :
      Proceeds deps w db (.ok (.reached (.loaded l))) db
  | resolved {l : Loaded} (hloaded : w.stage = .loaded l) :
      Proceeds deps w db
        (.ok (.reached (.resolved l (db.resolved deps w.now l.step.targets {})))) db

theorem loadStage_proceeds (deps : Deps) (faults : Faults) (job : EscalationJobData)
    (now : Instant) (db : Db) :
    Proceeds deps ⟨job, now, .taken⟩ db ((loadStage faults job).run db).1
      ((loadStage faults job).run db).2 := by
  rw [loadStage, Eff.bind_run, Faults.read_run]
  cases faults .incident with
  | some e => exact .failed (.same)
  | none =>
      cases hincident : db.incidentOf job.incidentId with
      | none => exact .ended (.same)
      | some incident =>
          by_cases hopen : incident.status = .open
          · simp only [Option.map_some, hopen, ne_eq, not_true_eq_false, if_false, Eff.bind_run,
              Faults.read_run]
            cases faults .policy with
            | some e => exact .failed (.same)
            | none =>
                cases hpolicy : db.loadPolicy job.policyId with
                | none => exact .ended (.same)
                | some policy =>
                    obtain ⟨repeatCount, steps⟩ := policy
                    cases steps with
                    | nil => exact .ended (.same)
                    | cons first later =>
                        cases hstep : (first :: later)[job.stepIndex]? with
                        | none =>
                            by_cases hround : job.round < repeatCount
                            · simp only [hstep, hround, if_true, Eff.bind_run, enqueue,
                                Faults.write_run]
                              cases faults .successor with
                              | some e => exact .failed (.same)
                              | none => exact .ended (.enqueue rfl rfl)
                            · simp only [hstep, hround, if_false]
                              exact .ended (.same)
                        | some step =>
                            have hactive : db.active job =
                                some (incident, ⟨repeatCount, first :: later⟩) := by
                              simp [Db.active, hincident, hpolicy, hopen]
                            simp only [hstep]
                            exact .loaded rfl hactive hstep
          · simp only [Option.map_some, hopen, ne_eq, not_false_eq_true, if_true]
            exact .ended (.same)

theorem proceed_proceeds (deps : Deps) (faults : Faults) (w : AtWork) (db : Db) :
    Proceeds deps w db ((w.proceed deps faults).run db).1 ((w.proceed deps faults).run db).2 := by
  obtain ⟨job, now, stage⟩ := w
  cases stage with
  | taken => exact loadStage_proceeds deps faults job now db
  | loaded l =>
      rw [AtWork.proceed, Eff.map_run, resolveTargets_run]
      cases faults.first (scheduleSites 0 l.step.targets) with
      | some e => exact .failed (.same)
      | none => exact .resolved rfl
  | resolved l found =>
      have hleaves := pageStage_leaves deps faults now job l found db
      rw [AtWork.proceed, Eff.map_run]
      cases hrun : (pageStage deps faults now job l found).run db with
      | mk r db' =>
          rw [hrun] at hleaves
          cases r with
          | error e => exact .failed hleaves
          | ok result => exact .ended hleaves

/-! ## who is paged -/

theorem loadStage_emails (faults : Faults) (job : EscalationJobData) :
    Eff.Frames Db.emailQueue (loadStage faults job) := by
  have hread : ∀ {α : Type} (site : Site) (f : Db → α),
      Eff.Frames Db.emailQueue (faults.read site f) := fun _ _ => Eff.Frames.statement fun _ => rfl
  rw [loadStage]
  refine .bind (hread _ _) fun found => ?_
  split
  · exact .pure _
  · split
    · exact .pure _
    · refine .bind (hread _ _) fun policy => ?_
      split
      · exact .pure _
      · exact .pure _
      · split
        · split
          · exact .bind (.write fun _ => rfl) fun _ => .pure _
          · exact .pure _
        · exact .pure _

theorem paged_emails {deps : Deps} {ctx : StepContext} {step : Int} {users : List UserRow}
    {db : Db} {e : QueuedEmail} (h : e ∈ (db.paged deps ctx step users).emailQueue) :
    e ∈ db.emailQueue ∨ ∃ user ∈ users, e = queuedPage deps ctx step user := by
  induction users generalizing db with
  | nil => exact .inl h
  | cons user rest ih =>
      rw [Db.paged, List.foldl_cons, ← Db.paged] at h
      obtain hpage | ⟨other, hother, rfl⟩ := ih h
      · rw [Db.page, Db.enqueueEmail] at hpage
        split at hpage
        · exact .inl hpage
        · obtain hold | hnew := List.mem_append.1 hpage
          · exact .inl hold
          · exact .inr ⟨user, List.mem_cons_self, List.mem_singleton.1 hnew⟩
      · exact .inr ⟨other, List.mem_cons_of_mem _ hother, rfl⟩

/-- **The next statements of a job page no one but `pages`.** -/
theorem proceed_emails {deps : Deps} {faults : Faults} {w : AtWork} {db : Db} {e : QueuedEmail}
    (h : e ∈ ((w.proceed deps faults).run db).2.emailQueue) :
    e ∈ db.emailQueue ∨
      ∃ ctx step, ∃ user ∈ w.pages deps faults db, e = queuedPage deps ctx step user := by
  obtain ⟨job, now, stage⟩ := w
  cases stage with
  | taken =>
      rw [AtWork.proceed, loadStage_emails faults job db] at h
      exact .inl h
  | loaded l =>
      rw [AtWork.proceed, Eff.map_run_snd, resolveTargets_run] at h
      cases hsite : faults.first (scheduleSites 0 l.step.targets) with
      | some e =>
          rw [hsite] at h
          exact .inl h
      | none =>
          rw [hsite] at h
          exact .inl h
  | resolved l found =>
      obtain ⟨failed, hpages⟩ :=
        pageResponders_run deps faults l.ctx l.step.position found.responders db
      have hclose : ∀ paged, Eff.Frames Db.emailQueue (do
          let fired ← finishStep faults l.ctx l.step now found paged
          enqueueNext faults (successor l.policy job)
          pure (JobResult.fired l.step.position fired (successor l.policy job).isSome)) := by
        intro paged
        refine .bind (fun db => ?_) fun fired => .bind (fun db => ?_) fun _ => .pure _
        · obtain ⟨r, rows, jobs, events, audits, hfinish, -⟩ :=
            finishStep_run faults l.ctx l.step now found paged db
          rw [hfinish]
          rfl
        · rw [enqueueNext_run]
          split <;> rfl
      rw [AtWork.proceed, Eff.map_run_snd, pageStage, Eff.view_bind Db.emailQueue hclose,
        hpages] at h
      cases hsite : faults.first (userSites deps found.responders) with
      | some e =>
          rw [hsite] at h
          exact .inl h
      | none =>
          rw [hsite] at h
          obtain hold | ⟨user, huser, rfl⟩ := paged_emails h
          · exact .inl hold
          · exact .inr ⟨l.ctx, l.step.position, user, huser, rfl⟩

end UptimeFlow.Escalation
