import UptimeFlow.Escalation.Teams

/-!
# UptimeFlow.Escalation.Reliance

What the state relies on.

A member is looked up when a policy, a rotation or an override that names them
is written, and never again.  `Team.Relies` lists all that the state relies on
since: what the rows name, what calls under way have found, what jobs have
read.  The pipeline and the worker make it rely on nothing more (`step_jobs`):
a job that reads a policy or a schedule finds one of its own organization.
-/

namespace UptimeFlow.Escalation

open Tables OnCall
open Monitoring (Instant IncidentId OrganizationId PolicyId MonitorRow Incident EscalationContext
  EscalationJobData)

/-! ## what is relied on -/

/-- What a step with this target relies on. -/
def TargetRow.needs (target : TargetRow) : Option Check :=
  match target.type with
  | .user => target.userId.map .member
  | .schedule => target.scheduleId.map .schedule
  | .channel => none

/-- The targets a job has read and still has to resolve. -/
def Stage.targets : Stage → List TargetRow
  | .loaded l => l.step.targets
  | _ => []

/-- The responders a job still has to page. -/
def Stage.responders : Stage → List ResponderRef
  | .resolved _ found => found.responders
  | _ => []

/-- A job at work relies on this, for the organization of its incident. -/
def AtWork.relies (w : AtWork) (organizationId : OrganizationId) (c : Check) : Prop :=
  w.job.organizationId = organizationId ∧
    (c = .policy w.job.policyId ∨ (∃ t ∈ w.stage.targets, t.needs = some c) ∨
      ∃ ref ∈ w.stage.responders, c = .member ref.userId)

instance (w : AtWork) (organizationId : OrganizationId) (c : Check) :
    Decidable (w.relies organizationId c) := by
  unfold AtWork.relies
  infer_instance

/-- The parts of the state that name members, schedules or policies. -/
inductive Part where
  | policies | schedules | calls | monitors | queue | work
deriving DecidableEq, Repr

def Part.all : List Part := [.policies, .schedules, .calls, .monitors, .queue, .work]

theorem Part.mem_all (part : Part) : part ∈ Part.all := by
  cases part <;> decide

/-- The operation is one of the pipeline, of the worker, or of an incident. -/
def TeamOp.ofJobs : TeamOp → Bool
  | .start .. | .incident .. | .take _ | .proceed .. | .stall _ => true
  | _ => false

namespace Team

/-- The override is not over, for the clock or for a job at work. -/
def ahead (s : Team) (o : OverrideRow) : Bool :=
  s.clock ≤ o.endsAt || s.atWork.any (·.now ≤ o.endsAt)

/-- A part of the state relies on this, for the organization. -/
def reliesIn (s : Team) (organizationId : OrganizationId) (c : Check) : Part → Prop
  | .policies => ∃ p ∈ s.system.db.policies, p.organizationId = organizationId ∧
      p.deletedAt = none ∧ ∃ row ∈ s.system.db.escalationSteps, row.policyId = p.id ∧
        ∃ t ∈ row.targets, t.needs = some c
  | .schedules => ∃ r ∈ s.schedules, r.organizationId = organizationId ∧ r.deletedAt = none ∧
      ((∃ p ∈ s.participants, p.scheduleId = r.id ∧ c = .member p.userId) ∨
        ∃ o ∈ s.overrides, o.scheduleId = r.id ∧ s.ahead o = true ∧ c = .member o.userId)
  | .calls => ∃ call ∈ s.calls, call.organizationId = organizationId ∧
      ∃ line ∈ call.found, line.check = c
  | .monitors => ∃ m ∈ s.system.db.monitors ++ s.loaded, m.organizationId = organizationId ∧
      m.escalationPolicyId.map .policy = some c
  | .queue => ∃ j ∈ s.system.db.escalationQueue, j.organizationId = organizationId ∧
      c = .policy j.policyId
  | .work => ∃ w ∈ s.atWork, w.relies organizationId c

instance (s : Team) (organizationId : OrganizationId) (c : Check) :
    (part : Part) → Decidable (s.reliesIn organizationId c part)
  | .policies | .schedules | .calls | .monitors | .queue | .work => by
      unfold reliesIn
      infer_instance

/-- The state relies on this, for the organization. -/
def Relies (s : Team) (organizationId : OrganizationId) (c : Check) : Prop :=
  ∃ part, s.reliesIn organizationId c part

instance (s : Team) (organizationId : OrganizationId) (c : Check) :
    Decidable (s.Relies organizationId c) :=
  decidable_of_iff (∃ part ∈ Part.all, s.reliesIn organizationId c part)
    (exists_congr fun part => and_iff_right part.mem_all)

/-- What a check found and nothing but the removal of a member can undo. -/
def Met (s : Team) (organizationId : OrganizationId) : Check → Prop
  | .member userId => ⟨organizationId, userId⟩ ∈ s.members
  | .schedule id => ∃ r ∈ s.schedules, r.id = id ∧ r.organizationId = organizationId
  | .policy id => ∃ p ∈ s.system.db.policies, p.id = id ∧ p.organizationId = organizationId
  | .monitor id => ∃ m ∈ s.system.db.monitors, m.id = id ∧ m.organizationId = organizationId
  | .input ok => ok = true
  | .timezone _ | .channel _ => True

/-- **What the state relies on is there.** -/
structure Sound (s : Team) : Prop where
  policies : (s.system.db.policies.map (·.id)).Nodup
  schedules : (s.schedules.map (·.id)).Nodup
  monitors : (s.system.db.monitors.map (·.id)).Nodup
  met : ∀ organizationId c, s.Relies organizationId c → s.Met organizationId c

/-- What a call finds is met. -/
theorem met_of_holds {host : Host} {s : Team} {organizationId : OrganizationId} {c : Check}
    (h : s.holds host organizationId c = true) : s.Met organizationId c := by
  cases c with
  | input ok => exact h
  | timezone tz => trivial
  | channel id => trivial
  | member userId =>
      obtain ⟨m, hm, hfound⟩ := List.any_eq_true.1 h
      simp only [Bool.and_eq_true, decide_eq_true_eq] at hfound
      obtain ⟨rfl, rfl⟩ := hfound
      exact hm
  | schedule id =>
      obtain ⟨r, hr, hfound⟩ := List.any_eq_true.1 h
      simp only [Bool.and_eq_true, decide_eq_true_eq] at hfound
      exact ⟨r, hr, hfound.1⟩
  | policy id =>
      obtain ⟨p, hp, hfound⟩ := List.any_eq_true.1 h
      simp only [Bool.and_eq_true, decide_eq_true_eq] at hfound
      exact ⟨p, hp, hfound.1⟩
  | monitor id =>
      obtain ⟨m, hm, hfound⟩ := List.any_eq_true.1 h
      simp only [Bool.and_eq_true, decide_eq_true_eq] at hfound
      exact ⟨m, hm, hfound.1⟩

/-! ## jobs -/

/-- The jobs move on: rows of policies and monitors are as they were, and no job relies on
anything new. -/
structure JobsMove (s : Team) (system : System) (atWork : List AtWork) : Prop where
  policies : system.db.policies = s.system.db.policies
  steps : system.db.escalationSteps = s.system.db.escalationSteps
  monitors : system.db.monitors = s.system.db.monitors
  queue : ∀ j ∈ system.db.escalationQueue, s.Relies j.organizationId (.policy j.policyId)
  work : ∀ w ∈ atWork, ∀ organizationId c, w.relies organizationId c → s.Relies organizationId c
  times : ∀ w ∈ atWork, w.now = s.clock ∨ ∃ w₀ ∈ s.atWork, w₀.now = w.now

section
variable {s : Team} {system : System} {atWork : List AtWork}

theorem relies_queue {j : EscalationJobData} (hj : j ∈ s.system.db.escalationQueue) :
    s.Relies j.organizationId (.policy j.policyId) := ⟨.queue, j, hj, rfl, rfl⟩

theorem relies_work {w : AtWork} (hw : w ∈ s.atWork) {organizationId : OrganizationId} {c : Check}
    (h : w.relies organizationId c) : s.Relies organizationId c := ⟨.work, w, hw, h⟩

/-- An override that is not over when the jobs have moved on was not over before. -/
theorem JobsMove.ahead (h : JobsMove s system atWork) {o : OverrideRow}
    (ho : Team.ahead { s with system, atWork } o = true) : s.ahead o = true := by
  simp only [Team.ahead, Bool.or_eq_true, decide_eq_true_eq, List.any_eq_true] at ho ⊢
  obtain hclock | ⟨w, hw, hnow⟩ := ho
  · exact .inl hclock
  · obtain hw | ⟨w₀, hw₀, hsame⟩ := h.times w hw
    · exact .inl (hw ▸ hnow)
    · exact .inr ⟨w₀, hw₀, hsame ▸ hnow⟩

theorem JobsMove.relies (h : JobsMove s system atWork) {organizationId : OrganizationId}
    {c : Check} (hc : Team.Relies { s with system, atWork } organizationId c) :
    s.Relies organizationId c := by
  obtain ⟨part, hc⟩ := hc
  cases part with
  | policies =>
      obtain ⟨p, hp, hlive, hdeleted, row, hrow, htargets⟩ := hc
      exact ⟨.policies, p, h.policies ▸ hp, hlive, hdeleted, row, h.steps ▸ hrow, htargets⟩
  | schedules =>
      obtain ⟨r, hr, hlive, hdeleted, hparticipant | ⟨o, ho, hschedule, hahead, hc⟩⟩ := hc
      · exact ⟨.schedules, r, hr, hlive, hdeleted, .inl hparticipant⟩
      · exact ⟨.schedules, r, hr, hlive, hdeleted, .inr ⟨o, ho, hschedule, h.ahead hahead, hc⟩⟩
  | calls => exact ⟨.calls, hc⟩
  | monitors =>
      obtain ⟨m, hm, howner, hpolicy⟩ := hc
      exact ⟨.monitors, m, h.monitors ▸ hm, howner, hpolicy⟩
  | queue =>
      obtain ⟨j, hj, rfl, rfl⟩ := hc
      exact h.queue j hj
  | work =>
      obtain ⟨w, hw, hc⟩ := hc
      exact h.work w hw organizationId c hc

theorem tables_of_settings {db db' : Db} (h : db'.settings = db.settings) :
    db'.policies = db.policies ∧ db'.escalationSteps = db.escalationSteps ∧
      db'.monitors = db.monitors := by
  have hpolicies := congrArg Db.policies h
  have hsteps := congrArg Db.escalationSteps h
  have hmonitors := congrArg Db.monitors h
  exact ⟨hpolicies, hsteps, hmonitors⟩

/-- A job that is given back relies on what it relied on at work. -/
theorem relies_giveBack {w : AtWork} (hw : w ∈ s.atWork) {db : Db} {retried : Bool}
    (hdb : ∀ j ∈ db.escalationQueue, s.Relies j.organizationId (.policy j.policyId)) :
    ∀ j ∈ (db.giveBack retried w.job).escalationQueue,
      s.Relies j.organizationId (.policy j.policyId) := by
  intro j hj
  rw [Db.giveBack] at hj
  split at hj
  · obtain hj | hj := List.mem_append.1 hj
    · exact hdb j hj
    · rw [List.mem_singleton.1 hj]
      exact relies_work hw ⟨rfl, .inl rfl⟩
  · exact hdb j hj

/-- What others enqueue for the policy of an organization, the state relies on already. -/
theorem relies_leaves {policyId : PolicyId} {organizationId : OrganizationId} {db db' : Db}
    (h : Leaves policyId organizationId db db')
    (hdb : ∀ j ∈ db.escalationQueue, s.Relies j.organizationId (.policy j.policyId))
    (howner : s.Relies organizationId (.policy policyId)) :
    ∀ j ∈ db'.escalationQueue, s.Relies j.organizationId (.policy j.policyId) := by
  obtain ⟨next, hnext, howned⟩ := h.queue
  intro j hj
  rw [hnext] at hj
  obtain hj | hj := List.mem_append.1 hj
  · exact hdb j hj
  · obtain ⟨rfl, rfl⟩ := howned j hj
    exact howner

/-- Others write their own tables, and the jobs at work are fewer. -/
theorem JobsMove.of_sublist (htables : system.db.policies = s.system.db.policies ∧
      system.db.escalationSteps = s.system.db.escalationSteps ∧
      system.db.monitors = s.system.db.monitors)
    (hqueue : ∀ j ∈ system.db.escalationQueue, s.Relies j.organizationId (.policy j.policyId))
    (hwork : ∀ w ∈ atWork, w ∈ s.atWork) : JobsMove s system atWork :=
  ⟨htables.1, htables.2.1, htables.2.2, hqueue,
    fun w hw _ _ hc => relies_work (hwork w hw) hc, fun w hw => .inr ⟨w, hwork w hw, rfl⟩⟩

end

theorem escalationStarter_leaves (faults : Faults) (ctx : EscalationContext) (db : Db) :
    Leaves ctx.policyId ctx.organizationId db ((escalationStarter faults ctx).run db).2 := by
  rw [escalationStarter_run]
  split
  · exact .same
  · exact .same
  · exact .same
  · exact .enqueue rfl rfl

variable {host : Host} {s : Team}

theorem start_jobs {n : Nat} {m : MonitorRow} {policyId : PolicyId} (hm : s.loaded[n]? = some m)
    (hpolicy : m.escalationPolicyId = some policyId) (deps : Deps) (faults : Faults)
    (incidentId : IncidentId) :
    JobsMove s (s.system.step deps (.start faults ⟨incidentId, m.organizationId, m.id, policyId⟩))
      s.atWork := by
  have hleaves := escalationStarter_leaves faults
    ⟨incidentId, m.organizationId, m.id, policyId⟩ s.system.db
  have howner : s.Relies m.organizationId (.policy policyId) :=
    ⟨.monitors, m, List.mem_append_right _ (List.mem_of_getElem? hm), rfl, by rw [hpolicy]; rfl⟩
  exact .of_sublist (tables_of_settings hleaves.settings)
    (relies_leaves hleaves (fun _ => relies_queue) howner) fun w hw => hw

theorem take_jobs {n : Nat} {job : EscalationJobData}
    (hjob : s.system.db.escalationQueue[n]? = some job) :
    JobsMove s { s.system with db := s.system.db.taken n }
      (s.atWork ++ [⟨job, s.clock, .taken⟩]) := by
  refine ⟨rfl, rfl, rfl, fun j hj => relies_queue (List.mem_of_mem_eraseIdx hj),
    fun w hw organizationId c hc => ?_, fun w hw => ?_⟩
  · obtain hw | hw := List.mem_append.1 hw
    · exact relies_work hw hc
    · rw [List.mem_singleton.1 hw] at hc
      obtain ⟨rfl, rfl | ⟨t, ht, -⟩ | ⟨ref, href, -⟩⟩ := hc
      · exact relies_queue (List.mem_of_getElem? hjob)
      · cases ht
      · cases href
  · obtain hw | hw := List.mem_append.1 hw
    · exact .inr ⟨w, hw, rfl⟩
    · exact .inl (by rw [List.mem_singleton.1 hw])

theorem stall_jobs {k : Nat} {w : AtWork} (hw : s.atWork[k]? = some w) :
    JobsMove s { s.system with db := s.system.db.giveBack true w.job } (s.atWork.eraseIdx k) :=
  .of_sublist ⟨rfl, rfl, rfl⟩
    (relies_giveBack (List.mem_of_getElem? hw) fun _ => relies_queue)
    fun _ => List.mem_of_mem_eraseIdx

/-- A job that has read its step relies on the policy it read. -/
theorem relies_loaded (h : s.Sound) {w : AtWork} (hw : w ∈ s.atWork) {l : Loaded}
    {incident : Incident} (hactive : s.db.active w.job = some (incident, l.policy))
    (hstep : l.policy.steps[w.job.stepIndex]? = some l.step) {t : TargetRow}
    (ht : t ∈ l.step.targets) {c : Check} (hc : t.needs = some c) :
    s.Relies w.job.organizationId c := by
  obtain ⟨-, -, hload, -⟩ := active_eq_some hactive
  obtain ⟨p, hp, hpolicy⟩ := Option.map_eq_some_iff.1 hload
  have hfound := List.find?_some hp
  simp only [Bool.and_eq_true, decide_eq_true_eq, Option.isNone_iff_eq_none] at hfound
  have hmem : p ∈ s.system.db.policies := List.mem_of_find?_eq_some hp
  -- the policy read is the one of the job's organization
  obtain ⟨own, hown, hid, howner⟩ := h.met _ _ (relies_work hw ⟨rfl, .inl rfl⟩)
  have hsame : p = own := eq_of_id_eq h.policies hmem hown (hfound.1.trans hid.symm)
  have hrow : l.step ∈ s.db.stepsOf w.job.policyId := by
    rw [← hpolicy] at hstep
    exact List.mem_of_getElem? hstep
  rw [Db.stepsOf, List.mem_insertionSort, List.mem_filter, decide_eq_true_eq] at hrow
  exact ⟨.policies, p, hmem, hsame ▸ howner, hfound.2, l.step, hrow.1,
    hrow.2.trans hfound.1.symm, t, ht, hc⟩

/-- A job that has resolved its step relies on the targets it had read, and on the schedules. -/
theorem relies_resolved (h : s.Sound) {w : AtWork} (hw : w ∈ s.atWork) {l : Loaded}
    (hloaded : w.stage = .loaded l) (deps : Deps) {ref : ResponderRef}
    (href : ref ∈ (s.db.resolved deps w.now l.step.targets {}).responders) :
    s.Relies w.job.organizationId (.member ref.userId) := by
  have htarget : ∀ t ∈ l.step.targets, ∀ c, t.needs = some c → s.Relies w.job.organizationId c :=
    fun t ht c hc => relies_work hw ⟨rfl, .inr (.inl ⟨t, by rwa [hloaded], hc⟩)⟩
  obtain ⟨t, ht, ⟨htype, huser⟩ | ⟨htype, id, onCall, hid, honCall, hprimary⟩⟩ :=
    resolved_responders ref href
  · exact htarget t ht _ (by rw [TargetRow.needs, htype, huser]; rfl)
  · obtain ⟨row, hrow, hrowId, hlive, hnames⟩ := whoIsOnCall_primary honCall hprimary
    obtain ⟨r, hr, rfl⟩ := List.mem_map.1 hrow
    -- the schedule read is one of the organization
    obtain ⟨own, hown, hownId, howner⟩ :=
      h.met _ _ (htarget t ht (.schedule id) (by rw [TargetRow.needs, htype, hid]; rfl))
    have hsame : r = own := eq_of_id_eq h.schedules hr hown (hrowId.trans hownId.symm)
    refine ⟨.schedules, r, hr, hsame ▸ howner, hlive, ?_⟩
    obtain ⟨p, hp, huser⟩ | ⟨o, ho, hactive, huser⟩ := hnames
    · obtain ⟨row, hrow, rfl⟩ := List.mem_map.1 hp
      rw [List.mem_filter, decide_eq_true_eq] at hrow
      exact .inl ⟨row, hrow.1, hrow.2, by rw [← huser]⟩
    · obtain ⟨row, hrow, rfl⟩ := List.mem_map.1 ho
      rw [List.mem_filter, decide_eq_true_eq] at hrow
      simp only [OverrideRef.active, Bool.and_eq_true, decide_eq_true_eq] at hactive
      refine .inr ⟨row, hrow.1, hrow.2, ?_, by rw [← huser]⟩
      simp only [ahead, Bool.or_eq_true, decide_eq_true_eq, List.any_eq_true]
      exact .inr ⟨w, hw, hactive.2⟩

theorem giveBack_settings (db : Db) (retried : Bool) (job : EscalationJobData) :
    (db.giveBack retried job).settings = db.settings := by
  rw [Db.giveBack]
  split <;> rfl

/-- A job that comes to a new stage relies on what its stage has read. -/
theorem JobsMove.stage {k : Nat} {w : AtWork} (hw : s.atWork[k]? = some w) {stage : Stage}
    (hstage : ∀ organizationId c, AtWork.relies { w with stage } organizationId c →
      s.Relies organizationId c) :
    JobsMove s { s.system with db := s.db } (s.atWork.set k { w with stage }) := by
  refine ⟨rfl, rfl, rfl, fun _ => relies_queue, fun w' hw' organizationId c hc => ?_,
    fun w' hw' => .inr ?_⟩
  · obtain hold | rfl := List.mem_or_eq_of_mem_set hw'
    · exact relies_work hold hc
    · exact hstage organizationId c hc
  · obtain hold | rfl := List.mem_or_eq_of_mem_set hw'
    · exact ⟨w', hold, rfl⟩
    · exact ⟨w, List.mem_of_getElem? hw, rfl⟩

variable (host) in
theorem proceed_jobs (h : s.Sound) {k : Nat} {w : AtWork} (hw : s.atWork[k]? = some w)
    (faults : Faults) (retried : Bool) :
    ∃ system atWork, s.proceed host k faults retried w = { s with system, atWork } ∧
      JobsMove s system atWork := by
  have hmem := List.mem_of_getElem? hw
  have howner : s.Relies w.job.organizationId (.policy w.job.policyId) :=
    relies_work hmem ⟨rfl, .inl rfl⟩
  have hproceeds := proceed_proceeds host.toDeps faults w s.db
  rw [Team.proceed]
  generalize (w.proceed host.toDeps faults).run s.db = out at hproceeds
  obtain ⟨r, db⟩ := out
  cases hproceeds with
  | failed hleaves =>
      have htables :=
        tables_of_settings ((giveBack_settings db retried w.job).trans hleaves.settings)
      have hqueue := relies_leaves hleaves (fun _ => relies_queue) howner
      exact ⟨_, _, rfl, .of_sublist htables (relies_giveBack hmem hqueue)
        fun _ => List.mem_of_mem_eraseIdx⟩
  | ended hleaves =>
      have htables := tables_of_settings hleaves.settings
      have hqueue := relies_leaves hleaves (fun _ => relies_queue) howner
      exact ⟨_, _, rfl, .of_sublist htables hqueue fun _ => List.mem_of_mem_eraseIdx⟩
  | loaded htaken hactive hstep =>
      refine ⟨_, _, rfl, .stage hw fun organizationId c hc => ?_⟩
      obtain ⟨rfl, rfl | ⟨t, ht, hc⟩ | ⟨ref, href, -⟩⟩ := hc
      · exact howner
      · exact relies_loaded h hmem hactive hstep ht hc
      · cases href
  | resolved hloaded =>
      refine ⟨_, _, rfl, .stage hw fun organizationId c hc => ?_⟩
      obtain ⟨rfl, rfl | ⟨t, ht, -⟩ | ⟨ref, href, rfl⟩⟩ := hc
      · exact howner
      · cases ht
      · exact relies_resolved h hmem hloaded host.toDeps href

variable (host) in
/-- **What the pipeline and the worker do**: the jobs move on, and nothing else changes. -/
theorem step_jobs (h : s.Sound) {op : TeamOp} (hop : op.ofJobs = true) :
    ∃ system atWork, s.step host op = { s with system, atWork } ∧ JobsMove s system atWork := by
  have hstill : JobsMove s s.system s.atWork :=
    .of_sublist ⟨rfl, rfl, rfl⟩ (fun _ => relies_queue) fun _ hw => hw
  cases op with
  | start n faults incidentId =>
      rw [Team.step]
      split
      · exact ⟨_, _, rfl, hstill⟩
      · next m hm =>
        split
        · exact ⟨_, _, rfl, hstill⟩
        · next policyId hpolicy =>
          exact ⟨_, _, rfl, start_jobs hm hpolicy host.toDeps faults incidentId⟩
  | incident m op =>
      exact ⟨_, _, rfl, .of_sublist ⟨rfl, rfl, rfl⟩ (fun _ => relies_queue) fun _ hw => hw⟩
  | take n =>
      rw [Team.step]
      split
      · exact ⟨_, _, rfl, hstill⟩
      · next job hjob => exact ⟨_, _, rfl, take_jobs hjob⟩
  | proceed k faults retried =>
      rw [Team.step]
      split
      · exact ⟨_, _, rfl, hstill⟩
      · next w hw => exact proceed_jobs host h hw faults retried
  | stall k =>
      rw [Team.step]
      split
      · exact ⟨_, _, rfl, hstill⟩
      · next w hw => exact ⟨_, _, rfl, stall_jobs hw⟩
  | _ => cases hop

end Team

end UptimeFlow.Escalation
