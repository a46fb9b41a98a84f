import UptimeFlow.Escalation.Rounds

/-!
# UptimeFlow.Escalation.Pages

The pages of a chain, and what the timeline says of them.

The email queue does nothing with a page whose id it still knows, and the id of
a page names the incident, the step and the user, not the round.  So a step is
honest about its pages exactly when the queue knows none of them
(`pagesHonest_iff`), which a repeated round runs into while the emails of the
round before are retained.
-/

namespace UptimeFlow.Escalation

open Runs
open Monitoring (Instant IncidentId PolicyId EscalationContext EscalationJobData Incident)

/-! ## one step -/

/-- A job that succeeds at a step wrote what firing it writes. -/
theorem JobEnds.fired {deps : Deps} {faults : Faults} {now : Instant} {job : EscalationJobData}
    {db db' : Db} {result : JobResult} {step : StepRow}
    (h : JobEnds deps faults now job db (.ok result) db') (hstep : db.stepOf job = some step) :
    ∃ incident policy w, Fires deps faults now job (db.contextOf job incident) policy step db
      (.ok result) w ∧ db' = db.wrote (db.contextOf job incident) w := by
  cases h with
  | idle hactive => simp [Db.stepOf, hactive] at hstep
  | exhausted hactive hpast => simp [Db.stepOf, hactive, hpast] at hstep
  | repeated hactive hpast => simp [Db.stepOf, hactive, hpast] at hstep
  | @fires incident policy found _ w hactive hfound hfires =>
      obtain rfl : found = step := by simpa [Db.stepOf, hactive, hfound] using hstep
      exact ⟨incident, policy, w, hfires, rfl⟩

/-- The new entries of the timeline are one entry; the users it counts as paged are all whom the
step resolves to and reaches, and the new emails are theirs, one each. -/
def HonestPages (incidentId : IncidentId) (reached : List UserRow) (db db' : Db) : Prop :=
  ∃ event metadata emails, db'.incidentEvents = db.incidentEvents ++ [event] ∧
    event.escalation = some metadata ∧ metadata.pagedUserIds = reached.map (·.id) ∧
    db'.emailQueue = db.emailQueue ++ emails ∧
    emails.map (·.jobId) = metadata.pagedUserIds.map (pageId incidentId metadata.step)

/-- The pages added are those of all users exactly when none of them was known. -/
theorem newPages_all_iff (db : Db) (deps : Deps) (ctx : StepContext) (step : Int)
    (users : List UserRow) :
    (db.newPages deps ctx step users).map (·.jobId) =
        (users.map (·.id)).map (pageId ctx.incidentId step) ↔
      ∀ user ∈ users, db.knowsPage ctx.incidentId step user = false := by
  have hids : (db.newPages deps ctx step users).map (·.jobId) =
      (users.filter fun u => !db.knowsPage ctx.incidentId step u).map
        fun u => pageId ctx.incidentId step u.id := by
    rw [Db.newPages, List.map_map]
    rfl
  rw [hids, List.map_map]
  constructor
  · intro h
    have hlength := congrArg List.length h
    rw [List.length_map, List.length_map, List.length_filter_eq_length_iff] at hlength
    intro user huser
    simpa using hlength user huser
  · intro h
    rw [List.filter_eq_self.2 fun user huser => by simp [h user huser]]
    rfl

/-- **A step that is fired is honest about its pages if and only if the email queue knows none of
them.** -/
theorem Fires.honest_iff {deps : Deps} {faults : Faults} {now : Instant} {job : EscalationJobData}
    {incident : Incident} {policy : LoadedPolicy} {step : StepRow} {db : Db} {result : JobResult}
    {w : Writes} (h : Fires deps faults now job (db.contextOf job incident) policy step db
      (.ok result) w) :
    HonestPages job.incidentId (db.pagedBy deps faults now step) db
        (db.wrote (db.contextOf job incident) w) ↔
      ∀ user ∈ db.pagedBy deps faults now step,
        db.knowsPage job.incidentId step.position user = false := by
  obtain ⟨-, -, -, hemails, paged, n, hpaged, hevents, -⟩ := h.complete result rfl
  have hall := newPages_all_iff db deps (db.contextOf job incident) step.position
    (db.pagedBy deps faults now step)
  rw [← hemails] at hall
  change _ ↔ ∀ user ∈ _, db.knowsPage job.incidentId step.position user = false at hall
  rw [← hall]
  constructor
  · rintro ⟨event, metadata, emails, hevent, hmetadata, hids, hqueue, hjobs⟩
    rw [Db.wrote, hevents] at hevent
    obtain rfl := List.singleton_inj.1 (List.append_cancel_left hevent)
    obtain rfl : w.emails = emails := List.append_cancel_left hqueue
    cases hmetadata
    rw [hjobs, hids]
    rfl
  · intro hjobs
    refine ⟨_, _, w.emails, by rw [Db.wrote, hevents], rfl, hpaged, rfl, ?_⟩
    rw [hjobs, ← hpaged]
    rfl

/-! ## a chain -/

/-- A step the operation fires for the incident is honest about its pages. -/
def PagesHonest (deps : Deps) (id : IncidentId) (s : System) : Op → Prop
  | .process n faults now retried =>
      ∀ job ∈ s.db.escalationQueue[n]?, job.incidentId = id → ∀ step ∈ s.db.stepOf job,
        HonestPages id (s.db.pagedBy deps faults now step) s.db
          (s.step deps (.process n faults now retried)).db
  | _ => True

/-- The email queue knows no page of a step the operation is about to fire for the incident. -/
def PagesUnknown (deps : Deps) (id : IncidentId) (s : System) : Op → Prop
  | .process n faults now _ =>
      ∀ job ∈ s.db.escalationQueue[n]?, job.incidentId = id → ∀ step ∈ s.db.stepOf job,
        ∀ user ∈ s.db.pagedBy deps faults now step, s.db.knowsPage id step.position user = false
  | _ => True

instance (deps : Deps) (id : IncidentId) (s : System) :
    (op : Op) → Decidable (PagesUnknown deps id s op)
  | .process n _ _ _ => inferInstanceAs (Decidable (∀ job ∈ s.db.escalationQueue[n]?, _))
  | .start .. | .incident .. | .updatePolicy .. | .removePolicy .. | .elsewhere .. =>
      inferInstanceAs (Decidable True)

/-- **Step lemma**: an operation none of whose attempts fails is honest about the pages of the
incident if and only if the email queue knows none of them. -/
theorem pagesHonest_iff {deps : Deps} {id : IncidentId} {s : System} {op : Op}
    (hsucceeds : s.succeeds deps id op = true) :
    PagesHonest deps id s op ↔ PagesUnknown deps id s op := by
  cases op with
  | process n faults now retried =>
      refine forall_congr' fun job => forall_congr' fun hjob => forall_congr' fun hid =>
        forall_congr' fun step => forall_congr' fun hstep => ?_
      rw [Option.mem_def] at hjob hstep
      obtain ⟨r, db, hrun, hends, hnext⟩ := step_process deps hjob faults now retried
      cases r with
      | error e => simp [System.succeeds, hjob, hid, hrun, Except.isOk, Except.toBool] at hsucceeds
      | ok result =>
          have hfound : (s.db.taken n).stepOf job = some step := hstep
          obtain ⟨incident, policy, w, hfires, rfl⟩ := hends.fired hfound
          rw [hnext, ← hid]
          exact hfires.honest_iff
  | start | incident | updatePolicy | removePolicy | elsewhere => exact Iff.rfl

/-- Alice is paged at once, and again in one repeat. -/
def pagesAlice : System where
  db := { escalated.db with
    escalationSteps :=
      [{ policyId := "p", position := 0, delayMinutes := 5
         targets := [{ type := .user, userId := some "alice" }] }]
    users := [{ id := "alice", email := "alice@acme.test", name := "Alice" }] }

def byEmail : Deps := ⟨fun _ _ => 0, some "https://app.test"⟩

/-- What surrounds the escalation once the emails sent so far are no longer retained. -/
def emailsGone : Op :=
  .elsewhere { monitors := [], alertChannels := [], schedules := [], users := pagesAlice.db.users
               alertQueue := [], emailQueue := [] }

def repeatedLater : List Op :=
  [.process 0 noFaults 300000 true, emailsGone, .process 0 noFaults 600000 true]

def repeatedSoon : List Op :=
  [.process 0 noFaults 300000 true, .process 0 noFaults 600000 true]

end UptimeFlow.Escalation
