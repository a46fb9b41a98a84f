import UptimeFlow.Escalation.System

/-!
# UptimeFlow.Escalation.Halts

An incident that is no longer open.

No operation opens an incident again (`Closed`), and a job of a closed incident
finds nothing to act on (`Inert`).  So whatever the queue holds, and whatever
happens around it, the jobs left over are taken off one by one and nothing
follows them: `closed_inert`.
-/

namespace UptimeFlow.Escalation

open Runs Tables
open Monitoring (IncidentId MonitorId Incident Race RaceOp Update)

/-! ## closed incidents stay closed -/

/-- The incident exists and its status is not open. -/
def Closed (id : IncidentId) (rows : List Incident) : Prop :=
  ∃ i, rows.find? (·.id = id) = some i ∧ i.status ≠ .open

/-- An update of incidents that leaves no incident open closes none again. -/
theorem Closed.updateWhere {id : IncidentId} {rows : List Incident} (h : Closed id rows)
    {p : Incident → Bool} {f : Incident → Incident} (hid : ∀ i, (f i).id = i.id)
    (hstatus : ∀ i, (f i).status ≠ .open) : Closed id (updateWhere p f rows) := by
  obtain ⟨i, hfind, hopen⟩ := h
  refine ⟨if p i then f i else i, by rw [find?_updateWhere hid, hfind]; rfl, ?_⟩
  by_cases hp : p i = true
  · rw [if_pos hp]
    exact hstatus i
  · rw [if_neg hp]
    exact hopen

theorem Closed.apply {id : IncidentId} {rows : List Incident} (h : Closed id rows)
    (u : Update) : Closed id (u.apply rows) := by
  cases u with
  | acknowledge => exact h.updateWhere (fun _ => rfl) fun i => by simp [Incident.acknowledge]
  | resolve => exact h.updateWhere (fun _ => rfl) fun i => by simp [Incident.resolve]

/-- An incident of its own identifier is opened beside it. -/
theorem Closed.race {id : IncidentId} {m : MonitorId} {race : Race} (h : Closed id race.incidents)
    (op : RaceOp m) : Closed id (race.step op).incidents := by
  cases op with
  | openIncident monitor hof outcome now =>
      rw [Race.step, Monitoring.insertIncident]
      split
      · exact h
      · obtain ⟨i, hfind, hopen⟩ := h
        refine ⟨i, ?_, hopen⟩
        simp [List.find?_append, hfind]
  | readPipelineResolve => exact h
  | readAcknowledge => exact h
  | readResolve => exact h
  | land k =>
      rw [Race.step]
      split
      · exact h
      · next u _ => exact h.apply u

/-- A job of a closed incident finds nothing to act on. -/
theorem Closed.active {db : Db} {job : Monitoring.EscalationJobData}
    (h : Closed job.incidentId db.incidents) : db.active job = none := by
  obtain ⟨i, hfind, hopen⟩ := h
  unfold Db.active Db.incidentOf
  rw [hfind]
  split
  · next hi hp =>
    cases hi
    simp [hopen]
  · rfl

theorem settings_incidents {db db' : Db} (h : db'.settings = db.settings) :
    db'.incidents = db.incidents := by
  change db'.settings.incidents = db.settings.incidents
  rw [h]

/-- **No operation opens a closed incident again.** -/
theorem Closed.step (deps : Deps) {id : IncidentId} {s : System} (h : Closed id s.db.incidents)
    (op : Op) : Closed id (s.step deps op).db.incidents := by
  cases op with
  | start faults ctx =>
      rw [System.step, escalationStarter_run]
      split <;> exact h
  | process n faults now retried =>
      cases hjob : s.db.escalationQueue[n]? with
      | none =>
          rw [System.step, hjob]
          exact h
      | some job =>
          obtain ⟨r, db, -, hends, hstep⟩ := step_process deps hjob faults now retried
          have hkept : db.incidents = s.db.incidents := settings_incidents hends.settings
          rw [← hkept] at h
          rw [hstep]
          cases r with
          | ok result => exact h
          | error e =>
              simp only [Db.giveBack]
              split <;> exact h
  | incident m op => exact Closed.race h op
  | updatePolicy organizationId policyId repeatCount steps =>
      rw [System.step, Db.updatePolicy]
      split <;> exact h
  | removePolicy organizationId policyId now => exact h
  | elsewhere surroundings => exact h

/-! ## jobs of a closed incident -/

/-- A job of the incident that is taken leaves everything as it was: the store loses the job, or
is given it back, and nothing else changes. -/
def Inert (deps : Deps) (id : IncidentId) (s : System) : Op → Prop
  | .process n faults now retried =>
      ∀ job, s.db.escalationQueue[n]? = some job → job.incidentId = id →
        (∃ reason, s.step deps (.process n faults now retried) =
          { s with db := s.db.taken n, log := s.log ++ [⟨job, .skipped reason⟩] }) ∨
        s.step deps (.process n faults now retried) =
          { s with db := (s.db.taken n).giveBack retried job }
  | _ => True

theorem Closed.inert (deps : Deps) {id : IncidentId} {s : System} (h : Closed id s.db.incidents)
    (op : Op) : Inert deps id s op := by
  cases op with
  | process n faults now retried =>
      intro job hjob hid
      have hactive : (s.db.taken n).active job = none := by
        refine Closed.active ?_
        rw [hid]
        exact h
      obtain ⟨r, hrun, hskipped⟩ := escalationProcessor_idle deps faults now hactive
      rw [System.step, hjob]
      simp only [hrun]
      cases r with
      | error e => exact .inr rfl
      | ok result =>
          obtain ⟨reason, rfl⟩ := hskipped result rfl
          exact .inl ⟨reason, rfl⟩
  | start | incident | updatePolicy | removePolicy | elsewhere => trivial

/-- The jobs of a closed incident only become fewer, unless its escalation is started. -/
theorem Closed.shrinks (deps : Deps) {id : IncidentId} {s : System}
    (h : Closed id s.db.incidents) {op : Op} (hstarts : op.starts id = false) :
    ((s.step deps op).pending id).Subperm (s.pending id) ∧
      ((s.step deps op).pending id).length + ((s.step deps op).processed id).length ≤
        (s.pending id).length + (s.processed id).length := by
  cases step_moves deps id s op with
  | still hpending hprocessed =>
      rw [hpending, hprocessed]
      exact ⟨List.Subperm.refl _, le_rfl⟩
  | started hstarts' => simp [hstarts] at hstarts'
  | @finished job result rest hperm hpending hprocessed hfired =>
      have hid : job.incidentId = id := incident_of_pending (hperm.mem_iff.1 List.mem_cons_self)
      have hnext : s.db.next job = none := by
        rw [Db.next, Closed.active (hid ▸ h)]
        rfl
      have hlength := hperm.length_eq
      rw [List.length_cons] at hlength
      rw [hpending, hprocessed, hnext, Option.toList_none, List.append_nil, List.length_append,
        List.length_singleton]
      refine ⟨?_, by omega⟩
      exact ((List.sublist_cons_self job rest).subperm).trans hperm.subperm
  | @failed job rest hfails hperm hpending hprocessed =>
      have hlength := hperm.length_eq
      rw [List.length_cons] at hlength
      obtain hpending | hpending := hpending
      · rw [hpending, hprocessed]
        refine ⟨?_, by omega⟩
        exact ((List.sublist_cons_self job rest).subperm).trans hperm.subperm
      · rw [hpending, hprocessed, List.length_append, List.length_singleton]
        exact ⟨((List.perm_append_singleton job rest).trans hperm).subperm, by omega⟩

/-- **Once an incident is not open, its jobs do nothing and none follows them**: whatever the
queue holds and whatever happens between the jobs, each of them leaves the store alone, and without
a further start only the jobs already queued remain, each processed at most once. -/
theorem closed_inert (deps : Deps) {id : IncidentId} {s : System} (ops : List Op)
    (hclosed : Closed id s.db.incidents) :
    Closed id (run (System.step deps) s ops).db.incidents ∧
      Along (System.step deps) (Inert deps id) s ops ∧
      ((∀ op ∈ ops, op.starts id = false) →
        ((run (System.step deps) s ops).pending id).Subperm (s.pending id) ∧
          ((run (System.step deps) s ops).pending id).length +
              ((run (System.step deps) s ops).processed id).length ≤
            (s.pending id).length + (s.processed id).length) := by
  induction ops generalizing s with
  | nil => exact ⟨hclosed, trivial, fun _ => ⟨List.Subperm.refl _, le_rfl⟩⟩
  | cons op ops ih =>
      obtain ⟨hlater, hinert, hshrinks⟩ := ih (hclosed.step deps op)
      refine ⟨hlater, ⟨hclosed.inert deps op, hinert⟩, fun hstarts => ?_⟩
      obtain ⟨hop, hops⟩ := List.forall_mem_cons.1 hstarts
      obtain ⟨hsub, hlength⟩ := hclosed.shrinks deps hop
      obtain ⟨hsub', hlength'⟩ := hshrinks hops
      rw [run_cons]
      exact ⟨hsub'.trans hsub, hlength'.trans hlength⟩

/-- The incident is acknowledged while its first job is queued twice, with a job of a step and a
policy that do not exist. -/
def acknowledged : System where
  db := { escalated.db with
    incidents := escalated.db.incidents.map (Incident.acknowledge (some "alice") 1000)
    escalationQueue :=
      [⟨7, "acme", "api", "p", 0, 0, 300000⟩, ⟨7, "acme", "api", "p", 0, 0, 300000⟩,
        ⟨7, "acme", "api", "gone", 5, 3, 0⟩] }

def drained : List Op :=
  [.process 2 noFaults 2000 true, .process 0 (fun _ => some "timeout") 3000 true,
    .process 0 noFaults 4000 true, .process 0 noFaults 5000 true]

theorem closed_inert_drained :
    let s' := run (System.step ⟨fun _ _ => 0, none⟩) acknowledged drained
    Closed 7 s'.db.incidents ∧
      Along (System.step ⟨fun _ _ => 0, none⟩) (Inert ⟨fun _ _ => 0, none⟩ 7) acknowledged
        drained ∧
      ((∀ op ∈ drained, op.starts 7 = false) →
        (s'.pending 7).Subperm (acknowledged.pending 7) ∧
          (s'.pending 7).length + (s'.processed 7).length ≤
            (acknowledged.pending 7).length + (acknowledged.processed 7).length) :=
  closed_inert ⟨fun _ _ => 0, none⟩ drained ⟨_, rfl, by decide⟩

end UptimeFlow.Escalation
