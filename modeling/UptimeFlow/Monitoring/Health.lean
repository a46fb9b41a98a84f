import UptimeFlow.Monitoring.Incidents

/-!
# UptimeFlow.Monitoring.Health

Health and incidents are two stores: the pipeline keeps them in step through
the state machine, while `pause` and `resume` rewrite the health alone.

`Healthy` is the invariant that ties them together: an open down incident
shows in the health as `DOWN`, `RECOVERING` or `MAINTENANCE`.  A pipeline call
keeps it, `pause` and `resume` keep it unless the monitor has an open
incident, and in every run of that kind an `UP` monitor has none.
-/

namespace UptimeFlow.Monitoring

open Tables Runs

/-! ## the operations -/

def Db.pause (db : Db) : Db :=
  if db.monitor.deletedAt = none ∧ db.monitor.state ≠ .paused then
    { db with monitor := { db.monitor with state := .paused, health := .paused } }
  else db

def Db.resume (db : Db) : Db :=
  if db.monitor.deletedAt = none ∧ db.monitor.state ≠ .active then
    { db with monitor :=
        { db.monitor with
          state := .active, health := .pending, consecutiveFailures := 0
          consecutiveSuccesses := 0 } }
  else db

/-- Schedule a maintenance window. -/
def Db.createWindow (db : Db) (window : MaintenanceWindow) : Db :=
  { db with maintenanceWindows := db.maintenanceWindows ++ [window] }

/-- Soft-delete a maintenance window. -/
def Db.deleteWindow (db : Db) (windowId : Nat) (now : Instant) : Db :=
  { db with
    maintenanceWindows :=
      updateWhere (fun w => w.id = windowId && w.deletedAt.isNone)
        (fun w => { w with deletedAt := some now }) db.maintenanceWindows }

/-- What can happen to one monitor.  A window also starts and ends by itself, through
the `now` of the next call. -/
inductive MonitorOp where
  | check (faults : Faults) (outcome : ProbeOutcome) (opts : ProcessOptions)
  | heartbeat (faults : Faults) (now : Instant) (alerts : Bool) (region : ProbeRegion)
  | pause
  | resume
  | createWindow (window : MaintenanceWindow)
  | deleteWindow (windowId : Nat) (now : Instant)

/-- The pipeline call an operation makes, on the monitor as it stands. -/
def MonitorOp.call : MonitorOp → Pipe (Option ProcessResult)
  | .check faults outcome opts => do
      let row ← Eff.read (·.monitor)
      some <$> processCheckResult faults (toSnapshot row) outcome opts
  | .heartbeat faults now alerts region => recordHeartbeat faults now alerts region
  | _ => pure none

def Db.step (db : Db) : MonitorOp → Db
  | .pause => db.pause
  | .resume => db.resume
  | .createWindow window => db.createWindow window
  | .deleteWindow windowId now => db.deleteWindow windowId now
  | .check faults outcome opts => ((MonitorOp.check faults outcome opts).call.run db).2
  | .heartbeat faults now alerts region =>
      ((MonitorOp.heartbeat faults now alerts region).call.run db).2

/-! ## the invariant -/

/-- Health and incidents agree: an open down incident shows in the health. -/
structure Healthy (db : Db) : Prop where
  incidents : IncidentsOk db.monitor.id db.incidents
  outage : OpenDown db.monitor.id db.incidents →
    db.monitor.health = .down ∨ db.monitor.health = .recovering ∨ db.monitor.health = .maintenance

/-- A freshly created monitor: it has no incidents yet, and the tables are as their
constraints keep them. -/
structure Fresh (db : Db) : Prop where
  state : db.monitor.state = .active
  health : db.monitor.health = .pending
  counters : db.monitor.consecutiveFailures = 0 ∧ db.monitor.consecutiveSuccesses = 0
  live : db.monitor.deletedAt = none
  noIncidents : ∀ i ∈ db.incidents, i.monitorId ≠ db.monitor.id
  unique : UniqueKey Incident.uniqueKey db.incidents
  ids : (db.incidents.map Incident.id).Nodup

theorem Fresh.incidentsOk {db : Db} (h : Fresh db) : IncidentsOk db.monitor.id db.incidents :=
  ⟨h.unique, h.ids, fun i hi hm => absurd hm (h.noIncidents i hi)⟩

theorem Fresh.not_openDown {db : Db} (h : Fresh db) : ¬ OpenDown db.monitor.id db.incidents := by
  rintro ⟨i, hi, hm, -⟩
  exact h.noIncidents i hi hm

theorem Fresh.healthy {db : Db} (h : Fresh db) : Healthy db :=
  ⟨h.incidentsOk, fun ho => absurd ho h.not_openDown⟩

/-- The call's resolve is cut off: the monitor row is written, and then the incident
cannot be. -/
def ResolveCutOff (db : Db) (faults : Faults) (outcome : ProbeOutcome) (opts : ProcessOptions) :
    Prop :=
  (db.decision (toSnapshot db.monitor) outcome opts).incident = some .resolve ∧
    faults.reachesRow = true ∧ faults .incidentUpdate = true

instance (db : Db) (faults : Faults) (outcome : ProbeOutcome) (opts : ProcessOptions) :
    Decidable (ResolveCutOff db faults outcome opts) := inferInstanceAs (Decidable (_ ∧ _ ∧ _))

/-- **Step lemma**: a pipeline call keeps health and incidents in step, unless the resolve
of an open incident is cut off in it. -/
theorem Healthy.processCheckResult {db : Db} (h : Healthy db) {faults : Faults}
    {outcome : ProbeOutcome} {opts : ProcessOptions}
    (hcut : OpenDown db.monitor.id db.incidents → ¬ ResolveCutOff db faults outcome opts) :
    Healthy ((processCheckResult faults (toSnapshot db.monitor) outcome opts).run db).2 := by
  obtain ⟨hrow, hinc⟩ := processCheckResult_rows faults (toSnapshot db.monitor) outcome opts db
  have hid := processCheckResult_id faults (toSnapshot db.monitor) outcome opts db
  set d := db.decision (toSnapshot db.monitor) outcome opts with hd
  cases hreach : faults.reachesRow with
  | false =>
      rw [hreach, if_neg (by simp)] at hrow hinc
      exact ⟨by rw [hid, hinc]; exact h.incidents, by rw [hid, hinc, hrow]; exact h.outage⟩
  | true =>
      rw [hreach, if_pos rfl] at hrow hinc
      have hok : IncidentsOk (toSnapshot db.monitor).id db.incidents := h.incidents
      have hhealth : (db.monitor.afterCheck (toSnapshot db.monitor) outcome opts d).health =
          d.state.toHealth := rfl
      refine ⟨by rw [hid, hinc]; exact hok.nextIncidents faults _, ?_⟩
      rw [hid, hinc, hrow, hhealth]
      intro ho
      cases ha : d.incident with
      | none =>
          -- no incident action: an outage before the call is one after it
          rw [ha] at ho
          have hprev := h.outage ho
          have hout := transition_outage_of_none ha (by
            rcases hprev with hp | hp | hp <;> simp [toSnapshot, hp, normalize])
          change d.state = _ ∨ d.state = _ ∨ d.state = _ at hout
          rcases hout with hs | hs | hs <;> simp [hs, MonitorState.toHealth]
      | some action =>
          cases action with
          | «open» =>
              have hs : d.state = .down := transition_state_of_open ha
              simp [hs, MonitorState.toHealth]
          | resolve =>
              rw [ha] at ho
              have hbefore := hok.openDown_of_nextIncidents faults _ (by simp) ho
              have hf : faults .incidentUpdate = false := by
                by_contra hf
                exact hcut hbefore ⟨ha, hreach, by simpa using hf⟩
              exact absurd ho (hok.not_openDown_of_resolve faults hf)

/-! ## runs -/

/-- A completed pipeline call that leaves the monitor `UP` leaves it without an open
down incident. -/
def UpMeansResolved (db : Db) (op : MonitorOp) : Prop :=
  ∀ result, (op.call.run db).1 = .ok (some result) → (db.step op).monitor.health = .up →
    ¬ OpenDown (db.step op).monitor.id (db.step op).incidents

/-- While the monitor has an open down incident, no pause or resume takes effect, and no
call has its resolve cut off. -/
def KeepsInStep (db : Db) (op : MonitorOp) : Prop :=
  OpenDown db.monitor.id db.incidents →
    match op with
    | .pause => ¬ (db.monitor.deletedAt = none ∧ db.monitor.state ≠ .paused)
    | .resume => ¬ (db.monitor.deletedAt = none ∧ db.monitor.state ≠ .active)
    | .check faults outcome opts => ¬ ResolveCutOff db faults outcome opts
    | .heartbeat faults now alerts region =>
        ¬ ResolveCutOff db faults pingOutcome (pingOptions now alerts region)
    | .createWindow _ | .deleteWindow _ _ => True

instance (db : Db) (op : MonitorOp) : Decidable (KeepsInStep db op) := by
  cases op <;> unfold KeepsInStep <;> infer_instance

theorem Healthy.step {db : Db} (h : Healthy db) (op : MonitorOp) (hop : KeepsInStep db op) :
    Healthy (db.step op) := by
  cases op with
  | pause =>
      rw [Db.step, Db.pause]
      split
      · next hp => exact ⟨h.incidents, fun ho => absurd hp (hop ho)⟩
      · exact h
  | resume =>
      rw [Db.step, Db.resume]
      split
      · next hr => exact ⟨h.incidents, fun ho => absurd hr (hop ho)⟩
      · exact h
  | createWindow window => exact ⟨h.incidents, h.outage⟩
  | deleteWindow windowId now => exact ⟨h.incidents, h.outage⟩
  | check faults outcome opts =>
      rw [Db.step, MonitorOp.call, Eff.bind_run, Eff.read_run, Eff.map_run_snd]
      exact h.processCheckResult hop
  | heartbeat faults now alerts region =>
      rw [Db.step, MonitorOp.call, recordHeartbeat_run]
      split
      · rw [Eff.map_run_snd]
        exact h.processCheckResult hop
      · exact h

/-- **Health and incidents**: from a freshly created monitor, in every run whose steps
take no effect behind the back of an open incident, a completed call that leaves the
monitor `UP` leaves no open down incident. -/
theorem upMeansResolved_along (db : Db) (ops : List MonitorOp) (hf : Fresh db)
    (hc : Along Db.step KeepsInStep db ops) : Along Db.step UpMeansResolved db ops := by
  refine Along.of_inv (I := Healthy) (fun db op h hop => h.step op hop) ?_ hf.healthy hc
  intro db op h hop _ _ hup ho
  have hout := (h.step op hop).outage ho
  rw [hup] at hout
  simp at hout

/-- A new monitor that one failure takes down and one success brings back. -/
def newMonitor : Db :=
  { monitor := { id := "m", organizationId := "o", name := "api", type := .http } }

theorem fresh_newMonitor : Fresh newMonitor where
  state := rfl
  health := rfl
  counters := ⟨rfl, rfl⟩
  live := rfl
  noIncidents := by simp [newMonitor]
  unique := uniqueKey_nil _
  ids := List.nodup_nil

def checkAt (now : Instant) (status : CheckStatus) : MonitorOp :=
  .check noFaults { status } { region := defaultRegion, now }

/-- An outage that lasts into a maintenance window, and a pause after the recovery. -/
def quietRun : List MonitorOp :=
  [checkAt 0 .down, .createWindow { id := 0, startsAt := 10, endsAt := 20, monitors := ["m"] },
    checkAt 15 .down, checkAt 30 .up, .pause, .resume, checkAt 40 .up]

theorem upMeansResolved_quietRun : Along Db.step UpMeansResolved newMonitor quietRun :=
  upMeansResolved_along newMonitor quietRun fresh_newMonitor (by decide)

/-- An outage, a pause and a resume, and the first check after them. -/
def pausedOutage : List MonitorOp := [checkAt 0 .down, .pause, .resume, checkAt 10 .up]

/-- The monitor comes back `UP`, and its incident stays open. -/
theorem not_upMeansResolved_pausedOutage :
    ¬ Along Db.step UpMeansResolved newMonitor pausedOutage := by
  rintro ⟨-, -, -, hlast, -⟩
  exact hlast _ rfl rfl (by decide)

end UptimeFlow.Monitoring
