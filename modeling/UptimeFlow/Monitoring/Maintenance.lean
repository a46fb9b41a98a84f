import Mathlib.Data.List.Sort
import UptimeFlow.Monitoring.Pipeline
import UptimeFlow.Runs

/-!
# UptimeFlow.Monitoring.Maintenance

Maintenance windows as their service keeps them and as the check pipeline reads
them.

The service deletes a window by a mark on its row, and its own reads leave
marked rows out; the pipeline's query has no such condition.  A check is
treated as in maintenance for the windows the service still lists exactly when
no deleted window covers it alone (`treatedRightly_along_iff`).
-/

namespace UptimeFlow.Monitoring

open Tables Runs

/-! ## the service -/

structure WindowRow extends MaintenanceWindow where
  organizationId : OrganizationId
  title : String
  description : Option String := none
  createdById : String
deriving DecidableEq, Repr

structure CreateMaintenanceInput where
  title : String
  description : Option String := none
  startsAt : Instant
  endsAt : Instant
  monitorIds : List MonitorId
deriving DecidableEq, Repr

structure ActorPayload where
  id : String
  type : String
deriving DecidableEq, Repr

/-- The window suppresses the alerts of the monitor at the instant. -/
def MaintenanceWindow.covers (w : MaintenanceWindow) (monitorId : MonitorId) (t : Instant) : Bool :=
  w.suppressAlerts && w.startsAt ≤ t && t ≤ w.endsAt && w.monitors.contains monitorId

inductive MaintenanceError where
  | invalidMonitor | notFound
deriving DecidableEq, Repr

def MaintenanceError.message : MaintenanceError → String
  | .invalidMonitor => "INVALID_MONITOR"
  | .notFound => "NOT_FOUND"

/-- The windows of all organizations, which organization has which monitor, and the tables a check
of one monitor touches. -/
structure Planned where
  windows : List WindowRow := []
  owners : List (MonitorId × OrganizationId) := []
  db : Db
deriving DecidableEq, Repr

namespace Planned

/-- The tables as a check finds them. -/
def tables (s : Planned) : Db :=
  { s.db with maintenanceWindows := s.windows.map (·.toMaintenanceWindow) }

/-- An organization's windows that are not deleted, latest start first. -/
def list (s : Planned) (organizationId : OrganizationId) : List WindowRow :=
  (s.windows.filter fun w => w.organizationId = organizationId && w.deletedAt.isNone).insertionSort
    fun a b => b.startsAt ≤ a.startsAt

def audit (s : Planned) (organizationId : OrganizationId) (actor : ActorPayload) (action : String)
    (id : Nat) : Db :=
  { s.db with
    auditLogs := s.db.auditLogs ++
      [{ organizationId, actorType := actor.type, action, resourceType := "maintenance_window"
         resourceId := toString id }] }

/-- The window a request describes. -/
def newWindow (s : Planned) (organizationId : OrganizationId) (actor : ActorPayload)
    (input : CreateMaintenanceInput) : WindowRow where
  id := freshId (fun w : WindowRow => w.id) s.windows
  organizationId := organizationId
  title := input.title
  description := input.description
  startsAt := input.startsAt
  endsAt := input.endsAt
  createdById := actor.id
  monitors := input.monitorIds

/-- Schedule a window over monitors of the organization. -/
def create (s : Planned) (organizationId : OrganizationId) (actor : ActorPayload)
    (input : CreateMaintenanceInput) : Except MaintenanceError WindowRow × Planned :=
  let ownedCount := (s.owners.filter fun m =>
    input.monitorIds.contains m.1 && m.2 = organizationId).length
  if 0 < input.monitorIds.length ∧ ownedCount ≠ input.monitorIds.length then
    (.error .invalidMonitor, s)
  else
    let window := s.newWindow organizationId actor input
    (.ok window, { s with
      windows := s.windows ++ [window]
      db := s.audit organizationId actor "maintenance_window.created" window.id })

/-- Soft-delete a window. -/
def delete (s : Planned) (organizationId : OrganizationId) (actor : ActorPayload) (windowId : Nat)
    (now : Instant) : Except MaintenanceError Unit × Planned :=
  let hit := fun w : WindowRow =>
    w.id = windowId && w.organizationId = organizationId && w.deletedAt.isNone
  if (s.windows.filter hit).length = 0 then (.error .notFound, s)
  else
    (.ok (), { s with
      windows := updateWhere hit (fun w => { w with deletedAt := some now }) s.windows
      db := s.audit organizationId actor "maintenance_window.deleted" windowId })

end Planned

inductive PlannedOp where
  | create (organizationId : OrganizationId) (actor : ActorPayload)
      (input : CreateMaintenanceInput)
  | delete (organizationId : OrganizationId) (actor : ActorPayload) (windowId : Nat)
      (now : Instant)
  | check (faults : Faults) (monitor : MonitorSnapshot) (outcome : ProbeOutcome)
      (opts : ProcessOptions)

namespace Planned

def step (s : Planned) : PlannedOp → Planned
  | .create organizationId actor input => (s.create organizationId actor input).2
  | .delete organizationId actor windowId now => (s.delete organizationId actor windowId now).2
  | .check faults monitor outcome opts =>
      { s with db := ((processCheckResult faults monitor outcome opts).run s.tables).2 }

/-! ## the two views -/

/-- A window that some organization still lists covers the monitor at the instant. -/
def Covered (s : Planned) (monitorId : MonitorId) (t : Instant) : Prop :=
  ∃ organizationId, ∃ w ∈ s.list organizationId, w.covers monitorId t = true

/-- A deleted window covers the monitor at the instant. -/
def CoveredByDeleted (s : Planned) (monitorId : MonitorId) (t : Instant) : Prop :=
  ∃ w ∈ s.windows, w.deletedAt ≠ none ∧ w.covers monitorId t = true

theorem mem_list {s : Planned} {organizationId : OrganizationId} {w : WindowRow} :
    w ∈ s.list organizationId ↔
      w ∈ s.windows ∧ w.organizationId = organizationId ∧ w.deletedAt = none := by
  simp [list, List.mem_insertionSort]

theorem covered_iff {s : Planned} {monitorId : MonitorId} {t : Instant} :
    s.Covered monitorId t ↔
      ∃ w ∈ s.windows, w.deletedAt = none ∧ w.covers monitorId t = true := by
  constructor
  · rintro ⟨organizationId, w, hw, hcovers⟩
    obtain ⟨hw, -, hlive⟩ := mem_list.1 hw
    exact ⟨w, hw, hlive, hcovers⟩
  · rintro ⟨w, hw, hlive, hcovers⟩
    exact ⟨w.organizationId, w, mem_list.2 ⟨hw, rfl, hlive⟩, hcovers⟩

instance (s : Planned) (monitorId : MonitorId) (t : Instant) : Decidable (s.Covered monitorId t) :=
  decidable_of_iff _ covered_iff.symm

instance (s : Planned) (monitorId : MonitorId) (t : Instant) :
    Decidable (s.CoveredByDeleted monitorId t) :=
  inferInstanceAs (Decidable (∃ w ∈ s.windows, _ ∧ _))

/-- The pipeline sees both kinds of windows. -/
theorem isInMaintenance_iff (s : Planned) (monitorId : MonitorId) (t : Instant) :
    s.tables.isInMaintenance monitorId t = true ↔
      s.Covered monitorId t ∨ s.CoveredByDeleted monitorId t := by
  have hany : s.tables.isInMaintenance monitorId t = true ↔
      ∃ w ∈ s.windows, w.covers monitorId t = true := by
    simp [Db.isInMaintenance, tables, MaintenanceWindow.covers]
  rw [hany, covered_iff, CoveredByDeleted]
  constructor
  · rintro ⟨w, hw, hcovers⟩
    by_cases hlive : w.deletedAt = none
    · exact .inl ⟨w, hw, hlive, hcovers⟩
    · exact .inr ⟨w, hw, hlive, hcovers⟩
  · rintro (⟨w, hw, -, hcovers⟩ | ⟨w, hw, -, hcovers⟩)
    · exact ⟨w, hw, hcovers⟩
    · exact ⟨w, hw, hcovers⟩

/-- A check that gets as far as the monitor row puts the monitor in MAINTENANCE exactly when the
pipeline sees a window. -/
theorem health_check_iff {faults : Faults} (hreached : faults.reachesRow = true) (s : Planned)
    (monitor : MonitorSnapshot) (outcome : ProbeOutcome) (opts : ProcessOptions) :
    (s.step (.check faults monitor outcome opts)).db.monitor.health = .maintenance ↔
      s.tables.isInMaintenance monitor.id opts.now = true := by
  have hhealth : (s.step (.check faults monitor outcome opts)).db.monitor.health =
      (s.tables.decision monitor outcome opts).state.toHealth := by
    rw [step, (processCheckResult_rows faults monitor outcome opts s.tables).1, if_pos hreached]
    rfl
  rw [hhealth, Db.decision, decideCheck]
  have hmaintenance : ∀ state : MonitorState, state.toHealth = .maintenance ↔
      state = .maintenance := fun state => MonitorState.toHealth_inj (t := .maintenance)
  rw [hmaintenance]
  cases hwindow : s.tables.isInMaintenance monitor.id opts.now with
  | true => simp [transition_state_of_maintenance]
  | false => simp [transition_state_ne_maintenance]

/-! ## runs -/

/-- A check is treated as in maintenance exactly for the windows that are still listed. -/
def TreatedRightly (s : Planned) : PlannedOp → Prop
  | .check faults monitor outcome opts => faults.reachesRow = true →
      ((s.step (.check faults monitor outcome opts)).db.monitor.health = .maintenance ↔
        s.Covered monitor.id opts.now)
  | _ => True

/-- No check is covered by deleted windows alone. -/
def NotDeletedAlone (s : Planned) : PlannedOp → Prop
  | .check faults monitor _ opts => faults.reachesRow = true →
      s.CoveredByDeleted monitor.id opts.now → s.Covered monitor.id opts.now
  | _ => True

/-- **Step lemma**: one check is treated rightly if and only if deleted windows do not cover it
alone. -/
theorem treatedRightly_iff (s : Planned) (op : PlannedOp) :
    TreatedRightly s op ↔ NotDeletedAlone s op := by
  cases op with
  | create | delete => exact Iff.rfl
  | check faults monitor outcome opts =>
      refine forall_congr' fun hreached => ?_
      rw [health_check_iff hreached, isInMaintenance_iff]
      tauto

/-- **Over every history of windows and checks, the checks are treated as in maintenance for the
windows that are not deleted, and only for them, if and only if no check is covered by deleted
windows alone.** -/
theorem treatedRightly_along_iff (s : Planned) (ops : List PlannedOp) :
    Along step TreatedRightly s ops ↔ Along step NotDeletedAlone s ops :=
  along_iff (I := fun _ => True) (fun _ _ _ _ => trivial) (fun s op _ => treatedRightly_iff s op)
    trivial

/-- A monitor of acme, and a window that is deleted before it starts. -/
def unplanned : Planned where
  owners := [("api", "acme")]
  db := { monitor := { id := "api", organizationId := "acme", name := "api", type := .http
                       health := .up } }

def ops : ActorPayload := ⟨"ops", "user"⟩

def deletedBefore : List PlannedOp :=
  [.create "acme" ops { title := "upgrade", startsAt := 100, endsAt := 200, monitorIds := ["api"] },
    .delete "acme" ops 0 50,
    .check noFaults (toSnapshot unplanned.db.monitor) { status := .down }
      { region := .naEast, now := 150 }]

/-- A deleted window suppresses the incident of an outage. -/
theorem not_treatedRightly_deleted :
    ¬ Along step TreatedRightly unplanned deletedBefore ∧
      (run step unplanned deletedBefore).db.monitor.health = .maintenance ∧
      (run step unplanned deletedBefore).db.incidents = [] := by
  refine ⟨?_, by decide +kernel, by decide +kernel⟩
  rintro ⟨-, -, hcheck, -⟩
  have hcovered := (hcheck (by decide +kernel)).1 (by decide +kernel)
  exact absurd hcovered (by decide +kernel)

end Planned

end UptimeFlow.Monitoring
