import UptimeFlow.Monitoring.Dispatch

/-!
# UptimeFlow.Monitoring.Pipeline

The result-processing pipeline: one check outcome is recorded, the state
machine is advanced, the monitor row is written, and the incident the
transition implies is opened or resolved and announced.

`processCheckResult` runs under a set of `Faults`, so the same definition
serves the run in which everything goes through and the run that is cut off at
any statement.  What a call can do to the monitor and to the incident table is
said once, by `processCheckResult_run` and the `incidentStep_*` lemmas.
-/

namespace UptimeFlow.Monitoring

open Tables

/-! ## reading -/

def isSuccessStatus (s : CheckStatus) : Bool := s = .up || s = .degraded

def maxErr : Nat := 500

/-- `slice(0, MAX_ERR)`. -/
def truncate (s : String) : String := .ofList (s.toList.take maxErr)

/-- The view of a monitor the pipeline works on. -/
structure MonitorSnapshot where
  id : MonitorId
  organizationId : OrganizationId
  name : String
  type : MonitorType
  failureThreshold : Nat
  successThreshold : Nat
  escalationPolicyId : Option PolicyId
  health : MonitorHealth
  consecutiveFailures : Nat
  consecutiveSuccesses : Nat
deriving DecidableEq, Repr

def toSnapshot (row : MonitorRow) : MonitorSnapshot :=
  { id := row.id
    organizationId := row.organizationId
    name := row.name
    type := row.type
    failureThreshold := row.failureThreshold
    successThreshold := row.successThreshold
    escalationPolicyId := row.escalationPolicyId
    health := row.health
    consecutiveFailures := row.consecutiveFailures
    consecutiveSuccesses := row.consecutiveSuccesses }

structure ProcessOptions where
  region : ProbeRegion
  now : Instant
  isHeartbeatPing : Bool := false
  /-- Whether an alert dispatcher, an integration dispatcher and an escalation starter
  were passed in. -/
  alerts : Bool := false
  integrations : Bool := false
  escalation : Bool := false
  webUrl : String := ""
deriving DecidableEq, Repr

/-- Some window that suppresses alerts is attached to the monitor and covers `now`. -/
def Db.isInMaintenance (db : Db) (monitorId : MonitorId) (now : Instant) : Bool :=
  db.maintenanceWindows.any fun w =>
    w.suppressAlerts && w.startsAt ≤ now && now ≤ w.endsAt && w.monitors.contains monitorId

/-- Sliding window over which repeated incidents count as flapping. -/
def flapWindowMs : Int := 30 * 60 * 1000

/-- Number of incidents within the window that marks a monitor as flapping. -/
def flapThreshold : Nat := 3

def Db.detectFlapping (db : Db) (monitorId : MonitorId) (now : Instant) : Bool :=
  flapThreshold ≤ (db.incidents.filter fun i =>
    i.monitorId = monitorId && now - flapWindowMs ≤ i.startedAt).length

/-- The state machine's verdict on an outcome. -/
def decideCheck (monitor : MonitorSnapshot) (outcome : ProbeOutcome) (inMaintenance : Bool) :
    TransitionResult :=
  transition
    { current := monitor.health
      success := isSuccessStatus outcome.status
      priorConsecutiveFailures := monitor.consecutiveFailures
      priorConsecutiveSuccesses := monitor.consecutiveSuccesses
      failureThreshold := monitor.failureThreshold
      successThreshold := monitor.successThreshold
      inMaintenance }

/-! ## timeline and audit -/

def writeAudit (faults : Faults) (event : AuditLog) : Pipe Unit :=
  faults.write .auditLog fun db => { db with auditLogs := db.auditLogs ++ [event] }

def addEvent (faults : Faults) (event : IncidentEvent) : Pipe Unit :=
  faults.write .incidentEvent fun db => { db with incidentEvents := db.incidentEvents ++ [event] }

/-! ## incidents -/

/-- The row `openIncident` creates. -/
def newIncident (monitor : MonitorSnapshot) (outcome : ProbeOutcome) (now : Instant)
    (id : IncidentId) : Incident :=
  { id
    organizationId := monitor.organizationId
    monitorId := monitor.id
    status := .open
    severity := .major
    title := monitor.name ++ " is down"
    summary := (outcome.errorMessage.map truncate).getD (monitor.type.label ++ " check failed")
    cause := outcome.errorType
    fingerprint := some (downFingerprint monitor.id)
    startedAt := now
    createdAt := now }

/-- The incident table after an insert, or `none` where the unique key rejects it. -/
def insertIncident (monitor : MonitorSnapshot) (outcome : ProbeOutcome) (now : Instant)
    (rows : List Incident) : Option (List Incident × IncidentId) :=
  if taken Incident.uniqueKey (some (monitor.id, downFingerprint monitor.id)) rows then none
  else
    let id := freshId Incident.id rows
    some (rows ++ [newIncident monitor outcome now id], id)

/-- The timeline entry an incident starts with. -/
def detectedEvent (outcome : ProbeOutcome) (now : Instant) (incidentId : IncidentId) :
    IncidentEvent :=
  { incidentId, type := .detected, message := outcome.errorMessage.map truncate
    metadata := some (.detected outcome.errorType outcome.status), createdAt := now }

/-- The database after an incident is created. -/
def Db.opened (db : Db) (outcome : ProbeOutcome) (now : Instant) (rows : List Incident)
    (id : IncidentId) : Db :=
  { db with
    incidents := rows, incidentEvents := db.incidentEvents ++ [detectedEvent outcome now id] }

def createIncident (faults : Faults) (monitor : MonitorSnapshot) (outcome : ProbeOutcome)
    (now : Instant) : Pipe IncidentId :=
  .statement (faults .incidentCreate) .unavailable fun db =>
    match insertIncident monitor outcome now db.incidents with
    | none => (.error .uniqueViolation, db)
    | some (rows, id) => (.ok id, db.opened outcome now rows id)

/-- Open an incident; whatever goes wrong is taken for an incident already open. -/
def openIncident (faults : Faults) (monitor : MonitorSnapshot) (outcome : ProbeOutcome)
    (now : Instant) : Pipe (Option IncidentId) :=
  .rescue (some <$> createIncident faults monitor outcome now) fun _ => pure none

/-- The monitor's latest incident that is not resolved. -/
def findOpen (monitorId : MonitorId) (rows : List Incident) : Option Incident :=
  findLatest (Incident.isOpen monitorId) Incident.startedAt rows

def Db.findOpenIncidentId (db : Db) (monitorId : MonitorId) : Option IncidentId :=
  (findOpen monitorId db.incidents).map Incident.id

/-- `Math.max(0, Math.round(ms / 1000))`. -/
def durationSec (startedAt now : Instant) : Int := max 0 ((now - startedAt + 500) / 1000)

/-- The row `resolveIncident` leaves behind. -/
def Incident.resolve (now : Instant) (duration : Int) (i : Incident) : Incident :=
  { i with
    status := .resolved
    resolvedAt := some now
    durationSec := some duration
    -- free the dedupe key so a future outage can open a fresh incident
    fingerprint := none }

/-- The incident table after the incident `id` is resolved. -/
def resolveRow (id : IncidentId) (now : Instant) (duration : Int) (rows : List Incident) :
    List Incident :=
  updateWhere (·.id = id) (Incident.resolve now duration) rows

/-- The timeline entry an incident ends with. -/
def resolvedEvent (now : Instant) (duration : Int) (incidentId : IncidentId) : IncidentEvent :=
  { incidentId, type := .resolved
    message := some ("Recovered after " ++ toString duration ++ "s."), createdAt := now }

/-- The database after an incident is resolved. -/
def Db.resolved (db : Db) (now : Instant) (incident : Incident) : Db :=
  let duration := durationSec incident.startedAt now
  { db with
    incidents := resolveRow incident.id now duration db.incidents
    incidentEvents := db.incidentEvents ++ [resolvedEvent now duration incident.id] }

def resolveIncident (faults : Faults) (monitorId : MonitorId) (now : Instant) :
    Pipe (Option IncidentId) := do
  match ← Eff.read fun db => findOpen monitorId db.incidents with
  | none => pure none
  | some incident =>
      faults.write .incidentUpdate fun db => db.resolved now incident
      pure (some incident.id)

/-! ## the incident step -/

/-- Incident-level transition of one check. -/
inductive PipelineTransition where
  | down | recovered
deriving DecidableEq, Repr

structure IncidentOutcome where
  incidentId : Option IncidentId := none
  transition : Option PipelineTransition := none
  flapping : Bool := false
  alertsEnqueued : Nat := 0
deriving DecidableEq, Repr

/-- Best-effort integration fan-out: a failure here never fails a check. -/
def dispatchIntegration (faults : Faults) (opts : ProcessOptions) (ctx : IncidentDispatchContext) :
    Pipe Unit :=
  if opts.integrations then
    .rescue (do let _ ← dispatchIncident faults opts.webUrl opts.now ctx) fun _ => pure ()
  else pure ()

def dispatchAlerts (faults : Faults) (opts : ProcessOptions) (ctx : AlertContext) : Pipe Nat :=
  if opts.alerts then dispatch faults ctx else pure 0

def escalate (faults : Faults) (monitor : MonitorSnapshot) (opts : ProcessOptions)
    (incidentId : IncidentId) : Pipe Unit :=
  match monitor.escalationPolicyId with
  | some policyId =>
      if opts.escalation then do
        let _ ← startEscalation faults
          { incidentId, organizationId := monitor.organizationId, monitorId := monitor.id, policyId }
      else pure ()
  | none => pure ()

def auditOf (monitor : MonitorSnapshot) (action resourceType resourceId : String) : AuditLog :=
  { organizationId := monitor.organizationId, actorType := "system", action, resourceType,
    resourceId }

def alertContext (monitor : MonitorSnapshot) (incidentId : IncidentId) (kind : AlertKind) :
    AlertContext :=
  { incidentId, organizationId := monitor.organizationId, monitorId := monitor.id, kind }

def integrationContext (monitor : MonitorSnapshot) (incidentId : IncidentId) (kind : AlertKind) :
    IncidentDispatchContext :=
  { incidentId, organizationId := monitor.organizationId, monitorId := monitor.id,
    monitorName := monitor.name, kind }

/-- The timeline entry of an incident opened while flapping: its alert is suppressed. -/
def flappingEvent (incidentId : IncidentId) (now : Instant) : IncidentEvent :=
  { incidentId, type := .statusChanged, message := some "Flapping detected — alert suppressed."
    metadata := some .flapping, createdAt := now }

/-- What follows the creation of an incident. -/
def announceOpened (faults : Faults) (monitor : MonitorSnapshot) (opts : ProcessOptions)
    (flapping : Bool) (incidentId : IncidentId) : Pipe IncidentOutcome :=
  if flapping then do
    addEvent faults (flappingEvent incidentId opts.now)
    writeAudit faults (auditOf monitor "monitor.flapping" "monitor" monitor.id)
    pure { incidentId := some incidentId, transition := some .down, flapping }
  else do
    writeAudit faults (auditOf monitor "incident.opened" "incident" (toString incidentId))
    let alertsEnqueued ← dispatchAlerts faults opts (alertContext monitor incidentId .opened)
    escalate faults monitor opts incidentId
    dispatchIntegration faults opts (integrationContext monitor incidentId .opened)
    pure { incidentId := some incidentId, transition := some .down, flapping, alertsEnqueued }

def openStep (faults : Faults) (monitor : MonitorSnapshot) (outcome : ProbeOutcome)
    (opts : ProcessOptions) : Pipe IncidentOutcome := do
  let flapping ← Eff.read (·.detectFlapping monitor.id opts.now)
  match ← openIncident faults monitor outcome opts.now with
  | none => pure { flapping }
  | some incidentId => announceOpened faults monitor opts flapping incidentId

/-- What follows the resolution of an incident. -/
def announceResolved (faults : Faults) (monitor : MonitorSnapshot) (opts : ProcessOptions)
    (incidentId : IncidentId) : Pipe IncidentOutcome := do
  writeAudit faults (auditOf monitor "incident.resolved" "incident" (toString incidentId))
  let alertsEnqueued ← dispatchAlerts faults opts (alertContext monitor incidentId .resolved)
  dispatchIntegration faults opts (integrationContext monitor incidentId .resolved)
  pure { incidentId := some incidentId, transition := some .recovered, alertsEnqueued }

def resolveStep (faults : Faults) (monitor : MonitorSnapshot) (opts : ProcessOptions) :
    Pipe IncidentOutcome := do
  match ← resolveIncident faults monitor.id opts.now with
  | none => pure {}
  | some incidentId => announceResolved faults monitor opts incidentId

/-- RECOVERING → DOWN: the open incident persists; note the relapse. -/
def relapseStep (faults : Faults) (monitor : MonitorSnapshot) (opts : ProcessOptions) :
    Pipe IncidentOutcome := do
  match ← Eff.read (·.findOpenIncidentId monitor.id) with
  | none => pure {}
  | some incidentId => do
      addEvent faults
        { incidentId, type := .statusChanged, message := some "Still failing during recovery."
          createdAt := opts.now }
      pure { incidentId := some incidentId }

/-- Incident lifecycle, timeline, audit and alerts of one decided check. -/
def incidentStep (faults : Faults) (monitor : MonitorSnapshot) (outcome : ProbeOutcome)
    (opts : ProcessOptions) (decision : TransitionResult) : Pipe IncidentOutcome :=
  match decision.incident with
  | some .open => openStep faults monitor outcome opts
  | some .resolve => resolveStep faults monitor opts
  | none =>
      if decision.changed && decision.state = .down then relapseStep faults monitor opts
      else pure {}

/-! ## the pipeline -/

/-- The raw result row of a check. -/
def checkResultOf (monitor : MonitorSnapshot) (outcome : ProbeOutcome) (opts : ProcessOptions) :
    CheckResult :=
  { organizationId := monitor.organizationId
    monitorId := monitor.id
    region := opts.region
    status := outcome.status
    statusCode := outcome.statusCode
    responseMs := outcome.responseMs
    errorType := outcome.errorType
    errorMessage := outcome.errorMessage.map truncate
    checkedAt := opts.now }

/-- The monitor row after a check: absolute values computed from the snapshot. -/
def MonitorRow.afterCheck (monitor : MonitorSnapshot) (outcome : ProbeOutcome)
    (opts : ProcessOptions) (decision : TransitionResult) (row : MonitorRow) : MonitorRow :=
  { row with
    health := decision.state.toHealth
    consecutiveFailures := decision.consecutiveFailures
    consecutiveSuccesses := decision.consecutiveSuccesses
    lastStatusCode := outcome.statusCode
    lastResponseMs := outcome.responseMs
    lastError :=
      if isSuccessStatus outcome.status then none else outcome.errorMessage.map truncate
    -- a heartbeat's lastCheckedAt is the time of its last ping
    lastCheckedAt :=
      if monitor.type ≠ .heartbeat ∨ opts.isHeartbeatPing = true then some opts.now
      else row.lastCheckedAt }

/-- The database after the raw result and the monitor row are written. -/
def Db.recorded (monitor : MonitorSnapshot) (outcome : ProbeOutcome) (opts : ProcessOptions)
    (decision : TransitionResult) (db : Db) : Db :=
  { db with
    checkResults := db.checkResults ++ [checkResultOf monitor outcome opts]
    monitor := db.monitor.afterCheck monitor outcome opts decision }

def recordCheck (faults : Faults) (monitor : MonitorSnapshot) (outcome : ProbeOutcome)
    (opts : ProcessOptions) (decision : TransitionResult) : Pipe Unit := do
  faults.write .checkResult fun db =>
    { db with checkResults := db.checkResults ++ [checkResultOf monitor outcome opts] }
  faults.write .monitorRow fun db =>
    { db with monitor := db.monitor.afterCheck monitor outcome opts decision }

structure ProcessResult where
  checkStatus : CheckStatus
  previousHealth : MonitorHealth
  newHealth : MonitorHealth
  state : MonitorState
  transition : Option PipelineTransition
  inMaintenance : Bool
  flapping : Bool
  incidentId : Option IncidentId
  alertsEnqueued : Nat
deriving DecidableEq, Repr

def processResult (monitor : MonitorSnapshot) (outcome : ProbeOutcome) (inMaintenance : Bool)
    (decision : TransitionResult) (incident : IncidentOutcome) : ProcessResult :=
  { checkStatus := outcome.status
    previousHealth := monitor.health
    newHealth := decision.state.toHealth
    state := decision.state
    transition := incident.transition
    inMaintenance
    flapping := incident.flapping
    incidentId := incident.incidentId
    alertsEnqueued := incident.alertsEnqueued }

def processCheckResult (faults : Faults) (monitor : MonitorSnapshot) (outcome : ProbeOutcome)
    (opts : ProcessOptions) : Pipe ProcessResult := do
  let inMaintenance ← Eff.read (·.isInMaintenance monitor.id opts.now)
  let decision := decideCheck monitor outcome inMaintenance
  recordCheck faults monitor outcome opts decision
  let incident ← incidentStep faults monitor outcome opts decision
  pure (processResult monitor outcome inMaintenance decision incident)

/-- The outcome a heartbeat ping is recorded as. -/
def pingOutcome : ProbeOutcome := { status := .up, responseMs := some 0 }

/-- Ingest a heartbeat ping; `none` when the monitor is no live heartbeat. -/
def recordHeartbeat (faults : Faults) (now : Instant) (alerts : Bool := false)
    (region : ProbeRegion := defaultRegion) : Pipe (Option ProcessResult) := do
  let row ← Eff.read (·.monitor)
  if row.type = .heartbeat ∧ row.deletedAt = none then
    some <$> processCheckResult faults (toSnapshot row) pingOutcome
      { region, now, isHeartbeatPing := true, alerts }
  else pure none

inductive SkipReason where
  | notFound | inactive | unsupportedType
deriving DecidableEq, Repr

/-- One job of the check queue: the monitor is loaded fresh, `probe` is the outcome of
its probe, and the pipeline takes it from there. -/
def checkProcessor (faults : Faults) (probe : ProbeOutcome) (opts : ProcessOptions) :
    Pipe (Except SkipReason ProcessResult) := do
  let row ← Eff.read (·.monitor)
  if row.deletedAt.isSome then pure (.error .notFound)
  else if row.state ≠ .active then pure (.error .inactive)
  else if row.type = .grpc then pure (.error .unsupportedType)
  else .ok <$> processCheckResult faults (toSnapshot row) probe opts

/-! ## what announcing leaves alone -/

/-- A view that reads no timeline, audit, delivery, queue or call log. -/
def Quiet {τ : Type} (view : Db → τ) : Prop :=
  ∀ db events audits deliveries jobs escalations integrations integrationJobs calls,
    view { db with
      incidentEvents := events, auditLogs := audits, notificationDeliveries := deliveries
      alertQueue := jobs, escalationQueue := escalations, integrationDeliveries := integrations
      integrationQueue := integrationJobs, dispatched := calls } = view db

/-- A view that reads nothing of the incident `id` outside the incident table. -/
structure Ignores {τ : Type} (view : Db → τ) (id : IncidentId) : Prop where
  event : ∀ db e, e.incidentId = id →
    view { db with incidentEvents := db.incidentEvents ++ [e] } = view db
  audit : ∀ db audits, view { db with auditLogs := audits } = view db
  delivery : ∀ db d, d.incidentId = id →
    view { db with notificationDeliveries := db.notificationDeliveries ++ [d] } = view db
  job : ∀ db j, j.incidentId = id → view { db with alertQueue := db.alertQueue ++ [j] } = view db
  escalation : ∀ db jobs, view { db with escalationQueue := jobs } = view db
  integration : ∀ db deliveries jobs,
    view { db with integrationDeliveries := deliveries, integrationQueue := jobs } = view db
  call : ∀ db calls, view { db with dispatched := calls } = view db

section
variable {τ : Type} {view : Db → τ} {id : IncidentId} (faults : Faults)

theorem Quiet.ignores (h : Quiet view) (id : IncidentId) : Ignores view id where
  event db _ _ := h db _ db.auditLogs db.notificationDeliveries db.alertQueue db.escalationQueue
    db.integrationDeliveries db.integrationQueue db.dispatched
  audit db _ := h db db.incidentEvents _ db.notificationDeliveries db.alertQueue
    db.escalationQueue db.integrationDeliveries db.integrationQueue db.dispatched
  delivery db _ _ := h db db.incidentEvents db.auditLogs _ db.alertQueue db.escalationQueue
    db.integrationDeliveries db.integrationQueue db.dispatched
  job db _ _ := h db db.incidentEvents db.auditLogs db.notificationDeliveries _
    db.escalationQueue db.integrationDeliveries db.integrationQueue db.dispatched
  escalation db _ := h db db.incidentEvents db.auditLogs db.notificationDeliveries db.alertQueue _
    db.integrationDeliveries db.integrationQueue db.dispatched
  integration db _ _ := h db db.incidentEvents db.auditLogs db.notificationDeliveries
    db.alertQueue db.escalationQueue _ _ db.dispatched
  call db _ := h db db.incidentEvents db.auditLogs db.notificationDeliveries db.alertQueue
    db.escalationQueue db.integrationDeliveries db.integrationQueue _

theorem Ignores.dispatchAlerts (h : Ignores view id) (opts : ProcessOptions) {ctx : AlertContext}
    (hid : ctx.incidentId = id) : Eff.Frames view (dispatchAlerts faults opts ctx) := by
  subst hid
  rw [Monitoring.dispatchAlerts]
  split
  · exact frames_dispatch faults ctx h.delivery h.job h.call
  · exact .pure _

variable (view) in
/-- The escalation of an incident writes the escalation queue only. -/
theorem frames_escalate (h : ∀ db jobs, view { db with escalationQueue := jobs } = view db)
    (monitor : MonitorSnapshot) (opts : ProcessOptions) (id : IncidentId) :
    Eff.Frames view (escalate faults monitor opts id) := by
  rw [escalate]
  split
  · split
    · exact .bind (frames_startEscalation faults _ h) fun _ => .pure _
    · exact .pure _
  · exact .pure _

variable (view) in
/-- The integrations of an incident write the integration tables and the call log only. -/
theorem frames_dispatchIntegration
    (h : ∀ db deliveries jobs calls, view { db with
      integrationDeliveries := deliveries, integrationQueue := jobs, dispatched := calls } = view db)
    (opts : ProcessOptions) (ctx : IncidentDispatchContext) :
    Eff.Frames view (dispatchIntegration faults opts ctx) := by
  rw [dispatchIntegration]
  split
  · exact .rescue (.bind (frames_dispatchIncident faults _ _ _ h) fun _ => .pure _) fun _ => .pure _
  · exact .pure _

theorem Ignores.integrations (h : Ignores view id) (opts : ProcessOptions)
    (ctx : IncidentDispatchContext) : Eff.Frames view (dispatchIntegration faults opts ctx) := by
  refine frames_dispatchIntegration view faults (fun db deliveries jobs calls => ?_) opts ctx
  exact (h.call { db with integrationDeliveries := deliveries, integrationQueue := jobs } calls).trans
    (h.integration db deliveries jobs)

/-- An incident is announced in silence for a view that ignores it. -/
theorem Ignores.announceOpened (h : Ignores view id) (monitor : MonitorSnapshot)
    (opts : ProcessOptions) (flapping : Bool) :
    Eff.Frames view (announceOpened faults monitor opts flapping id) := by
  have haudit : ∀ e, Eff.Frames view (writeAudit faults e) := fun _ =>
    frames_write faults fun db => h.audit db _
  rw [Monitoring.announceOpened]
  split
  · refine .bind (frames_write faults fun db => h.event db _ rfl) fun _ => ?_
    exact .bind (haudit _) fun _ => .pure _
  · refine .bind (haudit _) fun _ => ?_
    refine .bind (h.dispatchAlerts faults opts rfl) fun _ => ?_
    refine .bind (frames_escalate view faults h.escalation monitor opts id) fun _ => ?_
    exact .bind (h.integrations faults opts _) fun _ => .pure _

theorem Ignores.announceResolved (h : Ignores view id) (monitor : MonitorSnapshot)
    (opts : ProcessOptions) : Eff.Frames view (announceResolved faults monitor opts id) := by
  refine .bind (frames_write faults fun db => h.audit db _) fun _ => ?_
  refine .bind (h.dispatchAlerts faults opts rfl) fun _ => ?_
  exact .bind (h.integrations faults opts _) fun _ => .pure _

variable (view) in
/-- A relapse is noted by an event without metadata. -/
theorem frames_relapseStep
    (h : ∀ db e, e.metadata = none →
      view { db with incidentEvents := db.incidentEvents ++ [e] } = view db)
    (monitor : MonitorSnapshot) (opts : ProcessOptions) :
    Eff.Frames view (relapseStep faults monitor opts) := by
  refine .bind (.read _) fun found => ?_
  cases found with
  | none => exact .pure _
  | some id => exact .bind (frames_write faults fun db => h db _ rfl) fun _ => .pure _

end

/-! ## what a call does to the monitor and its incidents -/

/-- The incident table after the incident step of a decided check. -/
def nextIncidents (faults : Faults) (monitor : MonitorSnapshot) (outcome : ProbeOutcome)
    (now : Instant) (action : Option IncidentAction) (rows : List Incident) : List Incident :=
  match action with
  | none => rows
  | some .open =>
      if faults .incidentCreate then rows
      else ((insertIncident monitor outcome now rows).map Prod.fst).getD rows
  | some .resolve =>
      if faults .incidentUpdate then rows
      else match findOpen monitor.id rows with
        | none => rows
        | some i => resolveRow i.id now (durationSec i.startedAt now) rows

@[simp] theorem nextIncidents_none (faults : Faults) (monitor : MonitorSnapshot)
    (outcome : ProbeOutcome) (now : Instant) (rows : List Incident) :
    nextIncidents faults monitor outcome now none rows = rows := rfl

section
variable (faults : Faults) (monitor : MonitorSnapshot) (outcome : ProbeOutcome)
  (opts : ProcessOptions)

theorem openStep_run (db : Db) :
    (openStep faults monitor outcome opts).run db =
      if faults .incidentCreate then (.ok { flapping := db.detectFlapping monitor.id opts.now }, db)
      else match insertIncident monitor outcome opts.now db.incidents with
        | none => (.ok { flapping := db.detectFlapping monitor.id opts.now }, db)
        | some (rows, id) =>
            (announceOpened faults monitor opts (db.detectFlapping monitor.id opts.now) id).run
              (db.opened outcome opts.now rows id) := by
  rw [openStep, Eff.bind_run, Eff.read_run]
  simp only [openIncident, Eff.bind_run, Eff.rescue_run, Eff.map_run, createIncident,
    Eff.statement_run]
  cases faults .incidentCreate with
  | true => rfl
  | false =>
      simp only [Bool.false_eq_true, if_false]
      cases insertIncident monitor outcome opts.now db.incidents <;> rfl

theorem resolveStep_run (db : Db) :
    (resolveStep faults monitor opts).run db =
      match findOpen monitor.id db.incidents with
      | none => (.ok {}, db)
      | some i =>
          if faults .incidentUpdate then (.error .unavailable, db)
          else (announceResolved faults monitor opts i.id).run (db.resolved opts.now i) := by
  rw [resolveStep, resolveIncident, Eff.bind_run, Eff.bind_run, Eff.read_run]
  cases findOpen monitor.id db.incidents with
  | none => rfl
  | some i =>
      simp only [Eff.bind_run, Faults.write, Eff.write_run]
      cases faults .incidentUpdate <;> rfl

/-- The ways an incident step goes. -/
inductive StepEnds (decision : TransitionResult) (db : Db) : Prop where
  | nothing (hact : decision.incident = none)
      (hrun : ((incidentStep faults monitor outcome opts decision).run db).2 = db)
  | relapse (hact : decision.incident = none)
      (hrun : (incidentStep faults monitor outcome opts decision).run db =
        (relapseStep faults monitor opts).run db)
  | notOpened (hact : decision.incident = some .open)
      (hno : faults .incidentCreate = true ∨
        insertIncident monitor outcome opts.now db.incidents = none)
      (hrun : ((incidentStep faults monitor outcome opts decision).run db).2 = db)
  | opened (hact : decision.incident = some .open) (hf : faults .incidentCreate = false)
      (rows : List Incident) (id : IncidentId)
      (hins : insertIncident monitor outcome opts.now db.incidents = some (rows, id))
      (hrun : (incidentStep faults monitor outcome opts decision).run db =
        (announceOpened faults monitor opts (db.detectFlapping monitor.id opts.now) id).run
          (db.opened outcome opts.now rows id))
  | notResolved (hact : decision.incident = some .resolve)
      (hno : faults .incidentUpdate = true ∨ findOpen monitor.id db.incidents = none)
      (hrun : ((incidentStep faults monitor outcome opts decision).run db).2 = db)
  | resolved (hact : decision.incident = some .resolve) (hf : faults .incidentUpdate = false)
      (i : Incident) (hfind : findOpen monitor.id db.incidents = some i)
      (hrun : (incidentStep faults monitor outcome opts decision).run db =
        (announceResolved faults monitor opts i.id).run (db.resolved opts.now i))

theorem incidentStep_ends (decision : TransitionResult) (db : Db) :
    StepEnds faults monitor outcome opts decision db := by
  cases hact : decision.incident with
  | none =>
      have hstep : incidentStep faults monitor outcome opts decision =
          if decision.changed && decision.state = .down then relapseStep faults monitor opts
          else pure {} := by
        rw [incidentStep, hact]
      split at hstep
      · exact .relapse hact (by rw [hstep])
      · exact .nothing hact (by rw [hstep]; rfl)
  | some action =>
      cases action with
      | «open» =>
          have hstep := openStep_run faults monitor outcome opts db
          have heq : incidentStep faults monitor outcome opts decision =
              openStep faults monitor outcome opts := by
            rw [incidentStep, hact]
          rw [← heq] at hstep
          cases hf : faults .incidentCreate with
          | true => exact .notOpened hact (.inl hf) (by rw [hstep, hf]; rfl)
          | false =>
              rw [hf] at hstep
              cases hins : insertIncident monitor outcome opts.now db.incidents with
              | none => exact .notOpened hact (.inr hins) (by rw [hstep, hins]; rfl)
              | some created =>
                  exact .opened hact hf created.1 created.2 hins (by rw [hstep, hins]; rfl)
      | resolve =>
          have hstep := resolveStep_run faults monitor opts db
          have heq : incidentStep faults monitor outcome opts decision =
              resolveStep faults monitor opts := by
            rw [incidentStep, hact]
          rw [← heq] at hstep
          cases hfind : findOpen monitor.id db.incidents with
          | none => exact .notResolved hact (.inr hfind) (by rw [hstep, hfind])
          | some i =>
              rw [hfind] at hstep
              cases hf : faults .incidentUpdate with
              | true => exact .notResolved hact (.inl hf) (by rw [hstep, hf]; rfl)
              | false => exact .resolved hact hf i hfind (by rw [hstep, hf]; rfl)

/-- The incident step leaves the monitor row alone and does to the incident table what
its decision says. -/
theorem incidentStep_rows (decision : TransitionResult) (db : Db) :
    ((incidentStep faults monitor outcome opts decision).run db).2.monitor = db.monitor ∧
      ((incidentStep faults monitor outcome opts decision).run db).2.incidents =
        nextIncidents faults monitor outcome opts.now decision.incident db.incidents := by
  have hq : Quiet (fun db : Db => (db.monitor, db.incidents)) := fun _ _ _ _ _ _ _ _ _ => rfl
  rw [← Prod.mk.injEq]
  cases incidentStep_ends faults monitor outcome opts decision db with
  | nothing hact hrun => rw [hrun, hact, nextIncidents_none]
  | relapse hact hrun =>
      rw [hrun, hact, nextIncidents_none]
      exact frames_relapseStep (fun db => (db.monitor, db.incidents)) faults (fun _ _ _ => rfl)
        monitor opts db
  | notOpened hact hno hrun =>
      rw [hrun, hact, nextIncidents]
      obtain hf | hins := hno
      · rw [if_pos hf]
      · rw [hins]
        simp
  | opened hact hf rows id hins hrun =>
      rw [hrun, hact, nextIncidents, hf, hins]
      exact (hq.ignores id).announceOpened faults monitor opts _ _
  | notResolved hact hno hrun =>
      rw [hrun, hact, nextIncidents]
      obtain hf | hfind := hno
      · rw [if_pos hf]
      · rw [hfind]
        simp
  | resolved hact hf i hfind hrun =>
      rw [hrun, hact, nextIncidents, hf, hfind]
      exact (hq.ignores i.id).announceResolved faults monitor opts _

/-- A view that no write of the pipeline touches: the configuration it reads. -/
theorem incidentStep_config {τ : Type} (view : Db → τ) (hq : Quiet view)
    (hi : ∀ db rows, view { db with incidents := rows } = view db)
    (decision : TransitionResult) :
    Eff.Frames view (incidentStep faults monitor outcome opts decision) := by
  intro db
  have hie : ∀ db rows events,
      view { db with incidents := rows, incidentEvents := events } = view db := fun db rows events =>
    (hq { db with incidents := rows } events _ _ _ _ _ _ _).trans (hi db rows)
  cases incidentStep_ends faults monitor outcome opts decision db with
  | nothing _ hrun | notOpened _ _ hrun | notResolved _ _ hrun => rw [hrun]
  | relapse _ hrun =>
      rw [hrun]
      exact frames_relapseStep view faults (fun db e _ => (hq.ignores e.incidentId).event db e rfl)
        monitor opts db
  | opened _ _ rows id _ hrun =>
      rw [hrun]
      exact ((hq.ignores id).announceOpened faults monitor opts _ _).trans (hie db _ _)
  | resolved _ _ i _ hrun =>
      rw [hrun]
      exact ((hq.ignores i.id).announceResolved faults monitor opts _).trans (hie db _ _)

theorem recordCheck_run (decision : TransitionResult) (db : Db) :
    (recordCheck faults monitor outcome opts decision).run db =
      if faults .checkResult then (.error .unavailable, db)
      else if faults .monitorRow then
        (.error .unavailable,
          { db with checkResults := db.checkResults ++ [checkResultOf monitor outcome opts] })
      else (.ok (), db.recorded monitor outcome opts decision) := by
  simp only [recordCheck, Eff.bind_run, Faults.write, Eff.write_run]
  cases faults .checkResult <;> cases faults .monitorRow <;> rfl

/-- The verdict a call reaches on the database it finds. -/
def Db.decision (db : Db) : TransitionResult :=
  decideCheck monitor outcome (db.isInMaintenance monitor.id opts.now)

/-- A call either fails before the monitor row is written, or writes it and goes on with
the incident step. -/
theorem processCheckResult_run (db : Db) :
    (processCheckResult faults monitor outcome opts).run db =
      if faults .checkResult then (.error .unavailable, db)
      else if faults .monitorRow then
        (.error .unavailable,
          { db with checkResults := db.checkResults ++ [checkResultOf monitor outcome opts] })
      else
        (processResult monitor outcome (db.isInMaintenance monitor.id opts.now)
            (db.decision monitor outcome opts) <$>
          incidentStep faults monitor outcome opts (db.decision monitor outcome opts)).run
            (db.recorded monitor outcome opts (db.decision monitor outcome opts)) := by
  rw [processCheckResult, Eff.bind_run, Eff.read_run]
  simp only [Eff.bind_run, recordCheck_run, Eff.map_run, Db.decision]
  cases faults .checkResult <;> cases faults .monitorRow <;> rfl

/-- Whether a call gets as far as writing the monitor row. -/
def Faults.reachesRow : Bool := !faults .checkResult && !faults .monitorRow

theorem processCheckResult_reached (h : faults.reachesRow = true) (db : Db) :
    (processCheckResult faults monitor outcome opts).run db =
      (processResult monitor outcome (db.isInMaintenance monitor.id opts.now)
          (db.decision monitor outcome opts) <$>
        incidentStep faults monitor outcome opts (db.decision monitor outcome opts)).run
          (db.recorded monitor outcome opts (db.decision monitor outcome opts)) := by
  simp only [Faults.reachesRow, Bool.and_eq_true, Bool.not_eq_true'] at h
  rw [processCheckResult_run, h.1, h.2, if_neg (by simp), if_neg (by simp)]

theorem processCheckResult_unreached (h : faults.reachesRow = false) (db : Db) :
    ∃ results, (processCheckResult faults monitor outcome opts).run db =
      (.error .unavailable, { db with checkResults := results }) := by
  rw [processCheckResult_run]
  split
  · exact ⟨db.checkResults, rfl⟩
  · split
    · exact ⟨_, rfl⟩
    · simp_all [Faults.reachesRow]

/-- What a call does to the monitor row and to the incident table. -/
theorem processCheckResult_rows (db : Db) :
    ((processCheckResult faults monitor outcome opts).run db).2.monitor =
        (if faults.reachesRow then
          db.monitor.afterCheck monitor outcome opts (db.decision monitor outcome opts)
        else db.monitor) ∧
      ((processCheckResult faults monitor outcome opts).run db).2.incidents =
        if faults.reachesRow then
          nextIncidents faults monitor outcome opts.now
            (db.decision monitor outcome opts).incident db.incidents
        else db.incidents := by
  cases h : faults.reachesRow with
  | true =>
      rw [processCheckResult_reached faults monitor outcome opts h, Eff.map_run_snd]
      exact incidentStep_rows faults monitor outcome opts _ _
  | false =>
      obtain ⟨results, hrun⟩ := processCheckResult_unreached faults monitor outcome opts h db
      rw [hrun]
      exact ⟨rfl, rfl⟩

/-- A call never touches what identifies the monitor and configures its checks. -/
theorem processCheckResult_id (db : Db) :
    ((processCheckResult faults monitor outcome opts).run db).2.monitor.id = db.monitor.id := by
  rw [(processCheckResult_rows faults monitor outcome opts db).1]
  split <;> rfl

/-- A call leaves alone every view that reads none of the tables it writes. -/
theorem processCheckResult_config {τ : Type} (view : Db → τ) (hq : Quiet view)
    (hi : ∀ db rows, view { db with incidents := rows } = view db)
    (hm : ∀ db row results, view { db with monitor := row, checkResults := results } = view db) :
    Eff.Frames view (processCheckResult faults monitor outcome opts) := by
  intro db
  rw [processCheckResult_run]
  split
  · rfl
  · split
    · exact hm db db.monitor _
    · rw [Eff.map_run_snd, incidentStep_config faults monitor outcome opts view hq hi]
      exact hm db _ _

end

/-! ## the entry points -/

/-- The options of the pipeline call a ping makes. -/
def pingOptions (now : Instant) (alerts : Bool) (region : ProbeRegion) : ProcessOptions :=
  { region, now, isHeartbeatPing := true, alerts }

theorem recordHeartbeat_run (faults : Faults) (now : Instant) (alerts : Bool)
    (region : ProbeRegion) (db : Db) :
    (recordHeartbeat faults now alerts region).run db =
      if db.monitor.type = .heartbeat ∧ db.monitor.deletedAt = none then
        (some <$> processCheckResult faults (toSnapshot db.monitor) pingOutcome
          (pingOptions now alerts region)).run db
      else (.ok none, db) := by
  rw [recordHeartbeat, Eff.bind_run, Eff.read_run]
  simp only []
  split <;> rfl

/-- A monitor the worker checks at all. -/
def MonitorRow.isChecked (row : MonitorRow) : Bool :=
  row.deletedAt.isNone && row.state = .active && row.type ≠ .grpc

theorem checkProcessor_skips (faults : Faults) (probe : ProbeOutcome) (opts : ProcessOptions)
    {db : Db} (h : db.monitor.isChecked = false) :
    ∃ reason, (checkProcessor faults probe opts).run db = (.ok (.error reason), db) := by
  rw [checkProcessor, Eff.bind_run, Eff.read_run]
  simp only [MonitorRow.isChecked] at h ⊢
  split
  · exact ⟨_, rfl⟩
  · split
    · exact ⟨_, rfl⟩
    · split
      · exact ⟨_, rfl⟩
      · simp_all

theorem checkProcessor_checks (faults : Faults) (probe : ProbeOutcome) (opts : ProcessOptions)
    {db : Db} (h : db.monitor.isChecked = true) :
    (checkProcessor faults probe opts).run db =
      (Except.ok <$> processCheckResult faults (toSnapshot db.monitor) probe opts).run db := by
  simp only [MonitorRow.isChecked, Bool.and_eq_true, decide_eq_true_eq, Option.isNone_iff_eq_none]
    at h
  obtain ⟨⟨hd, hs⟩, hg⟩ := h
  rw [checkProcessor, Eff.bind_run, Eff.read_run]
  simp [hd, hs, hg]

end UptimeFlow.Monitoring
