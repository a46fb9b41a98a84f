import Mathlib.Data.Int.Order.Basic
import UptimeFlow.StateMachine
import UptimeFlow.Tables
import UptimeFlow.Effects

/-!
# UptimeFlow.Monitoring.Schema

The rows the check pipeline reads and writes, and the statements it issues.

`Db` holds one monitor's row and the tables its checks touch; tables other
monitors write to carry the `monitorId` column and every query filters on it.
A statement can fail at the place it is issued: `Site` names the places, and a
`Faults` is the set of places at which one run of the pipeline fails.
-/

namespace UptimeFlow.Monitoring

open Tables

abbrev MonitorId := String
abbrev OrganizationId := String
abbrev ChannelId := String
abbrev PolicyId := String
abbrev IncidentId := Nat
abbrev DeliveryId := Nat

/-- Milliseconds since the epoch. -/
abbrev Instant := Int

/-! ## enumerations -/

inductive MonitorType where
  | http | tcp | ping | dns | keyword | ssl | port | heartbeat | grpc | domain
deriving DecidableEq, Repr

/-- The database's spelling of a type, as it shows in texts. -/
def MonitorType.label : MonitorType → String
  | .http => "HTTP"
  | .tcp => "TCP"
  | .ping => "PING"
  | .dns => "DNS"
  | .keyword => "KEYWORD"
  | .ssl => "SSL"
  | .port => "PORT"
  | .heartbeat => "HEARTBEAT"
  | .grpc => "GRPC"
  | .domain => "DOMAIN"

/-- Operator-controlled lifecycle of the monitor's definition (the column `state`). -/
inductive MonitorLifecycle where
  | active | paused | disabled
deriving DecidableEq, Repr

inductive ProbeRegion where
  | naEast | naWest | euWest | euCentral | apSoutheast | apNortheast | saEast | afSouth
deriving DecidableEq, Repr

def defaultRegion : ProbeRegion := .naEast

inductive CheckStatus where
  | up | down | degraded | timeout | error
deriving DecidableEq, Repr

inductive IncidentStatus where
  | open | acknowledged | resolved
deriving DecidableEq, Repr

inductive IncidentSeverity where
  | critical | major | minor | warning
deriving DecidableEq, Repr

inductive IncidentEventType where
  | detected | acknowledged | escalated | notificationSent | comment | statusChanged | resolved
  | reopened
deriving DecidableEq, Repr

inductive AlertKind where
  | opened | resolved
deriving DecidableEq, Repr

inductive IntegrationType where
  | slack | discord | webhook | telegram | microsoftTeams
deriving DecidableEq, Repr

def IntegrationType.label : IntegrationType → String
  | .slack => "SLACK"
  | .discord => "DISCORD"
  | .webhook => "WEBHOOK"
  | .telegram => "TELEGRAM"
  | .microsoftTeams => "MICROSOFT_TEAMS"

/-! ## rows -/

structure MonitorRow where
  id : MonitorId
  organizationId : OrganizationId
  name : String
  type : MonitorType
  state : MonitorLifecycle := .active
  health : MonitorHealth := .pending
  failureThreshold : Nat := 1
  successThreshold : Nat := 1
  escalationPolicyId : Option PolicyId := none
  consecutiveFailures : Nat := 0
  consecutiveSuccesses : Nat := 0
  lastCheckedAt : Option Instant := none
  lastStatusCode : Option Int := none
  lastResponseMs : Option Int := none
  lastError : Option String := none
  deletedAt : Option Instant := none
deriving DecidableEq, Repr

/-- Final classification of a check, as the pipeline reads it. -/
structure ProbeOutcome where
  status : CheckStatus
  statusCode : Option Int := none
  responseMs : Option Int := none
  errorType : Option String := none
  errorMessage : Option String := none
deriving DecidableEq, Repr

structure CheckResult where
  organizationId : OrganizationId
  monitorId : MonitorId
  region : ProbeRegion
  status : CheckStatus
  statusCode : Option Int
  responseMs : Option Int
  errorType : Option String
  errorMessage : Option String
  checkedAt : Instant
deriving DecidableEq, Repr

structure MaintenanceWindow where
  id : Nat
  startsAt : Instant
  endsAt : Instant
  suppressAlerts : Bool := true
  deletedAt : Option Instant := none
  monitors : List MonitorId
deriving DecidableEq, Repr

structure Incident where
  id : IncidentId
  organizationId : OrganizationId
  monitorId : MonitorId
  status : IncidentStatus
  severity : IncidentSeverity
  title : String
  summary : Option String
  cause : Option String
  fingerprint : Option String
  startedAt : Instant
  acknowledgedAt : Option Instant := none
  acknowledgedById : Option String := none
  resolvedAt : Option Instant := none
  durationSec : Option Int := none
  createdAt : Instant
deriving DecidableEq, Repr

/-- The metadata the pipeline attaches to a timeline event. -/
inductive EventMetadata where
  | detected (errorType : Option String) (status : CheckStatus)
  | flapping
deriving DecidableEq, Repr

structure IncidentEvent where
  incidentId : IncidentId
  type : IncidentEventType
  message : Option String
  actorId : Option String := none
  metadata : Option EventMetadata := none
  createdAt : Instant
deriving DecidableEq, Repr

structure AuditLog where
  organizationId : OrganizationId
  actorType : String
  action : String
  resourceType : String
  resourceId : String
deriving DecidableEq, Repr

structure AlertChannel where
  id : ChannelId
  enabled : Bool := true
  deletedAt : Option Instant := none
deriving DecidableEq, Repr

/-- A binding of an alert channel to a monitor, with the channel it joins. -/
structure MonitorChannel where
  monitorId : MonitorId
  channel : AlertChannel
deriving DecidableEq, Repr

structure NotificationDelivery where
  id : DeliveryId
  organizationId : OrganizationId
  channelId : ChannelId
  incidentId : IncidentId
deriving DecidableEq, Repr

structure AlertJobData where
  deliveryId : DeliveryId
  incidentId : IncidentId
  channelId : ChannelId
  organizationId : OrganizationId
  kind : AlertKind
deriving DecidableEq, Repr

structure EscalationStep where
  policyId : PolicyId
  position : Int
  delayMinutes : Int
deriving DecidableEq, Repr

structure EscalationJobData where
  incidentId : IncidentId
  organizationId : OrganizationId
  monitorId : MonitorId
  policyId : PolicyId
  stepIndex : Nat
  round : Nat
  /-- The delay the job is enqueued with, in milliseconds. -/
  delay : Int
deriving DecidableEq, Repr

structure IntegrationRow where
  type : IntegrationType
  id : String
  organizationId : OrganizationId
  enabled : Bool := true
  deletedAt : Option Instant := none
deriving DecidableEq, Repr

structure IntegrationEvent where
  event : String
  title : String
  monitorName : String
  status : String
  url : String
  timestamp : Instant
deriving DecidableEq, Repr

structure IntegrationDelivery where
  id : DeliveryId
  organizationId : OrganizationId
  integrationType : IntegrationType
  integrationId : String
  event : String
  dedupeKey : Option String
deriving DecidableEq, Repr

structure IntegrationJobData where
  deliveryId : DeliveryId
  integrationType : IntegrationType
  integrationId : String
  organizationId : OrganizationId
  event : IntegrationEvent
deriving DecidableEq, Repr

/-- The two fan-outs of the pipeline. -/
inductive Route where
  | alerts | integrations
deriving DecidableEq, Repr

/-- One call of a dispatcher. -/
structure DispatchCall where
  route : Route
  kind : AlertKind
  incidentId : IncidentId
deriving DecidableEq, Repr

structure Db where
  monitor : MonitorRow
  maintenanceWindows : List MaintenanceWindow := []
  checkResults : List CheckResult := []
  incidents : List Incident := []
  incidentEvents : List IncidentEvent := []
  auditLogs : List AuditLog := []
  monitorChannels : List MonitorChannel := []
  notificationDeliveries : List NotificationDelivery := []
  alertQueue : List AlertJobData := []
  escalationSteps : List EscalationStep := []
  escalationQueue : List EscalationJobData := []
  integrations : List IntegrationRow := []
  integrationDeliveries : List IntegrationDelivery := []
  integrationQueue : List IntegrationJobData := []
  /-- The dispatcher calls made so far, latest last. -/
  dispatched : List DispatchCall := []
deriving DecidableEq, Repr

/-! ## statements -/

inductive DbError where
  /-- The statement did not reach the database, or the queue did not take the job. -/
  | unavailable
  /-- A unique constraint rejected the row. -/
  | uniqueViolation
deriving DecidableEq, Repr

/-- The writes and queue adds of one pipeline run, each named by its place in it. -/
inductive Site where
  | checkResult
  | monitorRow
  | incidentCreate
  | incidentUpdate
  | incidentEvent
  | auditLog
  | delivery (channel : ChannelId)
  | alertJob (channel : ChannelId)
  | escalationJob
  | integrationDelivery (target : IntegrationType × String)
  | integrationJob (target : IntegrationType × String)
deriving DecidableEq, Repr

/-- The sites that fail in one run. -/
abbrev Faults := Site → Bool

/-- Every statement goes through. -/
def noFaults : Faults := fun _ => false

abbrev Pipe := Eff Db DbError

/-- A write of the pipeline, at its site. -/
def Faults.write (faults : Faults) (site : Site) (op : Db → Db) : Pipe Unit :=
  Eff.write (faults site) .unavailable op

/-! ## the unique key of an incident -/

/-- `(monitorId, fingerprint)`, unique over the incidents that have a fingerprint. -/
def Incident.uniqueKey (i : Incident) : Option (MonitorId × String) :=
  i.fingerprint.map fun f => (i.monitorId, f)

/-- The dedupe key of a monitor's outage. -/
def downFingerprint (monitorId : MonitorId) : String := monitorId ++ ":down"

/-- An incident of the monitor that is not resolved. -/
def Incident.isOpen (monitorId : MonitorId) (i : Incident) : Bool :=
  i.monitorId = monitorId && i.status ≠ .resolved

theorem Incident.isOpen_iff {monitorId : MonitorId} {i : Incident} :
    i.isOpen monitorId = true ↔ i.monitorId = monitorId ∧ i.status ≠ .resolved := by
  simp [isOpen]

end UptimeFlow.Monitoring
