import UptimeFlow.Monitors.Schema
import UptimeFlow.Writes

/-!
# UptimeFlow.Monitors.Service

The monitor service: `create`, `update` and `setChannels`.

Every request first checks what it refers to, then writes.  `create` is one
statement; the other two issue several, with no transaction around them, and a
statement may fail at its site.  The audit log is written last and swallows its
own failure.  What a header record looks like once stored is a parameter, and so
is the verdict of the plan gate.
-/

namespace UptimeFlow.Monitors

open Monitoring (MonitorType ProbeRegion OrganizationId MonitorId ChannelId PolicyId Instant)
open Security (TargetError validateTargetFields isBlank)

/-! ## statements -/

inductive ServiceError where
  | limitReached
  | target (e : TargetError)
  | invalidGroup | invalidEscalationPolicy | invalidChannel
  | notFound
  /-- A statement that failed. -/
  | database
deriving DecidableEq, Repr

/-- The writes of the service. -/
inductive Site where
  | monitorCreate
  | assertionsDelete | assertionsCreate
  | channelsDelete | channelsCreate
  | monitorUpdate
  | auditLog
deriving DecidableEq, Repr

/-- The writes that fail during a request. -/
abbrev Faults := Site → Bool

def noFaults : Faults := fun _ => false

abbrev Service := Eff Db ServiceError

def Faults.write (faults : Faults) (site : Site) (op : Db → Db) : Service Unit :=
  Eff.write (faults site) .database op

structure MonitorActor where
  userId : Option String
  actorType : String
deriving DecidableEq, Repr

/-- Append-only write that never throws. -/
def audit (faults : Faults) (event : AuditEvent) : Service Unit :=
  Eff.rescue (faults.write .auditLog fun db => { db with auditLogs := db.auditLogs ++ [event] })
    fun _ => pure ()

/-! ## reading -/

/-- The monitor as its organization sees it. -/
def Db.findMonitor (db : Db) (organizationId : OrganizationId) (monitorId : MonitorId) :
    Option MonitorRow :=
  db.monitors.find? fun m =>
    m.id = monitorId && m.organizationId = organizationId && m.deletedAt.isNone

def Db.assertionsOf (db : Db) (monitorId : MonitorId) : List AssertionDef :=
  (db.monitorAssertions.filter fun a => a.monitorId = monitorId).map (·.assertion)

def Db.boundChannelIds (db : Db) (monitorId : MonitorId) : List ChannelId :=
  (db.monitorChannels.filter fun c => c.monitorId = monitorId).map (·.channelId)

structure MonitorDetail extends MonitorRow where
  assertions : List AssertionDef
  boundChannelIds : List ChannelId
deriving DecidableEq, Repr

def toDetail (db : Db) (row : MonitorRow) : MonitorDetail :=
  { row with
    assertions := db.assertionsOf row.id
    boundChannelIds := db.boundChannelIds row.id }

def loadDetail (organizationId : OrganizationId) (monitorId : MonitorId) (db : Db) :
    Option MonitorDetail :=
  (db.findMonitor organizationId monitorId).map (toDetail db)

/-! ## guards -/

/-- The rows of an organization that are not deleted, counted by a condition. -/
def countOwned (rows : List OwnedRow) (organizationId : OrganizationId) (p : String → Bool) : Nat :=
  (rows.filter fun r => p r.id && r.organizationId = organizationId && r.deletedAt.isNone).length

/-- `if (id) …` over an optional identifier. -/
def ifGiven (id : Option String) (check : String → Except ServiceError Unit) :
    Except ServiceError Unit :=
  match id with
  | none => .ok ()
  | some id => if id = "" then .ok () else check id

def assertGroupOwned (db : Db) (groupId : GroupId) (organizationId : OrganizationId) :
    Except ServiceError Unit :=
  if countOwned db.monitorGroups organizationId (· = groupId) = 0 then .error .invalidGroup
  else .ok ()

def assertPolicyOwned (db : Db) (policyId : PolicyId) (organizationId : OrganizationId) :
    Except ServiceError Unit :=
  if countOwned db.escalationPolicies organizationId (· = policyId) = 0 then
    .error .invalidEscalationPolicy
  else .ok ()

def assertChannelsOwned (db : Db) (channelIds : List ChannelId) (organizationId : OrganizationId) :
    Except ServiceError Unit :=
  if channelIds.length = 0 then .ok ()
  else if countOwned db.alertChannels organizationId (channelIds.contains ·) ≠ channelIds.length then
    .error .invalidChannel
  else .ok ()

def checkTarget (t : Security.Target) : Except ServiceError Unit :=
  match validateTargetFields t with
  | .error e => .error (.target e)
  | .ok () => .ok ()

/-- The ownership guards for the references of a request. -/
def checkReferences (db : Db) (organizationId : OrganizationId) (f : MonitorFields) :
    Except ServiceError Unit := do
  ifGiven f.groupId fun id => assertGroupOwned db id organizationId
  ifGiven f.escalationPolicyId fun id => assertPolicyOwned db id organizationId
  assertChannelsOwned db (f.channelIds.getD []) organizationId

/-- A check against the store. -/
def guard (check : Db → Except ServiceError Unit) : Service Unit := ⟨fun db => (check db, db)⟩

/-! ## create -/

section
-- a header record, as the database returns it
variable (stored : Headers → Headers)

/-- The row of a new monitor, with the defaults of the service and of the table. -/
def newRow (id : MonitorId) (organizationId : OrganizationId) (input : CreateMonitorInput)
    (actor : MonitorActor) : MonitorRow :=
  { id, organizationId
    name := input.name
    type := input.type
    groupId := input.groupId
    url := input.url
    host := input.host
    port := input.port
    httpMethod := some (input.httpMethod.getD .get)
    requestHeaders := input.requestHeaders.map stored
    requestBody := input.requestBody
    expectedStatus := some (input.expectedStatus.getD 200)
    keyword := input.keyword
    keywordInverted := input.keywordInverted.getD false
    followRedirects := input.followRedirects.getD true
    verifySsl := input.verifySsl.getD true
    intervalSeconds := input.intervalSeconds.getD 60
    timeoutSeconds := input.timeoutSeconds.getD 30
    retries := input.retries.getD 2
    regions := input.regions.getD []
    failureThreshold := input.failureThreshold.getD 1
    successThreshold := input.successThreshold.getD 1
    escalationPolicyId := input.escalationPolicyId
    createdById := actor.userId }

/-- The one statement of `create`: the monitor with its assertions and channels, under an
identifier that must be new. -/
def insertMonitor (row : MonitorRow) (input : CreateMonitorInput) (db : Db) :
    Except ServiceError Unit × Db :=
  if db.monitors.any fun m => m.id = row.id then (.error .database, db)
  else
    (.ok (),
      { db with
        monitors := db.monitors ++ [row]
        monitorAssertions := db.monitorAssertions ++
          (input.assertions.getD []).map (MonitorAssertion.mk row.id)
        monitorChannels := db.monitorChannels ++
          (input.channelIds.getD []).map (MonitorChannel.mk row.id) })

def create (faults : Faults) (limitReached : Bool) (id : MonitorId)
    (organizationId : OrganizationId) (input : CreateMonitorInput) (actor : MonitorActor) :
    Service MonitorDetail := do
  guard fun _ => if limitReached then .error .limitReached else .ok ()
  guard fun _ => checkTarget
    { type := input.type, url := input.url, host := input.host, port := input.port }
  guard fun db => checkReferences db organizationId input.toMonitorFields
  let row := newRow stored id organizationId input actor
  Eff.statement (faults .monitorCreate) .database (insertMonitor row input)
  audit faults
    { organizationId, actorId := actor.userId, actorType := actor.actorType
      action := "monitor.created", resourceType := "monitor", resourceId := id }
  Eff.read fun db => toDetail db row

/-! ## update -/

/-- The target fields of an update, over those of the row. -/
def mergedTarget (existing : MonitorRow) (input : UpdateMonitorInput) : Security.Target :=
  { type := input.type.getD existing.type
    url := input.url.or existing.url
    host := input.host.or existing.host
    port := input.port.or existing.port }

/-- The row after `data`: the fields an update carries replace, the others stay. -/
def updatedRow (row : MonitorRow) (input : UpdateMonitorInput) (actor : MonitorActor) :
    MonitorRow :=
  { row with
    name := input.name.getD row.name
    type := input.type.getD row.type
    groupId := input.groupId.or row.groupId
    url := input.url.or row.url
    host := input.host.or row.host
    port := input.port.or row.port
    httpMethod := input.httpMethod.or row.httpMethod
    requestHeaders := (input.requestHeaders.map stored).or row.requestHeaders
    requestBody := input.requestBody.or row.requestBody
    expectedStatus := input.expectedStatus.or row.expectedStatus
    keyword := input.keyword.or row.keyword
    keywordInverted := input.keywordInverted.getD row.keywordInverted
    followRedirects := input.followRedirects.getD row.followRedirects
    verifySsl := input.verifySsl.getD row.verifySsl
    intervalSeconds := input.intervalSeconds.getD row.intervalSeconds
    timeoutSeconds := input.timeoutSeconds.getD row.timeoutSeconds
    retries := input.retries.getD row.retries
    regions := input.regions.getD row.regions
    failureThreshold := input.failureThreshold.getD row.failureThreshold
    successThreshold := input.successThreshold.getD row.successThreshold
    escalationPolicyId := input.escalationPolicyId.or row.escalationPolicyId
    updatedById := actor.userId.or row.updatedById }

def deleteAssertions (monitorId : MonitorId) (db : Db) : Db :=
  { db with monitorAssertions := db.monitorAssertions.filter fun a => a.monitorId ≠ monitorId }

def createAssertions (monitorId : MonitorId) (assertions : List AssertionDef) (db : Db) : Db :=
  { db with
    monitorAssertions := db.monitorAssertions ++ assertions.map (MonitorAssertion.mk monitorId) }

def deleteChannels (monitorId : MonitorId) (db : Db) : Db :=
  { db with monitorChannels := db.monitorChannels.filter fun c => c.monitorId ≠ monitorId }

/-- `createMany` with `skipDuplicates`. -/
def createChannels (monitorId : MonitorId) (channelIds : List ChannelId) (db : Db) : Db :=
  { db with
    monitorChannels := (channelIds.map (MonitorChannel.mk monitorId)).foldl
      (fun rows c => if c ∈ rows then rows else rows ++ [c]) db.monitorChannels }

def updateMonitor (monitorId : MonitorId) (input : UpdateMonitorInput) (actor : MonitorActor)
    (db : Db) : Db :=
  { db with
    monitors := Tables.updateWhere (fun m => m.id = monitorId)
      (fun row => updatedRow stored row input actor) db.monitors }

/-- Replace assertions if supplied. -/
def replaceAssertions (faults : Faults) (monitorId : MonitorId) :
    Option (List AssertionDef) → Service Unit
  | none => pure ()
  | some assertions => do
      faults.write .assertionsDelete (deleteAssertions monitorId)
      if assertions.length > 0 then
        faults.write .assertionsCreate (createAssertions monitorId assertions)

/-- Replace channel bindings. -/
def replaceChannels (faults : Faults) (monitorId : MonitorId) (channelIds : List ChannelId) :
    Service Unit := do
  faults.write .channelsDelete (deleteChannels monitorId)
  if channelIds.length > 0 then
    faults.write .channelsCreate (createChannels monitorId channelIds)

def update (faults : Faults) (organizationId : OrganizationId) (monitorId : MonitorId)
    (input : UpdateMonitorInput) (actor : MonitorActor) : Service (Option MonitorDetail) := do
  match ← Eff.read fun db => db.findMonitor organizationId monitorId with
  | none => return none
  | some existing => do
      guard fun _ => checkTarget (mergedTarget existing input)
      guard fun db => checkReferences db organizationId input.toMonitorFields
      replaceAssertions faults monitorId input.assertions
      match input.channelIds with
      | none => pure ()
      | some channelIds => replaceChannels faults monitorId channelIds
      faults.write .monitorUpdate (updateMonitor stored monitorId input actor)
      audit faults
        { organizationId, actorId := actor.userId, actorType := actor.actorType
          action := "monitor.updated", resourceType := "monitor", resourceId := monitorId }
      Eff.read (loadDetail organizationId monitorId)

end

/-! ## channel bindings -/

def setChannels (faults : Faults) (organizationId : OrganizationId) (monitorId : MonitorId)
    (channelIds : List ChannelId) : Service (List ChannelId) := do
  guard fun db =>
    if (db.findMonitor organizationId monitorId).isNone then .error .notFound else .ok ()
  guard fun db => assertChannelsOwned db channelIds organizationId
  replaceChannels faults monitorId channelIds
  return channelIds

end UptimeFlow.Monitors
