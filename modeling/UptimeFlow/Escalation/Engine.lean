import UptimeFlow.Monitoring.Dispatch
import UptimeFlow.OnCall.Resolve

/-!
# UptimeFlow.Escalation.Engine

The escalation worker: a job fires one step of a policy for an incident and
enqueues the next.

A step contacts the responders it resolves to, dispatches to its alert
channels, and writes one timeline entry and one audit entry.  Statements are
issued one after another and each may fail at its place (`Site`); the writes
before it stay.  Pages are issued concurrently by the source; their order is
taken to be that of the responders.
-/

namespace UptimeFlow.Escalation

open Tables OnCall
open Monitoring (Instant IncidentId OrganizationId MonitorId PolicyId ChannelId DeliveryId Incident
  IncidentSeverity IncidentEvent MonitorRow AlertChannel NotificationDelivery AlertJobData
  EscalationStep EscalationContext EscalationJobData AuditLog minutesToMs)

/-! ## rows -/

inductive EscalationTargetType where
  | user | schedule | channel
deriving DecidableEq, Repr

structure TargetRow where
  type : EscalationTargetType
  userId : Option UserId := none
  scheduleId : Option ScheduleId := none
  channelId : Option ChannelId := none
deriving DecidableEq, Repr

structure StepRow extends EscalationStep where
  targets : List TargetRow
deriving DecidableEq, Repr

structure PolicyRow where
  id : PolicyId
  organizationId : OrganizationId
  repeatCount : Nat := 0
  deletedAt : Option Instant := none
deriving DecidableEq, Repr

structure ChannelRow extends AlertChannel where
  organizationId : OrganizationId
deriving DecidableEq, Repr

structure UserRow where
  id : UserId
  email : String
  name : String
deriving DecidableEq, Repr

structure ResponderRef where
  userId : UserId
  via : String
  secondaryUserId : Option UserId := none
deriving DecidableEq, Repr

structure FailedPage where
  userId : UserId
  reason : String
deriving DecidableEq, Repr

/-- What a step records of itself, in the timeline and in the audit log. -/
structure StepMetadata where
  step : Int
  responders : List ResponderRef
  channelIds : List ChannelId
  pagedUserIds : List UserId
  failedPages : List FailedPage
deriving DecidableEq, Repr

structure TimelineEvent extends IncidentEvent where
  escalation : Option StepMetadata := none
deriving DecidableEq, Repr

structure AuditEntry extends AuditLog where
  metadata : Option StepMetadata := none
deriving DecidableEq, Repr

/-- An email to send; the source calls the recipient `to`. -/
structure EmailJob where
  template : String
  recipient : String
  incidentTitle : String
  severity : String
  description : String
  statusPageUrl : String
deriving DecidableEq, Repr

/-- A job the email queue still knows: waiting, active, or retained after it ended. -/
structure QueuedEmail where
  jobId : String
  job : EmailJob
deriving DecidableEq, Repr

structure Db where
  incidents : List Incident := []
  monitors : List MonitorRow := []
  policies : List PolicyRow := []
  escalationSteps : List StepRow := []
  alertChannels : List ChannelRow := []
  schedules : List ScheduleRow := []
  users : List UserRow := []
  incidentEvents : List TimelineEvent := []
  auditLogs : List AuditEntry := []
  notificationDeliveries : List NotificationDelivery := []
  alertQueue : List AlertJobData := []
  escalationQueue : List EscalationJobData := []
  emailQueue : List QueuedEmail := []
deriving DecidableEq, Repr

/-! ## statements -/

/-- The statements of one run of a job; targets and channels are numbered as the step lists
them. -/
inductive Site where
  | incident | policy | schedule (n : Nat) | users | page (userId : UserId)
  | channel (n : Nat) | delivery (n : Nat) | alertJob (n : Nat) | event | audit | successor
deriving DecidableEq, Repr

/-- The error of each statement that fails in one run. -/
abbrev Faults := Site → Option String

def noFaults : Faults := fun _ => none

abbrev Work := Eff Db String

def Faults.read {α : Type} (faults : Faults) (site : Site) (f : Db → α) : Work α :=
  .statement (faults site).isSome ((faults site).getD "") fun db => (.ok (f db), db)

def Faults.write (faults : Faults) (site : Site) (op : Db → Db) : Work Unit :=
  .write (faults site).isSome ((faults site).getD "") op

/-! ## responders -/

/-- What the engine is wired with: the offsets of timezones, and the public origin of the email
notifier, if one is wired. -/
structure Deps where
  tzOffsetMs : TzOffset
  responders : Option String

/-- Incident fields a page needs, with the incident they are of. -/
structure StepContext where
  incidentId : IncidentId
  organizationId : OrganizationId
  title : String
  summary : Option String
  severity : IncidentSeverity
  monitorName : Option String
deriving DecidableEq, Repr

def severityLabel : IncidentSeverity → String
  | .critical => "CRITICAL"
  | .major => "MAJOR"
  | .minor => "MINOR"
  | .warning => "WARNING"

/-- `replace(/\/$/, "")` -/
def stripSlash (url : String) : String :=
  if url.toList.getLast? = some '/' then String.ofList url.toList.dropLast else url

/-- One page per (incident, step, user). -/
def pageId (incidentId : IncidentId) (step : Int) (userId : UserId) : String :=
  "escalation-page:" ++ toString incidentId ++ ":" ++ toString step ++ ":" ++ userId

/-- The email of a page. -/
def pageEmail (webUrl : String) (ctx : StepContext) (user : UserRow) : EmailJob where
  template := "incident"
  recipient := user.email
  incidentTitle := ctx.title
  severity := severityLabel ctx.severity
  description := ctx.summary.getD (ctx.monitorName.getD "A monitor" ++
    " is down. You are on the escalation path for this incident.")
  statusPageUrl := stripSlash webUrl ++ "/dashboard/incidents/" ++ toString ctx.incidentId

/-- Add a job to the email queue; where its id is still known nothing happens. -/
def Db.enqueueEmail (db : Db) (jobId : String) (job : EmailJob) : Db :=
  if db.emailQueue.any (·.jobId = jobId) then db
  else { db with emailQueue := db.emailQueue ++ [⟨jobId, job⟩] }

/-- What a step resolves to. -/
structure Targets where
  channelIds : List ChannelId := []
  responders : List ResponderRef := []
deriving DecidableEq, Repr

/-- A user targeted twice in a step is one person. -/
def Targets.addResponder (t : Targets) (ref : ResponderRef) : Targets :=
  if t.responders.any (·.userId = ref.userId) then t
  else { t with responders := t.responders ++ [ref] }

/-- Whoever is on call, as a responder. -/
def Targets.addOnCall (t : Targets) : Option OnCallResult → Targets
  | some ⟨some userId, secondaryUserId, source⟩ =>
      t.addResponder ⟨userId, "schedule:" ++ source.label, secondaryUserId⟩
  | _ => t

/-- Resolve the targets of a step, from the `n`-th on. -/
def resolveTargets (deps : Deps) (faults : Faults) (now : Instant) :
    Nat → List TargetRow → Targets → Work Targets
  | _, [], found => pure found
  | n, target :: rest, found =>
      match target.type, target.channelId, target.userId, target.scheduleId with
      | .channel, some channelId, _, _ =>
          resolveTargets deps faults now (n + 1) rest
            { found with channelIds := found.channelIds ++ [channelId] }
      | .user, _, some userId, _ =>
          resolveTargets deps faults now (n + 1) rest (found.addResponder ⟨userId, "user", none⟩)
      | .schedule, _, _, some scheduleId => do
          let onCall ← faults.read (.schedule n) fun db =>
            whoIsOnCall deps.tzOffsetMs db.schedules scheduleId now
          resolveTargets deps faults now (n + 1) rest (found.addOnCall onCall)
      | _, _, _, _ => resolveTargets deps faults now (n + 1) rest found

/-- Who was paged, and who was not. -/
structure Paged where
  pagedUserIds : List UserId := []
  failed : List FailedPage := []
deriving DecidableEq, Repr

/-- `slice(0, 200)` -/
def clip (message : String) : String := String.ofList (message.toList.take 200)

/-- Page the responders, each for himself. -/
def pageEach (faults : Faults) (webUrl : String) (ctx : StepContext) (step : Int)
    (users : List UserRow) : List ResponderRef → Paged → Work Paged
  | [], done => pure done
  | ref :: rest, done => do
      match users.find? fun u => u.id = ref.userId && !u.email.isEmpty with
      | none =>
          pageEach faults webUrl ctx step users rest
            { done with
              failed := done.failed ++ [⟨ref.userId, "user not found or has no email"⟩] }
      | some user => do
          let outcome ← Eff.rescue
            ((fun _ => none) <$> faults.write (.page user.id) (·.enqueueEmail
              (pageId ctx.incidentId step user.id) (pageEmail webUrl ctx user)))
            fun message => pure (some (clip message))
          pageEach faults webUrl ctx step users rest (match outcome with
            | none => { done with pagedUserIds := done.pagedUserIds ++ [user.id] }
            | some reason => { done with failed := done.failed ++ [⟨ref.userId, reason⟩] })

/-- Page the humans. -/
def pageResponders (deps : Deps) (faults : Faults) (ctx : StepContext) (step : Int)
    (responders : List ResponderRef) : Work Paged :=
  if responders.isEmpty then pure {}
  else
    match deps.responders with
    | none =>
        pure { failed := responders.map fun r => ⟨r.userId, "no responder notifier configured"⟩ }
    | some webUrl => do
        let users ← faults.read .users fun db =>
          db.users.filter fun u => responders.any (·.userId = u.id)
        pageEach faults webUrl ctx step users responders {}

/-! ## channels -/

/-- The channel belongs to the org and is live. -/
def Db.channelLive (db : Db) (organizationId : OrganizationId) (channelId : ChannelId) : Bool :=
  db.alertChannels.any fun c =>
    c.id = channelId && c.organizationId = organizationId && c.enabled && c.deletedAt.isNone

/-- Record one PENDING delivery and return its id. -/
def createDelivery (faults : Faults) (ctx : StepContext) (n : Nat) (channelId : ChannelId) :
    Work DeliveryId :=
  .statement (faults (.delivery n)).isSome ((faults (.delivery n)).getD "") fun db =>
    let id := freshId NotificationDelivery.id db.notificationDeliveries
    (.ok id, { db with
      notificationDeliveries := db.notificationDeliveries ++
        [{ id, organizationId := ctx.organizationId, channelId, incidentId := ctx.incidentId }] })

def alertJob (ctx : StepContext) (channelId : ChannelId) (deliveryId : DeliveryId) : AlertJobData :=
  { deliveryId, incidentId := ctx.incidentId, channelId, organizationId := ctx.organizationId
    kind := .opened }

/-- `dispatchToChannels`, from the `n`-th channel on. -/
def dispatchToChannels (faults : Faults) (ctx : StepContext) : Nat → List ChannelId → Work Nat
  | _, [] => pure 0
  | n, channelId :: rest => do
      if ← faults.read (.channel n) (·.channelLive ctx.organizationId channelId) then
        let deliveryId ← createDelivery faults ctx n channelId
        faults.write (.alertJob n) fun db =>
          { db with alertQueue := db.alertQueue ++ [alertJob ctx channelId deliveryId] }
        let enqueued ← dispatchToChannels faults ctx (n + 1) rest
        pure (enqueued + 1)
      else dispatchToChannels faults ctx (n + 1) rest

/-! ## a step -/

structure StepResult where
  responders : List UserId
  respondersPaged : Nat
  respondersFailed : Nat
  channelsPaged : Nat
deriving DecidableEq, Repr

/-- The line an operator reads. -/
def stepMessage (step : Int) (paged : Paged) (channelsPaged : Nat) : String :=
  let failureNote :=
    if paged.failed.isEmpty then "" else ", " ++ toString paged.failed.length ++ " page(s) failed"
  "Escalation step " ++ toString step ++ ": paged " ++ toString paged.pagedUserIds.length ++
    " responder(s) and " ++ toString channelsPaged ++ " channel(s)" ++ failureNote ++ "."

def stepEvent (ctx : StepContext) (now : Instant) (message : String) (metadata : StepMetadata) :
    TimelineEvent where
  incidentId := ctx.incidentId
  type := .escalated
  message := some message
  createdAt := now
  escalation := some metadata

def stepAudit (ctx : StepContext) (metadata : StepMetadata) : AuditEntry where
  organizationId := ctx.organizationId
  actorType := "system"
  action := "incident.escalated"
  resourceType := "incident"
  resourceId := toString ctx.incidentId
  metadata := some metadata

/-- Resolve a step's targets and contact them. -/
def executeStep (deps : Deps) (faults : Faults) (ctx : StepContext) (step : StepRow)
    (now : Instant) : Work StepResult := do
  let targets ← resolveTargets deps faults now 0 step.targets {}
  let paged ← pageResponders deps faults ctx step.position targets.responders
  let channelsPaged ← dispatchToChannels faults ctx 0 targets.channelIds
  let metadata : StepMetadata :=
    { step := step.position, responders := targets.responders, channelIds := targets.channelIds
      pagedUserIds := paged.pagedUserIds, failedPages := paged.failed }
  faults.write .event fun db =>
    { db with
      incidentEvents := db.incidentEvents ++
        [stepEvent ctx now (stepMessage step.position paged channelsPaged) metadata] }
  faults.write .audit fun db => { db with auditLogs := db.auditLogs ++ [stepAudit ctx metadata] }
  pure {
    responders := targets.responders.map (·.userId)
    respondersPaged := paged.pagedUserIds.length
    respondersFailed := paged.failed.length
    channelsPaged }

/-! ## a job -/

inductive Skipped where
  | noIncident | stopped | noPolicy | exhausted
deriving DecidableEq, Repr

/-- How a job that did not fail ended. -/
inductive JobResult where
  | skipped (reason : Skipped)
  | repeated (round : Nat)
  | fired (step : Int) (result : StepResult) (scheduledNext : Bool)
deriving DecidableEq, Repr

def Db.incidentOf (db : Db) (id : IncidentId) : Option Incident :=
  db.incidents.find? (·.id = id)

/-- The steps of a policy, in order of their positions. -/
def Db.stepsOf (db : Db) (policyId : PolicyId) : List StepRow :=
  (db.escalationSteps.filter (·.policyId = policyId)).insertionSort
    fun a b => a.position ≤ b.position

/-- A policy as a job reads it. -/
structure LoadedPolicy where
  repeatCount : Nat
  steps : List StepRow
deriving DecidableEq, Repr

/-- The live policy, with its steps. -/
def Db.loadPolicy (db : Db) (policyId : PolicyId) : Option LoadedPolicy :=
  (db.policies.find? fun p => p.id = policyId && p.deletedAt.isNone).map fun p =>
    ⟨p.repeatCount, db.stepsOf policyId⟩

def Db.contextOf (db : Db) (job : EscalationJobData) (incident : Incident) : StepContext where
  incidentId := job.incidentId
  organizationId := job.organizationId
  title := incident.title
  summary := incident.summary
  severity := incident.severity
  monitorName := (db.monitors.find? (·.id = incident.monitorId)).map (·.name)

def enqueue (faults : Faults) (job : EscalationJobData) : Work Unit :=
  faults.write .successor fun db => { db with escalationQueue := db.escalationQueue ++ [job] }

/-- `createEscalationStarter`: enqueue the first step, if the policy has one. -/
def escalationStarter (faults : Faults) (ctx : EscalationContext) : Work Bool := do
  match ← faults.read .policy fun db => (db.stepsOf ctx.policyId).head? with
  | none => pure false
  | some first => do
      enqueue faults
        { incidentId := ctx.incidentId, organizationId := ctx.organizationId
          monitorId := ctx.monitorId, policyId := ctx.policyId
          stepIndex := 0, round := 0, delay := minutesToMs first.delayMinutes }
      pure true

/-- The job of the same chain at another step, after that step's delay. -/
def jobAt (job : EscalationJobData) (stepIndex round : Nat) (step : StepRow) : EscalationJobData :=
  { job with stepIndex, round, delay := minutesToMs step.delayMinutes }

/-- `createEscalationProcessor`: each job fires one step. -/
def escalationProcessor (deps : Deps) (faults : Faults) (now : Instant) (job : EscalationJobData) :
    Work JobResult := do
  let found ← faults.read .incident fun db =>
    (db.incidentOf job.incidentId).map fun i => (i.status, db.contextOf job i)
  match found with
  | none => pure (.skipped .noIncident)
  | some (status, ctx) =>
      if status ≠ .open then pure (.skipped .stopped)
      else
        match ← faults.read .policy (·.loadPolicy job.policyId) with
        | none | some ⟨_, []⟩ => pure (.skipped .noPolicy)
        | some ⟨repeatCount, first :: later⟩ =>
            let steps := first :: later
            match steps[job.stepIndex]? with
            | none =>
                -- past the last step: repeat the whole policy if rounds remain
                if job.round < repeatCount then do
                  enqueue faults (jobAt job 0 (job.round + 1) first)
                  pure (.repeated (job.round + 1))
                else pure (.skipped .exhausted)
            | some step => do
                let fired ← executeStep deps faults ctx step now
                match steps[job.stepIndex + 1]? with
                | some next => do
                    enqueue faults (jobAt job (job.stepIndex + 1) job.round next)
                    pure (.fired step.position fired true)
                | none =>
                    if job.round < repeatCount then do
                      enqueue faults (jobAt job 0 (job.round + 1) first)
                      pure (.fired step.position fired true)
                    else pure (.fired step.position fired false)

end UptimeFlow.Escalation
