import UptimeFlow.Monitoring.Schema

/-!
# UptimeFlow.Monitoring.Dispatch

The three fan-outs of the pipeline: alert channels, org integrations and the
escalation starter.  None of them touches the monitor, its incidents or the
timeline; that is what the `frames_*` lemmas at the end say.
-/

namespace UptimeFlow.Monitoring

open Tables

/-! ## alert channels -/

structure AlertContext where
  incidentId : IncidentId
  organizationId : OrganizationId
  monitorId : MonitorId
  kind : AlertKind
deriving DecidableEq, Repr

/-- The enabled, live channels bound to a monitor. -/
def Db.boundChannels (db : Db) (monitorId : MonitorId) : List ChannelId :=
  (db.monitorChannels.filter fun b =>
    b.monitorId = monitorId && b.channel.enabled && b.channel.deletedAt.isNone).map (·.channel.id)

/-- Record one PENDING delivery and return its id. -/
def createDelivery (faults : Faults) (ctx : AlertContext) (channelId : ChannelId) :
    Pipe DeliveryId :=
  .statement (faults (.delivery channelId)) .unavailable fun db =>
    let id := freshId NotificationDelivery.id db.notificationDeliveries
    (.ok id, { db with
      notificationDeliveries := db.notificationDeliveries ++
        [{ id, organizationId := ctx.organizationId, channelId, incidentId := ctx.incidentId }] })

/-- The send job of a delivery. -/
def alertJob (ctx : AlertContext) (channelId : ChannelId) (deliveryId : DeliveryId) :
    AlertJobData :=
  { deliveryId, incidentId := ctx.incidentId, channelId,
    organizationId := ctx.organizationId, kind := ctx.kind }

/-- The loop of `dispatch`: one delivery row, then one queue job, for each channel. -/
def dispatchEach (faults : Faults) (ctx : AlertContext) : List ChannelId → Pipe Nat
  | [] => pure 0
  | channelId :: rest => do
      let deliveryId ← createDelivery faults ctx channelId
      faults.write (.alertJob channelId) fun db =>
        { db with alertQueue := db.alertQueue ++ [alertJob ctx channelId deliveryId] }
      let enqueued ← dispatchEach faults ctx rest
      pure (enqueued + 1)

/-- Note a dispatcher call. -/
def recordCall (call : DispatchCall) : Pipe Unit :=
  .write false .unavailable fun db => { db with dispatched := db.dispatched ++ [call] }

/-- Fan an incident event out to every alert channel bound to the monitor. -/
def dispatch (faults : Faults) (ctx : AlertContext) : Pipe Nat := do
  recordCall ⟨.alerts, ctx.kind, ctx.incidentId⟩
  let bindings ← Eff.read (·.boundChannels ctx.monitorId)
  dispatchEach faults ctx bindings

/-! ## escalation -/

structure EscalationContext where
  incidentId : IncidentId
  organizationId : OrganizationId
  monitorId : MonitorId
  policyId : PolicyId
deriving DecidableEq, Repr

def minutesToMs (m : Int) : Int := max 0 m * 60000

/-- The step of the policy with the least position. -/
def Db.firstStep (db : Db) (policyId : PolicyId) : Option EscalationStep :=
  findLatest (·.policyId = policyId) (fun s => -s.position) db.escalationSteps

/-- Enqueue the first escalation step, if the policy has one. -/
def startEscalation (faults : Faults) (ctx : EscalationContext) : Pipe Bool := do
  match ← Eff.read (·.firstStep ctx.policyId) with
  | none => pure false
  | some first =>
      faults.write .escalationJob fun db =>
        { db with
          escalationQueue := db.escalationQueue ++
            [{ incidentId := ctx.incidentId, organizationId := ctx.organizationId
               monitorId := ctx.monitorId, policyId := ctx.policyId
               stepIndex := 0, round := 0, delay := minutesToMs first.delayMinutes }] }
      pure true

/-! ## integrations -/

structure IncidentDispatchContext where
  incidentId : IncidentId
  organizationId : OrganizationId
  monitorId : MonitorId
  monitorName : String
  kind : AlertKind
deriving DecidableEq, Repr

/-- The enabled, live integrations of one type. -/
def Db.integrationsOf (db : Db) (organizationId : OrganizationId) (type : IntegrationType) :
    List (IntegrationType × String) :=
  (db.integrations.filter fun r =>
    r.type = type && r.organizationId = organizationId && r.enabled && r.deletedAt.isNone).map
      fun r => (r.type, r.id)

/-- Every enabled, live integration target of the org. -/
def Db.targetsFor (db : Db) (organizationId : OrganizationId) : List (IntegrationType × String) :=
  [.slack, .discord, .webhook, .telegram, .microsoftTeams].flatMap (db.integrationsOf organizationId)

/-- Create the delivery row of one target; the dedupe key rejects a replay. -/
def createIntegrationDelivery (faults : Faults) (organizationId : OrganizationId)
    (eventName dedupeBase : String) (target : IntegrationType × String) : Pipe DeliveryId :=
  .statement (faults (.integrationDelivery target)) .unavailable fun db =>
    let dedupeKey := some (dedupeBase ++ ":" ++ target.1.label ++ ":" ++ target.2)
    if taken IntegrationDelivery.dedupeKey dedupeKey db.integrationDeliveries then
      (.error .uniqueViolation, db)
    else
      let id := freshId IntegrationDelivery.id db.integrationDeliveries
      (.ok id, { db with
        integrationDeliveries := db.integrationDeliveries ++
          [{ id, organizationId, integrationType := target.1, integrationId := target.2
             event := eventName, dedupeKey }] })

/-- The loop of the fan-out: a target whose row cannot be created is skipped. -/
def fanOutEach (faults : Faults) (organizationId : OrganizationId)
    (eventName dedupeBase : String) (event : IntegrationEvent) :
    List (IntegrationType × String) → Pipe Nat
  | [] => pure 0
  | target :: rest => do
      let created ← Eff.rescue
        (some <$> createIntegrationDelivery faults organizationId eventName dedupeBase target)
        fun _ => pure none
      match created with
      | none => fanOutEach faults organizationId eventName dedupeBase event rest
      | some deliveryId => do
          faults.write (.integrationJob target) fun db =>
            { db with
              integrationQueue := db.integrationQueue ++
                [{ deliveryId, integrationType := target.1, integrationId := target.2
                   organizationId, event }] }
          let enqueued ← fanOutEach faults organizationId eventName dedupeBase event rest
          pure (enqueued + 1)

def fanOut (faults : Faults) (organizationId : OrganizationId) (eventName dedupeBase : String)
    (event : IntegrationEvent) : Pipe Nat := do
  let targets ← Eff.read (·.targetsFor organizationId)
  fanOutEach faults organizationId eventName dedupeBase event targets

/-- The provider-agnostic event of an incident transition. -/
def incidentEvent (webUrl : String) (now : Instant) (ctx : IncidentDispatchContext) :
    IntegrationEvent :=
  let opened := ctx.kind = .opened
  { event := if opened then "incident.opened" else "incident.resolved"
    title := if opened then ctx.monitorName ++ " is down" else ctx.monitorName ++ " has recovered"
    monitorName := ctx.monitorName
    status := if opened then "DOWN" else "RESOLVED"
    url := webUrl ++ "/dashboard/incidents/" ++ toString ctx.incidentId
    timestamp := now }

def AlertKind.label : AlertKind → String
  | .opened => "opened"
  | .resolved => "resolved"

def dispatchIncident (faults : Faults) (webUrl : String) (now : Instant)
    (ctx : IncidentDispatchContext) : Pipe Nat := do
  recordCall ⟨.integrations, ctx.kind, ctx.incidentId⟩
  fanOut faults ctx.organizationId ("incident." ++ ctx.kind.label)
    ("incident:" ++ toString ctx.incidentId ++ ":" ++ ctx.kind.label)
    (incidentEvent webUrl now ctx)

/-! ## what the fan-outs leave alone -/

section
variable {τ : Type} {view : Db → τ} (faults : Faults)

theorem frames_write {site : Site} {op : Db → Db} (h : ∀ db, view (op db) = view db) :
    Eff.Frames view (faults.write site op) := Eff.Frames.write h

theorem frames_recordCall (call : DispatchCall)
    (h : ∀ db, view { db with dispatched := db.dispatched ++ [call] } = view db) :
    Eff.Frames view (recordCall call) := Eff.Frames.write h

/-- The alert fan-out writes deliveries and send jobs of its incident, and the call log. -/
theorem frames_dispatch (ctx : AlertContext)
    (hd : ∀ db d, d.incidentId = ctx.incidentId →
      view { db with notificationDeliveries := db.notificationDeliveries ++ [d] } = view db)
    (hj : ∀ db j, j.incidentId = ctx.incidentId →
      view { db with alertQueue := db.alertQueue ++ [j] } = view db)
    (hc : ∀ db calls, view { db with dispatched := calls } = view db) :
    Eff.Frames view (dispatch faults ctx) := by
  have heach : ∀ cs, Eff.Frames view (dispatchEach faults ctx cs) := by
    intro cs
    induction cs with
    | nil => exact .pure _
    | cons c cs ih =>
        refine .bind (.statement fun db => hd db _ rfl) fun _ => ?_
        refine .bind (frames_write faults fun db => hj db _ rfl) fun _ => ?_
        exact .bind ih fun _ => .pure _
  exact .bind (frames_recordCall _ fun db => hc db _) fun _ => .bind (.read _) heach

/-- The escalation starter writes its queue only. -/
theorem frames_startEscalation (ctx : EscalationContext)
    (h : ∀ db jobs, view { db with escalationQueue := jobs } = view db) :
    Eff.Frames view (startEscalation faults ctx) := by
  refine .bind (.read _) fun first => ?_
  cases first with
  | none => exact .pure _
  | some first => exact .bind (frames_write faults fun db => h db _) fun _ => .pure _

/-- The fan-out to the targets writes the integration tables only. -/
theorem frames_fanOut (organizationId : OrganizationId) (eventName dedupeBase : String)
    (event : IntegrationEvent)
    (h : ∀ db deliveries jobs, view { db with
      integrationDeliveries := deliveries, integrationQueue := jobs } = view db) :
    Eff.Frames view (fanOut faults organizationId eventName dedupeBase event) := by
  have hcreate : ∀ t, Eff.Frames view
      (createIntegrationDelivery faults organizationId eventName dedupeBase t) := by
    refine fun t => .statement fun db => ?_
    simp only []
    split
    · rfl
    · exact h db _ db.integrationQueue
  have heach : ∀ ts, Eff.Frames view
      (fanOutEach faults organizationId eventName dedupeBase event ts) := by
    intro ts
    induction ts with
    | nil => exact .pure _
    | cons t ts ih =>
        refine .bind (.rescue (.bind (hcreate t) fun _ => .pure _) fun _ => .pure _)
          fun created => ?_
        cases created with
        | none => exact ih
        | some id =>
            refine .bind (frames_write faults fun db => h db db.integrationDeliveries _) fun _ => ?_
            exact .bind ih fun _ => .pure _
  exact .bind (.read _) heach

/-- An integration dispatch writes the integration tables and the call log only. -/
theorem frames_dispatchIncident (webUrl : String) (now : Instant) (ctx : IncidentDispatchContext)
    (h : ∀ db deliveries jobs calls, view { db with
      integrationDeliveries := deliveries, integrationQueue := jobs, dispatched := calls } = view db) :
    Eff.Frames view (dispatchIncident faults webUrl now ctx) := by
  refine .bind (frames_recordCall _ fun db => h db db.integrationDeliveries db.integrationQueue _)
    fun _ => ?_
  exact frames_fanOut faults _ _ _ _ fun db _ _ => h db _ _ db.dispatched

end

end UptimeFlow.Monitoring
