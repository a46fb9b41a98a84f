import Mathlib.Data.Char
import Mathlib.Data.List.Lex
import UptimeFlow.Alerting.Processor
import UptimeFlow.Handlers
import UptimeFlow.Integrations.Processor
import UptimeFlow.Js
import UptimeFlow.Shared.Pagination

/-!
# UptimeFlow.Alerting.Channels

The requests that keep alert channels and the integrations behind them.

A channel of an integration-backed type stores `{ integrationId }` and no
credential; the credential is a column of the integration's row.  One function
looks it up, for the organization of the channel: `resolve`, which the write
path calls to validate a config and the transport to send.

A request is a `Handler`: each query is a statement of its own, and the
requests of all organizations are served side by side.
-/

namespace UptimeFlow.Alerting

open Tables
open Monitoring (Instant OrganizationId MonitorId)
open Integrations (DeliveryResult)

/-! ## identifiers -/

/-- `UUID_RE` -/
def uuidRe (cs : List Char) : Bool :=
  (Js.split ['-'] cs).map List.length == [8, 4, 4, 4, 12] &&
    cs.all fun c => c == '-' || c.isDigit || ('a' ≤ c && c ≤ 'f') || ('A' ≤ c && c ≤ 'F')

/-- A value of a `uuid` column, by its text in lower case. -/
structure Uuid where
  text : List Char
  canonical : uuidRe text = true ∧ text.map Char.toLower = text
deriving DecidableEq

/-- The value a text stands for in a query. -/
def Uuid.read (cs : List Char) : Option Uuid :=
  let text := cs.map Char.toLower
  if h : uuidRe text = true ∧ text.map Char.toLower = text then some ⟨text, h⟩ else none

theorem Uuid.read_text (u : Uuid) : Uuid.read u.text = some u := by
  obtain ⟨text, hre, hlower⟩ := u
  simp [Uuid.read, hlower, hre]

instance : LinearOrder Uuid :=
  LinearOrder.lift' Uuid.text fun a b h => by
    cases a
    cases b
    simpa using h

/-! ## rows -/

/-- The providers whose integrations alert channels can point at; each has its own table. -/
inductive Provider where
  | slack | discord | telegram | microsoftTeams
deriving DecidableEq, Repr

def Provider.label : Provider → String
  | .slack => "Slack"
  | .discord => "Discord"
  | .telegram => "Telegram"
  | .microsoftTeams => "Microsoft Teams"

/-- `resourceLabel`, in front of the actions of its audit entries. -/
def Provider.resourceLabel : Provider → String
  | .slack => "slack_integration"
  | .discord => "discord_integration"
  | .telegram => "telegram_integration"
  | .microsoftTeams => "ms_teams_integration"

/-- What a provider is addressed with. -/
inductive Credential where
  | webhookUrl (url : String)
  | bot (botToken chatId : String)
deriving DecidableEq, Repr

structure IntegrationRow where
  provider : Provider
  id : Uuid
  organizationId : OrganizationId
  name : String
  credential : Credential
  enabled : Bool := true
  createdAt : Instant
  updatedAt : Instant
  deletedAt : Option Instant := none
deriving DecidableEq

structure ChannelRow where
  id : Uuid
  organizationId : OrganizationId
  type : AlertChannelType
  name : String
  config : Json
  enabled : Bool := true
  verifiedAt : Option Instant := none
  createdAt : Instant
  updatedAt : Instant
  deletedAt : Option Instant := none
deriving DecidableEq

/-- A monitor's alerts go to a channel. -/
structure MonitorChannel where
  monitorId : MonitorId
  channelId : Uuid
deriving DecidableEq

inductive ActorType where
  | user | apiKey
deriving DecidableEq, Repr

structure Actor where
  userId : Option String := none
  actorType : ActorType := .user
deriving DecidableEq, Repr

/-- An entry of the audit log; all of these name the resource `alertChannel`. -/
structure AuditEntry where
  organizationId : OrganizationId
  actor : Actor
  action : String
  resourceId : Uuid
deriving DecidableEq

/-- The message of a test button. -/
structure TestEvent where
  title : String
  summary : String
  timestamp : Instant
deriving DecidableEq, Repr

/-- A message handed to a provider for a channel, and whether the provider took it. -/
structure ProviderCall where
  organizationId : OrganizationId
  channelId : Uuid
  provider : Provider
  credential : Credential
  event : TestEvent
  ok : Bool
deriving DecidableEq

inductive Capability where
  | sms | voice
deriving DecidableEq, Repr

/-- `CAPABILITY_LABEL` -/
def Capability.label : Capability → String
  | .sms => "SMS alerts"
  | .voice => "voice calls"

/-- What the plan of an organization says of the gated channel types. -/
structure EffectiveLimits where
  planName : String
  smsEnabled : Bool
  voiceEnabled : Bool
deriving DecidableEq, Repr

structure ChannelDb where
  integrations : List IntegrationRow := []
  alertChannels : List ChannelRow := []
  monitorChannels : List MonitorChannel := []
  auditLogs : List AuditEntry := []
  limits : OrganizationId → EffectiveLimits
  /-- The provider calls made so far. -/
  calls : List ProviderCall := []

/-! ## answers -/

inductive ErrorCode where
  | badRequest | validationFailed | paymentRequired
deriving DecidableEq, Repr

inductive ServiceError where
  | app (code : ErrorCode) (message : String)
  | listing (failure : Shared.Failure)
  | uniqueConstraint
deriving DecidableEq, Repr

abbrev Served := Handler ChannelDb ServiceError

/-- A text as the UTF-16 code units it is sliced by. -/
def codeUnits (s : String) : List Nat :=
  s.toList.flatMap fun c =>
    if c.toNat < 0x10000 then [c.toNat]
    else [0xD800 + (c.toNat - 0x10000) / 0x400, 0xDC00 + (c.toNat - 0x10000) % 0x400]

/-- `maskSecret`, in code units. -/
def maskSecret (value : String) : Option (List Nat) :=
  let units := codeUnits value
  if units.isEmpty then none
  else if units.length ≤ 8 then some (codeUnits "••••")
  else some (codeUnits "••••" ++ units.drop (units.length - 6))

/-- What is shown of a credential. -/
inductive Preview where
  | webhookUrl (shown : Option (List Nat))
  | bot (shown : Option (List Nat)) (chatId : String)
deriving DecidableEq, Repr

def Credential.preview : Credential → Preview
  | .webhookUrl url => .webhookUrl (maskSecret url)
  | .bot botToken chatId => .bot (maskSecret botToken) chatId

structure IntegrationSummary where
  id : Uuid
  name : String
  preview : Preview
  enabled : Bool
  createdAt : Instant
  updatedAt : Instant
deriving DecidableEq

/-- `toSummary` -/
def IntegrationRow.toSummary (row : IntegrationRow) : IntegrationSummary where
  id := row.id
  name := row.name
  preview := row.credential.preview
  enabled := row.enabled
  createdAt := row.createdAt
  updatedAt := row.updatedAt

structure AlertChannelItem where
  id : Uuid
  type : AlertChannelType
  name : String
  config : Json
  enabled : Bool
  verifiedAt : Option Instant
  createdAt : Instant
  updatedAt : Instant
deriving DecidableEq

structure AlertChannelDetail extends AlertChannelItem where
  boundMonitorIds : List MonitorId
deriving DecidableEq

def ChannelRow.toItem (row : ChannelRow) : AlertChannelItem where
  id := row.id
  type := row.type
  name := row.name
  config := row.config
  enabled := row.enabled
  verifiedAt := row.verifiedAt
  createdAt := row.createdAt
  updatedAt := row.updatedAt

inductive Answer where
  | integrations (page : Shared.Page IntegrationSummary)
  | integration (summary : Option IntegrationSummary)
  | channels (page : Shared.Page AlertChannelItem)
  | channel (detail : Option AlertChannelDetail)
  | removed (done : Bool)
  /-- The test message was taken, or there is no such channel. -/
  | tested (verifiedAt : Option Instant)
deriving DecidableEq

/-! ## resolving a channel's integration -/

/-- Shape-check a channel config. -/
def parseSlackChannelConfig (config : Json) : Except String (List Char) :=
  match config.get "integrationId" with
  | .str integrationId =>
      if (Js.trim integrationId.toList).isEmpty then
        .error "Slack channel config must include an integrationId."
      else if !uuidRe integrationId.toList then
        .error "Slack channel config integrationId is not a valid id."
      else .ok integrationId.toList
  | _ => .error "Slack channel config must include an integrationId."

/-- A row of the provider's table that has not been removed, of the organization. -/
def ChannelDb.findIntegration (db : ChannelDb) (p : Provider) (organizationId : OrganizationId)
    (id : Option Uuid) : Option IntegrationRow :=
  db.integrations.find? fun r =>
    r.provider = p && some r.id = id && r.organizationId = organizationId && r.deletedAt.isNone

/-- Resolve a channel's `{ integrationId }` config to the credential of its integration. -/
def resolveIntegration (p : Provider) (db : ChannelDb) (organizationId : OrganizationId)
    (config : Json) : Except String Credential :=
  match parseSlackChannelConfig config with
  | .error message => .error message
  | .ok integrationId =>
      match db.findIntegration p organizationId (Uuid.read integrationId) with
      | none => .error ("The " ++ p.label ++ " integration for this channel no longer exists.")
      | some row => .ok row.credential

def resolveSlackWebhookUrl := resolveIntegration .slack

def resolveDiscordWebhookUrl := resolveIntegration .discord

def resolveTelegramCredentials := resolveIntegration .telegram

def resolveMsTeamsWebhookUrl := resolveIntegration .microsoftTeams

/-- The resolver of a provider, the same one on the write path and in the transport. -/
def Provider.resolve : Provider → ChannelDb → OrganizationId → Json → Except String Credential
  | .slack => resolveSlackWebhookUrl
  | .discord => resolveDiscordWebhookUrl
  | .telegram => resolveTelegramCredentials
  | .microsoftTeams => resolveMsTeamsWebhookUrl

theorem Provider.resolve_eq (p : Provider) : p.resolve = resolveIntegration p := by cases p <;> rfl

/-- `INTEGRATION_CHANNELS` -/
def integrationChannels : AlertChannelType → Option Provider
  | .slack => some .slack
  | .discord => some .discord
  | .telegram => some .telegram
  | .microsoftTeams => some .microsoftTeams
  | _ => none

/-- `GATED_TYPES` -/
def gatedTypes : AlertChannelType → Option Capability
  | .sms => some .sms
  | .voice => some .voice
  | _ => none

/-! ## the statements -/

/-- What a request comes with: who asks, when, and whether its audit entry gets through. -/
structure Caller where
  organizationId : OrganizationId
  actor : Actor := {}
  now : Instant
  audited : Bool := true
deriving DecidableEq, Repr

/-- `auditLogs.log` never throws: an entry that cannot be written is lost. -/
def Caller.log (c : Caller) (action : String) (resourceId : Uuid) : Served Unit :=
  .write fun db =>
    if c.audited then
      { db with auditLogs := db.auditLogs ++ [⟨c.organizationId, c.actor, action, resourceId⟩] }
    else db

def EffectiveLimits.includes (limits : EffectiveLimits) : Capability → Bool
  | .sms => limits.smsEnabled
  | .voice => limits.voiceEnabled

def assertCapability (organizationId : OrganizationId) (capability : Capability) : Served Unit := do
  let limits ← .read fun db => db.limits organizationId
  .onlyIf (!limits.includes capability) (.raise (.app .paymentRequired (capability.label ++
    " is not included in your " ++ limits.planName ++ " plan. Upgrade to enable it.")))

/-- The capability a channel type requires, if any. -/
def assertGate (organizationId : OrganizationId) (type : AlertChannelType) : Served Unit :=
  match gatedTypes type with
  | none => pure ()
  | some capability => assertCapability organizationId capability

/-- Validate provider-specific config before it is persisted. -/
def assertValidConfig (organizationId : OrganizationId) (type : AlertChannelType)
    (config : Json) : Served Unit :=
  match integrationChannels type with
  | none => pure ()
  | some p => do
      match ← .read fun db => p.resolve db organizationId config with
      | .error message => .raise (.app .validationFailed message)
      | .ok _ => pure ()

/-- `findFirst({ id, organizationId, deletedAt: null })` -/
def ChannelDb.findChannel (db : ChannelDb) (organizationId : OrganizationId) (id : Uuid) :
    Option ChannelRow :=
  db.alertChannels.find? fun r =>
    r.id = id && r.organizationId = organizationId && r.deletedAt.isNone

def ChannelDb.toDetail (db : ChannelDb) (row : ChannelRow) : AlertChannelDetail where
  toAlertChannelItem := row.toItem
  boundMonitorIds := (db.monitorChannels.filter (·.channelId = row.id)).map (·.monitorId)

def loadDetail (organizationId : OrganizationId) (id : Uuid) :
    Served (Option AlertChannelDetail) :=
  .read fun db => (db.findChannel organizationId id).map db.toDetail

/-- `alertChannel.update({ where: { id } })` -/
def ChannelDb.updateChannel (db : ChannelDb) (id : Uuid) (f : ChannelRow → ChannelRow) :
    ChannelDb :=
  { db with alertChannels := updateWhere (·.id = id) f db.alertChannels }

/-- `alertChannel.updateMany`, of the deletion. -/
def ChannelDb.removeChannel (db : ChannelDb) (organizationId : OrganizationId) (id : Uuid)
    (now : Instant) : ChannelDb :=
  { db with
    alertChannels := updateWhere
      (fun r => r.id = id && r.organizationId = organizationId && r.deletedAt.isNone)
      (fun r => { r with deletedAt := some now, updatedAt := now }) db.alertChannels }

def ChannelDb.addIntegration (db : ChannelDb) (row : IntegrationRow) : ChannelDb :=
  { db with integrations := db.integrations ++ [row] }

def ChannelDb.addChannel (db : ChannelDb) (row : ChannelRow) : ChannelDb :=
  { db with alertChannels := db.alertChannels ++ [row] }

/-- `update({ where: { id } })` on a provider's table. -/
def ChannelDb.updateIntegration (db : ChannelDb) (p : Provider) (id : Uuid)
    (f : IntegrationRow → IntegrationRow) : ChannelDb :=
  { db with integrations := updateWhere (fun r => r.provider = p && r.id = id) f db.integrations }

/-! ## integrations -/

def uuidText : Shared.IdText Uuid where
  write := Uuid.text
  read := Uuid.read
  read_write := Uuid.read_text
  write_ne_nil u h := by
    have hre := u.canonical.1
    rw [h] at hre
    revert hre
    decide

def integrationColumns : Shared.Columns IntegrationRow Uuid :=
  { uuidText with id := IntegrationRow.id, createdAt := IntegrationRow.createdAt }

/-- The fields a create or an update carries; a provider reads those of its own credential. -/
structure IntegrationInput where
  name : Option String := none
  webhookUrl : Option String := none
  botToken : Option String := none
  chatId : Option String := none
  enabled : Option Bool := none
deriving DecidableEq, Repr

/-- The part of `updateData` that is the provider's own. -/
def Credential.edited (input : IntegrationInput) : Credential → Credential
  | .webhookUrl url => .webhookUrl (input.webhookUrl.getD url)
  | .bot botToken chatId => .bot (input.botToken.getD botToken) (input.chatId.getD chatId)

/-- `updateData` -/
def IntegrationRow.edited (input : IntegrationInput) (now : Instant) (row : IntegrationRow) :
    IntegrationRow :=
  { row with
    name := input.name.getD row.name
    credential := row.credential.edited input
    enabled := input.enabled.getD row.enabled
    updatedAt := now }

structure CreateIntegration where
  name : String
  credential : Credential
  enabled : Option Bool := none
deriving DecidableEq, Repr

structure ListQuery where
  limit : Nat
  cursor : Option (List Char) := none
deriving DecidableEq, Repr

section
variable (lossy : List UInt8 → List Char) (legacy : List Char → Option Instant) (c : Caller)
  (p : Provider)

def listIntegrations (query : ListQuery) : Served Answer := do
  let after ← .ofExcept ((Shared.whereAfter integrationColumns lossy legacy
    (Shared.afterCursorDesc integrationColumns) query.cursor).mapError .listing)
  .read fun db =>
    let rows := db.integrations.filter fun r =>
      r.provider = p && r.organizationId = c.organizationId && r.deletedAt.isNone && after r
    let page := Shared.buildPage integrationColumns
      ((Shared.orderByDesc integrationColumns rows).take (query.limit + 1)) query.limit
    .integrations ⟨page.items.map IntegrationRow.toSummary, page.nextCursor⟩

def getIntegration (id : Uuid) : Served Answer :=
  .read fun db =>
    .integration ((db.findIntegration p c.organizationId (some id)).map IntegrationRow.toSummary)

/-- `createData`, under an id that must not be in use. -/
def createIntegration (id : Uuid) (input : CreateIntegration) : Served Answer := do
  let row : IntegrationRow :=
    { provider := p, id, organizationId := c.organizationId, name := input.name
      credential := input.credential, enabled := input.enabled.getD true
      createdAt := c.now, updatedAt := c.now }
  .statement fun db =>
    if db.integrations.any fun r => r.provider = p && r.id = id then
      (.error .uniqueConstraint, db)
    else (.ok (), db.addIntegration row)
  c.log (p.resourceLabel ++ ".created") id
  return .integration (some row.toSummary)

def updateIntegration (id : Uuid) (input : IntegrationInput) : Served Answer := do
  match ← .read fun db => db.findIntegration p c.organizationId (some id) with
  | none => return .integration none
  | some _ => do
      let row ← .statement fun db =>
        let db := db.updateIntegration p id (·.edited input c.now)
        (.ok (db.integrations.find? fun r => r.provider = p && r.id = id), db)
      c.log (p.resourceLabel ++ ".updated") id
      return .integration (row.map IntegrationRow.toSummary)

def removeIntegration (id : Uuid) : Served Answer := do
  match ← .read fun db => db.findIntegration p c.organizationId (some id) with
  | none => return .removed false
  | some _ => do
      .write fun db => db.updateIntegration p id fun r =>
        { r with deletedAt := some c.now, updatedAt := c.now }
      c.log (p.resourceLabel ++ ".deleted") id
      return .removed true

/-! ## channels -/

def channelColumns : Shared.Columns ChannelRow Uuid :=
  { uuidText with id := ChannelRow.id, createdAt := ChannelRow.createdAt }

def channelItemColumns : Shared.Columns AlertChannelItem Uuid :=
  { uuidText with id := AlertChannelItem.id, createdAt := AlertChannelItem.createdAt }

structure CreateAlertChannel where
  type : AlertChannelType
  name : String
  config : Json
deriving DecidableEq

structure UpdateAlertChannel where
  type : Option AlertChannelType := none
  name : Option String := none
  config : Option Json := none
deriving DecidableEq

def listChannels (type : Option AlertChannelType) (query : ListQuery) : Served Answer := do
  let after ← .ofExcept ((Shared.whereAfter channelColumns lossy legacy
    (Shared.afterCursorDesc channelColumns) query.cursor).mapError .listing)
  .read fun db =>
    let rows := db.alertChannels.filter fun r =>
      r.organizationId = c.organizationId && r.deletedAt.isNone && type.all (r.type = ·) && after r
    .channels (Shared.buildPage channelItemColumns
      (((Shared.orderByDesc channelColumns rows).take (query.limit + 1)).map ChannelRow.toItem)
      query.limit)

def getChannel (id : Uuid) : Served Answer := .channel <$> loadDetail c.organizationId id

def createChannel (id : Uuid) (input : CreateAlertChannel) : Served Answer := do
  assertGate c.organizationId input.type
  assertValidConfig c.organizationId input.type input.config
  let row : ChannelRow :=
    { id, organizationId := c.organizationId, type := input.type, name := input.name
      config := input.config, createdAt := c.now, updatedAt := c.now }
  let detail ← .statement fun db =>
    if db.alertChannels.any (·.id = id) then (.error .uniqueConstraint, db)
    else (.ok (db.toDetail row), db.addChannel row)
  c.log "alert_channel.created" id
  return .channel (some detail)

def ChannelRow.edited (input : UpdateAlertChannel) (now : Instant) (row : ChannelRow) :
    ChannelRow :=
  { row with
    name := input.name.getD row.name
    type := input.type.getD row.type
    config := input.config.getD row.config
    updatedAt := now }

def updateChannel (id : Uuid) (input : UpdateAlertChannel) : Served Answer := do
  match ← .read fun db => db.findChannel c.organizationId id with
  | none => return .channel none
  | some existing => do
      .onlyIf (input.type.any (· ≠ existing.type))
        (assertGate c.organizationId (input.type.getD existing.type))
      -- the post-update shape: a new type must fit a config written for the old one
      .onlyIf (input.type.isSome || input.config.isSome)
        (assertValidConfig c.organizationId (input.type.getD existing.type)
          (input.config.getD existing.config))
      .write fun db => db.updateChannel id (·.edited input c.now)
      c.log "alert_channel.updated" id
      return .channel (← loadDetail c.organizationId id)

/-- Switch a channel on or off; one that is as asked already is left alone. -/
def setEnabled (enabled : Bool) (action : String) (id : Uuid) : Served Answer := do
  match ← .read fun db => db.findChannel c.organizationId id with
  | none => return .channel none
  | some existing => do
      .onlyIf (existing.enabled ≠ enabled) do
        .write fun db => db.updateChannel id fun r => { r with enabled, updatedAt := c.now }
        c.log action id
      return .channel (← loadDetail c.organizationId id)

def enableChannel := setEnabled c true "alert_channel.enabled"

def disableChannel := setEnabled c false "alert_channel.disabled"

def removeChannel (id : Uuid) : Served Answer := do
  let found ← .statement fun db =>
    (.ok (db.findChannel c.organizationId id).isSome,
      db.removeChannel c.organizationId id c.now)
  if !found then return .removed false
  else do
    c.log "alert_channel.deleted" id
    return .removed true

/-- `TESTABLE_TYPES.join(", ")` -/
def testableTypes : String := "SLACK, DISCORD, TELEGRAM, MICROSOFT_TEAMS"

def testEvent (channel : ChannelRow) (now : Instant) : TestEvent where
  title := "Test alert from " ++ channel.name
  summary := "If you can read this, this channel can page you. No incident was created."
  timestamp := now

/-- Send a real test message, and report what the provider answers: `reply`. -/
def testChannel (id : Uuid) (reply : DeliveryResult) (answeredAt : Instant) : Served Answer := do
  match ← .read fun db => db.findChannel c.organizationId id with
  | none => return .tested none
  | some channel =>
      match integrationChannels channel.type with
      | none => .raise (.app .badRequest (channel.type.label ++
          " channels cannot deliver yet, so there is nothing to test. Only " ++ testableTypes ++
          " channels send real notifications in this build."))
      | some p => do
          match ← .read fun db => p.resolve db c.organizationId channel.config with
          | .error message => .raise (.app .validationFailed message)
          | .ok credential => do
              .write fun db => { db with
                calls := db.calls ++ [⟨c.organizationId, id, p, credential,
                  testEvent channel c.now, reply.ok⟩] }
              .onlyIf (!reply.ok) (.raise (.app .badRequest (p.label ++
                " rejected the test message (HTTP " ++ toString reply.status ++ "): " ++
                reply.error.getD "unknown error")))
              .write fun db => db.updateChannel id fun r =>
                { r with verifiedAt := some answeredAt, updatedAt := answeredAt }
              c.log "alert_channel.tested" id
              return .tested (some answeredAt)

end

/-! ## requests -/

inductive Request where
  | listIntegrations (p : Provider) (query : ListQuery)
  | getIntegration (p : Provider) (id : Uuid)
  | createIntegration (p : Provider) (id : Uuid) (input : CreateIntegration)
  | updateIntegration (p : Provider) (id : Uuid) (input : IntegrationInput)
  | removeIntegration (p : Provider) (id : Uuid)
  | listChannels (type : Option AlertChannelType) (query : ListQuery)
  | getChannel (id : Uuid)
  | createChannel (id : Uuid) (input : CreateAlertChannel)
  | updateChannel (id : Uuid) (input : UpdateAlertChannel)
  | enableChannel (id : Uuid)
  | disableChannel (id : Uuid)
  | removeChannel (id : Uuid)
  | testChannel (id : Uuid) (reply : DeliveryResult) (answeredAt : Instant)
deriving DecidableEq

/-- The handler a request is given to. -/
def serve (lossy : List UInt8 → List Char) (legacy : List Char → Option Instant) (c : Caller) :
    Request → Served Answer
  | .listIntegrations p query => listIntegrations lossy legacy c p query
  | .getIntegration p id => getIntegration c p id
  | .createIntegration p id input => createIntegration c p id input
  | .updateIntegration p id input => updateIntegration c p id input
  | .removeIntegration p id => removeIntegration c p id
  | .listChannels type query => listChannels lossy legacy c type query
  | .getChannel id => getChannel c id
  | .createChannel id input => createChannel c id input
  | .updateChannel id input => updateChannel c id input
  | .enableChannel id => enableChannel c id
  | .disableChannel id => disableChannel c id
  | .removeChannel id => removeChannel c id
  | .testChannel id reply answeredAt => testChannel c id reply answeredAt

/-- A store, and the requests it is asked to serve. -/
def service (lossy : List UInt8 → List Char) (legacy : List Char → Option Instant) {ι : Type}
    (store : ChannelDb) (requests : ι → Caller × Request) :
    Pool ι ChannelDb ServiceError Answer where
  store
  handlers i := serve lossy legacy (requests i).1 (requests i).2

end UptimeFlow.Alerting
