import UptimeFlow.Security.Probes

/-!
# UptimeFlow.Monitors.Schema

Monitor definitions as the API takes them and as the database keeps them.

`createMonitorSchema` and `updateMonitorSchema` differ in what they require,
not in what they check: both hand their optional fields to `fieldsAccepted`.
A field that is absent is `none`; no field can be sent as `null`.  What `new URL`
gives is a parameter.
-/

namespace UptimeFlow.Monitors

open Monitoring (MonitorType ProbeRegion OrganizationId MonitorId ChannelId PolicyId Instant)

/-! ## enumerations -/

inductive HttpMethod where
  | get | head | post | put | patch | delete | options
deriving DecidableEq, Repr

inductive AssertionSource where
  | statusCode | responseTime | header | bodyText | bodyJson | sslExpiryDays | dnsRecord
  | domainExpiryDays
deriving DecidableEq, Repr

/-- The database's spelling of a source, as it shows in texts. -/
def AssertionSource.label : AssertionSource → String
  | .statusCode => "STATUS_CODE"
  | .responseTime => "RESPONSE_TIME"
  | .header => "HEADER"
  | .bodyText => "BODY_TEXT"
  | .bodyJson => "BODY_JSON"
  | .sslExpiryDays => "SSL_EXPIRY_DAYS"
  | .dnsRecord => "DNS_RECORD"
  | .domainExpiryDays => "DOMAIN_EXPIRY_DAYS"

inductive AssertionComparator where
  | equals | notEquals | contains | notContains | greaterThan | lessThan | matchesRegex | exist
deriving DecidableEq, Repr

def AssertionComparator.label : AssertionComparator → String
  | .equals => "EQUALS"
  | .notEquals => "NOT_EQUALS"
  | .contains => "CONTAINS"
  | .notContains => "NOT_CONTAINS"
  | .greaterThan => "GREATER_THAN"
  | .lessThan => "LESS_THAN"
  | .matchesRegex => "MATCHES_REGEX"
  | .exist => "EXISTS"

/-! ## inputs -/

abbrev GroupId := String

/-- A header record, in the order its entries are enumerated. -/
abbrev Headers := List (String × String)

structure AssertionDef where
  source : AssertionSource
  comparator : AssertionComparator
  property : Option String := none
  expected : String
deriving DecidableEq, Repr

/-- The fields no request has to carry. -/
structure MonitorFields where
  groupId : Option GroupId := none
  url : Option String := none
  host : Option String := none
  port : Option Nat := none
  httpMethod : Option HttpMethod := none
  requestHeaders : Option Headers := none
  requestBody : Option String := none
  expectedStatus : Option Nat := none
  keyword : Option String := none
  keywordInverted : Option Bool := none
  followRedirects : Option Bool := none
  verifySsl : Option Bool := none
  intervalSeconds : Option Nat := none
  timeoutSeconds : Option Nat := none
  retries : Option Nat := none
  regions : Option (List ProbeRegion) := none
  failureThreshold : Option Nat := none
  successThreshold : Option Nat := none
  escalationPolicyId : Option PolicyId := none
  /-- Replaced as a whole on an update that carries them, as are the channels. -/
  assertions : Option (List AssertionDef) := none
  channelIds : Option (List ChannelId) := none
deriving DecidableEq, Repr

structure CreateMonitorInput extends MonitorFields where
  name : String
  type : MonitorType
deriving DecidableEq, Repr

structure UpdateMonitorInput extends MonitorFields where
  name : Option String := none
  type : Option MonitorType := none
deriving DecidableEq, Repr

/-! ## schemas -/

/-- `s.trim()`. -/
def trim (s : String) : String := String.ofList (Js.trim s.toList)

/-- `s.length`. -/
def length (s : String) : Nat := Js.length s.toList

def isHexDigit (c : Char) : Bool := c.isDigit || ('a' ≤ c && c ≤ 'f') || ('A' ≤ c && c ≤ 'F')

/-- `z.string().uuid()`. -/
def isUuid (s : String) : Bool :=
  (Js.split ['-'] s.toList).map List.length = [8, 4, 4, 4, 12] &&
    s.toList.all fun c => c = '-' || isHexDigit c

/-- `z.number().int().min(lo).max(hi)`, of an integer that is not negative. -/
def within (lo hi n : Nat) : Bool := lo ≤ n && n ≤ hi

def assertionSchema (a : AssertionDef) : Bool :=
  a.property.all (length · ≤ 200) && length a.expected ≤ 2000

/-- The types the API takes: GRPC has no probe. -/
def supportedType (type : MonitorType) : Bool := type ≠ .grpc

/-- The URL as `new URL` gives it. -/
structure Url extends Security.Url where
  protocol : String
deriving DecidableEq, Repr

section
variable (newUrl : String → Option Url)

def fieldsAccepted (f : MonitorFields) : Bool :=
  f.groupId.all isUuid &&
  f.url.all (fun url => (newUrl url).isSome && length url ≤ 2048) &&
  f.host.all (length · ≤ 253) &&
  f.port.all (within 1 65535) &&
  f.requestHeaders.all (fun headers => headers.all fun h => length h.2 ≤ 1000) &&
  f.requestBody.all (length · ≤ 10000) &&
  f.expectedStatus.all (within 100 599) &&
  f.keyword.all (length · ≤ 1000) &&
  f.intervalSeconds.all (within 30 86400) &&
  f.timeoutSeconds.all (within 1 60) &&
  f.retries.all (within 0 5) &&
  f.failureThreshold.all (within 1 10) &&
  f.successThreshold.all (within 1 10) &&
  f.escalationPolicyId.all isUuid &&
  f.assertions.all (fun as => as.length ≤ 20 && as.all assertionSchema) &&
  f.channelIds.all fun ids => ids.length ≤ 50 && ids.all isUuid

/-- `z.string().trim().min(1).max(200)`. -/
def nameSchema (name : String) : Option String :=
  if 1 ≤ length (trim name) ∧ length (trim name) ≤ 200 then some (trim name) else none

def createMonitorSchema (body : CreateMonitorInput) : Option CreateMonitorInput :=
  (nameSchema body.name).bind fun name =>
    if supportedType body.type && fieldsAccepted newUrl body.toMonitorFields then
      some { body with name }
    else none

def updateMonitorSchema (body : UpdateMonitorInput) : Option UpdateMonitorInput :=
  (match body.name with
    | none => some none
    | some name => (nameSchema name).map some).bind fun name =>
    if body.type.all supportedType && fieldsAccepted newUrl body.toMonitorFields then
      some { body with name }
    else none

end

/-! ## rows -/

/-- A row of `monitors`, as far as it defines the monitor. -/
structure MonitorRow where
  id : MonitorId
  organizationId : OrganizationId
  groupId : Option GroupId
  name : String
  type : MonitorType
  url : Option String
  host : Option String
  port : Option Nat
  httpMethod : Option HttpMethod := some .get
  requestHeaders : Option Headers := none
  requestBody : Option String
  expectedStatus : Option Nat := some 200
  keyword : Option String
  keywordInverted : Bool := false
  followRedirects : Bool := true
  verifySsl : Bool := true
  intervalSeconds : Nat := 60
  timeoutSeconds : Nat := 30
  retries : Nat := 2
  /-- Empty for all regions. -/
  regions : List ProbeRegion := []
  failureThreshold : Nat := 1
  successThreshold : Nat := 1
  escalationPolicyId : Option PolicyId
  createdById : Option String := none
  updatedById : Option String := none
  deletedAt : Option Instant := none
deriving DecidableEq, Repr

structure MonitorAssertion where
  monitorId : MonitorId
  assertion : AssertionDef
deriving DecidableEq, Repr

structure MonitorChannel where
  monitorId : MonitorId
  channelId : ChannelId
deriving DecidableEq, Repr

/-- A row of `monitor_groups`, `escalation_policies` or `alert_channels`, as far as the
guards read it. -/
structure OwnedRow where
  id : String
  organizationId : OrganizationId
  deletedAt : Option Instant := none
deriving DecidableEq, Repr

structure AuditEvent where
  organizationId : OrganizationId
  actorId : Option String
  actorType : String
  action : String
  resourceType : String
  resourceId : String
deriving DecidableEq, Repr

/-- Assertions and channel bindings are listed in the order of their creation. -/
structure Db where
  monitors : List MonitorRow := []
  monitorAssertions : List MonitorAssertion := []
  monitorChannels : List MonitorChannel := []
  monitorGroups : List OwnedRow := []
  escalationPolicies : List OwnedRow := []
  alertChannels : List OwnedRow := []
  auditLogs : List AuditEvent := []
deriving DecidableEq, Repr

end UptimeFlow.Monitors
