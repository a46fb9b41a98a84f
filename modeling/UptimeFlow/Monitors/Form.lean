import UptimeFlow.Monitors.Headers
import UptimeFlow.Monitors.Service

/-!
# UptimeFlow.Monitors.Form

The form of the web application: loading a monitor, validating, and building the
payload.

A form state is texts.  `validateMonitorForm` lists the fields that are wrong,
with what is shown beside them, and `buildMonitorPayload` builds the body of the
request from a state without errors, with the fields of its type.
-/

namespace UptimeFlow.Monitors

open Monitoring (MonitorType ProbeRegion ChannelId)

structure MonitorFormState where
  name : String
  type : MonitorType
  url : String
  host : String
  port : String
  httpMethod : HttpMethod
  expectedStatus : String
  keyword : String
  keywordInverted : Bool
  requestHeaders : String
  intervalSeconds : String
  timeoutSeconds : String
  retries : String
  regions : List ProbeRegion
  failureThreshold : String
  successThreshold : String
  escalationPolicyId : String
  channelIds : List ChannelId
deriving DecidableEq, Repr

/-! ## numbers -/

/-- `String(n)`. -/
def numeral (n : Nat) : String := String.ofList (Js.toString 10 n)

/-- `/^-?\d+$/.test(value)`. -/
def isInteger (value : List Char) : Bool :=
  match value with
  | '-' :: digits => digits ≠ [] && digits.all Char.isDigit
  | digits => digits ≠ [] && digits.all Char.isDigit

/-- `Number(value)` of a text that is an integer but for spaces around it. -/
def number (value : String) : Int :=
  match Js.trim value.toList with
  | '-' :: digits => -(Js.parseDecimal digits : Int)
  | digits => Js.parseDecimal digits

def intInRange (value : String) (min max : Int) : Option Int :=
  if isInteger (Js.trim value.toList) then
    if number value < min ∨ number value > max then none else some (number value)
  else none

/-! ## loading -/

def formStateFromMonitor (m : MonitorDetail) : MonitorFormState :=
  { name := m.name
    type := m.type
    url := m.url.getD ""
    host := m.host.getD ""
    port := (m.port.map numeral).getD ""
    httpMethod := m.httpMethod.getD .get
    expectedStatus := (m.expectedStatus.map numeral).getD ""
    keyword := m.keyword.getD ""
    keywordInverted := m.keywordInverted
    requestHeaders := serializeHeaders m.requestHeaders
    intervalSeconds := numeral m.intervalSeconds
    timeoutSeconds := numeral m.timeoutSeconds
    retries := numeral m.retries
    regions := m.regions
    failureThreshold := numeral m.failureThreshold
    successThreshold := numeral m.successThreshold
    escalationPolicyId := m.escalationPolicyId.getD ""
    channelIds := m.boundChannelIds }

/-! ## fields of a type -/

def typeNeedsUrl : MonitorType → Bool
  | .http | .keyword | .ssl => true
  | _ => false

def typeNeedsHost : MonitorType → Bool
  | .tcp | .port | .ping | .dns | .domain => true
  | _ => false

def typeNeedsPort : MonitorType → Bool
  | .tcp | .port => true
  | _ => false

def typeIsHttp : MonitorType → Bool
  | .http | .keyword => true
  | _ => false

def typeIsKeyword (type : MonitorType) : Bool := type = .keyword

def typeIsHeartbeat (type : MonitorType) : Bool := type = .heartbeat

/-! ## validation -/

/-- The fields an error is shown beside. -/
inductive FormField where
  | name | url | host | port | keyword | expectedStatus | timeoutSeconds | retries
  | intervalSeconds | failureThreshold | successThreshold | requestHeaders
deriving DecidableEq, Repr

abbrev MonitorFormErrors := List (FormField × String)

/-- `!s.trim()`. -/
def isEmpty (s : String) : Bool := trim s = ""

section
variable (newUrl : String → Option Url)

def isValidUrl (value : String) : Bool :=
  match newUrl value with
  | none => false
  | some u => u.protocol = "http:" || u.protocol = "https:"

/-- The error of a field whose text is no number in a range. -/
def checkRange (field : FormField) (value : String) (min max : Int) (message : String) :
    MonitorFormErrors :=
  if intInRange value min max = none then [(field, message)] else []

def validateName (state : MonitorFormState) : MonitorFormErrors :=
  if isEmpty state.name then [(.name, "Name is required.")]
  else if length (trim state.name) > 200 then
    [(.name, "Name must be 200 characters or fewer.")]
  else []

def validateUrl (state : MonitorFormState) : MonitorFormErrors :=
  if typeNeedsUrl state.type then
    if isEmpty state.url then [(.url, "A URL is required for this monitor type.")]
    else if !isValidUrl newUrl (trim state.url) then [(.url, "Enter a valid http(s) URL.")]
    else []
  else []

def validateHost (state : MonitorFormState) : MonitorFormErrors :=
  if typeNeedsHost state.type && isEmpty state.host then
    [(.host, "A host is required for this monitor type.")]
  else []

def validatePort (state : MonitorFormState) : MonitorFormErrors :=
  if typeNeedsPort state.type then
    checkRange .port state.port 1 65535 "Enter a port between 1 and 65535."
  else []

def validateKeyword (state : MonitorFormState) : MonitorFormErrors :=
  if typeIsKeyword state.type && isEmpty state.keyword then
    [(.keyword, "A keyword is required for keyword monitors.")]
  else []

def validateExpectedStatus (state : MonitorFormState) : MonitorFormErrors :=
  if isEmpty state.expectedStatus then []
  else checkRange .expectedStatus state.expectedStatus 100 599
    "Status must be between 100 and 599."

/-- Heartbeat has no outbound probe, so timeout/retries are irrelevant. -/
def validateProbe (state : MonitorFormState) : MonitorFormErrors :=
  if typeIsHeartbeat state.type then []
  else
    checkRange .timeoutSeconds state.timeoutSeconds 1 60
      "Timeout must be between 1 and 60 seconds." ++
    checkRange .retries state.retries 0 5 "Retries must be between 0 and 5."

def validateRequestHeaders (state : MonitorFormState) : MonitorFormErrors :=
  if !isEmpty state.requestHeaders && typeIsHttp state.type then
    match parseHeaders state.requestHeaders with
    | .error error => [(.requestHeaders, error)]
    | .ok _ => []
  else []

def validateMonitorForm (state : MonitorFormState) : MonitorFormErrors :=
  validateName state ++
  validateUrl newUrl state ++
  validateHost state ++
  validatePort state ++
  validateKeyword state ++
  validateExpectedStatus state ++
  validateProbe state ++
  checkRange .intervalSeconds state.intervalSeconds 30 86400
    "Interval must be between 30 and 86400 seconds." ++
  checkRange .failureThreshold state.failureThreshold 1 10
    "Failure threshold must be between 1 and 10." ++
  checkRange .successThreshold state.successThreshold 1 10
    "Success threshold must be between 1 and 10." ++
  validateRequestHeaders state

def isFormValid (errors : MonitorFormErrors) : Bool := errors = []

end

/-! ## payload building -/

/-- Build the API payload from a validated form, with the fields of the selected type. -/
def buildMonitorPayload (state : MonitorFormState) : UpdateMonitorInput :=
  { name := some (trim state.name)
    type := some state.type
    intervalSeconds := some (number state.intervalSeconds).toNat
    failureThreshold := some (number state.failureThreshold).toNat
    successThreshold := some (number state.successThreshold).toNat
    channelIds := some state.channelIds
    url := if typeNeedsUrl state.type then some (trim state.url) else none
    host := if typeNeedsHost state.type then some (trim state.host) else none
    port := if typeNeedsPort state.type then some (number state.port).toNat else none
    httpMethod := if typeIsHttp state.type then some state.httpMethod else none
    expectedStatus :=
      if typeIsHttp state.type && !isEmpty state.expectedStatus then
        some (number state.expectedStatus).toNat
      else none
    requestHeaders :=
      if typeIsHttp state.type then (parseHeaders state.requestHeaders).toOption.join else none
    keyword := if typeIsKeyword state.type then some (trim state.keyword) else none
    keywordInverted := if typeIsKeyword state.type then some state.keywordInverted else none
    timeoutSeconds :=
      if typeIsHeartbeat state.type then none else some (number state.timeoutSeconds).toNat
    retries := if typeIsHeartbeat state.type then none else some (number state.retries).toNat
    regions :=
      if !typeIsHeartbeat state.type && state.regions.length > 0 then some state.regions else none
    escalationPolicyId :=
      if state.escalationPolicyId = "" then none else some state.escalationPolicyId }

end UptimeFlow.Monitors
