import Mathlib.Data.List.Infix
import UptimeFlow.Monitors.Service

/-!
# UptimeFlow.Monitors.Validations

From a probe's signal to the outcome of a check.

`evaluateValidations` tests a signal against five parts of the monitor's
configuration in turn and lists what is violated; `classifySignal` reads the
status off the list.  A value an assertion compares is a text here, a number
being the text `String` makes of it.  What the language provides (`Number`,
`RegExp`, `JSON.parse` and the case mappings) is a parameter.
-/

namespace UptimeFlow.Monitors

open Monitoring (MonitorType CheckStatus Instant)
open Security (isBlank)

/-! ## the language -/

/-- What the language provides, with `ν` the values JSON is parsed into. -/
structure Host (ν : Type) where
  /-- `JSON.parse`, or `none` where it throws. -/
  parseJson : String → Option ν
  /-- `node != null && typeof node === "object"`. -/
  isObject : ν → Bool
  /-- The property of an object, or `none` where it is undefined. -/
  member : ν → String → Option ν
  /-- A string or number as `String` shows it, anything else that is not null as
  `JSON.stringify` does. -/
  text : ν → Option String
  /-- `Number(a) > Number(b)`. -/
  greater : String → String → Bool
  /-- `new RegExp(pattern).test(text)`, or `none` where the pattern is no expression. -/
  regexTest : String → String → Option Bool
  toLowerCase : String → String
  toUpperCase : String → String

/-- A language without JSON and expressions, for checks that need neither. -/
def plainHost : Host Unit where
  parseJson _ := none
  isObject _ := false
  member _ _ := none
  text _ := none
  greater _ _ := false
  regexTest _ _ := none
  toLowerCase s := s
  toUpperCase s := s

/-- `s.includes(part)`. -/
def includes (s part : String) : Bool := part.toList <:+: s.toList

/-! ## signals and outcomes -/

inductive DnsRecordType where
  | a | aaaa | cname | mx | txt | ns | soa
deriving DecidableEq, Repr

def DnsRecordType.label : DnsRecordType → String
  | .a => "A"
  | .aaaa => "AAAA"
  | .cname => "CNAME"
  | .mx => "MX"
  | .txt => "TXT"
  | .ns => "NS"
  | .soa => "SOA"

/-- A date that is none is `none`, and so is the difference to one. -/
structure CertInfo where
  validTo : Option Instant
  validFrom : Option Instant
  daysUntilExpiry : Option Int
  issuer : Option String
  subject : Option String
deriving DecidableEq, Repr

structure DnsInfo where
  recordType : DnsRecordType
  values : List String
deriving DecidableEq, Repr

structure DomainInfo where
  expiresAt : Option Instant
  daysUntilExpiry : Option Int
  registrar : Option String
  statuses : List String
deriving DecidableEq, Repr

/-- Raw result of a single probe attempt. -/
structure ProbeSignal where
  reachable : Bool
  responseMs : Int
  statusCode : Option Nat := none
  headers : Option Headers := none
  body : Option String := none
  cert : Option CertInfo := none
  dns : Option DnsInfo := none
  domain : Option DomainInfo := none
  errorType : Option String := none
  errorMessage : Option String := none
deriving DecidableEq, Repr

/-- A violation: `error` makes the check DOWN, `warn` makes it DEGRADED. -/
inductive ValidationSeverity where
  | error | warn
deriving DecidableEq, Repr

structure ValidationResult where
  ok : Bool := false
  severity : ValidationSeverity
  code : String
  message : String
deriving DecidableEq, Repr

/-- The outcome of one attempt. -/
structure Outcome where
  status : CheckStatus
  statusCode : Option Nat := none
  responseMs : Int
  cert : Option CertInfo := none
  dns : Option DnsInfo := none
  domain : Option DomainInfo := none
  errorType : Option String := none
  errorMessage : Option String := none
  validations : List ValidationResult := []
deriving DecidableEq, Repr

/-- What a check needs of a monitor, as far as its target and its outcome depend on it. -/
structure MonitorSnapshot where
  type : MonitorType
  url : Option String
  host : Option String
  port : Option Nat
  expectedStatus : Option Nat
  keyword : Option String
  keywordInverted : Bool
  assertions : List AssertionDef
deriving DecidableEq, Repr

/-- Map a row (with assertions) into a snapshot. -/
def toSnapshot (db : Db) (row : MonitorRow) : MonitorSnapshot :=
  { type := row.type
    url := row.url
    host := row.host
    port := row.port
    expectedStatus := row.expectedStatus
    keyword := row.keyword
    keywordInverted := row.keywordInverted
    assertions := db.assertionsOf row.id }

/-! ## custom assertions -/

section
variable {ν : Type} (js : Host ν)

/-- Apply one comparator: whether the assertion holds. -/
def applyComparator (actual : Option String) (comparator : AssertionComparator)
    (expected : String) : Bool :=
  let exist := !isBlank actual
  match comparator with
  | .exist => exist
  | .equals => exist && actual = some expected
  | .notEquals => actual.getD "undefined" ≠ expected
  | .contains => exist && includes (actual.getD "") expected
  | .notContains => !includes (actual.getD "") expected
  | .greaterThan => exist && js.greater (actual.getD "") expected
  | .lessThan => exist && js.greater expected (actual.getD "")
  | .matchesRegex => exist && (js.regexTest expected (actual.getD "")).getD false

/-- Minimal path getter for BODY_JSON assertions (e.g. "data.items.0.id"). -/
def readJsonPath (body : Option String) (path : String) : Option String :=
  if isBlank body then none
  else
    let segments := (Js.split ['.'] path.toList).map String.ofList
    let root := body.bind js.parseJson
    (segments.foldl (fun node segment => node.bind fun n =>
      if js.isObject n then js.member n segment else none) root).bind js.text

/-- `String(days)`, where `none` is not a number. -/
def daysText (days : Option Int) : String := (days.map fun n => toString n).getD "NaN"

/-- The observed value a custom assertion compares against. -/
def resolveActual (a : AssertionDef) (signal : ProbeSignal) : Option String :=
  match a.source with
  | .statusCode => signal.statusCode.map fun n => toString n
  | .responseTime => some (toString signal.responseMs)
  | .header =>
      if isBlank a.property then none
      else signal.headers.bind fun headers =>
        (headers.find? fun h => h.1 = js.toLowerCase (a.property.getD "")).map (·.2)
  | .bodyText => signal.body
  | .bodyJson =>
      if isBlank a.property then none else readJsonPath js signal.body (a.property.getD "")
  | .sslExpiryDays => signal.cert.map fun c => daysText c.daysUntilExpiry
  | .domainExpiryDays => signal.domain.map fun d => daysText d.daysUntilExpiry
  | .dnsRecord => signal.dns.map fun d => ", ".intercalate d.values

/-- Sources whose failed assertions only degrade. -/
def isSoft : AssertionSource → Bool
  | .responseTime | .sslExpiryDays | .domainExpiryDays => true
  | _ => false

def assertionViolations (assertions : List AssertionDef) (signal : ProbeSignal) :
    List ValidationResult :=
  assertions.filterMap fun a =>
    let actual := resolveActual js a signal
    let observed := actual.getD "n/a"
    if applyComparator js actual a.comparator a.expected then none
    else some
      { severity := if isSoft a.source then .warn else .error
        code := s!"assert_{a.source.label.toLower}"
        message := s!"Assertion failed: {a.source.label} {a.comparator.label} {a.expected} " ++
          s!"(actual: {observed})." }

/-! ## validations -/

def defaultSslWarnDays : Int := 14

def defaultDomainWarnDays : Int := 30

/-- Expected HTTP status code. -/
def statusViolations (expectedStatus : Option Nat) (signal : ProbeSignal) :
    List ValidationResult :=
  match expectedStatus, signal.statusCode with
  | some expected, some statusCode =>
      if statusCode ≠ expected then
        [{ severity := .error, code := "status_mismatch"
           message := s!"Expected status {expected}, got {statusCode}." }]
      else []
  | _, _ => []

/-- Keyword presence / absence. -/
def keywordViolations (keyword : Option String) (keywordInverted : Bool) (signal : ProbeSignal) :
    List ValidationResult :=
  if isBlank keyword then []
  else
    let keyword := keyword.getD ""
    let present := includes (signal.body.getD "") keyword
    let satisfied := if keywordInverted then !present else present
    if !satisfied then
      [{ severity := .error, code := "keyword"
         message :=
          if keywordInverted then s!"Forbidden keyword \"{keyword}\" was present."
          else s!"Required keyword \"{keyword}\" was missing." }]
    else []

/-- Expiry of a certificate or registration: past it is an error, near it a warning. -/
def expiryViolations (daysUntilExpiry : Option Int) (warnDays : Int) (kind subject : String) :
    List ValidationResult :=
  match daysUntilExpiry with
  | none => []
  | some days =>
      if days ≤ 0 then
        [{ severity := .error, code := s!"{kind}_expired"
           message := s!"{subject} expired {days.natAbs} day(s) ago." }]
      else if days < warnDays then
        [{ severity := .warn, code := s!"{kind}_expiring"
           message := s!"{subject} expires in {days} day(s)." }]
      else []

/-- SSL expiry, unless an explicit assertion is set. -/
def certViolations (assertions : List AssertionDef) (signal : ProbeSignal) :
    List ValidationResult :=
  match signal.cert with
  | none => []
  | some cert =>
      if assertions.any fun a => a.source = .sslExpiryDays then []
      else expiryViolations cert.daysUntilExpiry defaultSslWarnDays "ssl" "TLS certificate"

/-- Domain registration expiry, unless an explicit assertion is set. -/
def domainViolations (assertions : List AssertionDef) (signal : ProbeSignal) :
    List ValidationResult :=
  match signal.domain with
  | none => []
  | some domain =>
      if assertions.any fun a => a.source = .domainExpiryDays then []
      else expiryViolations domain.daysUntilExpiry defaultDomainWarnDays "domain"
        "Domain registration"

/-- Validate a reachable signal; only the violations are listed. -/
def evaluateValidations (monitor : MonitorSnapshot) (signal : ProbeSignal) :
    List ValidationResult :=
  statusViolations monitor.expectedStatus signal ++
  keywordViolations monitor.keyword monitor.keywordInverted signal ++
  certViolations monitor.assertions signal ++
  domainViolations monitor.assertions signal ++
  assertionViolations js monitor.assertions signal

/-! ## classification -/

/-- Map an unreachable signal's failure bucket to a status. -/
def statusForUnreachable (errorType : Option String) : CheckStatus :=
  if errorType = some "timeout" then .timeout
  else if errorType = some "config" ∨ errorType = some "error" then .error
  else .down

def classifySignal (monitor : MonitorSnapshot) (signal : ProbeSignal) : Outcome :=
  if !signal.reachable then
    { status := statusForUnreachable signal.errorType
      responseMs := signal.responseMs
      errorType := signal.errorType
      errorMessage := signal.errorMessage }
  else
    let validations := evaluateValidations js monitor signal
    let hasError := validations.any fun v => v.severity = .error
    let hasWarn := validations.any fun v => v.severity = .warn
    { status := if hasError then .down else if hasWarn then .degraded else .up
      statusCode := signal.statusCode
      responseMs := signal.responseMs
      cert := signal.cert
      dns := signal.dns
      domain := signal.domain
      errorType := if hasError then some "assert" else none
      errorMessage :=
        if hasError then
          (validations.find? fun v => v.severity = .error).map (·.message)
        else none
      validations }

end

end UptimeFlow.Monitors
