import UptimeFlow.JsonText
import UptimeFlow.Monitors.Execution
import UptimeFlow.Security.Requests

/-!
# UptimeFlow.Monitors.Expiry

From the expiry of a certificate or registration to the status of a check.

The probes count the whole days to the expiry, and the validations look at that
number only.  It is zero for all of the last day, in which the certificate is
still good, and not a number for a date that is none, which no comparison holds
of.  Outside these two the classification is that of the instant itself
(`classified_iff`).
-/

namespace UptimeFlow.Monitors

open Monitoring (MonitorType CheckStatus Instant)
open Security (isBlank unreachable RequestError)
open JsonText (Value)

def msPerDay : Int := 86400000

/-- `Math.floor((date.getTime() - now.getTime()) / 86_400_000)`. -/
def daysUntil (date : Option Instant) (now : Instant) : Option Int :=
  date.map fun t => (t - now) / msPerDay

/-! ## certificates -/

/-- A field of a distinguished name: `string | string[] | undefined`. -/
inductive NameField where
  | absent
  | one (s : String)
  | many (ss : List String)
deriving DecidableEq, Repr

/-- Normalize a field to a single string. -/
def certName : NameField → Option String
  | .absent => none
  | .one s => some s
  | .many ss => ss.head?

structure DistinguishedName where
  o : NameField := .absent
  cn : NameField := .absent
deriving DecidableEq, Repr

/-- What `getPeerCertificate` tells of a certificate. -/
structure PeerCertificate where
  validTo : Option String
  validFrom : Option String
  issuer : DistinguishedName := {}
  subject : DistinguishedName := {}
deriving DecidableEq, Repr

section
variable (newDate : Value → Option Instant)

/-- `new Date(text)`, where `undefined` is no date either. -/
def dateOf (text : Option String) : Option Instant := text.bind fun s => newDate (.string s.toList)

def extractCert (peer : Option PeerCertificate) (now : Instant) : Option CertInfo :=
  peer.bind fun peer =>
    if isBlank peer.validTo then none
    else
      let validTo := dateOf newDate peer.validTo
      some {
        validTo
        validFrom := dateOf newDate peer.validFrom
        daysUntilExpiry := daysUntil validTo now
        issuer := certName peer.issuer.o <|> certName peer.issuer.cn
        subject := certName peer.subject.cn }

/-- The signal of the SSL probe once the handshake is done. -/
def sslSignal (peer : Option PeerCertificate) (now : Instant) (responseMs : Int) : ProbeSignal :=
  match extractCert newDate peer now with
  | none => unreachable responseMs "tls" "No peer certificate presented."
  | some cert => { reachable := true, responseMs, cert := some cert }

end

/-! ## registrations -/

def typeError (message : String) : RequestError := .node none message

/-- What reading a property of `null` or `undefined` raises. -/
def unreadable (value key : String) : RequestError :=
  typeError s!"Cannot read properties of {value} (reading '{key}')"

/-- Whether a value counts as true; a number does unless its digits are zeros. -/
def truthy : Value → Bool
  | .null => false
  | .bool b => b
  | .number digits => (digits.takeWhile fun c => c ≠ 'e' ∧ c ≠ 'E').any fun c => c.isDigit && c ≠ '0'
  | .string s => !s.isEmpty
  | .array _ | .object _ => true

/-- A value that is a text. -/
def text : Value → Option String
  | .string s => some (String.ofList s)
  | _ => none

def isString (v : Option Value) (s : String) : Bool := (v.bind text) = some s

/-- `events.find((e) => e.eventAction === "expiration")`. -/
def findExpiration : List Value → Except RequestError (Option Value)
  | [] => .ok none
  | .null :: _ => .error (unreadable "null" "eventAction")
  | e :: es =>
      if isString (e.get "eventAction".toList) "expiration" then .ok (some e) else findExpiration es

/-- The expiration event's date. -/
def expiryDate (rdap : Value) : Except RequestError (Option Value) :=
  match rdap.get "events".toList with
  | none | some .null => .ok none
  | some (.array events) =>
      (findExpiration events).map fun event => event.bind (·.get "eventDate".toList)
  | some _ => .error (typeError "rdap.events?.find is not a function")

/-- `e.roles?.includes("registrar")`. -/
def isRegistrar (e : Value) : Except RequestError Bool :=
  match e.get "roles".toList with
  | none | some .null => .ok false
  | some (.array roles) => .ok (roles.any fun r => isString (some r) "registrar")
  | some (.string roles) => .ok (includes (String.ofList roles) "registrar")
  | some _ => .error (typeError "e.roles?.includes is not a function")

def findRegistrar : List Value → Except RequestError (Option Value)
  | [] => .ok none
  | .null :: _ => .error (unreadable "null" "roles")
  | e :: es => do
      if ← isRegistrar e then return some e
      findRegistrar es

/-- The name in a vCard: `["vcard", [["version", {}, "text", "4.0"], ["fn", {}, "text", "Name"]]]`. -/
def fullName : Value → Option (Option Value)
  | .array (_ :: .array fields :: _) =>
      (fields.find? fun
        | .array (name :: _) => isString (some name) "fn"
        | _ => false).map fun
        | .array field => field[3]?
        | _ => none
  | _ => none

def extractRegistrar (rdap : Value) : Except RequestError (Option String) :=
  match rdap.get "entities".toList with
  | none | some .null => .ok none
  | some (.array entities) => do
      match ← findRegistrar entities with
      | none => return none
      | some e =>
          match (e.get "vcardArray".toList).bind fullName with
          | some name => return name.bind text
          | none => return (e.get "handle".toList).bind text
  | some _ => .error (typeError "rdap.entities?.find is not a function")

/-- `rdap.status ?? []`. -/
def statuses (rdap : Value) : List String :=
  match rdap.get "status".toList with
  | some (.array items) => items.filterMap text
  | _ => []

/-- The signal of the domain probe for a record. -/
def registrationSignal (newDate : Value → Option Instant) (host : String) (rdap : Value)
    (now : Instant) (responseMs : Int) : Except RequestError ProbeSignal := do
  match (← expiryDate rdap).filter truthy with
  | none =>
      return unreachable responseMs "error" s!"RDAP record for \"{host}\" had no expiration date."
  | some eventDate =>
      let registrar ← extractRegistrar rdap
      return {
        reachable := true
        responseMs
        domain := some {
          expiresAt := newDate eventDate
          daysUntilExpiry := daysUntil (newDate eventDate) now
          registrar
          statuses := statuses rdap } }

/-- When a registration expires, as its record says. -/
def expiryOf (newDate : Value → Option Instant) (rdap : Value) : Option Instant :=
  match expiryDate rdap with
  | .ok date => date.bind newDate
  | .error _ => none

/-! ## classes -/

def Expired (expiry : Option Instant) (now : Instant) : Prop := ∃ t, expiry = some t ∧ t ≤ now

/-- In the future, but less than the window away. -/
def Expiring (expiry : Option Instant) (now : Instant) (window : Int) : Prop :=
  ∃ t, expiry = some t ∧ now < t ∧ t < now + window

/-- At least the window away. -/
def Distant (expiry : Option Instant) (now : Instant) (window : Int) : Prop :=
  ∃ t, expiry = some t ∧ now + window ≤ t

/-- The violations of an expiry and the status of its check, where nothing else is violated, are
those of its instant. -/
structure Classified (expiry : Option Instant) (now : Instant) (window : Int)
    (violations others : List ValidationResult) (status : CheckStatus) : Prop where
  error : (∃ v ∈ violations, v.severity = .error) ↔ Expired expiry now
  warn : (∃ v ∈ violations, v.severity = .warn) ↔ Expiring expiry now window
  clean : violations = [] ↔ Distant expiry now window
  down : others = [] → (status = .down ↔ Expired expiry now)
  degraded : others = [] → (status = .degraded ↔ Expiring expiry now window)
  up : others = [] → (status = .up ↔ Distant expiry now window)

/-- A date, and not in the day to come. -/
def Settled (expiry : Option Instant) (now : Instant) : Prop :=
  ∃ t, expiry = some t ∧ (t ≤ now ∨ now + msPerDay ≤ t)

/-! ## days -/

theorem days_le_zero_iff {t now : Int} : (t - now) / msPerDay ≤ 0 ↔ t < now + msPerDay := by
  unfold msPerDay
  omega

theorem days_lt_iff (t now days : Int) :
    (t - now) / msPerDay < days ↔ t < now + days * msPerDay := by
  unfold msPerDay
  omega

/-- Outside the last day there are no days left just if the date is past. -/
theorem days_le_zero_iff_of_settled {t now : Int} (h : t ≤ now ∨ now + msPerDay ≤ t) :
    (t - now) / msPerDay ≤ 0 ↔ t ≤ now := by
  rw [days_le_zero_iff]
  unfold msPerDay at h ⊢
  omega

/-- The list holds an error, or warnings, just if the days say so. -/
theorem mem_expiryViolations (days warnDays : Int) (kind subject : String) :
    ((∃ v ∈ expiryViolations (some days) warnDays kind subject, v.severity = .error) ↔ days ≤ 0) ∧
    ((∃ v ∈ expiryViolations (some days) warnDays kind subject, v.severity = .warn) ↔
      0 < days ∧ days < warnDays) ∧
    (expiryViolations (some days) warnDays kind subject = [] ↔ 0 < days ∧ warnDays ≤ days) := by
  unfold expiryViolations
  dsimp only
  split_ifs with hexpired hexpiring
  · simp [hexpired, not_lt.2 hexpired]
  · simp [hexpired, not_le.1 hexpired, hexpiring]
  · simp [hexpired, not_le.1 hexpired, hexpiring, not_lt.1 hexpiring]

theorem expired_some {t now : Instant} : Expired (some t) now ↔ t ≤ now := by
  simp [Expired]

theorem expiring_some {t now : Instant} {window : Int} :
    Expiring (some t) now window ↔ now < t ∧ t < now + window := by
  simp [Expiring]

theorem distant_some {t now : Instant} {window : Int} :
    Distant (some t) now window ↔ now + window ≤ t := by
  simp [Distant]

/-! ## statuses -/

/-- The status the violations of the expiry call for. -/
structure Calls (violations : List ValidationResult) (status : CheckStatus) : Prop where
  down : status = .down ↔ ∃ v ∈ violations, v.severity = .error
  degraded : status = .degraded ↔
    ¬ (∃ v ∈ violations, v.severity = .error) ∧ ∃ v ∈ violations, v.severity = .warn
  up : status = .up ↔ violations = []

section
variable {ν : Type} (js : Host ν)

/-- The status of a reachable signal is read off the violations. -/
theorem calls_classifySignal (monitor : MonitorSnapshot) {signal : ProbeSignal}
    (hreachable : signal.reachable = true) :
    Calls (evaluateValidations js monitor signal) (classifySignal js monitor signal).status := by
  have hreflects := reflects_classifySignal js monitor signal
  have hstatus := status_of_reachable js monitor hreachable
  constructor
  · rw [hstatus]
    simp only [List.any_eq_true, decide_eq_true_eq]
    split_ifs with herror <;> simp [herror]
  · rw [hstatus]
    simp only [List.any_eq_true, decide_eq_true_eq]
    split_ifs with herror hwarn <;> simp_all
  · rw [hreflects.up]
    simp [hreachable]

end

/-- Outside the last day the days tell what the instant does, and there is no other day they fail
on. -/
theorem classified_iff_settled {expiry : Option Instant} {now : Instant} {warnDays : Int}
    (hpos : 0 < warnDays) (kind subject : String) {others : List ValidationResult}
    {status : CheckStatus} (hcalls : others = [] →
      Calls (expiryViolations (daysUntil expiry now) warnDays kind subject) status) :
    Classified expiry now (warnDays * msPerDay)
      (expiryViolations (daysUntil expiry now) warnDays kind subject) others status ↔
        Settled expiry now := by
  cases expiry with
  | none =>
      constructor
      · intro h
        obtain ⟨t, ht, _⟩ := h.clean.1 rfl
        cases ht
      · rintro ⟨t, ht, _⟩
        cases ht
  | some t =>
      obtain ⟨herror, hwarn, hclean⟩ := mem_expiryViolations ((t - now) / msPerDay) warnDays
        kind subject
      constructor
      · intro h
        refine ⟨t, rfl, ?_⟩
        by_contra hlast
        rw [not_or, not_le, not_le] at hlast
        have hexpired := h.error.1 (herror.2 (days_le_zero_iff.2 hlast.2))
        exact absurd (expired_some.1 hexpired) (not_le.2 hlast.1)
      · rintro ⟨t', ht', hsettled⟩
        cases ht'
        have hdays := days_le_zero_iff_of_settled hsettled
        have hnear := days_lt_iff t now warnDays
        rw [hdays, ← expired_some] at herror
        rw [← not_le, hdays, not_le, hnear, ← expiring_some] at hwarn
        have hwindow : warnDays ≤ (t - now) / msPerDay ↔ now + warnDays * msPerDay ≤ t := by
          rw [← not_lt, hnear, not_lt]
        have hfar : 0 < (t - now) / msPerDay ∧ warnDays ≤ (t - now) / msPerDay ↔
            Distant (some t) now (warnDays * msPerDay) := by
          rw [distant_some, ← hwindow]
          exact and_iff_right_of_imp fun h => lt_of_lt_of_le hpos h
        rw [hfar] at hclean
        have hdegraded : ¬ Expired (some t) now ∧ Expiring (some t) now (warnDays * msPerDay) ↔
            Expiring (some t) now (warnDays * msPerDay) := by
          rw [expired_some, expiring_some, not_le]
          exact and_iff_right_of_imp fun h => h.1
        refine ⟨herror, hwarn, hclean, fun h => ?_, fun h => ?_, fun h => ?_⟩
        · exact (hcalls h).down.trans herror
        · exact (hcalls h).degraded.trans ((and_congr herror.not hwarn).trans hdegraded)
        · exact (hcalls h).up.trans hclean

/-! ## checks -/

section
variable {ν : Type} (js : Host ν) (newDate : Value → Option Instant)

/-- The violations that are not of an expiry. -/
def otherViolations (monitor : MonitorSnapshot) (signal : ProbeSignal) : List ValidationResult :=
  statusViolations monitor.expectedStatus signal ++
  keywordViolations monitor.keyword monitor.keywordInverted signal ++
  assertionViolations js monitor.assertions signal

/-- No expiry assertion of the kind is set. -/
def NoneExplicit (monitor : MonitorSnapshot) (source : AssertionSource) : Prop :=
  ∀ a ∈ monitor.assertions, a.source ≠ source

/-- Where nothing else is violated, the violations of the two expiries are all. -/
theorem evaluateValidations_alone {monitor : MonitorSnapshot} {signal : ProbeSignal}
    (h : otherViolations js monitor signal = []) :
    evaluateValidations js monitor signal =
      certViolations monitor.assertions signal ++ domainViolations monitor.assertions signal := by
  simp only [otherViolations, List.append_eq_nil_iff] at h
  obtain ⟨⟨hstatus, hkeyword⟩, hassertion⟩ := h
  simp [evaluateValidations, hstatus, hkeyword, hassertion]

theorem NoneExplicit.any {monitor : MonitorSnapshot} {source : AssertionSource}
    (h : NoneExplicit monitor source) :
    (monitor.assertions.any fun a => a.source = source) = false := by
  simpa [NoneExplicit] using h

theorem sslSignal_reachable {peer : Option PeerCertificate} {now : Instant} {responseMs : Int}
    (h : (sslSignal newDate peer now responseMs).reachable = true) :
    ∃ cert, cert.daysUntilExpiry = daysUntil (dateOf newDate (peer.bind (·.validTo))) now ∧
      sslSignal newDate peer now responseMs = { reachable := true, responseMs, cert := some cert } := by
  cases peer with
  | none => cases h
  | some peer =>
      by_cases hblank : isBlank peer.validTo = true
      · simp [sslSignal, extractCert, hblank, unreachable] at h
      · simp only [sslSignal, extractCert, Option.bind_some, if_neg hblank]
        exact ⟨_, rfl, rfl⟩

theorem registrationSignal_reachable {host : String} {rdap : Value} {now : Instant}
    {responseMs : Int} {signal : ProbeSignal}
    (hsignal : registrationSignal newDate host rdap now responseMs = .ok signal)
    (h : signal.reachable = true) :
    ∃ domain, domain.daysUntilExpiry = daysUntil (expiryOf newDate rdap) now ∧
      signal = { reachable := true, responseMs, domain := some domain } := by
  unfold registrationSignal at hsignal
  unfold expiryOf
  cases hdate : expiryDate rdap with
  | error e =>
      rw [hdate] at hsignal
      cases hsignal
  | ok date =>
      rw [hdate] at hsignal
      change (match date.filter truthy with
        | none => _
        | some eventDate => _) = _ at hsignal
      cases hfilter : date.filter truthy with
      | none =>
          rw [hfilter] at hsignal
          cases hsignal
          cases h
      | some eventDate =>
          rw [hfilter] at hsignal
          obtain ⟨rfl, _⟩ := Option.filter_eq_some_iff.1 hfilter
          cases hregistrar : extractRegistrar rdap with
          | error e =>
              rw [hregistrar] at hsignal
              cases hsignal
          | ok registrar =>
              rw [hregistrar] at hsignal
              cases hsignal
              exact ⟨_, rfl, rfl⟩

/-- **Expiry**: the classification of a certificate, or of a registration, is that of its instant
just if that is a date and not in the day to come. -/
theorem classified_iff (monitor : MonitorSnapshot) (now : Instant) (responseMs : Int) :
    (∀ peer, (sslSignal newDate peer now responseMs).reachable = true →
      NoneExplicit monitor .sslExpiryDays →
      (Classified (dateOf newDate (peer.bind (·.validTo))) now (defaultSslWarnDays * msPerDay)
        (certViolations monitor.assertions (sslSignal newDate peer now responseMs))
        (otherViolations js monitor (sslSignal newDate peer now responseMs))
        (classifySignal js monitor (sslSignal newDate peer now responseMs)).status ↔
          Settled (dateOf newDate (peer.bind (·.validTo))) now)) ∧
    ∀ host rdap signal, registrationSignal newDate host rdap now responseMs = .ok signal →
      signal.reachable = true → NoneExplicit monitor .domainExpiryDays →
      (Classified (expiryOf newDate rdap) now (defaultDomainWarnDays * msPerDay)
        (domainViolations monitor.assertions signal) (otherViolations js monitor signal)
        (classifySignal js monitor signal).status ↔
          Settled (expiryOf newDate rdap) now) := by
  constructor
  · intro peer hreachable hnone
    obtain ⟨cert, hdays, hsignal⟩ := sslSignal_reachable newDate hreachable
    rw [hsignal]
    have hcert : certViolations monitor.assertions
        { reachable := true, responseMs, cert := some cert } =
        expiryViolations (daysUntil (dateOf newDate (peer.bind (·.validTo))) now)
          defaultSslWarnDays "ssl" "TLS certificate" := by
      simp [certViolations, hnone.any, hdays]
    rw [hcert]
    refine classified_iff_settled (by decide) _ _ fun hothers => ?_
    have hcalls : Calls _ (classifySignal js monitor
        { reachable := true, responseMs, cert := some cert }).status :=
      calls_classifySignal js monitor rfl
    rw [evaluateValidations_alone js hothers, hcert] at hcalls
    simpa [domainViolations] using hcalls
  · intro host rdap signal hsignal hreachable hnone
    obtain ⟨domain, hdays, rfl⟩ := registrationSignal_reachable newDate hsignal hreachable
    have hdomain : domainViolations monitor.assertions
        { reachable := true, responseMs, domain := some domain } =
        expiryViolations (daysUntil (expiryOf newDate rdap) now)
          defaultDomainWarnDays "domain" "Domain registration" := by
      simp [domainViolations, hnone.any, hdays]
    rw [hdomain]
    refine classified_iff_settled (by decide) _ _ fun hothers => ?_
    have hcalls : Calls _ (classifySignal js monitor
        { reachable := true, responseMs, domain := some domain }).status :=
      calls_classifySignal js monitor rfl
    rw [evaluateValidations_alone js hothers, hdomain] at hcalls
    simpa [certViolations] using hcalls

end

/-! ## two dates -/

/-- Dates as hours since the epoch. -/
def hours : Value → Option Instant
  | .string s =>
      if s = "12 h".toList then some 43200000
      else if s = "480 h".toList then some 1728000000
      else none
  | _ => none

/-- A monitor that checks a certificate or a registration and nothing else. -/
def expiryMonitor (type : MonitorType) : MonitorSnapshot where
  type
  url := none
  host := some "x.com"
  port := none
  expectedStatus := none
  keyword := none
  keywordInverted := false
  assertions := []

def peerUntil (s : String) : PeerCertificate where
  validTo := some s
  validFrom := none

def recordUntil (s : String) : Value :=
  .object [("events".toList, .array [.object [("eventAction".toList, .string "expiration".toList),
    ("eventDate".toList, .string s.toList)]])]

/-- The signal of a record that can be read. -/
def registered (newDate : Value → Option Instant) (rdap : Value) (now : Instant) : ProbeSignal where
  reachable := true
  responseMs := 5
  domain := some {
    expiresAt := expiryOf newDate rdap
    daysUntilExpiry := daysUntil (expiryOf newDate rdap) now
    registrar := none
    statuses := [] }

/-- Twenty days ahead a certificate is fine, and a registration about to expire. -/
theorem classified_iff_twenty_days :
    Classified (some 1728000000) 0 (defaultSslWarnDays * msPerDay) [] [] .up ∧
    Classified (some 1728000000) 0 (defaultDomainWarnDays * msPerDay)
      (domainViolations [] (registered hours (recordUntil "480 h") 0)) [] .degraded := by
  have hsettled : Settled (some 1728000000) 0 := ⟨1728000000, rfl, .inr (by decide)⟩
  have hssl := ((classified_iff plainHost hours (expiryMonitor .ssl) 0 5).1
    (some (peerUntil "480 h")) rfl (by simp [NoneExplicit, expiryMonitor])).2 hsettled
  have hdomain := ((classified_iff plainHost hours (expiryMonitor .domain) 0 5).2 "x.com"
    (recordUntil "480 h") (registered hours (recordUntil "480 h") 0) rfl rfl
    (by simp [NoneExplicit, expiryMonitor])).2 hsettled
  exact ⟨hssl, hdomain⟩

/-- Half a day ahead a certificate counts as expired, and a registration whose date is none has
no expiry. -/
theorem not_classified_half_day :
    ((classifySignal plainHost (expiryMonitor .ssl)
        (sslSignal hours (some (peerUntil "12 h")) 0 5)).status = .down ∧
      ¬ Classified (dateOf hours (some "12 h")) 0 (defaultSslWarnDays * msPerDay)
        (certViolations [] (sslSignal hours (some (peerUntil "12 h")) 0 5))
        (otherViolations plainHost (expiryMonitor .ssl)
          (sslSignal hours (some (peerUntil "12 h")) 0 5))
        (classifySignal plainHost (expiryMonitor .ssl)
          (sslSignal hours (some (peerUntil "12 h")) 0 5)).status) ∧
    registrationSignal hours "x.com" (recordUntil "soon") 0 5 =
        .ok (registered hours (recordUntil "soon") 0) ∧
      (classifySignal plainHost (expiryMonitor .domain)
        (registered hours (recordUntil "soon") 0)).status = .up ∧
      ¬ Classified (expiryOf hours (recordUntil "soon")) 0 (defaultDomainWarnDays * msPerDay)
        (domainViolations [] (registered hours (recordUntil "soon") 0))
        (otherViolations plainHost (expiryMonitor .domain)
          (registered hours (recordUntil "soon") 0))
        (classifySignal plainHost (expiryMonitor .domain)
          (registered hours (recordUntil "soon") 0)).status := by
  refine ⟨⟨by decide +kernel, fun h => ?_⟩, rfl, by decide +kernel, fun h => ?_⟩
  · obtain ⟨t, ht, hle⟩ := (h.down (by decide +kernel)).1 (by decide +kernel)
    cases ht
    exact absurd hle (by decide)
  · obtain ⟨t, ht, _⟩ := (h.up (by decide +kernel)).1 (by decide +kernel)
    cases ht

end UptimeFlow.Monitors
