import UptimeFlow.JsonText
import UptimeFlow.Monitors.Validations
import UptimeFlow.Security.Probes

/-!
# UptimeFlow.Security.Requests

The three ways a request leaves on behalf of a user: the HTTP probe, which
follows redirects in a loop; the RDAP fetch, which follows them by calling
itself; and the delivery of a notification, which sends one request.

A request is a call of Node's `request`, and it is written to a log.  What comes
back, from the resolver and from the other end, may depend on all that was
requested before (`Net`).  Reading a response to its end, and the options of a
request other than its lookup hook, are left out: they send nothing.
-/

namespace UptimeFlow.Security

open Monitors (ProbeSignal CertInfo Headers)

/-! ## URLs -/

/-- A URL as `new URL` gives it. -/
structure WebUrl extends Url where
  protocol : String
  username : String
  password : String
  href : String
deriving DecidableEq, Repr

/-- What Node provides. -/
structure Node where
  isIP : String → Nat
  /-- `new URL(raw, base)`, or `none` where it throws. -/
  newUrl : String → Option String → Option WebUrl

structure SsrfError where
  message : String
  code : String := "ssrf_blocked"
deriving DecidableEq, Repr

def allowedProtocols : List String := ["http:", "https:"]

/-- Host names that are never reached. -/
def blockedHostnames : List String :=
  ["localhost", "metadata.google.internal", "metadata.goog", "metadata.azure.com"]

/-- `.replace(/^\[|\]$/g, "")`. -/
def stripBrackets (host : List Char) : List Char :=
  let host := if host.head? = some '[' then host.tail else host
  if host.getLast? = some ']' then host.dropLast else host

/-- The host without brackets and trailing dot, in lower case; hosts are ASCII here. -/
def normalizeHost (hostname : String) : String :=
  let host := stripBrackets hostname.toList
  let host := if host.getLast? = some '.' then host.dropLast else host
  String.ofList (host.map Char.toLower)

def quoted (s : String) : String := "\"" ++ s ++ "\""

/-- The synchronous checks of a URL; `allow` is `allowPrivateNetworks(opts)`. -/
def validateUrl (node : Node) (allow : Bool) (raw : String) : Except SsrfError WebUrl :=
  match node.newUrl raw none with
  | none => .error ⟨"Invalid URL: " ++ raw, "ssrf_invalid_url"⟩
  | some url =>
      let host := normalizeHost url.hostname
      if url.protocol ∉ allowedProtocols then
        .error ⟨"Blocked protocol " ++ quoted url.protocol, "ssrf_protocol"⟩
      else if url.username ≠ "" ∨ url.password ≠ "" then
        .error ⟨"Embedded URL credentials are not allowed", "ssrf_credentials"⟩
      else if host = "" then .error ⟨"URL has no hostname", "ssrf_invalid_url"⟩
      else if allow then .ok url
      else if host ∈ blockedHostnames ∨ host.endsWith ".localhost" then
        .error ⟨"Blocked hostname " ++ quoted host, "ssrf_blocked_host"⟩
      else if node.isIP host ≠ 0 ∧ isBlockedIp node.isIP host = true then
        .error ⟨"Blocked IP address " ++ quoted host, "ssrf_blocked"⟩
      else .ok url

/-! ## requests -/

/-- What a request is rejected with: an error of the guard, or one of Node. -/
inductive RequestError where
  | ssrf (e : SsrfError)
  | node (code : Option String) (message : String)
deriving DecidableEq, Repr

def RequestError.message : RequestError → String
  | .ssrf e => e.message
  | .node _ message => message

/-- A response, read to its end. -/
structure SingleResponse where
  statusCode : Nat
  headers : Headers
  body : String
  location : Option String
  cert : Option CertInfo
deriving DecidableEq, Repr

/-- What happens to one request: what the resolver answers the hook, whether the socket asks for
all addresses, and what comes back once it is connected. -/
structure Exchange where
  answer : DnsAnswer
  all : Bool
  outcome : Except RequestError SingleResponse

/-- A request that was made, and the addresses its lookup hook handed to the socket. -/
structure Request where
  url : WebUrl
  handed : List Address
deriving DecidableEq, Repr

/-- The world outside, which sees every request made so far. -/
abbrev Net := List Request → WebUrl → Exchange

abbrev Sending := Eff (List Request) RequestError

/-- The errors of the hook are of the guard, those of the resolver of Node. -/
def LookupError.rejection (e : LookupError) : RequestError :=
  if e.code = "ssrf_no_address" ∨ e.code = "ssrf_blocked" then .ssrf ⟨e.message, e.code⟩
  else .node (some e.code) e.message

section
variable (node : Node) (allow : Bool) (net : Net)

/-- What the lookup hook hands to the socket; of an address literal it is not asked. -/
def lookup (x : Exchange) (url : WebUrl) : Except LookupError (List Address) :=
  let host := String.ofList (stripBrackets url.hostname.toList)
  if node.isIP host ≠ 0 then .ok []
  else (secureLookup node.isIP allow x.answer host x.all).map Resolved.addresses

/-- `request(url, { lookup: createSecureLookup() })` of `node:http` or `node:https`, the one for
`protocol`. -/
def request (protocol : String) (url : WebUrl) : Sending SingleResponse := ⟨fun log =>
  if url.protocol ≠ protocol then
    (.error (.node (some "ERR_INVALID_PROTOCOL")
      ("Protocol " ++ quoted url.protocol ++ " not supported. Expected " ++ quoted protocol)),
      log ++ [⟨url, []⟩])
  else
    let x := net log url
    match lookup node allow x url with
    | .error e => (.error e.rejection, log ++ [⟨url, []⟩])
    | .ok handed => (x.outcome, log ++ [⟨url, handed⟩])⟩

/-- `new URL(location, base)`, checked again. -/
def follow (location : String) (base : WebUrl) : Except RequestError WebUrl :=
  match node.newUrl location (some base.href) with
  | none => .error (.node (some "ERR_INVALID_URL") "Invalid URL")
  | some next => (validateUrl node allow next.href).mapError .ssrf

def maxRedirects : Nat := 5

/-- Where a response sends to. -/
def SingleResponse.redirect (res : SingleResponse) : Option String :=
  if 300 ≤ res.statusCode ∧ res.statusCode < 400 then res.location.filter (· ≠ "") else none

/-! ## the HTTP probe -/

/-- One request, without following a redirect. -/
def performRequest (target : WebUrl) : Sending SingleResponse :=
  request node allow net (if target.protocol = "https:" then "https:" else "http:") target

/-- The loop of the probe, with `left` more redirects to follow. -/
def hops (followRedirects : Bool) : Nat → WebUrl → Sending SingleResponse
  -- the last hop is the answer, whatever it says
  | 0, current => performRequest node allow net current
  | left + 1, current => do
      let last ← performRequest node allow net current
      match last.redirect, followRedirects with
      | some location, true => do
          let next ← Eff.ofExcept (follow node allow location current)
          hops followRedirects left next
      | _, _ => pure last

end

/-- A coarse bucket for an error of Node. -/
def classifyHttpError (code : Option String) : String :=
  let code := code.getD ""
  if code ∈ ["ENOTFOUND", "EAI_AGAIN"] then "dns"
  else if code = "ECONNREFUSED" then "refused"
  else if code = "ETIMEDOUT" then "timeout"
  else if code.startsWith "CERT_" ∨ code.startsWith "ERR_TLS" ∨
      code ∈ ["UNABLE_TO_VERIFY_LEAF_SIGNATURE", "DEPTH_ZERO_SELF_SIGNED_CERT",
        "SELF_SIGNED_CERT_IN_CHAIN"] then "tls"
  else if code ∈ ["ECONNRESET", "EPIPE"] then "connect"
  else "error"

/-- What the HTTP probe reads of a monitor and its context; `responseMs` is the time it takes. -/
structure HttpCheck where
  url : Option String
  followRedirects : Bool
  responseMs : Int
  aborted : Bool

def unreachable (responseMs : Int) (errorType errorMessage : String) : ProbeSignal :=
  { reachable := false, responseMs := responseMs
    errorType := some errorType, errorMessage := some errorMessage }

def HttpCheck.failed (check : HttpCheck) : RequestError → ProbeSignal
  | .ssrf e => unreachable check.responseMs "blocked" e.message
  | .node code message =>
      unreachable check.responseMs (if check.aborted then "timeout" else classifyHttpError code)
        message

def HttpCheck.reached (check : HttpCheck) (last : SingleResponse) : ProbeSignal :=
  { reachable := true, responseMs := check.responseMs, statusCode := some last.statusCode
    headers := some last.headers, body := some last.body, cert := last.cert }

section
variable (node : Node) (allow : Bool) (net : Net)

def httpProbe (check : HttpCheck) : Sending ProbeSignal :=
  match check.url.filter (· ≠ "") with
  | none => pure (unreachable 0 "config" "Monitor has no url.")
  | some url =>
      Eff.rescue
        (do
          let current ← Eff.ofExcept ((validateUrl node allow url).mapError .ssrf)
          let last ← hops node allow net check.followRedirects maxRedirects current
          pure (check.reached last))
        fun e => pure (check.failed e)

/-! ## the RDAP fetch -/

/-- A response that sends nowhere else: not found is an answer. -/
def readJson (url : WebUrl) (res : SingleResponse) : Except RequestError JsonText.Value :=
  if res.statusCode = 404 then .ok .null
  else if 400 ≤ res.statusCode then
    .error (.node none
      ("RDAP request to " ++ url.hostname ++ " failed with " ++ toString res.statusCode ++ "."))
  else match JsonText.parse res.body.toList with
    | some v => .ok v
    | none => .error (.node none ("RDAP response from " ++ url.hostname ++ " was not valid JSON."))

def fetchJson : Nat → WebUrl → Sending JsonText.Value
  | 0, url => do
      let res ← request node allow net "https:" url
      match res.redirect with
      | none => Eff.ofExcept (readJson url res)
      | some _ =>
          Eff.raise (.node none
            ("RDAP request to " ++ url.hostname ++ " exceeded the redirect limit."))
  | redirectsLeft + 1, url => do
      let res ← request node allow net "https:" url
      match res.redirect with
      | none => Eff.ofExcept (readJson url res)
      | some location => do
          let next ← Eff.ofExcept (follow node allow location url)
          fetchJson redirectsLeft next

/-- `fetchJson(validateUrl(raw), …)`, which is how the bootstrap table and a registry are asked. -/
def rdapFetch (raw : String) : Sending JsonText.Value := do
  let url ← Eff.ofExcept ((validateUrl node allow raw).mapError .ssrf)
  fetchJson node allow net maxRedirects url

/-! ## the delivery -/

structure DeliveryResult where
  ok : Bool
  /-- HTTP status, or 0 on a network or timeout error. -/
  status : Nat
  error : Option String := none
deriving DecidableEq, Repr

/-- `text.slice(0, 500) || "HTTP " + status`. -/
def deliveryError (status : Nat) (text : String) : String :=
  let start := String.ofList (text.toList.take 500)
  if start = "" then "HTTP " ++ toString status else start

def delivered (res : SingleResponse) : DeliveryResult :=
  if 200 ≤ res.statusCode ∧ res.statusCode < 300 then { ok := true, status := res.statusCode }
  else
    { ok := false, status := res.statusCode
      error := some (deliveryError res.statusCode res.body) }

/-- What a `fetch` injected by the caller gives for its one call. -/
structure FetchReply where
  ok : Bool
  status : Nat
  text : String
deriving DecidableEq, Repr

def fetched : Except String FetchReply → DeliveryResult
  | .error message => { ok := false, status := 0, error := some message }
  | .ok reply =>
      if reply.ok then { ok := true, status := reply.status }
      else
        { ok := false, status := reply.status
          error := some (deliveryError reply.status reply.text) }

def postRaw (url : String) (fetchImpl : Option (Except String FetchReply)) :
    Sending DeliveryResult :=
  match validateUrl node allow url, fetchImpl with
  | .error e, _ => pure { ok := false, status := 0, error := some e.message }
  | .ok parsed, some reply => ⟨fun log => (.ok (fetched reply), log ++ [⟨parsed, []⟩])⟩
  | .ok parsed, none =>
      Eff.rescue
        (do
          let res ← request node allow net (if parsed.protocol = "https:" then "https:" else "http:")
            parsed
          pure (delivered res))
        fun e => pure { ok := false, status := 0, error := some e.message }

end

/-! ## what is sent -/

section
variable {node : Node} {net : Net}

/-- The request goes to a URL that passed the checks, and its socket got no blocked address. -/
structure Request.Guarded (node : Node) (r : Request) : Prop where
  url : ∃ raw, validateUrl node false raw = .ok r.url
  handed : ∀ a ∈ r.handed, isBlockedIp node.isIP a.address = false

theorem lookup_safe {x : Exchange} {url : WebUrl} {handed : List Address}
    (h : lookup node false x url = .ok handed) :
    ∀ a ∈ handed, isBlockedIp node.isIP a.address = false := by
  unfold lookup at h
  dsimp only at h
  split at h
  · obtain rfl := Except.ok.inj h
    simp
  · cases hresolved : secureLookup node.isIP false x.answer
        (String.ofList (stripBrackets url.hostname.toList)) x.all with
    | error e =>
        rw [hresolved] at h
        cases h
    | ok resolved =>
        rw [hresolved] at h
        obtain rfl := Except.ok.inj h
        exact secureLookup_safe hresolved

variable (node net) in
/-- One request is one entry, of its URL. -/
theorem request_run (protocol : String) (url : WebUrl) (log : List Request) :
    ∃ handed, ((request node false net protocol url).run log).2 = log ++ [⟨url, handed⟩] ∧
      ∀ a ∈ handed, isBlockedIp node.isIP a.address = false := by
  unfold request
  dsimp only
  split
  · exact ⟨[], rfl, by simp⟩
  · cases h : lookup node false (net log url) url with
    | error e => exact ⟨[], rfl, by simp⟩
    | ok handed => exact ⟨handed, rfl, lookup_safe h⟩

theorem appends_request {raw : String} {url : WebUrl} (h : validateUrl node false raw = .ok url)
    (protocol : String) :
    Eff.Appends (Request.Guarded node) 1 (request node false net protocol url) := by
  intro log
  obtain ⟨handed, hrun, hsafe⟩ := request_run node net protocol url log
  exact ⟨[⟨url, handed⟩], hrun, Nat.le_refl 1, by simpa using ⟨⟨raw, h⟩, hsafe⟩⟩

theorem mapError_eq_ok {ε ε' α : Type} {f : ε → ε'} {r : Except ε α} {a : α}
    (h : r.mapError f = .ok a) : r = .ok a := by
  cases r with
  | error e => cases h
  | ok b => exact congrArg Except.ok (Except.ok.inj h)

/-- A redirect leads to a URL that passed the checks. -/
theorem validateUrl_of_follow {location : String} {base next : WebUrl}
    (h : follow node false location base = .ok next) :
    ∃ raw, validateUrl node false raw = .ok next := by
  unfold follow at h
  split at h
  · cases h
  · exact ⟨_, mapError_eq_ok h⟩

theorem appends_hops (followRedirects : Bool) (left : Nat) {raw : String} {current : WebUrl}
    (h : validateUrl node false raw = .ok current) :
    Eff.Appends (Request.Guarded node) (left + 1)
      (hops node false net followRedirects left current) := by
  induction left generalizing raw current with
  | zero => exact appends_request h _
  | succ left ih =>
      rw [hops, Nat.add_comm]
      refine (appends_request h _).bind fun last => ?_
      split
      · refine .ofExcept_bind fun next hnext => ?_
        obtain ⟨raw', hraw'⟩ := validateUrl_of_follow hnext
        exact ih hraw'
      · exact (Eff.Appends.pure last).mono (Nat.zero_le _)

theorem appends_fetchJson (redirectsLeft : Nat) {raw : String} {url : WebUrl}
    (h : validateUrl node false raw = .ok url) :
    Eff.Appends (Request.Guarded node) (redirectsLeft + 1)
      (fetchJson node false net redirectsLeft url) := by
  induction redirectsLeft generalizing raw url with
  | zero =>
      rw [fetchJson, Nat.add_comm]
      refine (appends_request h _).bind fun res => ?_
      split
      · exact .ofExcept _
      · exact .raise _
  | succ left ih =>
      rw [fetchJson, Nat.add_comm]
      refine (appends_request h _).bind fun res => ?_
      split
      · exact (Eff.Appends.ofExcept _).mono (Nat.zero_le _)
      · refine .ofExcept_bind fun next hnext => ?_
        obtain ⟨raw', hraw'⟩ := validateUrl_of_follow hnext
        exact ih hraw'

variable (net) in
theorem appends_httpProbe (check : HttpCheck) :
    Eff.Appends (Request.Guarded node) (maxRedirects + 1) (httpProbe node false net check) := by
  unfold httpProbe
  split
  · exact (Eff.Appends.pure _).mono (Nat.zero_le _)
  · refine (Eff.Appends.rescue (m := 0) ?_ fun e => .pure _)
    refine .ofExcept_bind fun current hcurrent => ?_
    refine (appends_hops check.followRedirects maxRedirects (mapError_eq_ok hcurrent)).bind (m := 0)
      fun last => .pure _

variable (net) in
theorem appends_rdapFetch (raw : String) :
    Eff.Appends (Request.Guarded node) (maxRedirects + 1) (rdapFetch node false net raw) :=
  .ofExcept_bind fun _ h => appends_fetchJson maxRedirects (mapError_eq_ok h)

theorem postRaw_run {url : String} {parsed : WebUrl} (h : validateUrl node false url = .ok parsed)
    (fetchImpl : Option (Except String FetchReply)) (log : List Request) :
    ∃ handed, ((postRaw node false net url fetchImpl).run log).2 = log ++ [⟨parsed, handed⟩] ∧
      ∀ a ∈ handed, isBlockedIp node.isIP a.address = false := by
  unfold postRaw
  rw [h]
  cases fetchImpl with
  | some reply => exact ⟨[], rfl, by simp⟩
  | none =>
      obtain ⟨handed, hrun, hsafe⟩ := request_run node net
        (if parsed.protocol = "https:" then "https:" else "http:") parsed log
      refine ⟨handed, ?_, hsafe⟩
      dsimp only
      rw [Eff.rescue_run, Eff.bind_run]
      rw [← hrun]
      cases (request node false net (if parsed.protocol = "https:" then "https:" else "http:")
        parsed).run log with
      | mk r t => cases r <;> rfl

theorem postRaw_rejected {url : String} {e : SsrfError} (h : validateUrl node false url = .error e)
    (fetchImpl : Option (Except String FetchReply)) (log : List Request) :
    ((postRaw node false net url fetchImpl).run log).2 = log := by
  unfold postRaw
  rw [h]
  rfl

/-- What the three ways send with private networks not allowed, whatever comes back. -/
structure GuardsRequests (node : Node) (net : Net) : Prop where
  probe : ∀ check, ((httpProbe node false net check).run []).2.length ≤ maxRedirects + 1 ∧
    ∀ r ∈ ((httpProbe node false net check).run []).2, r.Guarded node
  rdap : ∀ raw, ((rdapFetch node false net raw).run []).2.length ≤ maxRedirects + 1 ∧
    ∀ r ∈ ((rdapFetch node false net raw).run []).2, r.Guarded node
  delivery : ∀ url fetchImpl parsed, validateUrl node false url = .ok parsed →
    ∃ handed, ((postRaw node false net url fetchImpl).run []).2 = [⟨parsed, handed⟩] ∧
      ∀ a ∈ handed, isBlockedIp node.isIP a.address = false
  rejected : ∀ url fetchImpl e, validateUrl node false url = .error e →
    ((postRaw node false net url fetchImpl).run []).2 = []
  hook : ∀ answer hostname all resolved,
    secureLookup node.isIP false answer hostname all = .ok resolved →
      ∀ a ∈ resolved.addresses, isBlockedIp node.isIP a.address = false

/-- **Requests are guarded**, whatever the resolver and the other end answer. -/
theorem guardsRequests (node : Node) (net : Net) : GuardsRequests node net where
  probe check := by
    obtain ⟨added, hrun, hlength, hall⟩ := appends_httpProbe net check []
    rw [hrun]
    exact ⟨hlength, hall⟩
  rdap raw := by
    obtain ⟨added, hrun, hlength, hall⟩ := appends_rdapFetch net raw []
    rw [hrun]
    exact ⟨hlength, hall⟩
  delivery _ fetchImpl _ h := postRaw_run h fetchImpl []
  rejected _ fetchImpl _ h := postRaw_rejected h fetchImpl []
  hook _ _ _ _ h := secureLookup_safe h

end

/-- A runtime that knows one URL, which is no web address. -/
def ftpNode : Node where
  isIP _ := 0
  newUrl raw _ :=
    if raw = "ftp://example.com/" then
      some { hostname := "example.com", port := "", protocol := "ftp:", username := "",
             password := "", href := "ftp://example.com/" }
    else none

/-- A network on which nothing is resolved. -/
def deadNet : Net := fun _ url =>
  { answer := .error ⟨"getaddrinfo ENOTFOUND " ++ url.hostname, "ENOTFOUND"⟩, all := false
    outcome := .error (.node none "socket hang up") }

/-- What is rejected is not sent at all. -/
theorem not_one_request_ftp :
    ¬∀ url fetchImpl, ((postRaw ftpNode false deadNet url fetchImpl).run []).2.length = 1 := by
  intro h
  have hnone : ((postRaw ftpNode false deadNet "ftp://example.com/" none).run []).2.length = 0 := by
    decide
  rw [h] at hnone
  cases hnone

end UptimeFlow.Security
