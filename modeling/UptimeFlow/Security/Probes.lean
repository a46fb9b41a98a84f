import UptimeFlow.Monitoring.Schema
import UptimeFlow.Security.Ssrf

/-!
# UptimeFlow.Security.Probes

From the monitor definitions the API accepts to the addresses the TCP, ping
and SSL probes connect to.

`Definition` carries the proof that schema and service accepted it, so every
probe below runs on accepted definitions only.  What Node provides is a
parameter: `isIP`, the URL parser, and the answers of the resolver.  A socket
asks its lookup hook about a host name and connects to a literal at once, and
that is the whole difference between a guarded connection and an unguarded
one.
-/

namespace UptimeFlow.Security

open Monitoring (MonitorType)

/-! ## accepted definitions -/

/-- The parts of a parsed URL the probes read. -/
structure Url where
  hostname : String
  port : String
deriving DecidableEq, Repr

/-- What `new URL` gives, or `none` where it throws. -/
abbrev UrlParser := String → Option Url

/-- The target of a monitor. -/
structure Target where
  type : MonitorType
  url : Option String := none
  host : Option String := none
  port : Option Nat := none
deriving DecidableEq, Repr

/-- `!value` of an optional text. -/
def isBlank (value : Option String) : Bool := value = none || value = some ""

inductive TargetError where
  | urlRequired | hostRequired | portRequired | unsupportedType
deriving DecidableEq, Repr

def validateTargetFields (t : Target) : Except TargetError Unit :=
  match t.type with
  | .http | .keyword | .ssl => if isBlank t.url then .error .urlRequired else .ok ()
  | .tcp | .port =>
      if isBlank t.host then .error .hostRequired
      else if t.port = none ∨ t.port = some 0 then .error .portRequired
      else .ok ()
  | .ping | .dns | .domain => if isBlank t.host then .error .hostRequired else .ok ()
  | .heartbeat => .ok ()
  | .grpc => .error .unsupportedType

/-- The target fields of `createMonitorSchema`. -/
def schemaAccepts (parseUrl : UrlParser) (t : Target) : Bool :=
  t.type ≠ .grpc &&
    t.url.all (fun url => (parseUrl url).isSome && Js.length url.toList ≤ 2048) &&
    t.host.all (fun host => Js.length host.toList ≤ 253) &&
    t.port.all fun port => 1 ≤ port && port ≤ 65535

/-- A target that schema and service accepted. -/
structure Definition (parseUrl : UrlParser) where
  target : Target
  shape : schemaAccepts parseUrl target = true
  fields : validateTargetFields target = .ok ()

/-- The target fields of `updateMonitorSchema`: the ones that are present replace. -/
structure TargetPatch where
  type : Option MonitorType := none
  url : Option String := none
  host : Option String := none
  port : Option Nat := none
deriving DecidableEq, Repr

def Target.patch (t : Target) (p : TargetPatch) : Target :=
  { type := p.type.getD t.type, url := p.url.or t.url, host := p.host.or t.host
    port := p.port.or t.port }

/-- The fields a patch carries pass the schema of their own. -/
def TargetPatch.accepts (parseUrl : UrlParser) (p : TargetPatch) : Bool :=
  schemaAccepts parseUrl
    { type := p.type.getD .heartbeat, url := p.url, host := p.host, port := p.port }

inductive Rejection where
  | invalidBody
  | target (e : TargetError)
deriving DecidableEq, Repr

variable {parseUrl : UrlParser}

/-- `POST` of a monitor. -/
def create (parseUrl : UrlParser) (t : Target) : Except Rejection (Definition parseUrl) :=
  if hs : schemaAccepts parseUrl t = true then
    match hv : validateTargetFields t with
    | .error e => .error (.target e)
    | .ok () => .ok ⟨t, hs, hv⟩
  else .error .invalidBody

theorem schemaAccepts_patch {t : Target} {p : TargetPatch} (ht : schemaAccepts parseUrl t = true)
    (hp : p.accepts parseUrl = true) : schemaAccepts parseUrl (t.patch p) = true := by
  obtain ⟨ttype, turl, thost, tport⟩ := t
  obtain ⟨ptype, purl, phost, pport⟩ := p
  simp only [TargetPatch.accepts, schemaAccepts, Target.patch, Bool.and_eq_true] at ht hp ⊢
  refine ⟨⟨⟨?_, ?_⟩, ?_⟩, ?_⟩
  · cases ptype with
    | none => exact ht.1.1.1
    | some type => exact hp.1.1.1
  · cases purl with
    | none => exact ht.1.1.2
    | some url => exact hp.1.1.2
  · cases phost with
    | none => exact ht.1.2
    | some host => exact hp.1.2
  · cases pport with
    | none => exact ht.2
    | some port => exact hp.2

/-- `PATCH` of a monitor: the merged target is validated again. -/
def Definition.update (d : Definition parseUrl) (p : TargetPatch) :
    Except Rejection (Definition parseUrl) :=
  if hp : p.accepts parseUrl = true then
    match hv : validateTargetFields (d.target.patch p) with
    | .error e => .error (.target e)
    | .ok () => .ok ⟨d.target.patch p, schemaAccepts_patch d.shape hp, hv⟩
  else .error .invalidBody

/-! ## probes -/

/-- What a probe does first: report a bad configuration, throw, or connect. -/
inductive Dial where
  | config (errorMessage : String)
  | throws
  | connect (host : String) (port : Nat)
deriving DecidableEq, Repr

def defaultPingPort : Nat := 443
def defaultTlsPort : Nat := 443

def tcpProbe (t : Target) : Dial :=
  match t.host, t.port with
  | some host, some port =>
      if host = "" then .config "Monitor needs host and port." else .connect host port
  | _, _ => .config "Monitor needs host and port."

def pingProbe (t : Target) : Dial :=
  match t.host with
  | none => .config "Monitor needs a host."
  | some host =>
      if host = "" then .config "Monitor needs a host."
      else .connect host (t.port.getD defaultPingPort)

/-- `Number(port) || DEFAULT_TLS_PORT`. -/
def urlPort (port : String) : Nat :=
  let n := Js.parseDecimal port.toList
  if n = 0 then defaultTlsPort else n

def sslProbe (parseUrl : UrlParser) (t : Target) : Dial :=
  -- an empty url is as good as none
  let url := t.url.filter (· ≠ "")
  match t.host, url with
  | none, none => .config "Monitor needs a host or url."
  | some "", _ => .config "Monitor needs a host or url."
  | some host, none => .connect host (t.port.getD defaultTlsPort)
  | some host, some url =>
      match t.port, parseUrl url with
      | some port, _ => .connect host port
      | none, none => .throws
      | none, some parsed => .connect host (urlPort parsed.port)
  | none, some url =>
      match parseUrl url with
      | none => .throws
      | some parsed =>
          if parsed.hostname = "" then .config "Monitor needs a host or url."
          else .connect parsed.hostname (t.port.getD (urlPort parsed.port))

/-- The first act of the probe of a target, for the TCP, PORT, PING and SSL types. -/
def Target.dial (parseUrl : UrlParser) (t : Target) : Option Dial :=
  match t.type with
  | .tcp | .port => some (tcpProbe t)
  | .ping => some (pingProbe t)
  | .ssl => some (sslProbe parseUrl t)
  | _ => none

/-- The host a definition's probe dials. -/
def Definition.dials (d : Definition parseUrl) : Option String :=
  match d.target.dial parseUrl with
  | some (.connect host _) => some host
  | _ => none

/-- An accepted TCP, PORT or PING definition never ends in a configuration error: its
probe dials its host. -/
theorem dials_of_host {d : Definition parseUrl}
    (h : d.target.type = .tcp ∨ d.target.type = .port ∨ d.target.type = .ping) :
    d.dials = d.target.host ∧ d.target.host ≠ none := by
  have hf := d.fields
  rw [Definition.dials, Target.dial]
  rw [validateTargetFields] at hf
  cases hhost : d.target.host with
  | none => rcases h with h | h | h <;> simp [h, hhost, isBlank] at hf
  | some host =>
      have hne : host ≠ "" := by
        rintro rfl
        rcases h with h | h | h <;> simp [h, hhost, isBlank] at hf
      refine ⟨?_, by simp⟩
      rcases h with h | h | h
      · cases hport : d.target.port <;> simp_all [tcpProbe, isBlank]
      · cases hport : d.target.port <;> simp_all [tcpProbe, isBlank]
      · simp [h, pingProbe, hhost, hne]

/-! ## connections -/

/-- The addresses a socket connects to: the host itself when it is a literal — the hook is
not called — and otherwise what the hook hands out. -/
def connections (isIP : String → Nat) (host : String)
    (lookup : String → Except LookupError Resolved) : List String :=
  if isIP host ≠ 0 then [host]
  else match lookup host with
    | .error _ => []
    | .ok resolved => resolved.addresses.map Address.address

/-- One run of a probe: whether its socket asks for all addresses, and the resolver's
answer should it be asked. -/
structure ProbeRun where
  all : Bool
  answer : DnsAnswer

/-- The addresses a definition's probe connects to over its runs. -/
def Definition.connects (isIP : String → Nat) (allow : Bool) (d : Definition parseUrl)
    (runs : List ProbeRun) : List String :=
  runs.flatMap fun r =>
    match d.dials with
    | none => []
    | some host => connections isIP host fun hostname =>
        secureLookup isIP allow r.answer hostname r.all

/-- The definition's probe dials an address literal that is blocked. -/
def Definition.DialsBlockedLiteral (isIP : String → Nat) (d : Definition parseUrl) : Prop :=
  ∃ host ∈ d.dials, isIP host ≠ 0 ∧ isBlockedIp isIP host = true

/-- **Guarded connections**: with private networks not allowed, the probe of an accepted
definition connects to no blocked address, whatever the resolver answers, exactly when it
does not dial a blocked literal. -/
theorem connects_unblocked_iff (isIP : String → Nat) (parseUrl : UrlParser)
    (d : Definition parseUrl) :
    (∀ runs, ∀ a ∈ d.connects isIP false runs, isBlockedIp isIP a = false) ↔
      ¬ d.DialsBlockedLiteral isIP := by
  constructor
  · rintro h ⟨host, hdials, hliteral, hblocked⟩
    rw [Option.mem_def] at hdials
    have hmem : host ∈ d.connects isIP false [⟨false, .ok []⟩] := by
      simp [Definition.connects, hdials, connections, hliteral]
    rw [h _ host hmem] at hblocked
    contradiction
  · intro h runs a ha
    obtain ⟨r, -, ha⟩ := List.mem_flatMap.mp ha
    cases hdials : d.dials with
    | none => simp [hdials] at ha
    | some host =>
        simp only [hdials, connections] at ha
        split at ha
        · next hliteral =>
            rw [List.mem_singleton.mp ha]
            by_contra hblocked
            exact h ⟨host, hdials, hliteral, by simpa using hblocked⟩
        · split at ha
          · simp at ha
          · next resolved hres =>
              obtain ⟨address, hmem, rfl⟩ := List.mem_map.mp ha
              exact secureLookup_safe hres address hmem

/-- `isIP` on the one literal of the example. -/
def isLoopback (host : String) : Nat := if host = "127.0.0.1" then 4 else 0

/-- A TCP monitor of the worker's own machine: the API accepts it, and its probe connects
to it. -/
theorem connects_loopback :
    ∃ d, create (fun _ => none) { type := .tcp, host := some "127.0.0.1", port := some 5432 } = .ok d ∧
      ¬ ∀ runs, ∀ a ∈ d.connects isLoopback false runs, isBlockedIp isLoopback a = false := by
  refine ⟨⟨{ type := .tcp, host := some "127.0.0.1", port := some 5432 }, by decide, by decide⟩,
    rfl, fun h => ?_⟩
  exact absurd (h [⟨false, .ok []⟩] "127.0.0.1" (by decide)) (by decide)

end UptimeFlow.Security
