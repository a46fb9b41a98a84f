import UptimeFlow.Monitors.Requests
import UptimeFlow.Monitors.Validations
import UptimeFlow.Runs

/-!
# UptimeFlow.Monitors.Leftovers

What a check takes from columns the monitor's type has no use for.

An update keeps the columns it does not carry, so a monitor that changes its type
carries those of its earlier types along, and a request may fill any column
whatever the type.  Probes and validations look at some of these columns because
there is something in them.  Where no request leaves anything there (`Tidy`),
checks depend on the columns of the type and on the assertions alone
(`dependsOnUseOnly_run`).
-/

namespace UptimeFlow.Monitors

open Monitoring (MonitorType OrganizationId MonitorId)
open Security (isBlank Dial tcpProbe pingProbe sslProbe)
open Runs

/-! ## targets -/

/-- What a probe addresses first. -/
inductive ProbeTarget where
  | config (errorMessage : String)
  | request (url : String)
  | socket (dial : Dial)
  | records (host : String) (recordType : DnsRecordType)
  | registration (host : String)
  /-- The time of the last ping. -/
  | freshness
  | noProbe
deriving DecidableEq, Repr

/-- The record types a DNS probe can ask for. -/
def recordTypes : List DnsRecordType := [.a, .aaaa, .cname, .mx, .txt, .ns, .soa]

section
variable {ν : Type} (js : Host ν) (newUrl : String → Option Url)

/-- The DNS_RECORD assertion's `property` names the record type to query. -/
def recordTypeFor (assertions : List AssertionDef) : DnsRecordType :=
  let assertion := assertions.find? fun a => a.source = .dnsRecord && !isBlank a.property
  let requested := (assertion.bind (·.property)).map fun p => js.toUpperCase (trim p)
  (requested.bind fun r => recordTypes.find? fun t => t.label = r).getD .a

/-- The columns the probes for sockets read. -/
def MonitorSnapshot.target (m : MonitorSnapshot) : Security.Target :=
  { type := m.type, url := m.url, host := m.host, port := m.port }

def httpTarget (m : MonitorSnapshot) : ProbeTarget :=
  if isBlank m.url then .config "Monitor has no url." else .request (m.url.getD "")

def dnsTarget (m : MonitorSnapshot) : ProbeTarget :=
  let host := (m.host.map trim).getD ""
  if host = "" then .config "Monitor needs a host."
  else .records host (recordTypeFor js m.assertions)

def domainTarget (m : MonitorSnapshot) : ProbeTarget :=
  let host := (m.host.map fun h => js.toLowerCase (trim h)).getD ""
  if host = "" then .config "Monitor needs a host." else .registration host

/-- `defaultProbes`, as far as what each probe addresses. -/
def probeTarget (m : MonitorSnapshot) : ProbeTarget :=
  match m.type with
  | .http | .keyword => httpTarget m
  | .ssl => .socket (sslProbe (fun s => (newUrl s).map Url.toUrl) m.target)
  | .tcp | .port => .socket (tcpProbe m.target)
  | .ping => .socket (pingProbe m.target)
  | .heartbeat => .freshness
  | .dns => dnsTarget js m
  | .domain => domainTarget js m
  | .grpc => .noProbe

/-! ## the columns of a type -/

def usesUrl : MonitorType → Bool
  | .http | .keyword | .ssl => true
  | _ => false

def usesHost : MonitorType → Bool
  | .tcp | .port | .ping | .dns | .domain => true
  | _ => false

def usesPort : MonitorType → Bool
  | .tcp | .port => true
  | _ => false

def usesExpectedStatus : MonitorType → Bool
  | .http | .keyword => true
  | _ => false

def usesKeyword : MonitorType → Bool
  | .keyword => true
  | _ => false

/-- The same type, assertions and columns of the type. -/
structure SameUse (a b : MonitorSnapshot) : Prop where
  type : a.type = b.type
  assertions : a.assertions = b.assertions
  url : usesUrl a.type = true → a.url = b.url
  host : usesHost a.type = true → a.host = b.host
  port : usesPort a.type = true → a.port = b.port
  expectedStatus : usesExpectedStatus a.type = true → a.expectedStatus = b.expectedStatus
  keyword : usesKeyword a.type = true →
    a.keyword = b.keyword ∧ a.keywordInverted = b.keywordInverted

/-- The same target, and the same outcome of every signal. -/
structure Alike (a b : MonitorSnapshot) : Prop where
  target : probeTarget js newUrl a = probeTarget js newUrl b
  outcome : ∀ signal, classifySignal js a signal = classifySignal js b signal

def Db.snapshots (db : Db) : List MonitorSnapshot := db.monitors.map (toSnapshot db)

/-- **Checks depend only on the columns of the type**, over the monitors stored. -/
def DependsOnUseOnly (db : Db) : Prop :=
  ∀ a ∈ db.snapshots, ∀ b ∈ db.snapshots, SameUse a b → Alike js newUrl a b

end

/-! ## columns without leftovers -/

/-- Nothing stands where the code would look although the type has no use for it; the expected
status is never empty, and stands at its default. -/
structure Tidy (type : MonitorType) (host : Option String) (port expectedStatus : Option Nat)
    (keyword : Option String) : Prop where
  keyword : usesKeyword type = false → isBlank keyword = true
  expectedStatus : usesExpectedStatus type = false → expectedStatus = some 200
  ssl : type = .ssl → host = none ∧ port = none
  ping : type = .ping → port = none

instance (type : MonitorType) (host : Option String) (port expectedStatus : Option Nat)
    (keyword : Option String) : Decidable (Tidy type host port expectedStatus keyword) :=
  decidable_of_iff
    ((usesKeyword type = false → isBlank keyword = true) ∧
      (usesExpectedStatus type = false → expectedStatus = some 200) ∧
      (type = .ssl → host = none ∧ port = none) ∧ (type = .ping → port = none))
    ⟨fun h => ⟨h.1, h.2.1, h.2.2.1, h.2.2.2⟩,
      fun h => ⟨h.keyword, h.expectedStatus, h.ssl, h.ping⟩⟩

def MonitorRow.Tidy (row : MonitorRow) : Prop :=
  Monitors.Tidy row.type row.host row.port row.expectedStatus row.keyword

def MonitorSnapshot.Tidy (m : MonitorSnapshot) : Prop :=
  Monitors.Tidy m.type m.host m.port m.expectedStatus m.keyword

section
variable {ν : Type} {js : Host ν} {newUrl : String → Option Url} {a b : MonitorSnapshot}

theorem keywordViolations_of_blank {keyword : Option String} (h : isBlank keyword = true)
    (keywordInverted : Bool) (signal : ProbeSignal) :
    keywordViolations keyword keywordInverted signal = [] := by
  rw [keywordViolations, if_pos h]

theorem evaluateValidations_eq (ha : a.Tidy) (hb : b.Tidy) (h : SameUse a b)
    (signal : ProbeSignal) : evaluateValidations js a signal = evaluateValidations js b signal := by
  have hstatus : a.expectedStatus = b.expectedStatus := by
    cases huse : usesExpectedStatus a.type with
    | true => exact h.expectedStatus huse
    | false => rw [ha.expectedStatus huse, hb.expectedStatus (h.type ▸ huse)]
  have hkeyword : keywordViolations a.keyword a.keywordInverted signal =
      keywordViolations b.keyword b.keywordInverted signal := by
    cases huse : usesKeyword a.type with
    | true => rw [(h.keyword huse).1, (h.keyword huse).2]
    | false =>
        rw [keywordViolations_of_blank (ha.keyword huse),
          keywordViolations_of_blank (hb.keyword (h.type ▸ huse))]
  unfold evaluateValidations
  rw [hstatus, hkeyword, h.assertions]

theorem probeTarget_eq (ha : a.Tidy) (hb : b.Tidy) (h : SameUse a b) :
    probeTarget js newUrl a = probeTarget js newUrl b := by
  obtain ⟨htype, hassertions, hurl, hhost, hport, -, -⟩ := h
  have hssl := ha.ssl
  have hping := ha.ping
  have hssl' := hb.ssl
  have hping' := hb.ping
  unfold probeTarget
  rw [← htype]
  cases htypeA : a.type with
  | http => simp only [httpTarget, hurl (by rw [htypeA]; rfl)]
  | keyword => simp only [httpTarget, hurl (by rw [htypeA]; rfl)]
  | ssl =>
      have hb' := hssl' (by rw [← htype, htypeA])
      simp only [MonitorSnapshot.target, ← htype, hurl (by rw [htypeA]; rfl), (hssl htypeA).1,
        (hssl htypeA).2, hb'.1, hb'.2]
  | tcp =>
      simp only [MonitorSnapshot.target, ← htype, tcpProbe, hhost (by rw [htypeA]; rfl),
        hport (by rw [htypeA]; rfl)]
  | port =>
      simp only [MonitorSnapshot.target, ← htype, tcpProbe, hhost (by rw [htypeA]; rfl),
        hport (by rw [htypeA]; rfl)]
  | ping =>
      simp only [MonitorSnapshot.target, ← htype, pingProbe, hhost (by rw [htypeA]; rfl),
        hping htypeA, hping' (by rw [← htype, htypeA])]
  | heartbeat => rfl
  | dns => simp only [dnsTarget, hassertions, hhost (by rw [htypeA]; rfl)]
  | domain => simp only [domainTarget, hhost (by rw [htypeA]; rfl)]
  | grpc => rfl

/-- **Without leftovers**, the columns of the type decide. -/
theorem alike_of_tidy (ha : a.Tidy) (hb : b.Tidy) (h : SameUse a b) : Alike js newUrl a b where
  target := probeTarget_eq ha hb h
  outcome signal := by
    unfold classifySignal
    rw [evaluateValidations_eq ha hb h]

end

/-! ## requests -/

/-- A request of the API, with the writes that fail during it. -/
inductive Op where
  | create (faults : Faults) (limitReached : Bool) (id : MonitorId)
      (organizationId : OrganizationId) (body : CreateMonitorInput) (actor : MonitorActor)
  | update (faults : Faults) (organizationId : OrganizationId) (monitorId : MonitorId)
      (body : UpdateMonitorInput) (actor : MonitorActor)

section
variable (stored : Headers → Headers) (newUrl : String → Option Url)

/-- The store after a request; a body the schema refuses changes nothing. -/
def step (db : Db) : Op → Db
  | .create faults limitReached id organizationId body actor =>
      (createMonitorSchema newUrl body).elim db fun input =>
        ((create stored faults limitReached id organizationId input actor).run db).2
  | .update faults organizationId monitorId body actor =>
      (updateMonitorSchema newUrl body).elim db fun input =>
        ((update stored faults organizationId monitorId input actor).run db).2

end

/-- The request leaves nothing behind in the monitor it creates or updates: neither it nor what
it keeps fills a column the type has no use for. -/
def TidyOp (db : Db) : Op → Prop
  | .create _ _ _ _ body _ =>
      Tidy body.type body.host body.port (some (body.expectedStatus.getD 200)) body.keyword
  | .update _ organizationId monitorId body _ =>
      ∀ row ∈ db.findMonitor organizationId monitorId,
        Tidy (body.type.getD row.type) (body.host.or row.host) (body.port.or row.port)
          (body.expectedStatus.or row.expectedStatus) (body.keyword.or row.keyword)

instance (db : Db) : (op : Op) → Decidable (TidyOp db op)
  | .create _ _ _ _ _ _ => inferInstanceAs (Decidable (Tidy _ _ _ _ _))
  | .update _ organizationId monitorId _ _ =>
      inferInstanceAs (Decidable (∀ _ ∈ db.findMonitor organizationId monitorId, Tidy _ _ _ _ _))

section
variable {stored : Headers → Headers} {newUrl : String → Option Url}

/-- Schemas check a body and trim its name. -/
theorem createMonitorSchema_some {body input : CreateMonitorInput}
    (h : createMonitorSchema newUrl body = some input) :
    input.toMonitorFields = body.toMonitorFields ∧ input.type = body.type := by
  unfold createMonitorSchema at h
  obtain ⟨name, -, h⟩ := Option.bind_eq_some_iff.1 h
  split at h
  · obtain rfl := Option.some.inj h
    exact ⟨rfl, rfl⟩
  · cases h

theorem updateMonitorSchema_some {body input : UpdateMonitorInput}
    (h : updateMonitorSchema newUrl body = some input) :
    input.toMonitorFields = body.toMonitorFields ∧ input.type = body.type := by
  unfold updateMonitorSchema at h
  obtain ⟨name, -, h⟩ := Option.bind_eq_some_iff.1 h
  split at h
  · obtain rfl := Option.some.inj h
    exact ⟨rfl, rfl⟩
  · cases h

/-! ## runs -/

/-- Identifiers are distinct, and no row has leftovers. -/
structure Swept (db : Db) : Prop where
  ids : (db.monitors.map MonitorRow.id).Nodup
  tidy : ∀ row ∈ db.monitors, row.Tidy

theorem Swept.of_monitors {db db' : Db} (h : Swept db) (hsame : db'.monitors = db.monitors) :
    Swept db' := ⟨hsame ▸ h.ids, hsame ▸ h.tidy⟩

theorem Swept.added {db db' : Db} {row : MonitorRow} (h : Swept db) (hadded : Added row db db')
    (hrow : row.Tidy) : Swept db' := by
  obtain hsame | ⟨hfresh, hmonitors⟩ := hadded
  · exact h.of_monitors hsame
  · constructor
    · rw [hmonitors, List.map_append, List.map_singleton, List.nodup_append]
      refine ⟨h.ids, List.nodup_singleton _, ?_⟩
      intro id hid id' hid'
      obtain ⟨m, hm, rfl⟩ := List.mem_map.1 hid
      rw [List.mem_singleton.1 hid']
      exact hfresh m hm
    · rw [hmonitors]
      intro m hm
      rcases List.mem_append.1 hm with hm | hm
      · exact h.tidy m hm
      · rw [List.mem_singleton.1 hm]
        exact hrow

theorem Swept.updated {db : Db} {organizationId : OrganizationId} {monitorId : MonitorId}
    {input : UpdateMonitorInput} {actor : MonitorActor} (h : Swept db) {row : MonitorRow}
    (hfound : db.findMonitor organizationId monitorId = some row)
    (hrow : (updatedRow stored row input actor).Tidy) :
    Swept (updateMonitor stored monitorId input actor db) := by
  obtain ⟨hmem, hid⟩ := findMonitor_eq_some hfound
  constructor
  · have hids : (updateMonitor stored monitorId input actor db).monitors.map MonitorRow.id =
        db.monitors.map MonitorRow.id := Tables.map_id_updateWhere fun _ => rfl
    rw [hids]
    exact h.ids
  · intro m hm
    obtain ⟨old, hold, hidOld, rfl⟩ | ⟨hm, -⟩ := Tables.mem_updateWhere.1 hm
    · obtain rfl : old = row :=
        Tables.eq_of_id_eq h.ids hold hmem ((of_decide_eq_true hidOld).trans hid.symm)
      exact hrow
    · exact h.tidy m hm

/-- **A tidy request** keeps the rows without leftovers. -/
theorem Swept.step {db : Db} (h : Swept db) {op : Op} (hop : TidyOp db op) :
    Swept (step stored newUrl db op) := by
  cases op with
  | create faults limitReached id organizationId body actor =>
      rw [Monitors.step]
      cases hinput : createMonitorSchema newUrl body with
      | none => exact h
      | some input =>
          obtain ⟨hfields, htype⟩ := createMonitorSchema_some hinput
          rw [TidyOp, ← hfields, ← htype] at hop
          exact h.added (create_monitors stored faults limitReached id organizationId input
            actor db) hop
  | update faults organizationId monitorId body actor =>
      rw [Monitors.step]
      cases hinput : updateMonitorSchema newUrl body with
      | none => exact h
      | some input =>
          obtain ⟨hfields, htype⟩ := updateMonitorSchema_some hinput
          rw [TidyOp, ← hfields, ← htype] at hop
          obtain hsame | ⟨hfound, hmonitors⟩ : _ ∨ _ := update_monitors
          · exact h.of_monitors hsame
          · obtain ⟨row, hrow⟩ := Option.isSome_iff_exists.1 hfound
            exact (h.updated hrow (hop row hrow)).of_monitors hmonitors

theorem Swept.dependsOnUseOnly {ν : Type} {js : Host ν} {db : Db} (h : Swept db) :
    DependsOnUseOnly js newUrl db := by
  intro a ha b hb huse
  obtain ⟨row, hrow, rfl⟩ := List.mem_map.1 ha
  obtain ⟨row', hrow', rfl⟩ := List.mem_map.1 hb
  exact alike_of_tidy (h.tidy row hrow) (h.tidy row' hrow') huse

end

/-- **Where no request leaves anything behind**, checks depend only on the columns of the type
and on the assertions, after any sequence of requests. -/
theorem dependsOnUseOnly_run {ν : Type} (js : Host ν) (stored : Headers → Headers)
    (newUrl : String → Option Url) {db : Db} (hempty : db.monitors = []) {ops : List Op}
    (htidy : Along (step stored newUrl) TidyOp db ops) :
    DependsOnUseOnly js newUrl (run (step stored newUrl) db ops) := by
  have hstart : Swept db := by
    constructor
    · rw [hempty]
      exact List.nodup_nil
    · rw [hempty]
      exact fun row hrow => absurd hrow List.not_mem_nil
  have hend : Swept (run (step stored newUrl) db ops) :=
    inv_run (fun _ _ h hop => h.step hop) hstart htidy
  exact hend.dependsOnUseOnly

/-- A parser that knows one URL. -/
def exampleUrl (s : String) : Option Url :=
  if s = "https://x.com" then some { hostname := "x.com", port := "", protocol := "https:" }
  else none

def someone : MonitorActor := { userId := none, actorType := "user" }

/-- Creation of a monitor that checks a port. -/
def createTcp (id : MonitorId) : Op :=
  .create noFaults false id "acme"
    { name := "Database", type := .tcp, host := some "db.x", port := some 5432 } someone

theorem dependsOnUseOnly_two :
    DependsOnUseOnly plainHost exampleUrl
      (run (step id exampleUrl) {} [createTcp "a", createTcp "b"]) :=
  dependsOnUseOnly_run plainHost id exampleUrl rfl (by decide +kernel)

/-- A keyword monitor becomes one that checks a port, next to one that always has. -/
def retyped : List Op :=
  [.create noFaults false "a" "acme"
      { name := "Page", type := .keyword, url := some "https://x.com", keyword := some "ok" }
      someone,
    .update noFaults "acme" "a"
      { name := some "Database", type := some .tcp, host := some "db.x", port := some 5432 } someone,
    createTcp "b"]

/-- The keyword is still asked for: one monitor is DOWN, the other UP. -/
theorem not_dependsOnUseOnly_retyped :
    ¬ DependsOnUseOnly plainHost exampleUrl (run (step id exampleUrl) {} retyped) := by
  intro h
  have hsnapshots : (run (step id exampleUrl) {} retyped).snapshots =
      [{ type := .tcp, url := some "https://x.com", host := some "db.x", port := some 5432
         expectedStatus := some 200, keyword := some "ok", keywordInverted := false
         assertions := [] },
       { type := .tcp, url := none, host := some "db.x", port := some 5432
         expectedStatus := some 200, keyword := none, keywordInverted := false
         assertions := [] }] := by decide +kernel
  unfold DependsOnUseOnly at h
  rw [hsnapshots] at h
  have halike := h _ List.mem_cons_self _ (List.mem_cons_of_mem _ List.mem_cons_self)
    ⟨rfl, rfl, fun h => absurd h (by decide), fun _ => rfl, fun _ => rfl, fun _ => rfl,
      fun h => absurd h (by decide)⟩
  exact absurd (halike.outcome { reachable := true, responseMs := 5 }) (by decide +kernel)

end UptimeFlow.Monitors
