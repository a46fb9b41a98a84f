import UptimeFlow.Attempts
import UptimeFlow.Monitors.Expiry
import UptimeFlow.Trimming

/-!
# UptimeFlow.Monitors.Registrations

The domain probe: which servers are asked for a registration, and whose answer
counts.

The bootstrap table maps suffixes to servers.  The candidates are the proper
suffixes of the host, longest first, and the first entry that lists the first
candidate listed at all provides the servers (`serversFor_cases`).  They are asked
in turn until one answers, with a record or with none; only if all of them fail
the check does (`domainProbe_run`).
-/

namespace UptimeFlow.Monitors

open Monitoring (Instant)
open Security (Node Net Request RequestError Sending SingleResponse rdapFetch unreachable)
open JsonText (Value)

/-! ## the bootstrap table -/

/-- An entry as it is destructured, whatever it was; `undefined` is `none`. -/
structure BootstrapEntry where
  tlds : Option Value
  servers : Option Value
deriving Repr

structure BootstrapCache where
  fetchedAt : Instant
  entries : List BootstrapEntry
deriving Repr

/-- What outlives a check: the cached table, and what was requested. -/
structure RdapState where
  bootstrapCache : Option BootstrapCache := none
  log : List Request := []

abbrev Probing := Eff RdapState RequestError

/-- A request, which leaves the cache alone. -/
def sending {α : Type} (x : Sending α) : Probing α :=
  ⟨fun s => ((x.run s.log).1, { s with log := (x.run s.log).2 })⟩

def ianaBootstrapUrl : String := "https://data.iana.org/rdap/dns.json"

def bootstrapCacheMs : Int := 24 * 60 * 60 * 1000

/-- `([tlds, servers]) => ({ tlds, servers })`. -/
def destructure : Value → Except RequestError BootstrapEntry
  | .array items => .ok ⟨items[0]?, items[1]?⟩
  | .string s => .ok ⟨s[0]?.map fun c => .string [c], s[1]?.map fun c => .string [c]⟩
  | .null =>
      .error (typeError
        "object null is not iterable (cannot read property Symbol(Symbol.iterator))")
  | .bool _ | .number _ | .object _ => .error (typeError ".for is not iterable")

def destructureAll : List Value → Except RequestError (List BootstrapEntry)
  | [] => .ok []
  | v :: vs => do
      let entry ← destructure v
      let entries ← destructureAll vs
      return entry :: entries

/-- `(raw?.services ?? []).map(…)`. -/
def bootstrapEntries (raw : Value) : Except RequestError (List BootstrapEntry) :=
  match raw.get "services".toList with
  | none | some .null => .ok []
  | some (.array services) => destructureAll services
  | some _ => .error (typeError "(raw?.services ?? []).map is not a function")

/-- What a domain check is given: its host, the time, and the world its requests meet. -/
structure DomainCheck where
  host : Option String
  now : Instant
  /-- `Date.now()` where the cache is read, and where it is written. -/
  readAt : Instant
  writtenAt : Instant
  net : Net
  /-- Whether the check was aborted, once it failed. -/
  aborted : Bool := false
  responseMs : Int

/-- The cached table, unless it is too old. -/
def freshEntries (cache : Option BootstrapCache) (now : Instant) : Option (List BootstrapEntry) :=
  (cache.filter fun c => now - c.fetchedAt < bootstrapCacheMs).map (·.entries)

section
variable (node : Node) (allow : Bool)

/-- `fetchJson(validateUrl(IANA_BOOTSTRAP_URL), …)`. -/
def fetchBootstrap (check : DomainCheck) : Sending Value :=
  rdapFetch node allow check.net ianaBootstrapUrl

/-- `bootstrapCache = { fetchedAt: Date.now(), entries }`. -/
def cacheEntries (check : DomainCheck) (entries : List BootstrapEntry) : Probing Unit :=
  ⟨fun s => (.ok (), { s with bootstrapCache := some ⟨check.writtenAt, entries⟩ })⟩

def loadBootstrap (check : DomainCheck) : Probing (List BootstrapEntry) := do
  match ← Eff.read fun s => freshEntries s.bootstrapCache check.readAt with
  | some entries => pure entries
  | none => do
      let raw ← sending (fetchBootstrap node allow check)
      let entries ← Eff.ofExcept (bootstrapEntries raw)
      cacheEntries check entries
      pure entries

end

/-! ## the servers of a host -/

section
variable {ν : Type} (js : Host ν)

/-- The labels of a host, in lower case and without the empty ones. -/
def labels (host : String) : List (List Char) :=
  (Js.split ['.'] (js.toLowerCase host).toList).filter fun l => !l.isEmpty

/-- `labels.join(".")`. -/
def suffixText (ls : List (List Char)) : String := String.ofList (['.'].intercalate ls)

/-- Candidate keys, longest suffix first; the whole host is none. -/
def tldCandidates (host : String) : List String :=
  let parts := labels js host
  (List.range' 1 (parts.length - 1)).map fun i => suffixText (parts.drop i)

/-- `tlds.some((t) => t.toLowerCase() === candidate)`. -/
def someTld (candidate : String) : List Value → Except RequestError Bool
  | [] => .ok false
  | .string t :: ts =>
      if js.toLowerCase (String.ofList t) = candidate then .ok true else someTld candidate ts
  | .null :: _ => .error (unreadable "null" "toLowerCase")
  | _ :: _ => .error (typeError "t.toLowerCase is not a function")

def BootstrapEntry.lists (candidate : String) (e : BootstrapEntry) : Except RequestError Bool :=
  match e.tlds with
  | some (.array tlds) => someTld js candidate tlds
  | none => .error (unreadable "undefined" "some")
  | some .null => .error (unreadable "null" "some")
  | some _ => .error (typeError "e.tlds.some is not a function")

/-- `entries.find(…)`. -/
def findEntry (candidate : String) :
    List BootstrapEntry → Except RequestError (Option BootstrapEntry)
  | [] => .ok none
  | e :: es => do
      if ← e.lists js candidate then return some e
      findEntry candidate es

/-- The servers of the first candidate that an entry lists. -/
def serversOf (entries : List BootstrapEntry) : List String → Except RequestError (Option Value)
  | [] => .ok (some (.array []))
  | candidate :: candidates => do
      match ← findEntry js candidate entries with
      | some e => return e.servers
      | none => serversOf entries candidates

def serversFor (entries : List BootstrapEntry) (host : String) :
    Except RequestError (Option Value) :=
  serversOf js entries (tldCandidates js host)

end

def isZero : Value → Bool
  | .number digits => !truthy (.number digits)
  | _ => false

/-- What `for (const server of servers)` goes through, behind the test of `servers.length`. -/
def iterate : Option Value → Except RequestError (List Value)
  | some (.array servers) => .ok servers
  | some (.string s) => .ok (s.map fun c => .string [c])
  | some (.object members) =>
      if ((Value.object members).get "length".toList).any isZero then .ok []
      else .error (typeError "servers is not iterable")
  | some (.bool _) | some (.number _) => .error (typeError "servers is not iterable")
  | none => .error (unreadable "undefined" "length")
  | some .null => .error (unreadable "null" "length")

/-! ## the probe -/

/-- `server.replace(/\/+$/, "")`. -/
def stripSlashes (server : List Char) : List Char := server.rdropWhile (· = '/')

section
variable {ν : Type} (js : Host ν) (node : Node) (allow : Bool) (encodeURIComponent : String → String)
  (newDate : Value → Option Instant)

/-- The record of a server, or `none` where it says there is none. -/
def queryServer (check : DomainCheck) (host : String) : Value → Probing (Option Value)
  | .string server => do
      let base := String.ofList (stripSlashes server)
      let rdap ← sending
        (rdapFetch node allow check.net (base ++ "/domain/" ++ encodeURIComponent host))
      match rdap with
      | .null => pure none
      | rdap => pure (some rdap)
  | .null => Eff.raise (unreadable "null" "replace")
  | _ => Eff.raise (typeError "server.replace is not a function")

def noRecord (check : DomainCheck) (host : String) : ProbeSignal :=
  unreachable check.responseMs "dns" s!"No registration record found for \"{host}\"."

def noServer (check : DomainCheck) (host : String) : ProbeSignal :=
  unreachable check.responseMs "config" s!"No RDAP server is registered for \"{host}\"'s TLD."

/-- The signal of a check that raised. -/
def DomainCheck.failed (check : DomainCheck) : RequestError → ProbeSignal
  | .ssrf e => unreachable check.responseMs "blocked" e.message
  | .node code message =>
      if code = some "ETIMEDOUT" ∨ check.aborted = true then
        unreachable check.responseMs "timeout" "RDAP lookup timed out."
      else unreachable check.responseMs "error" message

/-- `monitor.host?.trim().toLowerCase()`. -/
def DomainCheck.normalizedHost (check : DomainCheck) : String :=
  (check.host.map fun h => js.toLowerCase (trim h)).getD ""

/-- What is reported of the answer that counts. -/
def answered (check : DomainCheck) (host : String) : Option Value → Except RequestError ProbeSignal
  | none => .ok (noRecord check host)
  | some rdap => registrationSignal newDate host rdap check.now check.responseMs

/-- From the table on. -/
def lookUp (check : DomainCheck) (host : String) (entries : List BootstrapEntry) :
    Probing ProbeSignal := do
  let servers ← Eff.ofExcept (serversFor js entries host)
  let servers ← Eff.ofExcept (iterate servers)
  if servers.isEmpty then pure (noServer check host)
  else
    -- an answer is final, a failure is kept and the next server tried
    let rdap ← firstOf (queryServer node allow encodeURIComponent check host) servers
      (.node none s!"All RDAP servers for \"{host}\" failed.")
    Eff.ofExcept (answered newDate check host rdap)

def domainProbe (check : DomainCheck) : Probing ProbeSignal :=
  let host := check.normalizedHost js
  if host = "" then pure (unreachable 0 "config" "Monitor needs a host.")
  else
    Eff.rescue
      (do
        let entries ← loadBootstrap node allow check
        lookUp js node allow encodeURIComponent newDate check host entries)
      fun e => pure (check.failed e)

end

/-! ## tables -/

/-- An entry of a table as the registry publishes it. -/
structure Registry where
  tlds : List String
  servers : List String
deriving DecidableEq, Repr

def stringValue (s : String) : Value := .string s.toList

def Registry.entry (registry : Registry) : BootstrapEntry where
  tlds := some (.array (registry.tlds.map stringValue))
  servers := some (.array (registry.servers.map stringValue))

section
variable {ν : Type} (js : Host ν)

/-- The entry lists the suffix, in letters of either case. -/
def Registry.lists (suffix : String) (registry : Registry) : Bool :=
  registry.tlds.any fun t => js.toLowerCase t = suffix

theorem someTld_strings (candidate : String) (tlds : List String) :
    someTld js candidate (tlds.map stringValue) =
      .ok (tlds.any fun t => js.toLowerCase t = candidate) := by
  induction tlds with
  | nil => rfl
  | cons t tlds ih =>
      rw [List.map_cons, stringValue, someTld, String.ofList_toList, List.any_cons]
      by_cases h : js.toLowerCase t = candidate
      · simp [h]
      · simp [h, ih]

theorem findEntry_entries (candidate : String) (table : List Registry) :
    findEntry js candidate (table.map Registry.entry) =
      .ok ((table.find? (Registry.lists js candidate)).map Registry.entry) := by
  induction table with
  | nil => rfl
  | cons registry table ih =>
      have hlists : registry.entry.lists js candidate = .ok (registry.lists js candidate) :=
        someTld_strings js candidate registry.tlds
      rw [List.map_cons, findEntry, hlists]
      cases h : registry.lists js candidate with
      | true => simp [h, Bind.bind, Except.bind, pure, Except.pure]
      | false => simp [h, Bind.bind, Except.bind, ih]

/-- A suffix of the host's labels that is neither empty nor all of them. -/
structure IsProper (host : String) (back : List (List Char)) : Prop where
  suffix : back <:+ labels js host
  ne_labels : back ≠ labels js host
  ne_nil : back ≠ []

/-- No entry of the table lists the suffix. -/
def Unlisted (table : List Registry) (back : List (List Char)) : Prop :=
  ∀ registry ∈ table, registry.lists js (suffixText back) = false

/-- The first entry that lists the longest proper suffix that any entry lists. -/
def Matches (table : List Registry) (host : String) (registry : Registry) : Prop :=
  ∃ back, IsProper js host back ∧
    table.find? (Registry.lists js (suffixText back)) = some registry ∧
    ∀ longer, IsProper js host longer → back.length < longer.length → Unlisted js table longer

/-- The servers the table has for the host. -/
def Serves (table : List Registry) (host : String) (servers : List String) : Prop :=
  (∃ registry, Matches js table host registry ∧ servers = registry.servers) ∨
    (∀ back, IsProper js host back → Unlisted js table back) ∧ servers = []

theorem unlisted_iff {table : List Registry} {back : List (List Char)} :
    Unlisted js table back ↔ table.find? (Registry.lists js (suffixText back)) = none := by
  simp [Unlisted, List.find?_eq_none]

theorem isProper_iff {host : String} {back : List (List Char)} :
    IsProper js host back ↔
      ∃ i, 1 ≤ i ∧ i < (labels js host).length ∧ back = (labels js host).drop i := by
  constructor
  · intro h
    have hdrop := List.suffix_iff_eq_drop.1 h.suffix
    have hlength := h.suffix.length_le
    have hpos := List.length_pos_iff.2 h.ne_nil
    refine ⟨(labels js host).length - back.length, ?_, by omega, hdrop⟩
    by_contra hzero
    refine h.ne_labels (h.suffix.eq_of_length ?_)
    omega
  · rintro ⟨i, hpos, hlt, rfl⟩
    refine ⟨List.drop_suffix _ _, fun heq => ?_, fun hnil => ?_⟩
    · have hlength := congrArg List.length heq
      rw [List.length_drop] at hlength
      omega
    · have hlength := congrArg List.length hnil
      rw [List.length_drop, List.length_nil] at hlength
      omega

/-- The search from candidate `i` on: it stops at the first that is listed. -/
theorem serversOf_range (table : List Registry) (ls : List (List Char)) (i k : Nat) :
    (∃ j, i ≤ j ∧ j < i + k ∧ ∃ registry,
      table.find? (Registry.lists js (suffixText (ls.drop j))) = some registry ∧
      (∀ j', i ≤ j' → j' < j → Unlisted js table (ls.drop j')) ∧
      serversOf js (table.map Registry.entry)
          ((List.range' i k).map fun i => suffixText (ls.drop i)) =
        .ok (some (.array (registry.servers.map stringValue)))) ∨
    (∀ j, i ≤ j → j < i + k → Unlisted js table (ls.drop j)) ∧
      serversOf js (table.map Registry.entry)
          ((List.range' i k).map fun i => suffixText (ls.drop i)) = .ok (some (.array [])) := by
  induction k generalizing i with
  | zero => exact .inr ⟨by omega, rfl⟩
  | succ k ih =>
      rw [List.range'_succ, List.map_cons, serversOf, findEntry_entries]
      cases hfind : table.find? (Registry.lists js (suffixText (ls.drop i))) with
      | some registry =>
          exact .inl ⟨i, Nat.le_refl i, by omega, registry, hfind, by omega, rfl⟩
      | none =>
          have hunlisted := (unlisted_iff js).2 hfind
          have hhere : ∀ j', i ≤ j' → j' < i + 1 → Unlisted js table (ls.drop j') := by
            intro j' hle hlt
            rwa [show j' = i by omega]
          rcases ih (i + 1) with ⟨j, hle, hlt, registry, hfind', hbefore, hok⟩ | ⟨hall, hok⟩
          · refine .inl ⟨j, by omega, by omega, registry, hfind', fun j' hle' hlt' => ?_, hok⟩
            by_cases h : j' < i + 1
            · exact hhere j' hle' h
            · exact hbefore j' (by omega) hlt'
          · refine .inr ⟨fun j hle' hlt' => ?_, hok⟩
            by_cases h : j < i + 1
            · exact hhere j hle' h
            · exact hall j (by omega) (by omega)

/-- **The servers of a host** are those of the entry for its longest suffix listed. -/
theorem serversFor_entries (table : List Registry) (host : String) :
    ∃ servers, Serves js table host servers ∧
      serversFor js (table.map Registry.entry) host =
        .ok (some (.array (servers.map stringValue))) := by
  have hcandidates := serversOf_range js table (labels js host) 1 ((labels js host).length - 1)
  rcases hcandidates with ⟨j, hle, hlt, registry, hfind, hbefore, hok⟩ | ⟨hall, hok⟩
  · refine ⟨registry.servers, .inl ⟨registry, ⟨_, (isProper_iff js).2 ⟨j, hle, by omega, rfl⟩,
      hfind, fun longer hproper hlonger => ?_⟩, rfl⟩, hok⟩
    obtain ⟨j', hpos, hlt', rfl⟩ := (isProper_iff js).1 hproper
    rw [List.length_drop, List.length_drop] at hlonger
    exact hbefore j' hpos (by omega)
  · refine ⟨[], .inr ⟨fun back hproper => ?_, rfl⟩, hok⟩
    obtain ⟨j, hpos, hlt, rfl⟩ := (isProper_iff js).1 hproper
    exact hall j hpos (by omega)

end

/-! ## whole checks -/

section
variable {ν : Type} (js : Host ν) (node : Node) (allow : Bool) (encodeURIComponent : String → String)
  (newDate : Value → Option Instant)

/-- What is reported of an answer: that of a record none can read is a failure. -/
def reported (check : DomainCheck) (host : String) (answer : Option Value) : ProbeSignal :=
  match answered newDate check host answer with
  | .ok signal => signal
  | .error e => check.failed e

/-- What a check reports that asks the servers, and the state it leaves behind. -/
inductive Asks (check : DomainCheck) (host : String) (servers : List String) (s : RdapState) :
    ProbeSignal → RdapState → Prop where
  | none (h : servers = []) : Asks check host servers s (noServer check host) s
  /-- The first server that does not fail, with a record or without one. -/
  | answer {before after : List String} {server : String} {answer : Option Value} {t : RdapState}
      (h : servers = before ++ server :: after)
      (hasked : Completes (queryServer node allow encodeURIComponent check host)
        ((before ++ [server]).map stringValue) s answer t) :
      Asks check host servers s (reported newDate check host answer) t
  /-- All of them fail, the last one with `e`. -/
  | failure {before : List String} {server : String} {e : RequestError} {t u : RdapState}
      (h : servers = before ++ [server])
      (hasked : Fails (queryServer node allow encodeURIComponent check host)
        (before.map stringValue) s u)
      (hlast : (queryServer node allow encodeURIComponent check host (stringValue server)).run u =
        (.error e, t)) :
      Asks check host servers s (check.failed e) t

/-- The run of the look-up, once the servers are known. -/
theorem lookUp_eq {check : DomainCheck} {host : String} {entries : List BootstrapEntry}
    {servers : List String} (h : serversFor js entries host =
      .ok (some (.array (servers.map stringValue)))) :
    lookUp js node allow encodeURIComponent newDate check host entries =
      if servers.isEmpty then pure (noServer check host)
      else firstOf (queryServer node allow encodeURIComponent check host) (servers.map stringValue)
          (.node none s!"All RDAP servers for \"{host}\" failed.") >>=
        fun rdap => Eff.ofExcept (answered newDate check host rdap) := by
  unfold lookUp
  rw [h]
  cases servers <;> rfl

theorem lookUp_run (check : DomainCheck) (host : String) (table : List Registry) (s : RdapState) :
    ∃ servers, Serves js table host servers ∧ ∃ signal t,
      Asks node allow encodeURIComponent newDate check host servers s signal t ∧
      (Eff.rescue (lookUp js node allow encodeURIComponent newDate check host
        (table.map Registry.entry)) fun e => pure (check.failed e)).run s = (.ok signal, t) := by
  obtain ⟨servers, hserves, hfor⟩ := serversFor_entries js table host
  refine ⟨servers, hserves, ?_⟩
  rw [lookUp_eq js node allow encodeURIComponent newDate hfor]
  cases hservers : servers with
  | nil => exact ⟨_, s, .none rfl, rfl⟩
  | cons first rest =>
      rw [← hservers, if_neg (by simp [hservers]), Eff.rescue_run]
      rcases firstOf_cases (queryServer node allow encodeURIComponent check host)
          (by simp [hservers] : servers.map stringValue ≠ [])
          (.node none s!"All RDAP servers for \"{host}\" failed.") s with
        ⟨before, server, after, answer, t, hsplit, hasked, hrun⟩ |
          ⟨before, server, u, e, t, hsplit, hasked, hlast, hrun⟩
      · obtain ⟨before, tail, rfl, rfl, htail⟩ := List.map_eq_append_iff.1 hsplit
        obtain ⟨server, after, rfl, rfl, rfl⟩ := List.map_eq_cons_iff.1 htail
        refine ⟨_, t, .answer rfl (by simpa using hasked), ?_⟩
        rw [Eff.bind_run_of_ok hrun]
        unfold reported
        cases hanswered : answered newDate check host answer <;> rfl
      · obtain ⟨before, tail, rfl, rfl, htail⟩ := List.map_eq_append_iff.1 hsplit
        obtain ⟨server, rfl, rfl⟩ := List.map_eq_singleton_iff.1 htail
        refine ⟨_, t, .failure rfl hasked hlast, ?_⟩
        rw [Eff.bind_run, hrun]
        rfl

/-- **A domain check** whose table is loaded asks the servers the table has for its host, in
order, and reports what the first that answers says, or a failure if all of them fail. -/
theorem domainProbe_run (check : DomainCheck) (table : List Registry) (s s' : RdapState)
    (hhost : check.normalizedHost js ≠ "")
    (hload : (loadBootstrap node allow check).run s = (.ok (table.map Registry.entry), s')) :
    ∃ servers, Serves js table (check.normalizedHost js) servers ∧ ∃ signal t,
      Asks node allow encodeURIComponent newDate check (check.normalizedHost js) servers s'
        signal t ∧
      (domainProbe js node allow encodeURIComponent newDate check).run s = (.ok signal, t) := by
  obtain ⟨servers, hserves, signal, t, hasks, hrun⟩ := lookUp_run js node allow encodeURIComponent
    newDate check (check.normalizedHost js) table s'
  refine ⟨servers, hserves, signal, t, hasks, ?_⟩
  unfold domainProbe
  rw [if_neg hhost, ← hrun, Eff.rescue_run, Eff.rescue_run, Eff.bind_run_of_ok hload]

end

/-- A runtime that knows web addresses of the form `https://host/path`. -/
def webNode : Node where
  isIP s := if s = "93.184.216.34" then 4 else 0
  newUrl raw _ :=
    if "https://".toList.isPrefixOf raw.toList then
      some { hostname := String.ofList ((raw.toList.drop 8).takeWhile (· ≠ '/')), port := ""
             protocol := "https:", username := "", password := "", href := raw }
    else none

def responded (statusCode : Nat) (body : String) : SingleResponse where
  statusCode
  headers := []
  body
  location := none
  cert := none

/-- A network that answers as each host does. -/
def answering (answer : String → Except RequestError SingleResponse) : Net := fun _ url =>
  { answer := .ok [⟨"93.184.216.34", 4⟩], all := false, outcome := answer url.hostname }

def comTable : List Registry := [⟨["com"], ["https://a.example/", "https://b.example/"]⟩]

/-- The first server is down, the second knows of no such domain. -/
def acmeCheck : DomainCheck where
  host := some "acme.com"
  now := 0
  readAt := 0
  writtenAt := 0
  net := answering fun host =>
    if host = "a.example" then .error (.node (some "ECONNREFUSED") "connect ECONNREFUSED")
    else .ok (responded 404 "")
  responseMs := 5

theorem domainProbe_run_acme :
    ∃ servers, Serves plainHost comTable "acme.com" servers ∧ ∃ signal t,
      Asks webNode false id (fun _ => none) acmeCheck "acme.com" servers
        { bootstrapCache := some ⟨0, comTable.map Registry.entry⟩ } signal t ∧
      (domainProbe plainHost webNode false id (fun _ => none) acmeCheck).run
        { bootstrapCache := some ⟨0, comTable.map Registry.entry⟩ } = (.ok signal, t) :=
  domainProbe_run plainHost webNode false id (fun _ => none) acmeCheck comTable
    { bootstrapCache := some ⟨0, comTable.map Registry.entry⟩ } _ (by decide) rfl

end UptimeFlow.Monitors
