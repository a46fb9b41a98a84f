import UptimeFlow.Joining
import UptimeFlow.Monitors.Leftovers
import UptimeFlow.Security.Requests

/-!
# UptimeFlow.Monitors.Lookups

The DNS probe, and what assertions on DNS records hold of.

A check asks for the records of one type, the one that the first assertion to name
a type names, and the assertions compare the text that joins all of them.  An
assertion that should hold of any one record of the type it names does so as long
as that type is the one asked for and has one record (`sole_self_iff`); what else
has to agree depends on the comparator (`dnsAssertions_iff`).
-/

namespace UptimeFlow.Monitors

open Security (isBlank isBlockedIp unreachable)
open Joining

/-! ## the resolver -/

/-- A record as the resolver returns it. -/
inductive DnsRecord where
  | mx (priority : Nat) (exchange : String)
  | soa (nsname hostmaster : String) (serial : Nat)
  /-- A TXT answer is an array of chunks. -/
  | txt (chunks : List String)
  | text (s : String)
deriving DecidableEq, Repr

structure DnsError where
  code : Option String
  message : Option String
deriving DecidableEq, Repr

structure MxRecord where
  priority : Nat
  exchange : String

structure SoaRecord where
  nsname : String
  hostmaster : String
  serial : Nat

/-- `Resolver`, at the time of a check. -/
structure Resolver where
  resolve4 : String → Except DnsError (List String)
  resolve6 : String → Except DnsError (List String)
  resolveCname : String → Except DnsError (List String)
  resolveNs : String → Except DnsError (List String)
  resolveMx : String → Except DnsError (List MxRecord)
  resolveTxt : String → Except DnsError (List (List String))
  resolveSoa : String → Except DnsError SoaRecord

/-- Render one resolved record as a single comparable string. -/
def stringifyRecord : DnsRecord → String
  | .mx priority exchange => s!"{priority} {exchange}"
  | .soa nsname hostmaster serial => s!"{nsname} {hostmaster} {serial}"
  | .txt chunks => "".intercalate chunks
  | .text s => s

def resolveRecords (resolver : Resolver) (host : String) :
    DnsRecordType → Except DnsError (List String)
  | .a => resolver.resolve4 host
  | .aaaa => resolver.resolve6 host
  | .cname => resolver.resolveCname host
  | .ns => resolver.resolveNs host
  | .mx => do
      let records ← resolver.resolveMx host
      return records.map fun r => stringifyRecord (.mx r.priority r.exchange)
  | .txt => do
      let records ← resolver.resolveTxt host
      return records.map fun chunks => stringifyRecord (.txt chunks)
  | .soa => do
      let record ← resolver.resolveSoa host
      return [stringifyRecord (.soa record.nsname record.hostmaster record.serial)]

/-! ## the probe -/

/-- What a DNS check meets besides the resolver. -/
structure DnsCheck where
  responseMs : Int
  /-- The check is aborted before the resolver answers. -/
  abortedFirst : Bool := false
  /-- `ctx.signal.aborted`, once the lookup failed. -/
  aborted : Bool := abortedFirst

/-- `Promise.race([resolveRecords(…), abortPromise])`. -/
def race (resolver : Resolver) (check : DnsCheck) (host : String) (recordType : DnsRecordType) :
    Except DnsError (List String) :=
  if check.abortedFirst then
    .error { code := some "ETIMEDOUT", message := some "DNS lookup aborted." }
  else resolveRecords resolver host recordType

/-- What the `catch` makes of an error; nothing in the `try` throws an `SsrfError`. -/
def DnsCheck.failed (check : DnsCheck) (host : String) (err : DnsError) : ProbeSignal :=
  if err.code = some "ETIMEDOUT" ∨ check.aborted then
    unreachable check.responseMs "timeout" "DNS lookup timed out."
  else
    let notFound := err.code = some "ENOTFOUND" ∨ err.code = some "ENODATA" ∨
      err.code = some "ESERVFAIL"
    unreachable check.responseMs (if notFound then "dns" else "error")
      (err.message.getD s!"DNS lookup for \"{host}\" failed.")

/-- What is made of the records; no address among them may be blocked. -/
def DnsCheck.resolved (check : DnsCheck) (isIP : String → Nat) (host : String)
    (recordType : DnsRecordType) (records : List String) : ProbeSignal :=
  let addresses := if recordType = .a ∨ recordType = .aaaa then records else []
  match addresses.find? (isBlockedIp isIP) with
  | some value =>
      unreachable check.responseMs "blocked" s!"\"{host}\" resolves to blocked address {value}."
  | none =>
      if records = [] then
        unreachable check.responseMs "dns" s!"No {recordType.label} records found for \"{host}\"."
      else
        { reachable := true, responseMs := check.responseMs, dns := some ⟨recordType, records⟩ }

/-- `monitor.host?.trim()`, where a host that is none counts as empty. -/
def MonitorSnapshot.dnsHost (monitor : MonitorSnapshot) : String :=
  (monitor.host.map trim).getD ""

section
variable {ν : Type} (js : Host ν) (isIP : String → Nat) (resolver : Resolver) (check : DnsCheck)
  (monitor : MonitorSnapshot)

def dnsProbe : ProbeSignal :=
  let host := monitor.dnsHost
  if host = "" then unreachable 0 "config" "Monitor needs a host."
  else
    let recordType := recordTypeFor js monitor.assertions
    match race resolver check host recordType with
    | .ok records => check.resolved isIP host recordType records
    | .error err => check.failed host err

/-! ## what is meant -/

/-- Whether a check holds an assertion to be met. -/
def holds (a : AssertionDef) (signal : ProbeSignal) : Bool :=
  applyComparator js (resolveActual js a signal) a.comparator a.expected

/-- The type an assertion names: the one that is asked for if there is no other assertion. -/
def namedType (a : AssertionDef) : DnsRecordType := recordTypeFor js [a]

/-- The records of a type; there are none where the resolver has an error for it. -/
def recordsOf (recordType : DnsRecordType) : List String :=
  (resolveRecords resolver monitor.dnsHost recordType).toOption.getD []

/-- The assertions that should hold of any one of several records. -/
def OnRecords (a : AssertionDef) : Prop :=
  a.source = .dnsRecord ∧
    (a.comparator = .equals ∨ a.comparator = .contains ∨ a.comparator = .matchesRegex)

/-- A check that comes to its assertions holds those on records to be met just if a record of
the type they name meets them. -/
def AnyOfSeveral : Prop :=
  (dnsProbe js isIP resolver check monitor).reachable = true →
    ∀ a ∈ monitor.assertions, OnRecords a →
      (holds js a (dnsProbe js isIP resolver check monitor) = true ↔
        ∃ record ∈ recordsOf resolver monitor (namedType js a),
          applyComparator js (some record) a.comparator a.expected = true)

/-! ## what has to agree -/

/-- The records a check reports. -/
structure Reported (records : List String) : Prop where
  host : monitor.dnsHost ≠ ""
  answered : check.abortedFirst = false
  resolved : resolveRecords resolver monitor.dnsHost (recordTypeFor js monitor.assertions) =
    .ok records
  allowed : recordTypeFor js monitor.assertions = .a ∨ recordTypeFor js monitor.assertions = .aaaa →
    ∀ record ∈ records, isBlockedIp isIP record = false
  found : records ≠ []

end

/-- The text occurs in a record that is not empty. -/
def Occurs (records : List String) (text : String) : Prop :=
  ∃ record ∈ records, record ≠ "" ∧ includes record text = true

/-- The text takes up some of what stands between two records. -/
def Across (records : List String) (text : String) : Prop :=
  Straddles ", ".toList (records.map String.toList) text.toList

/-- The expression matches a text that is not empty. -/
def Finds {ν : Type} (js : Host ν) (pattern text : String) : Prop :=
  text ≠ "" ∧ js.regexTest pattern text = some true

/-- How the records asked for have to agree with those of the type an assertion names. -/
def Agree {ν : Type} (js : Host ν) (a : AssertionDef) (queried named : List String) : Prop :=
  match a.comparator with
  | .equals => a.expected = "" ∨ (", ".intercalate queried = a.expected ↔ a.expected ∈ named)
  | .contains => Occurs queried a.expected ∨ Across queried a.expected ↔ Occurs named a.expected
  | .matchesRegex =>
      Finds js a.expected (", ".intercalate queried) ↔
        ∃ record ∈ named, Finds js a.expected record
  | _ => True

/-- The joined text is all there is among the records of a type that are not empty. -/
def Sole (queried named : List String) : Prop :=
  ∀ text, text ≠ "" → (", ".intercalate queried = text ↔ text ∈ named)

/-! ## one comparator -/

section
variable {ν : Type} (js : Host ν)

/-- The assertions that a check finds violated are those it does not hold to be met. -/
theorem assertionViolations_eq_nil_iff (assertions : List AssertionDef) (signal : ProbeSignal) :
    assertionViolations js assertions signal = [] ↔
      ∀ a ∈ assertions, holds js a signal = true := by
  simp [assertionViolations, holds, List.filterMap_eq_nil_iff]

theorem isBlank_some (text : String) : isBlank (some text) = decide (text = "") := by
  simp [isBlank]

theorem equals_iff (text expected : String) :
    applyComparator js (some text) .equals expected = true ↔ text ≠ "" ∧ text = expected := by
  simp [applyComparator, isBlank_some]

theorem contains_iff (text expected : String) :
    applyComparator js (some text) .contains expected = true ↔
      text ≠ "" ∧ includes text expected = true := by
  simp [applyComparator, isBlank_some]

theorem matchesRegex_iff (text expected : String) :
    applyComparator js (some text) .matchesRegex expected = true ↔ Finds js expected text := by
  simp only [applyComparator, isBlank_some, Finds, Option.getD_some, Bool.and_eq_true]
  cases js.regexTest expected text with
  | none => simp
  | some b => simp

end

/-! ## joined records -/

theorem joined_ne_empty_iff (records : List String) :
    ", ".intercalate records ≠ "" ↔
      ", ".toList.intercalate (records.map String.toList) ≠ [] := by
  rw [← String.toList_intercalate, Ne, Ne, ← String.toList_eq_nil_iff]

theorem ne_empty_of_mem {records : List String} {record : String} (h : record ∈ records)
    (hne : record ≠ "") : ", ".intercalate records ≠ "" := by
  rw [joined_ne_empty_iff]
  intro hjoined
  have hin : record.toList <:+: ", ".toList.intercalate (records.map String.toList) :=
    infix_join (List.mem_map_of_mem h)
  rw [hjoined, List.infix_nil, String.toList_eq_nil_iff] at hin
  exact hne hin

/-- What the joined records contain is in one of them, or across two. -/
theorem includes_joined_iff {records : List String} (hrecords : records ≠ []) (text : String) :
    (", ".intercalate records ≠ "" ∧ includes (", ".intercalate records) text = true) ↔
      Occurs records text ∨ Across records text := by
  have hsome : records.map String.toList ≠ [] := by simpa using hrecords
  unfold includes Across
  rw [decide_eq_true_eq, String.toList_intercalate, infix_join_iff hsome]
  constructor
  · rintro ⟨hjoined, ⟨cs, hcs, hin⟩ | hacross⟩
    · obtain ⟨record, hrecord, rfl⟩ := List.mem_map.1 hcs
      by_cases hempty : record = ""
      · subst hempty
        -- an empty text, found in an empty record
        have htext : text.toList = [] := by simpa using hin
        cases records with
        | nil => contradiction
        | cons r rs =>
            by_cases hrs : rs = []
            · subst hrs
              left
              exact ⟨r, by simp, by simpa using hjoined, by simp [includes, htext]⟩
            · right
              rw [htext]
              exact straddles_nil (by simp) (by simpa using hrs) r.toList
      · exact .inl ⟨record, hrecord, hempty, by simpa [includes] using hin⟩
    · exact .inr hacross
  · rintro (⟨record, hrecord, hne, hin⟩ | hacross)
    · refine ⟨ne_empty_of_mem hrecord hne, .inl ⟨_, List.mem_map_of_mem hrecord, ?_⟩⟩
      simpa [includes] using hin
    · exact ⟨(joined_ne_empty_iff records).2 hacross.join_ne_nil, .inr hacross⟩

/-- The comparator is met by the joined records just if it is by a record of the type named. -/
theorem agree_iff {ν : Type} (js : Host ν) {a : AssertionDef} {queried : List String}
    (ha : OnRecords a) (hqueried : queried ≠ []) (named : List String) :
    Agree js a queried named ↔
      (applyComparator js (some (", ".intercalate queried)) a.comparator a.expected = true ↔
        ∃ record ∈ named, applyComparator js (some record) a.comparator a.expected = true) := by
  unfold Agree
  rcases ha.2 with hc | hc | hc
  · rw [hc]
    simp only [equals_iff]
    by_cases hempty : a.expected = ""
    · rw [hempty]
      have hnone : ∀ text : String, ¬ (text ≠ "" ∧ text = "") := fun _ h => h.1 h.2
      simp [hnone]
    · have hjust : ∀ text, (text ≠ "" ∧ text = a.expected) ↔ text = a.expected :=
        fun text => ⟨fun h => h.2, fun h => ⟨by rwa [h], h⟩⟩
      simp [hjust, hempty]
  · rw [hc]
    simp only [contains_iff, includes_joined_iff hqueried]
    rfl
  · rw [hc]
    simp only [matchesRegex_iff]

/-! ## every comparator and text -/

theorem agree_of_sole {ν : Type} (js : Host ν) {a : AssertionDef} {queried named : List String}
    (ha : OnRecords a) (hqueried : queried ≠ []) (h : Sole queried named) :
    Agree js a queried named := by
  have hmeets : ∀ text, applyComparator js (some text) a.comparator a.expected = true →
      text ≠ "" := by
    intro text htext
    rcases ha.2 with hc | hc | hc
    · rw [hc, equals_iff] at htext
      exact htext.1
    · rw [hc, contains_iff] at htext
      exact htext.1
    · rw [hc, matchesRegex_iff] at htext
      exact htext.1
  rw [agree_iff js ha hqueried]
  constructor
  · intro hjoined
    exact ⟨_, (h _ (hmeets _ hjoined)).1 rfl, hjoined⟩
  · rintro ⟨record, hrecord, hmet⟩
    rw [(h record (hmeets record hmet)).2 hrecord]
    exact hmet

/-- Whatever the comparator and the text, records agree just if the joined text is the sole one. -/
theorem forall_agree_iff {ν : Type} (js : Host ν) {a : AssertionDef} {queried : List String}
    (ha : OnRecords a) (hqueried : queried ≠ []) (named : List String) :
    (∀ comparator expected, OnRecords { a with comparator, expected } →
      Agree js { a with comparator, expected } queried named) ↔ Sole queried named := by
  constructor
  · intro h text htext
    have hequals := h .equals text ⟨ha.1, .inl rfl⟩
    exact hequals.resolve_left htext
  · intro h comparator expected hon
    exact agree_of_sole js hon hqueried h

/-- Of a type that is asked for itself, the joined text is the sole one if there is one record. -/
theorem sole_self_iff {records : List String} (h : records ≠ []) :
    Sole records records ↔ ∃ record, records = [record] := by
  constructor
  · intro hsole
    by_cases hempty : ", ".intercalate records = ""
    · cases records with
      | nil => contradiction
      | cons r rs =>
          by_cases hrs : rs = []
          · exact ⟨r, by rw [hrs]⟩
          · have hnil := congrArg String.toList hempty
            rw [String.toList_intercalate, List.map_cons,
              List.intercalate_cons_of_ne_nil (by simpa using hrs)] at hnil
            simp at hnil
    · have hmem : ", ".intercalate records ∈ records := (hsole _ hempty).1 rfl
      have hjoin : ", ".toList.intercalate (records.map String.toList) ∈
          records.map String.toList := by
        rw [← String.toList_intercalate]
        exact List.mem_map_of_mem hmem
      obtain ⟨cs, hcs⟩ := (join_mem_iff (by simp)).1 hjoin
      obtain ⟨record, hrecord, -⟩ := List.map_eq_singleton_iff.1 hcs
      exact ⟨record, hrecord⟩
  · rintro ⟨record, rfl⟩ text htext
    simp [eq_comm]

/-! ## the check -/

section
variable {ν : Type} {js : Host ν} {isIP : String → Nat} {resolver : Resolver} {check : DnsCheck}
  {monitor : MonitorSnapshot} {records : List String}

/-- A check that reports records has them all in its signal. -/
theorem dnsProbe_of_reported (h : Reported js isIP resolver check monitor records) :
    dnsProbe js isIP resolver check monitor =
      { reachable := true, responseMs := check.responseMs
        dns := some ⟨recordTypeFor js monitor.assertions, records⟩ } := by
  have hallowed : (if recordTypeFor js monitor.assertions = .a ∨
      recordTypeFor js monitor.assertions = .aaaa then records else []).find?
        (isBlockedIp isIP) = none := by
    split_ifs with htype
    · simpa using h.allowed htype
    · rfl
  simp only [dnsProbe, race, DnsCheck.resolved]
  rw [if_neg h.host, if_neg (by simp [h.answered]), h.resolved]
  dsimp only
  rw [hallowed]
  dsimp only
  rw [if_neg h.found]

theorem DnsCheck.failed_reachable (check : DnsCheck) (host : String) (err : DnsError) :
    (check.failed host err).reachable = false := by
  unfold DnsCheck.failed
  split_ifs <;> rfl

theorem DnsCheck.resolved_reachable {host : String} {recordType : DnsRecordType}
    (h : (check.resolved isIP host recordType records).reachable = true) :
    (recordType = .a ∨ recordType = .aaaa →
      ∀ record ∈ records, isBlockedIp isIP record = false) ∧ records ≠ [] := by
  unfold DnsCheck.resolved at h
  dsimp only at h
  split at h
  · cases h
  · rename_i hallowed
    split_ifs at h with hnone
    · cases h
    · refine ⟨fun htype => ?_, hnone⟩
      simpa [htype] using hallowed

/-- Only a check that reports records reaches its target. -/
theorem reported_of_reachable (h : (dnsProbe js isIP resolver check monitor).reachable = true) :
    ∃ records, Reported js isIP resolver check monitor records := by
  unfold dnsProbe race at h
  dsimp only at h
  by_cases hhost : monitor.dnsHost = ""
  · rw [if_pos hhost] at h
    cases h
  · rw [if_neg hhost] at h
    by_cases hfirst : check.abortedFirst = true
    · rw [if_pos hfirst] at h
      simp [DnsCheck.failed_reachable] at h
    · rw [if_neg hfirst] at h
      cases hresolved : resolveRecords resolver monitor.dnsHost
          (recordTypeFor js monitor.assertions) with
      | error err => simp [hresolved, DnsCheck.failed_reachable] at h
      | ok records =>
          rw [hresolved] at h
          obtain ⟨hallowed, hfound⟩ := DnsCheck.resolved_reachable h
          exact ⟨records, hhost, by simpa using hfirst, hresolved, hallowed, hfound⟩

/-- An assertion on records compares the text that joins those reported. -/
theorem holds_of_reported {a : AssertionDef} (h : Reported js isIP resolver check monitor records)
    (ha : OnRecords a) :
    holds js a (dnsProbe js isIP resolver check monitor) =
      applyComparator js (some (", ".intercalate records)) a.comparator a.expected := by
  rw [dnsProbe_of_reported h]
  simp [holds, resolveActual, ha.1]

end

section
variable {ν : Type} (js : Host ν) (isIP : String → Nat) (resolver : Resolver) (check : DnsCheck)
  (monitor : MonitorSnapshot)

/-- They do if each assertion names the type that is asked for and this has one record. -/
theorem anyOfSeveral_of_single
    (htype : ∀ a ∈ monitor.assertions, OnRecords a →
      namedType js a = recordTypeFor js monitor.assertions)
    (hsingle : ∃ record, recordsOf resolver monitor (recordTypeFor js monitor.assertions) =
      [record]) :
    AnyOfSeveral js isIP resolver check monitor := by
  intro hreach a hmem ha
  obtain ⟨records, hreported⟩ := reported_of_reachable hreach
  have hrecords : recordsOf resolver monitor (recordTypeFor js monitor.assertions) = records := by
    rw [recordsOf, hreported.resolved]
    rfl
  have hsole : Sole records records := by
    rw [sole_self_iff hreported.found, ← hrecords]
    exact hsingle
  rw [htype a hmem ha, hrecords, holds_of_reported hreported ha,
    ← agree_iff js ha hreported.found]
  exact agree_of_sole js ha hreported.found hsole

end

end UptimeFlow.Monitors
