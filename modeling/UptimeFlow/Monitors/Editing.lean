import Mathlib.Data.List.Sort
import UptimeFlow.Monitors.Form
import UptimeFlow.Monitors.Requests

/-!
# UptimeFlow.Monitors.Editing

Saving the edit form, and loading it again.

The payload carries the fields of the form's type, and an update keeps what the
payload does not carry.  So a field the form leaves out when it is empty keeps
its value; numbers come back as `String` writes them, and headers in the order
and the spelling of the record that is stored.  `Lossless` lists what is left
for a form to come back as it was sent (`roundTrips_iff`).
-/

namespace UptimeFlow.Monitors

open Monitoring (MonitorType ProbeRegion OrganizationId MonitorId ChannelId)

/-! ## texts -/

theorem trim_eq_iff {a b : String} : trim a = trim b ↔ Js.trim a.toList = Js.trim b.toList := by
  unfold trim
  exact String.ofList_inj

theorem isEmpty_iff {s : String} : isEmpty s = true ↔ Js.trim s.toList = [] := by
  rw [isEmpty, decide_eq_true_eq]
  exact trim_eq_iff (b := "")

theorem toList_trim (s : String) : (trim s).toList = Js.trim s.toList := String.toList_ofList

@[simp] theorem trim_trim (s : String) : trim (trim s) = trim s := by
  rw [trim_eq_iff, toList_trim]
  exact Trimming.trimmed_trim _

theorem length_pos {s : String} (h : s ≠ "") : 1 ≤ length s := by
  have hne : s.toList ≠ [] := fun he => h (String.toList_inj.1 he)
  unfold length Js.length
  cases hs : s.toList with
  | nil => exact absurd hs hne
  | cons c cs =>
      rw [List.map_cons, List.sum_cons]
      split <;> omega

/-! ## numbers -/

/-- The text is a number as `String` writes it. -/
def IsNumeral (s : String) : Prop := ∃ n, trim s = numeral n

theorem isSpace_of_isDigit {c : Char} (h : c.isDigit = true) : Js.isSpace c = false := by
  have hrange : 48 ≤ c.toNat ∧ c.toNat ≤ 57 := Char.isDigit_iff_toNat.1 h
  simp only [Js.isSpace, List.contains_eq_mem, List.mem_cons, List.not_mem_nil, or_false,
    Bool.or_eq_false_iff, decide_eq_false_iff_not, Bool.and_eq_false_iff]
  omega

theorem isDigit_of_mem {n : Nat} {c : Char} (h : c ∈ Js.toString 10 n) : c.isDigit = true :=
  Nat.isDigit_of_mem_toDigits (by decide) (by decide) h

theorem trim_numeral (n : Nat) : trim (numeral n) = numeral n := by
  have hhead : Js.toString 10 n ≠ [] := Nat.toDigits_ne_nil
  have hstay : ∀ cs : List Char, (∀ c ∈ cs, Js.isSpace c = false) → Js.trim cs = cs := by
    intro cs hcs
    rw [trim_eq, Trimming.trim]
    have hdrop : cs.dropWhile Js.isSpace = cs := List.dropWhile_eq_self_iff.2 fun hl => by
      simp [hcs _ (List.getElem_mem hl)]
    rw [hdrop]
    exact List.rdropWhile_eq_self_iff.2 fun hl => by simp [hcs _ (List.getLast_mem hl)]
  rw [trim, numeral, String.toList_ofList,
    hstay _ fun c hc => isSpace_of_isDigit (isDigit_of_mem hc)]

theorem number_eq {s : String} {n : Nat} (h : trim s = numeral n) : number s = n := by
  have hlist : Js.trim s.toList = Nat.toDigits 10 n := by
    have := congrArg String.toList h
    rwa [toList_trim, numeral, String.toList_ofList] at this
  have hdigits : Js.parseDecimal (Nat.toDigits 10 n) = n := Nat.ofDigitChars_ten_toDigits
  unfold number
  rw [hlist]
  split
  · next digits hminus =>
    have hdigit := isDigit_of_mem (n := n) (c := '-') (by
      rw [Js.toString, Int.toNat_natCast, hminus]
      exact List.mem_cons_self)
    exact absurd hdigit (by decide)
  · rw [hdigits]

/-- A number comes back as it was written just if it was written as `String` does. -/
theorem trim_numeral_number_iff {s : String} :
    trim (numeral (number s).toNat) = trim s ↔ IsNumeral s := by
  rw [trim_numeral]
  constructor
  · exact fun h => ⟨_, h.symm⟩
  · rintro ⟨n, h⟩
    rw [number_eq h, Int.toNat_natCast, h]

/-! ## coming back -/

/-- The form shows what was sent, up to spaces around it, in the fields of the type. -/
structure Agrees (s t : MonitorFormState) : Prop where
  name : trim t.name = trim s.name
  type : t.type = s.type
  url : typeNeedsUrl s.type = true → trim t.url = trim s.url
  host : typeNeedsHost s.type = true → trim t.host = trim s.host
  port : typeNeedsPort s.type = true → trim t.port = trim s.port
  httpMethod : typeIsHttp s.type = true → t.httpMethod = s.httpMethod
  expectedStatus : typeIsHttp s.type = true → trim t.expectedStatus = trim s.expectedStatus
  requestHeaders : typeIsHttp s.type = true → trim t.requestHeaders = trim s.requestHeaders
  keyword : typeIsKeyword s.type = true → trim t.keyword = trim s.keyword
  keywordInverted : typeIsKeyword s.type = true → t.keywordInverted = s.keywordInverted
  intervalSeconds : trim t.intervalSeconds = trim s.intervalSeconds
  timeoutSeconds : typeIsHeartbeat s.type = false → trim t.timeoutSeconds = trim s.timeoutSeconds
  retries : typeIsHeartbeat s.type = false → trim t.retries = trim s.retries
  regions : typeIsHeartbeat s.type = false → t.regions = s.regions
  failureThreshold : trim t.failureThreshold = trim s.failureThreshold
  successThreshold : trim t.successThreshold = trim s.successThreshold
  escalationPolicyId : trim t.escalationPolicyId = trim s.escalationPolicyId
  channelIds : t.channelIds = s.channelIds

/-- The request is accepted, and the monitor it leaves loads as the form that was sent. -/
def RoundTrips (stored : Headers → Headers) (newUrl : String → Option Url) (db : Db)
    (organizationId : OrganizationId) (monitorId : MonitorId) (actor : MonitorActor)
    (s : MonitorFormState) : Prop :=
  ∃ input d, updateMonitorSchema newUrl (buildMonitorPayload s) = some input ∧
    ((update stored noFaults organizationId monitorId input actor).run db).1 = .ok (some d) ∧
    Agrees s (formStateFromMonitor d)

/-- A record comes back from the database with the same entries, in an order of its own. -/
structure Reorders (stored : Headers → Headers) : Prop where
  perm : ∀ headers, (stored headers).Perm headers
  congr : ∀ headers headers', headers.Perm headers' → stored headers = stored headers'

/-- The text shows a record the way it comes back: a header once, a line each, in the order of
the database. -/
def IsHeaderText (stored : Headers → Headers) (text : String) : Prop :=
  ∃ headers, WellFormed headers ∧ headers ≠ [] ∧ stored headers = headers ∧
    trim text = trim (serializeHeaders (some headers))

/-- What the server takes of the form. -/
structure Accepted (db : Db) (organizationId : OrganizationId) (s : MonitorFormState) : Prop where
  type : s.type ≠ .grpc
  url : typeNeedsUrl s.type = true → length (trim s.url) ≤ 2048
  host : typeNeedsHost s.type = true → length (trim s.host) ≤ 253
  keyword : typeIsKeyword s.type = true → length (trim s.keyword) ≤ 1000
  requestHeaders : typeIsHttp s.type = true → ∀ headers,
    parseHeaders s.requestHeaders = .ok (some headers) → ∀ h ∈ headers, length h.2 ≤ 1000
  escalationPolicyId : s.escalationPolicyId ≠ "" → isUuid s.escalationPolicyId = true ∧
    assertPolicyOwned db s.escalationPolicyId organizationId = .ok ()
  channelIds : s.channelIds.length ≤ 50 ∧ (∀ id ∈ s.channelIds, isUuid id = true) ∧
    assertChannelsOwned db s.channelIds organizationId = .ok ()

/-- What the monitor then holds shows as the form did: what the form leaves empty is empty already,
and numbers and headers are written as they come back. -/
structure Kept (stored : Headers → Headers) (m : MonitorRow) (s : MonitorFormState) : Prop where
  channelIds : s.channelIds.Nodup
  intervalSeconds : IsNumeral s.intervalSeconds
  failureThreshold : IsNumeral s.failureThreshold
  successThreshold : IsNumeral s.successThreshold
  port : typeNeedsPort s.type = true → IsNumeral s.port
  timeoutSeconds : typeIsHeartbeat s.type = false → IsNumeral s.timeoutSeconds
  retries : typeIsHeartbeat s.type = false → IsNumeral s.retries
  regions : typeIsHeartbeat s.type = false → s.regions = [] → m.regions = []
  escalationPolicyId : s.escalationPolicyId = "" → trim (m.escalationPolicyId.getD "") = ""
  expectedStatus : typeIsHttp s.type = true →
    if isEmpty s.expectedStatus = true then m.expectedStatus = none
    else IsNumeral s.expectedStatus
  requestHeaders : typeIsHttp s.type = true →
    if parseHeaders s.requestHeaders = .ok none then
      trim (serializeHeaders m.requestHeaders) = trim s.requestHeaders
    else IsHeaderText stored s.requestHeaders

/-- The server takes the form, and nothing of it is lost. -/
structure Lossless (stored : Headers → Headers) (db : Db) (organizationId : OrganizationId)
    (m : MonitorRow) (s : MonitorFormState) : Prop where
  accepted : Accepted db organizationId s
  kept : Kept stored m s

/-! ## what a valid form holds -/

section
variable {newUrl : String → Option Url} {s : MonitorFormState}

theorem intInRange_of_checkRange {field : FormField} {value message : String} {lo hi : Int}
    (h : checkRange field value lo hi message = []) :
    lo ≤ number value ∧ number value ≤ hi := by
  by_contra hrange
  have hnone : intInRange value lo hi = none := by
    unfold intInRange
    split
    · rw [if_pos (by omega)]
    · rfl
  rw [checkRange, if_pos hnone] at h
  cases h

/-- A form without errors, field by field. -/
structure Valid (newUrl : String → Option Url) (s : MonitorFormState) : Prop where
  name : trim s.name ≠ "" ∧ length (trim s.name) ≤ 200
  url : typeNeedsUrl s.type = true → trim s.url ≠ "" ∧ (newUrl (trim s.url)).isSome = true
  host : typeNeedsHost s.type = true → trim s.host ≠ ""
  port : typeNeedsPort s.type = true → 1 ≤ number s.port ∧ number s.port ≤ 65535
  keyword : typeIsKeyword s.type = true → trim s.keyword ≠ ""
  expectedStatus : isEmpty s.expectedStatus = false →
    100 ≤ number s.expectedStatus ∧ number s.expectedStatus ≤ 599
  timeoutSeconds : typeIsHeartbeat s.type = false →
    1 ≤ number s.timeoutSeconds ∧ number s.timeoutSeconds ≤ 60
  retries : typeIsHeartbeat s.type = false → 0 ≤ number s.retries ∧ number s.retries ≤ 5
  intervalSeconds : 30 ≤ number s.intervalSeconds ∧ number s.intervalSeconds ≤ 86400
  failureThreshold : 1 ≤ number s.failureThreshold ∧ number s.failureThreshold ≤ 10
  successThreshold : 1 ≤ number s.successThreshold ∧ number s.successThreshold ≤ 10
  requestHeaders : typeIsHttp s.type = true → ∃ headers,
    parseHeaders s.requestHeaders = .ok headers

theorem valid_of_validateMonitorForm (h : validateMonitorForm newUrl s = []) : Valid newUrl s := by
  simp only [validateMonitorForm, List.append_eq_nil_iff] at h
  obtain ⟨⟨⟨⟨⟨⟨⟨⟨⟨⟨hname, hurl⟩, hhost⟩, hport⟩, hkeyword⟩, hstatus⟩, hprobe⟩, hinterval⟩,
    hfailure⟩, hsuccess⟩, hheaders⟩ := h
  constructor
  · unfold validateName isEmpty at hname
    grind
  · intro htype
    unfold validateUrl isEmpty isValidUrl at hurl
    cases hparsed : newUrl (trim s.url) <;> grind
  · intro htype
    unfold validateHost isEmpty at hhost
    grind
  · intro htype
    rw [validatePort, if_pos htype] at hport
    exact intInRange_of_checkRange hport
  · intro htype
    unfold validateKeyword isEmpty at hkeyword
    grind
  · intro hne
    rw [validateExpectedStatus, if_neg (by simp [hne])] at hstatus
    exact intInRange_of_checkRange hstatus
  · intro htype
    rw [validateProbe, if_neg (by simp [htype]), List.append_eq_nil_iff] at hprobe
    exact intInRange_of_checkRange hprobe.1
  · intro htype
    rw [validateProbe, if_neg (by simp [htype]), List.append_eq_nil_iff] at hprobe
    exact intInRange_of_checkRange hprobe.2
  · exact intInRange_of_checkRange hinterval
  · exact intInRange_of_checkRange hfailure
  · exact intInRange_of_checkRange hsuccess
  · intro htype
    cases hparse : parseHeaders s.requestHeaders with
    | ok headers => exact ⟨headers, rfl⟩
    | error e =>
        have hblank : isEmpty s.requestHeaders = false := by
          rw [Bool.eq_false_iff]
          intro hempty
          rw [parseHeaders, if_pos (isEmpty_iff.1 hempty)] at hparse
          cases hparse
        rw [validateRequestHeaders, hparse, hblank, htype] at hheaders
        cases hheaders

/-! ## what the server makes of it -/

theorem within_number {lo hi : Nat} {value : String} (h : (lo : Int) ≤ number value ∧
    number value ≤ hi) : within lo hi (number value).toNat = true := by
  rw [within, Bool.and_eq_true, decide_eq_true_eq, decide_eq_true_eq]
  omega

theorem all_ite {α : Type} {c : Prop} [Decidable c] {a : α} {p : α → Bool} :
    (if c then some a else none).all p = true ↔ (c → p a = true) := by
  split
  · next hc => simp [hc]
  · next hc => simp [hc]

/-- Of a valid form, the schema checks no more than lengths and identifiers. -/
theorem fieldsAccepted_payload (h : Valid newUrl s) :
    fieldsAccepted newUrl (buildMonitorPayload s).toMonitorFields = true ↔
      (typeNeedsUrl s.type = true → length (trim s.url) ≤ 2048) ∧
      (typeNeedsHost s.type = true → length (trim s.host) ≤ 253) ∧
      (typeIsKeyword s.type = true → length (trim s.keyword) ≤ 1000) ∧
      (typeIsHttp s.type = true → ∀ headers,
        parseHeaders s.requestHeaders = .ok (some headers) → ∀ h ∈ headers, length h.2 ≤ 1000) ∧
      (s.escalationPolicyId ≠ "" → isUuid s.escalationPolicyId = true) ∧
      s.channelIds.length ≤ 50 ∧ ∀ id ∈ s.channelIds, isUuid id = true := by
  have hport : typeNeedsPort s.type = true → within 1 65535 (number s.port).toNat = true :=
    fun htype => within_number (h.port htype)
  have hstatus : typeIsHttp s.type = true ∧ (!isEmpty s.expectedStatus) = true →
      within 100 599 (number s.expectedStatus).toNat = true :=
    fun hset => within_number (h.expectedStatus (by simpa using hset.2))
  have hinterval : within 30 86400 (number s.intervalSeconds).toNat = true :=
    within_number h.intervalSeconds
  have hfailure : within 1 10 (number s.failureThreshold).toNat = true :=
    within_number h.failureThreshold
  have hsuccess : within 1 10 (number s.successThreshold).toNat = true :=
    within_number h.successThreshold
  have hheaders : (((if typeIsHttp s.type = true then
        (parseHeaders s.requestHeaders).toOption.join else none).all
          fun headers => headers.all fun h => length h.2 ≤ 1000) = true) ↔
      (typeIsHttp s.type = true → ∀ headers,
        parseHeaders s.requestHeaders = .ok (some headers) → ∀ h ∈ headers, length h.2 ≤ 1000) := by
    split
    · next htype =>
      obtain ⟨headers, hparse⟩ := h.requestHeaders htype
      rw [hparse]
      cases headers <;> simp [Except.toOption, htype]
    · next htype => simp [htype]
  have htimeout : (if typeIsHeartbeat s.type = true then none
      else some (number s.timeoutSeconds).toNat).all (within 1 60) = true := by
    split
    · rfl
    · next htype => exact within_number (h.timeoutSeconds (by simpa using htype))
  have hretries : (if typeIsHeartbeat s.type = true then none
      else some (number s.retries).toNat).all (within 0 5) = true := by
    split
    · rfl
    · next htype => exact within_number (h.retries (by simpa using htype))
  have hpolicy : ((if s.escalationPolicyId = "" then none
      else some s.escalationPolicyId).all isUuid = true) ↔
      (s.escalationPolicyId ≠ "" → isUuid s.escalationPolicyId = true) := by
    split
    · next hempty => simp [hempty]
    · next hset => simp [hset]
  have hurl : (typeNeedsUrl s.type = true →
      (newUrl (trim s.url)).isSome = true ∧ length (trim s.url) ≤ 2048) ↔
      (typeNeedsUrl s.type = true → length (trim s.url) ≤ 2048) :=
    forall_congr' fun htype => and_iff_right (h.url htype).2
  simp only [fieldsAccepted, buildMonitorPayload, Bool.and_eq_true, all_ite, hheaders,
    htimeout, hretries, hpolicy, Option.all_none, Option.all_some, hinterval, hfailure, hsuccess,
    decide_eq_true_eq, hurl, iff_true_intro hport, iff_true_intro hstatus, List.all_eq_true,
    true_and, and_true, and_assoc]
  constructor
  · rintro ⟨h1, h2, h3, h4, h5, h6, h7⟩
    exact ⟨h1, h2, h4, h3, h5, h6, h7⟩
  · rintro ⟨h1, h2, h3, h4, h5, h6, h7⟩
    exact ⟨h1, h2, h4, h3, h5, h6, h7⟩

variable {stored : Headers → Headers} {db : Db} {organizationId : OrganizationId}
  {monitorId : MonitorId} {m : MonitorRow} {actor : MonitorActor}

theorem nameSchema_of_valid (h : Valid newUrl s) :
    nameSchema (trim s.name) = some (trim s.name) := by
  rw [nameSchema, trim_trim, if_pos ⟨length_pos h.name.1, h.name.2⟩]

theorem updateMonitorSchema_payload (h : Valid newUrl s) {input : UpdateMonitorInput} :
    updateMonitorSchema newUrl (buildMonitorPayload s) = some input ↔
      (s.type ≠ .grpc ∧ fieldsAccepted newUrl (buildMonitorPayload s).toMonitorFields = true) ∧
        input = buildMonitorPayload s := by
  have hname := nameSchema_of_valid h
  have hsame : (buildMonitorPayload s).name = some (trim s.name) := rfl
  have htype : (buildMonitorPayload s).type = some s.type := rfl
  rw [updateMonitorSchema, hsame]
  dsimp only
  rw [hname, Option.map_some, Option.bind_some, htype, Option.all_some, supportedType,
    Option.ite_none_right_eq_some, Bool.and_eq_true, decide_eq_true_eq]
  exact and_congr_right fun _ => Option.some_inj.trans eq_comm

/-- A valid form has the target its type needs. -/
theorem validateTargetFields_of_valid (h : Valid newUrl s) (hgrpc : s.type ≠ .grpc)
    {t : Security.Target} (htype : t.type = s.type)
    (hurl : typeNeedsUrl s.type = true → t.url = some (trim s.url))
    (hhost : typeNeedsHost s.type = true → t.host = some (trim s.host))
    (hport : typeNeedsPort s.type = true → t.port = some (number s.port).toNat) :
    Security.validateTargetFields t = .ok () := by
  have hneUrl := h.url
  have hneHost := h.host
  have hrange := h.port
  unfold Security.validateTargetFields
  rw [htype]
  cases hs : s.type with
  | grpc => exact absurd hs hgrpc
  | heartbeat => rfl
  | http | keyword | ssl =>
      rw [hs] at hurl hneUrl
      simp [hurl rfl, Security.isBlank, (hneUrl rfl).1]
  | ping | dns | domain =>
      rw [hs] at hhost hneHost
      simp [hhost rfl, Security.isBlank, hneHost rfl]
  | tcp | port =>
      rw [hs] at hhost hneHost hport hrange
      have hpos := (hrange rfl).1
      have hzero : ¬ (number s.port).toNat = 0 := by omega
      simp [hhost rfl, hport rfl, Security.isBlank, hneHost rfl, hzero]

theorem checkTarget_payload (h : Valid newUrl s) (htype : s.type ≠ .grpc) :
    checkTarget (mergedTarget m (buildMonitorPayload s)) = .ok () := by
  have htarget : Security.validateTargetFields (mergedTarget m (buildMonitorPayload s)) = .ok () := by
    refine validateTargetFields_of_valid h htype rfl ?_ ?_ ?_
    · intro hneeds
      simp [mergedTarget, buildMonitorPayload, hneeds]
    · intro hneeds
      simp [mergedTarget, buildMonitorPayload, hneeds]
    · intro hneeds
      simp [mergedTarget, buildMonitorPayload, hneeds]
  rw [checkTarget, htarget]

/-- Past the target, the guards are those of the escalation policy and the channels. -/
theorem checkUpdate_payload (h : Valid newUrl s) (htype : s.type ≠ .grpc) :
    checkUpdate db organizationId m (buildMonitorPayload s) = .ok () ↔
      (s.escalationPolicyId ≠ "" →
        assertPolicyOwned db s.escalationPolicyId organizationId = .ok ()) ∧
      assertChannelsOwned db s.channelIds organizationId = .ok () := by
  have hcheck : checkUpdate db organizationId m (buildMonitorPayload s) =
      checkReferences db organizationId (buildMonitorPayload s).toMonitorFields := by
    rw [checkUpdate, checkTarget_payload h htype]
    rfl
  have hgroup : (buildMonitorPayload s).groupId = none := rfl
  have hpolicy : (buildMonitorPayload s).escalationPolicyId =
      if s.escalationPolicyId = "" then none else some s.escalationPolicyId := rfl
  have hchannels : (buildMonitorPayload s).channelIds = some s.channelIds := rfl
  rw [hcheck, checkReferences, hgroup, hpolicy, hchannels, Option.getD_some]
  by_cases hempty : s.escalationPolicyId = ""
  · rw [if_pos hempty]
    simp [ifGiven, hempty, bind, Except.bind]
  · rw [if_neg hempty]
    cases howned : assertPolicyOwned db s.escalationPolicyId organizationId with
    | error e => simp [ifGiven, hempty, howned, bind, Except.bind]
    | ok u => simp [ifGiven, hempty, howned, bind, Except.bind]

/-! ## what the form shows then -/

variable (stored m actor)

theorem port_agrees_iff (htype : typeNeedsPort s.type = true) :
    trim (((updatedRow stored m (buildMonitorPayload s) actor).port.map numeral).getD "") =
        trim s.port ↔ IsNumeral s.port := by
  have hrow : (updatedRow stored m (buildMonitorPayload s) actor).port =
      (if typeNeedsPort s.type = true then some (number s.port).toNat else none).or m.port := rfl
  rw [hrow, if_pos htype]
  exact trim_numeral_number_iff

theorem timeoutSeconds_agrees_iff (htype : typeIsHeartbeat s.type = false) :
    trim (numeral (updatedRow stored m (buildMonitorPayload s) actor).timeoutSeconds) =
        trim s.timeoutSeconds ↔ IsNumeral s.timeoutSeconds := by
  have hrow : (updatedRow stored m (buildMonitorPayload s) actor).timeoutSeconds =
      (if typeIsHeartbeat s.type = true then none
        else some (number s.timeoutSeconds).toNat).getD m.timeoutSeconds := rfl
  rw [hrow, if_neg (by simp [htype])]
  exact trim_numeral_number_iff

theorem retries_agrees_iff (htype : typeIsHeartbeat s.type = false) :
    trim (numeral (updatedRow stored m (buildMonitorPayload s) actor).retries) =
        trim s.retries ↔ IsNumeral s.retries := by
  have hrow : (updatedRow stored m (buildMonitorPayload s) actor).retries =
      (if typeIsHeartbeat s.type = true then none
        else some (number s.retries).toNat).getD m.retries := rfl
  rw [hrow, if_neg (by simp [htype])]
  exact trim_numeral_number_iff

theorem expectedStatus_agrees_iff (htype : typeIsHttp s.type = true) :
    trim (((updatedRow stored m (buildMonitorPayload s) actor).expectedStatus.map numeral).getD "") =
        trim s.expectedStatus ↔
      if isEmpty s.expectedStatus = true then m.expectedStatus = none
      else IsNumeral s.expectedStatus := by
  have hpayload : (buildMonitorPayload s).expectedStatus =
      if isEmpty s.expectedStatus = true then none
      else some (number s.expectedStatus).toNat := by
    unfold buildMonitorPayload
    dsimp only
    rw [htype]
    cases isEmpty s.expectedStatus <;> rfl
  have hrow : (updatedRow stored m (buildMonitorPayload s) actor).expectedStatus =
      (buildMonitorPayload s).expectedStatus.or m.expectedStatus := rfl
  rw [hrow, hpayload]
  by_cases hempty : isEmpty s.expectedStatus = true
  · have hblank : trim s.expectedStatus = trim "" := trim_eq_iff.2 (isEmpty_iff.1 hempty)
    rw [if_pos hempty, if_pos hempty, hblank, Option.none_or]
    cases m.expectedStatus with
    | none => simp
    | some n =>
        have hne : numeral n ≠ "" := fun he =>
          Nat.toDigits_ne_nil (String.ofList_inj.1 (he : String.ofList _ = String.ofList []))
        rw [Option.map_some, Option.getD_some, trim_numeral]
        exact iff_of_false hne (Option.some_ne_none n)
  · rw [if_neg hempty, if_neg hempty]
    exact trim_numeral_number_iff

theorem regions_agrees_iff (htype : typeIsHeartbeat s.type = false) :
    (updatedRow stored m (buildMonitorPayload s) actor).regions = s.regions ↔
      (s.regions = [] → m.regions = []) := by
  have hrow : (updatedRow stored m (buildMonitorPayload s) actor).regions =
      (if !typeIsHeartbeat s.type && s.regions.length > 0 then some s.regions else none).getD
        m.regions := rfl
  rw [hrow, htype]
  cases s.regions <;> simp

theorem escalationPolicyId_agrees_iff :
    trim ((updatedRow stored m (buildMonitorPayload s) actor).escalationPolicyId.getD "") =
        trim s.escalationPolicyId ↔
      (s.escalationPolicyId = "" → trim (m.escalationPolicyId.getD "") = "") := by
  have hrow : (updatedRow stored m (buildMonitorPayload s) actor).escalationPolicyId =
      (if s.escalationPolicyId = "" then none else some s.escalationPolicyId).or
        m.escalationPolicyId := rfl
  rw [hrow]
  by_cases hempty : s.escalationPolicyId = ""
  · rw [if_pos hempty, hempty, Option.none_or]
    exact ⟨fun h _ => h, fun h => h rfl⟩
  · simp [hempty]

/-- A record is read back as the database returned it, or is the one that was there. -/
theorem requestHeaders_agrees_iff (hstored : Reorders stored) (h : Valid newUrl s)
    (htype : typeIsHttp s.type = true) :
    trim (serializeHeaders (updatedRow stored m (buildMonitorPayload s) actor).requestHeaders) =
        trim s.requestHeaders ↔
      if parseHeaders s.requestHeaders = .ok none then
        trim (serializeHeaders m.requestHeaders) = trim s.requestHeaders
      else IsHeaderText stored s.requestHeaders := by
  have hrow : (updatedRow stored m (buildMonitorPayload s) actor).requestHeaders =
      ((if typeIsHttp s.type = true then (parseHeaders s.requestHeaders).toOption.join
        else none).map stored).or m.requestHeaders := rfl
  obtain ⟨parsed, hparse⟩ := h.requestHeaders htype
  rw [hrow, if_pos htype, hparse]
  cases parsed with
  | none => rw [if_pos rfl]; rfl
  | some headers =>
      rw [if_neg (by simp)]
      change trim (serializeHeaders (some (stored headers))) = trim s.requestHeaders ↔ _
      obtain ⟨hwell, hne⟩ := wellFormed_of_parse hparse
      have hperm := hstored.perm headers
      constructor
      · intro hagrees
        refine ⟨stored headers, ?_, ?_, hstored.congr _ _ hperm, hagrees.symm⟩
        · exact ⟨fun x hx => hwell.header x (hperm.mem_iff.1 hx),
            (hperm.map Prod.fst).nodup_iff.2 hwell.keys_nodup⟩
        · exact fun hnil => hne (hnil ▸ hperm).nil_eq.symm
      · rintro ⟨headers', hwell', hne', hsame, htext⟩
        have hback := parseHeaders_serialize hwell' hne' (trim_eq_iff.1 htext)
        rw [hparse] at hback
        obtain rfl := Option.some.inj (Except.ok.inj hback)
        rw [hsame, htext]

/-- The fields of the type that an update always carries show as they were sent. -/
structure Sent (s t : MonitorFormState) : Prop where
  name : trim t.name = trim s.name
  type : t.type = s.type
  url : typeNeedsUrl s.type = true → trim t.url = trim s.url
  host : typeNeedsHost s.type = true → trim t.host = trim s.host
  httpMethod : typeIsHttp s.type = true → t.httpMethod = s.httpMethod
  keyword : typeIsKeyword s.type = true → trim t.keyword = trim s.keyword
  keywordInverted : typeIsKeyword s.type = true → t.keywordInverted = s.keywordInverted

variable {stored m actor}

theorem sent_updatedRow {d : MonitorDetail}
    (hrow : d.toMonitorRow = updatedRow stored m (buildMonitorPayload s) actor) :
    Sent s (formStateFromMonitor d) := by
  obtain ⟨row, assertions, bound⟩ := d
  subst hrow
  constructor
  · exact trim_trim s.name
  · rfl
  · intro htype
    simp [formStateFromMonitor, updatedRow, buildMonitorPayload, htype]
  · intro htype
    simp [formStateFromMonitor, updatedRow, buildMonitorPayload, htype]
  · intro htype
    simp [formStateFromMonitor, updatedRow, buildMonitorPayload, htype]
  · intro htype
    simp [formStateFromMonitor, updatedRow, buildMonitorPayload, htype]
  · intro htype
    simp [formStateFromMonitor, updatedRow, buildMonitorPayload, htype]

/-- **What is left of a form** after an update, once it is accepted. -/
theorem agrees_iff (hstored : Reorders stored) (h : Valid newUrl s) {d : MonitorDetail}
    (hrow : d.toMonitorRow = updatedRow stored m (buildMonitorPayload s) actor)
    (hbound : d.boundChannelIds =
      s.channelIds.foldl (fun ids c => if c ∈ ids then ids else ids ++ [c]) []) :
    Agrees s (formStateFromMonitor d) ↔ Kept stored m s := by
  have hsent := sent_updatedRow hrow
  obtain ⟨row, assertions, bound⟩ := d
  subst hrow hbound
  constructor
  · intro ha
    exact
      { channelIds := foldl_insert_eq_self_iff.1 ha.channelIds
        intervalSeconds := trim_numeral_number_iff.1 ha.intervalSeconds
        failureThreshold := trim_numeral_number_iff.1 ha.failureThreshold
        successThreshold := trim_numeral_number_iff.1 ha.successThreshold
        port := fun htype => (port_agrees_iff stored m actor htype).1 (ha.port htype)
        timeoutSeconds := fun htype =>
          (timeoutSeconds_agrees_iff stored m actor htype).1 (ha.timeoutSeconds htype)
        retries := fun htype => (retries_agrees_iff stored m actor htype).1 (ha.retries htype)
        regions := fun htype => (regions_agrees_iff stored m actor htype).1 (ha.regions htype)
        escalationPolicyId :=
          (escalationPolicyId_agrees_iff stored m actor).1 ha.escalationPolicyId
        expectedStatus := fun htype =>
          (expectedStatus_agrees_iff stored m actor htype).1 (ha.expectedStatus htype)
        requestHeaders := fun htype =>
          (requestHeaders_agrees_iff stored m actor hstored h htype).1 (ha.requestHeaders htype) }
  · intro hk
    exact
      { hsent with
        channelIds := foldl_insert_eq_self_iff.2 hk.channelIds
        intervalSeconds := trim_numeral_number_iff.2 hk.intervalSeconds
        failureThreshold := trim_numeral_number_iff.2 hk.failureThreshold
        successThreshold := trim_numeral_number_iff.2 hk.successThreshold
        port := fun htype => (port_agrees_iff stored m actor htype).2 (hk.port htype)
        timeoutSeconds := fun htype =>
          (timeoutSeconds_agrees_iff stored m actor htype).2 (hk.timeoutSeconds htype)
        retries := fun htype => (retries_agrees_iff stored m actor htype).2 (hk.retries htype)
        regions := fun htype => (regions_agrees_iff stored m actor htype).2 (hk.regions htype)
        escalationPolicyId :=
          (escalationPolicyId_agrees_iff stored m actor).2 hk.escalationPolicyId
        expectedStatus := fun htype =>
          (expectedStatus_agrees_iff stored m actor htype).2 (hk.expectedStatus htype)
        requestHeaders := fun htype =>
          (requestHeaders_agrees_iff stored m actor hstored h htype).2 (hk.requestHeaders htype) }

/-- An update by a valid form goes through just if the server takes the form. -/
theorem accepted_iff (h : Valid newUrl s)
    (hfound : db.findMonitor organizationId monitorId = some m) :
    (∃ input d, updateMonitorSchema newUrl (buildMonitorPayload s) = some input ∧
      ((update stored noFaults organizationId monitorId input actor).run db).1 = .ok (some d)) ↔
      Accepted db organizationId s := by
  simp only [updateMonitorSchema_payload h, fieldsAccepted_payload h]
  constructor
  · rintro ⟨input, d, ⟨⟨htype, hurl, hhost, hkeyword, hheaders, hpolicy, hlength, hids⟩, rfl⟩, hrun⟩
    obtain ⟨existing, hexisting, hcheck⟩ := exists_of_accepted hrun
    obtain ⟨howned, hchannels⟩ := (checkUpdate_payload h htype).1 hcheck
    exact ⟨htype, hurl, hhost, hkeyword, hheaders, fun hne => ⟨hpolicy hne, howned hne⟩,
      hlength, hids, hchannels⟩
  · intro ha
    have hcheck : checkUpdate db organizationId m (buildMonitorPayload s) = .ok () :=
      (checkUpdate_payload h ha.type).2
        ⟨fun hne => (ha.escalationPolicyId hne).2, ha.channelIds.2.2⟩
    obtain ⟨d, hrun, -, -⟩ := update_run_ok hfound hcheck
    exact ⟨_, d, ⟨⟨ha.type, ha.url, ha.host, ha.keyword, ha.requestHeaders,
      fun hne => (ha.escalationPolicyId hne).1, ha.channelIds.1, ha.channelIds.2.1⟩, rfl⟩, hrun⟩

end

/-- **A form comes back as it was sent** just if the server takes it and nothing is lost. -/
theorem roundTrips_iff {stored : Headers → Headers} (hstored : Reorders stored)
    {newUrl : String → Option Url} {db : Db} {organizationId : OrganizationId}
    {monitorId : MonitorId} {m : MonitorRow}
    (hfound : db.findMonitor organizationId monitorId = some m) (actor : MonitorActor)
    {s : MonitorFormState} (hvalid : validateMonitorForm newUrl s = []) :
    RoundTrips stored newUrl db organizationId monitorId actor s ↔
      Lossless stored db organizationId m s := by
  have h := valid_of_validateMonitorForm hvalid
  have hanswer : ∀ input d, updateMonitorSchema newUrl (buildMonitorPayload s) = some input →
      ((update stored noFaults organizationId monitorId input actor).run db).1 = .ok (some d) →
      (Agrees s (formStateFromMonitor d) ↔ Kept stored m s) := by
    intro input d hinput hrun
    obtain ⟨-, rfl⟩ := (updateMonitorSchema_payload h).1 hinput
    obtain ⟨existing, hexisting, hcheck⟩ := exists_of_accepted hrun
    obtain rfl := Option.some.inj (hfound.symm.trans hexisting)
    obtain ⟨d', hrun', hrow, hbound⟩ := update_run_ok hfound hcheck
    obtain rfl := Option.some.inj (Except.ok.inj (hrun.symm.trans hrun'))
    exact agrees_iff hstored h hrow (hbound.trans boundChannelIds_listWrites)
  constructor
  · rintro ⟨input, d, hinput, hrun, hagrees⟩
    exact ⟨(accepted_iff h hfound).1 ⟨input, d, hinput, hrun⟩,
      (hanswer input d hinput hrun).1 hagrees⟩
  · rintro ⟨haccepted, hkept⟩
    obtain ⟨input, d, hinput, hrun⟩ := (accepted_iff h hfound).2 haccepted
    exact ⟨input, d, hinput, hrun, (hanswer input d hinput hrun).2 hkept⟩

/-! ## a status that stays -/

/-- Keys by length, then in their order: how the database lists an object. -/
def keyOrder (a b : String × String) : Prop :=
  a.1.utf8ByteSize < b.1.utf8ByteSize ∨
    a.1.utf8ByteSize = b.1.utf8ByteSize ∧ (a.1 < b.1 ∨ a.1 = b.1 ∧ a.2 ≤ b.2)

instance : DecidableRel keyOrder := fun a b =>
  inferInstanceAs (Decidable (a.1.utf8ByteSize < b.1.utf8ByteSize ∨
    a.1.utf8ByteSize = b.1.utf8ByteSize ∧ (a.1 < b.1 ∨ a.1 = b.1 ∧ a.2 ≤ b.2)))

instance : Std.Total keyOrder where
  total a b := by
    unfold keyOrder
    grind

instance : IsTrans (String × String) keyOrder where
  trans a b c h h' := by
    unfold keyOrder at *
    grind

instance : Std.Antisymm keyOrder where
  antisymm a b h h' := by
    unfold keyOrder at *
    grind

def jsonb (headers : Headers) : Headers := headers.insertionSort keyOrder

theorem reorders_jsonb : Reorders jsonb where
  perm headers := List.perm_insertionSort keyOrder headers
  congr headers headers' h := by
    have hperm : (jsonb headers).Perm (jsonb headers') :=
      (List.perm_insertionSort keyOrder headers).trans
        (h.trans (List.perm_insertionSort keyOrder headers').symm)
    exact hperm.eq_of_pairwise' (List.pairwise_insertionSort keyOrder headers)
      (List.pairwise_insertionSort keyOrder headers')

/-- A check that expects a status of 200. -/
def expecting200 : MonitorRow where
  id := "m"
  organizationId := "acme"
  groupId := none
  name := "API"
  type := .http
  url := some "https://x.com"
  host := none
  port := none
  requestBody := none
  keyword := none
  escalationPolicyId := none

/-- Its form, with the status as it is typed in. -/
def withStatus (status : String) : MonitorFormState :=
  { formStateFromMonitor (toDetail {} expecting200) with expectedStatus := status }

def anyUrl (_ : String) : Option Url :=
  some { hostname := "x.com", port := "", protocol := "https:" }

theorem roundTrips_iff_status :
    RoundTrips jsonb anyUrl { monitors := [expecting200] } "acme" "m"
      { userId := none, actorType := "user" } (withStatus " 204") :=
  (roundTrips_iff reorders_jsonb rfl { userId := none, actorType := "user" } (by decide +kernel)).2
    { accepted :=
        { type := by decide
          url := fun _ => by decide +kernel
          host := by decide
          keyword := by decide
          requestHeaders := fun _ _ h => by cases h
          escalationPolicyId := by decide
          channelIds := by decide +kernel }
      kept :=
        { channelIds := by decide
          intervalSeconds := ⟨60, by decide +kernel⟩
          failureThreshold := ⟨1, by decide +kernel⟩
          successThreshold := ⟨1, by decide +kernel⟩
          port := fun h => absurd h (by decide)
          timeoutSeconds := fun _ => ⟨30, by decide +kernel⟩
          retries := fun _ => ⟨2, by decide +kernel⟩
          regions := fun _ _ => rfl
          escalationPolicyId := fun _ => by decide +kernel
          expectedStatus := fun _ => ⟨204, by decide +kernel⟩
          requestHeaders := fun _ => by
            rw [if_pos (by decide +kernel)]
            rfl } }

/-- The status is cleared, the form is saved, and the monitor still expects 200. -/
theorem not_roundTrips_cleared :
    Reorders jsonb ∧ validateMonitorForm anyUrl (withStatus "") = [] ∧
      ((update jsonb noFaults "acme" "m" (buildMonitorPayload (withStatus ""))
          { userId := none, actorType := "user" }).run { monitors := [expecting200] }).1 =
        .ok (some (toDetail {} expecting200)) ∧
      (formStateFromMonitor (toDetail {} expecting200)).expectedStatus = "200" ∧
      ¬ RoundTrips jsonb anyUrl { monitors := [expecting200] } "acme" "m"
        { userId := none, actorType := "user" } (withStatus "") := by
  have hrun : ((update jsonb noFaults "acme" "m" (buildMonitorPayload (withStatus ""))
      { userId := none, actorType := "user" }).run { monitors := [expecting200] }).1 =
      .ok (some (toDetail {} expecting200)) := by decide +kernel
  have hinput : updateMonitorSchema anyUrl (buildMonitorPayload (withStatus "")) =
      some (buildMonitorPayload (withStatus "")) := by decide +kernel
  have hstays : trim (formStateFromMonitor (toDetail {} expecting200)).expectedStatus ≠
      trim (withStatus "").expectedStatus := by decide +kernel
  refine ⟨reorders_jsonb, by decide +kernel, hrun, by decide +kernel, ?_⟩
  rintro ⟨input, d, hsent, hanswer, hagrees⟩
  obtain rfl := Option.some.inj (hinput.symm.trans hsent)
  obtain rfl := Option.some.inj (Except.ok.inj (hrun.symm.trans hanswer))
  exact hstays (hagrees.expectedStatus rfl)

end UptimeFlow.Monitors
