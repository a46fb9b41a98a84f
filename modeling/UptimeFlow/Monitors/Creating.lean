import UptimeFlow.Monitors.Editing

/-!
# UptimeFlow.Monitors.Creating

The body of a creation, as the form builds it, and the checks of the API.

A form without errors has a name, a target and numbers in their ranges.  What
the schema asks beyond that is `Fits`: texts that are not too long, identifiers
that are identifiers, and a type there is a probe for.
-/

namespace UptimeFlow.Monitors

/-- The payload, as the body of a creation: name and type are always there. -/
def createBody (s : MonitorFormState) : CreateMonitorInput :=
  { (buildMonitorPayload s).toMonitorFields with name := trim s.name, type := s.type }

/-- `createMonitorSchema`, and `validateTargetFields` on what it leaves. -/
def accepts (newUrl : String → Option Url) (body : CreateMonitorInput) : Prop :=
  ∃ input, createMonitorSchema newUrl body = some input ∧
    Security.validateTargetFields
      { type := input.type, url := input.url, host := input.host, port := input.port } = .ok ()

/-- What the schema asks of a form that validates. -/
structure Fits (s : MonitorFormState) : Prop where
  type : s.type ≠ .grpc
  url : typeNeedsUrl s.type = true → length (trim s.url) ≤ 2048
  host : typeNeedsHost s.type = true → length (trim s.host) ≤ 253
  keyword : typeIsKeyword s.type = true → length (trim s.keyword) ≤ 1000
  requestHeaders : typeIsHttp s.type = true → ∀ headers,
    parseHeaders s.requestHeaders = .ok (some headers) → ∀ h ∈ headers, length h.2 ≤ 1000
  escalationPolicyId : s.escalationPolicyId ≠ "" → isUuid s.escalationPolicyId = true
  channelIds : s.channelIds.length ≤ 50 ∧ ∀ id ∈ s.channelIds, isUuid id = true

variable {newUrl : String → Option Url} {s : MonitorFormState}

theorem createMonitorSchema_createBody (h : Valid newUrl s) {input : CreateMonitorInput} :
    createMonitorSchema newUrl (createBody s) = some input ↔
      (s.type ≠ .grpc ∧ fieldsAccepted newUrl (buildMonitorPayload s).toMonitorFields = true) ∧
        input = createBody s := by
  have hname := nameSchema_of_valid h
  have hsame : (createBody s).name = trim s.name := rfl
  have htype : (createBody s).type = s.type := rfl
  have hfields : (createBody s).toMonitorFields = (buildMonitorPayload s).toMonitorFields := rfl
  rw [createMonitorSchema, hsame, hname, Option.bind_some, htype, hfields, supportedType,
    Option.ite_none_right_eq_some, Bool.and_eq_true, decide_eq_true_eq]
  exact and_congr_right fun _ => Option.some_inj.trans eq_comm

/-- Of a host the form asks only that it is given. -/
theorem validateMonitorForm_host (newUrl : String → Option Url) (s : MonitorFormState)
    {host : String} (h : isEmpty host = isEmpty s.host) :
    validateMonitorForm newUrl { s with host } = validateMonitorForm newUrl s := by
  simp only [validateMonitorForm, validateHost, h]
  rfl

/-- The API takes a valid form just if it fits. -/
theorem accepts_iff (h : Valid newUrl s) : accepts newUrl (createBody s) ↔ Fits s := by
  simp only [accepts, createMonitorSchema_createBody h, fieldsAccepted_payload h]
  constructor
  · rintro ⟨input, ⟨⟨htype, hurl, hhost, hkeyword, hheaders, hpolicy, hchannels⟩, rfl⟩, -⟩
    exact ⟨htype, hurl, hhost, hkeyword, hheaders, hpolicy, hchannels⟩
  · intro hf
    refine ⟨createBody s, ⟨⟨hf.type, hf.url, hf.host, hf.keyword, hf.requestHeaders,
      hf.escalationPolicyId, hf.channelIds⟩, rfl⟩, ?_⟩
    refine validateTargetFields_of_valid h hf.type rfl ?_ ?_ ?_
    · exact fun hneeds => if_pos hneeds
    · exact fun hneeds => if_pos hneeds
    · exact fun hneeds => if_pos hneeds

end UptimeFlow.Monitors
