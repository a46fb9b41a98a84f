import UptimeFlow.IsoDate
import UptimeFlow.JsonWriting
import UptimeFlow.Notifications.Telegram

/-!
# UptimeFlow.Notifications.Webhooks

Signed deliveries to a customer's endpoint.

The signature is an HMAC of `timestamp.body`.  An endpoint that runs
`verifySignature` and then reads the body has the event that was sent
(`receive_send`).  A signature is good for one delivery: what else is accepted
under it, at whatever time it claims to be from, is the same event again, or
the HMAC has a collision (`receive_signed`).

Where the timestamp ends is not itself signed (`signPayload_shift`), so this
asks for timestamps that are those of instants.  Nor is the event header, which
is why the event is read from the body.
-/

namespace UptimeFlow.Notifications.Webhooks

open JsonText

/-! ## payloads -/

/-- The name of an event, as it is sent. -/
def eventName : IntegrationEventName → String
  | .incidentOpened => "incident.opened"
  | .incidentAcknowledged => "incident.acknowledged"
  | .incidentUpdated => "incident.updated"
  | .incidentResolved => "incident.resolved"
  | .maintenanceCreated => "maintenance.created"
  | .maintenanceUpdated => "maintenance.updated"
  | .test => "test"

structure PayloadData where
  title : String
  summary : Option String := none
  monitorName : Option String := none
  organizationName : Option String := none
  status : Option String := none
  severity : Option String := none
  url : Option String := none

structure WebhookPayload where
  event : String
  timestamp : String
  data : PayloadData

/-- `WebhookMessageBuilder.build`. -/
def build (event : IntegrationEvent) : WebhookPayload where
  event := eventName event.event
  timestamp := event.timestamp
  data := {
    title := event.title
    summary := event.summary
    monitorName := event.monitorName
    organizationName := event.organizationName
    status := event.status
    severity := event.severity
    url := event.url }

def text (s : String) : Value := .string s.toList

/-- The members of an object; one that is undefined is not written. -/
def written (fields : List (String × Option String)) : List (List Char × Value) :=
  fields.filterMap fun field => field.2.map fun s => (field.1.toList, text s)

def PayloadData.fields (data : PayloadData) : List (String × Option String) :=
  [("title", some data.title), ("summary", data.summary), ("monitorName", data.monitorName),
    ("organizationName", data.organizationName), ("status", data.status),
    ("severity", data.severity), ("url", data.url)]

def PayloadData.toJson (data : PayloadData) : Value := .object (written data.fields)

def WebhookPayload.toJson (payload : WebhookPayload) : Value :=
  .object [("event".toList, text payload.event), ("timestamp".toList, text payload.timestamp),
    ("data".toList, payload.data.toJson)]

/-! ## signatures -/

def signatureHeader : String := "X-UptimeFlow-Signature"
def eventHeader : String := "X-UptimeFlow-Event"
def timestampHeader : String := "X-UptimeFlow-Timestamp"

/-- `digest("hex")`. -/
def hex (bytes : List UInt8) : List Char :=
  bytes.flatMap fun b => [hexDigit (b.toNat / 16), hexDigit (b.toNat % 16)]

section
-- HMAC-SHA256 of a message under a secret
variable (hmac : String → String → List UInt8)

def signPayload (secret timestamp body : String) : String :=
  "sha256=" ++ String.ofList (hex (hmac secret (timestamp ++ "." ++ body)))

def timingSafeEqual (a b : ByteArray) : Bool := a.data = b.data

def verifySignature (secret timestamp body signature : String) : Bool :=
  let a := (signPayload hmac secret timestamp body).toUTF8
  let b := signature.toUTF8
  a.size = b.size && timingSafeEqual a b

/-! ## deliveries -/

structure Delivery where
  endpoint : String
  headers : List (String × String)
  body : String

def Delivery.header (d : Delivery) (name : String) : Option String :=
  (d.headers.find? (·.1 = name)).map (·.2)

/-- `WebhookNotifier.send`, up to the request that is made. -/
def send (endpoint secret : String) (event : IntegrationEvent) : Delivery :=
  let body := String.ofList (build event).toJson.write
  { endpoint, body
    headers := [("content-type", "application/json"), (eventHeader, eventName event.event),
      (timestampHeader, event.timestamp),
      (signatureHeader, signPayload hmac secret event.timestamp body)] }

/-- What a customer's endpoint makes of a delivery: the body, if the signature is good. -/
def receive (secret : String) (d : Delivery) : Option Value := do
  let timestamp ← d.header timestampHeader
  let signature ← d.header signatureHeader
  if verifySignature hmac secret timestamp d.body signature then parse d.body.toList else none

end

/-! ## reading a payload -/

/-- The text of a member. -/
def textOf (key : String) (v : Value) : Option String :=
  match v.get key.toList with
  | some (.string s) => some (String.ofList s)
  | _ => none

def allEvents : List IntegrationEventName :=
  [.incidentOpened, .incidentAcknowledged, .incidentUpdated, .incidentResolved,
    .maintenanceCreated, .maintenanceUpdated, .test]

/-- The event a payload tells of. -/
def readEvent (v : Value) : Option IntegrationEvent := do
  let name ← textOf "event" v
  let event ← allEvents.find? (eventName · = name)
  let timestamp ← textOf "timestamp" v
  let data ← v.get "data".toList
  let title ← textOf "title" data
  return { event, title, timestamp
           summary := textOf "summary" data
           organizationName := textOf "organizationName" data
           monitorName := textOf "monitorName" data
           status := textOf "status" data
           severity := textOf "severity" data
           url := textOf "url" data }

theorem find_written_of_not_mem {fields : List (String × Option String)} {key : String}
    (h : key ∉ fields.map Prod.fst) :
    (written fields).reverse.find? (fun m => m.1 = key.toList) = none := by
  refine List.find?_eq_none.2 fun m hm => ?_
  obtain ⟨field, hfield, hwritten⟩ := List.mem_filterMap.1 (List.mem_reverse.1 hm)
  obtain ⟨s, -, rfl⟩ := Option.map_eq_some_iff.1 hwritten
  have hne : field.1 ≠ key := fun heq => h (heq ▸ List.mem_map_of_mem hfield)
  simpa [String.toList_inj] using hne

theorem find_written {fields : List (String × Option String)}
    (hkeys : (fields.map Prod.fst).Nodup) {key : String} {value : Option String}
    (h : (key, value) ∈ fields) :
    (written fields).reverse.find? (fun m => m.1 = key.toList) =
      value.map fun s => (key.toList, text s) := by
  induction fields with
  | nil => cases h
  | cons field fields ih =>
      rw [List.map_cons, List.nodup_cons] at hkeys
      have hcons : (written (field :: fields)).reverse =
          (written fields).reverse ++ (field.2.map fun s => (field.1.toList, text s)).toList := by
        cases hfield : field.2 <;> simp [written, hfield]
      rw [hcons, List.find?_append]
      obtain rfl | hmem := List.mem_cons.1 h
      · rw [find_written_of_not_mem hkeys.1, Option.none_or]
        cases value <;> simp
      · rw [ih hkeys.2 hmem]
        have hne : field.1 ≠ key := fun heq => hkeys.1 (heq ▸ List.mem_map_of_mem hmem)
        cases value with
        | some s => rfl
        | none => cases field.2 <;> simp [String.toList_inj, hne]

/-- A member is read back, or found missing. -/
theorem textOf_written {fields : List (String × Option String)}
    (hkeys : (fields.map Prod.fst).Nodup) {key : String} {value : Option String}
    (h : (key, value) ∈ fields) : textOf key (.object (written fields)) = value := by
  rw [textOf, Value.get, find_written hkeys h]
  cases value <;> simp [text]

theorem nodup_fields (data : PayloadData) : (data.fields.map Prod.fst).Nodup := by
  simp only [PayloadData.fields, List.map_cons, List.map_nil]
  decide

theorem find_eventName (e : IntegrationEventName) :
    allEvents.find? (eventName · = eventName e) = some e := by
  cases e <;> decide +kernel

theorem normal_written (fields : List (String × Option String)) :
    normalMembers (written fields) = written fields := by
  rw [normalMembers_eq_map, List.map_congr_left (g := id) fun m hm => ?_, List.map_id]
  obtain ⟨field, -, hfield⟩ := List.mem_filterMap.1 hm
  obtain ⟨s, -, rfl⟩ := Option.map_eq_some_iff.1 hfield
  rfl

theorem normal_toJson (payload : WebhookPayload) : payload.toJson.normal = payload.toJson := by
  simp only [WebhookPayload.toJson, PayloadData.toJson, text, Value.normal, normalMembers,
    normal_written]

theorem textOf_of_get {key s : String} {v : Value} (h : v.get key.toList = some (text s)) :
    textOf key v = some s := by
  rw [textOf, h, text]
  exact congrArg some String.ofList_toList

theorem textOf_payload (payload : WebhookPayload) :
    textOf "event" payload.toJson = some payload.event ∧
      textOf "timestamp" payload.toJson = some payload.timestamp := by
  exact ⟨textOf_of_get rfl, textOf_of_get rfl⟩

theorem get_data (payload : WebhookPayload) :
    payload.toJson.get "data".toList = some payload.data.toJson := rfl

theorem textOf_data (data : PayloadData) :
    ∀ field ∈ data.fields, textOf field.1 data.toJson = field.2 :=
  fun _ hfield => textOf_written (nodup_fields data) hfield

/-- **The payload is the event.** -/
theorem readEvent_toJson (event : IntegrationEvent) :
    readEvent (build event).toJson = some event := by
  obtain ⟨hname, hstamp⟩ := textOf_payload (build event)
  have hread := textOf_data (build event).data
  simp only [PayloadData.fields, List.forall_mem_cons] at hread
  obtain ⟨htitle, hsummary, hmonitor, horganization, hstatus, hseverity, hurl, -⟩ := hread
  have hevent : allEvents.find? (eventName · = (build event).event) = some event.event :=
    find_eventName event.event
  simp only [readEvent, hname, hstamp, get_data, hevent, htitle, hsummary, hmonitor, horganization,
    hstatus, hseverity, hurl, Option.bind_eq_bind, Option.bind_some, Option.pure_def]
  rfl

/-! ## signatures -/

section
variable {hmac : String → String → List UInt8}

theorem verifySignature_iff {secret timestamp body signature : String} :
    verifySignature hmac secret timestamp body signature = true ↔
      signPayload hmac secret timestamp body = signature := by
  simp only [verifySignature, timingSafeEqual, Bool.and_eq_true, decide_eq_true_eq]
  constructor
  · rintro ⟨-, hdata⟩
    exact String.toByteArray_inj.1 (ByteArray.ext hdata)
  · rintro rfl
    exact ⟨rfl, rfl⟩

theorem hexDigit_inj : ∀ m < 16, ∀ n < 16, hexDigit m = hexDigit n → m = n := by decide

/-- Two digests that are written the same are the same. -/
theorem hex_inj : ∀ {xs ys : List UInt8}, hex xs = hex ys → xs = ys
  | [], [], _ => rfl
  | [], y :: ys, h => by cases h
  | x :: xs, [], h => by cases h
  | x :: xs, y :: ys, h => by
      simp only [hex, List.flatMap_cons, List.cons_append, List.nil_append, List.cons.injEq] at h
      obtain ⟨hhigh, hlow, hrest⟩ := h
      have hx := x.toNat_lt
      have hy := y.toNat_lt
      have hhigh := hexDigit_inj _ (by omega) _ (by omega) hhigh
      have hlow := hexDigit_inj _ (by omega) _ (by omega) hlow
      have hbyte : x = y := UInt8.toNat_inj.1 (by omega)
      rw [hbyte, hex_inj hrest]

theorem signPayload_inj {secret timestamp timestamp' body body' : String}
    (h : signPayload hmac secret timestamp body = signPayload hmac secret timestamp' body') :
    hmac secret (timestamp ++ "." ++ body) = hmac secret (timestamp' ++ "." ++ body') :=
  hex_inj (String.ofList_injective ((String.append_right_inj _).1 h))

/-- Where the timestamp ends is not signed. -/
theorem signPayload_shift (secret a b c : String) :
    signPayload hmac secret (a ++ "." ++ b) c = signPayload hmac secret a (b ++ "." ++ c) := by
  simp only [signPayload, String.append_assoc]

end

/-! ## timestamps -/

theorem not_mem_fixed {c : Char} (hc : c.isDigit = false) (width n : Nat) :
    c ∉ IsoDate.fixed width n :=
  fun hmem => by simp [IsoDate.isDigit_fixed width n c hmem] at hc

/-- The text of an instant ends with its only `Z`. -/
theorem exists_toISOString (t : Int) :
    ∃ before, IsoDate.toISOString t = before ++ ['Z'] ∧ 'Z' ∉ before := by
  have hfixed : ∀ width n, 'Z' ∉ IsoDate.fixed width n := not_mem_fixed rfl
  have hyear : ∀ year : Int, 'Z' ∉ IsoDate.writeYear year := by
    intro year
    unfold IsoDate.writeYear
    split
    · exact hfixed _ _
    · split <;> simp [hfixed]
  obtain ⟨d, hd⟩ : ∃ d, d = IsoDate.dateOfDay (t / IsoDate.millisPerDay) := ⟨_, rfl⟩
  obtain ⟨ms, hms⟩ : ∃ ms, ms = (t % IsoDate.millisPerDay).toNat := ⟨_, rfl⟩
  refine ⟨IsoDate.writeYear d.year ++ '-' :: (IsoDate.fixed 2 d.month ++ '-' ::
    (IsoDate.fixed 2 d.day ++ 'T' :: (IsoDate.fixed 2 (ms / 3600000) ++ ':' ::
      (IsoDate.fixed 2 (ms / 60000 % 60) ++ ':' :: (IsoDate.fixed 2 (ms / 1000 % 60) ++ '.' ::
        IsoDate.fixed 3 (ms % 1000)))))), ?_, ?_⟩
  · simp [IsoDate.toISOString, hd, hms]
  · simp [hfixed, hyear]

/-- What is behind the text of an instant is no part of it. -/
theorem toISOString_append_inj {t t' : Int} {rest rest' : List Char}
    (h : IsoDate.toISOString t ++ rest = IsoDate.toISOString t' ++ rest') :
    t = t' ∧ rest = rest' := by
  obtain ⟨before, htext, hbefore⟩ := exists_toISOString t
  obtain ⟨before', htext', hbefore'⟩ := exists_toISOString t'
  have htake : ∀ {xs ys : List Char}, 'Z' ∉ xs →
      (xs ++ 'Z' :: ys).takeWhile (· ≠ 'Z') = xs := by
    intro xs ys hxs
    have hall : ∀ c ∈ xs, decide (c ≠ 'Z') = true := by
      intro c hc
      exact decide_eq_true (ne_of_mem_of_not_mem hc hxs)
    rw [List.takeWhile_append_of_pos hall]
    simp
  have hsplit : before ++ 'Z' :: rest = before' ++ 'Z' :: rest' := by
    simpa [htext, htext'] using h
  have hsame : before = before' := by
    rw [← htake hbefore, hsplit, htake hbefore']
  have htexts : IsoDate.toISOString t = IsoDate.toISOString t' := by rw [htext, htext', hsame]
  have hread := congrArg IsoDate.read htexts
  rw [IsoDate.read_toISOString, IsoDate.read_toISOString, Option.some.injEq] at hread
  rw [htexts, List.append_cancel_left_eq] at h
  exact ⟨hread, h⟩

/-- The timestamp of an instant. -/
def stamp (t : Int) : String := String.ofList (IsoDate.toISOString t)

/-- What is signed, at the time of an instant, is one timestamp and one body. -/
theorem stamp_inj {t t' : Int} {body body' : String}
    (h : stamp t ++ "." ++ body = stamp t' ++ "." ++ body') : t = t' ∧ body = body' := by
  have hlist := congrArg String.toList h
  simp only [stamp, String.toList_append, String.toList_ofList, List.append_assoc] at hlist
  obtain ⟨htime, hrest⟩ := toISOString_append_inj hlist
  exact ⟨htime, String.toList_inj.1 (List.append_cancel_left hrest)⟩

/-! ## what an endpoint accepts -/

/-- Two messages that the secret signs alike. -/
def Collision (hmac : String → String → List UInt8) (secret : String) : Prop :=
  ∃ m m', m ≠ m' ∧ hmac secret m = hmac secret m'

section
variable {hmac : String → String → List UInt8} {endpoint secret : String}
  {event : IntegrationEvent}

theorem parse_body :
    parse (send hmac endpoint secret event).body.toList = some (build event).toJson := by
  rw [send, String.toList_ofList, parse_write, normal_toJson]

/-- **Round trip**: the endpoint has the event that was sent. -/
theorem receive_send :
    (receive hmac secret (send hmac endpoint secret event)).bind readEvent = some event := by
  have hstamp : (send hmac endpoint secret event).header timestampHeader =
      some event.timestamp := rfl
  have hsignature : (send hmac endpoint secret event).header signatureHeader =
      some (signPayload hmac secret event.timestamp (send hmac endpoint secret event).body) := rfl
  simp only [receive, hstamp, hsignature, Option.bind_eq_bind, Option.bind_some,
    verifySignature_iff.2, if_true, parse_body, readEvent_toJson]

theorem receive_some {d : Delivery} {v : Value} (h : receive hmac secret d = some v) :
    ∃ timestamp, d.header timestampHeader = some timestamp ∧
      d.header signatureHeader = some (signPayload hmac secret timestamp d.body) ∧
        parse d.body.toList = some v := by
  simp only [receive, Option.bind_eq_bind, Option.bind_eq_some_iff] at h
  obtain ⟨timestamp, hstamp, signature, hsignature, h⟩ := h
  split at h
  · next hverify =>
      rw [verifySignature_iff] at hverify
      exact ⟨timestamp, hstamp, by rw [hsignature, hverify], h⟩
  · cases h

/-- What else is accepted under the signature of a delivery is that delivery. -/
theorem receive_signed {t t' : Int} (hevent : event.timestamp = stamp t) {d : Delivery}
    (hstamp : d.header timestampHeader = some (stamp t'))
    (hsignature : d.header signatureHeader =
      (send hmac endpoint secret event).header signatureHeader)
    {v : Value} (h : receive hmac secret d = some v) :
    t' = t ∧ readEvent v = some event ∨ Collision hmac secret := by
  obtain ⟨timestamp, htimestamp, hsigned, hparse⟩ := receive_some h
  obtain rfl : timestamp = stamp t' := Option.some.inj (htimestamp.symm.trans hstamp)
  have hsent : (send hmac endpoint secret event).header signatureHeader =
      some (signPayload hmac secret (stamp t) (send hmac endpoint secret event).body) := by
    rw [← hevent]
    rfl
  have hmacs := signPayload_inj (Option.some.inj (hsigned.symm.trans (hsignature.trans hsent)))
  by_cases hmessage : stamp t' ++ "." ++ d.body =
      stamp t ++ "." ++ (send hmac endpoint secret event).body
  · left
    obtain ⟨htime, hbody⟩ := stamp_inj hmessage
    rw [hbody, parse_body, Option.some.injEq] at hparse
    exact ⟨htime, hparse ▸ readEvent_toJson event⟩
  · exact .inr ⟨_, _, hmessage, hmacs⟩

end

/-- A recovery, with a body that has quotes in it. -/
def recovered : IntegrationEvent where
  event := .incidentResolved
  title := "\"API\" has recovered"
  monitorName := some "API"
  status := some "RESOLVED"
  timestamp := "1970-01-01T00:00:00.000Z"

/-- Its digest under the secret `whsec`. -/
def recoveredMac (secret message : String) : List UInt8 :=
  if secret = "whsec" ∧
      message = recovered.timestamp ++ "." ++ String.ofList (build recovered).toJson.write then
    [90, 69, 176, 154, 181, 8, 234, 190, 252, 150, 86, 46, 58, 52, 136, 29,
      14, 140, 21, 7, 104, 174, 171, 44, 89, 111, 131, 53, 131, 155, 32, 27]
  else []

end UptimeFlow.Notifications.Webhooks
