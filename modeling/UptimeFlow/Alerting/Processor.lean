import UptimeFlow.Json
import UptimeFlow.Runs
import UptimeFlow.Monitoring.Dispatch

/-!
# UptimeFlow.Alerting.Processor

The alert processor: one attempt to send one recorded delivery.

An attempt marks the row `SENDING`, calls the transport, writes `DELIVERED` and
then the timeline entry; whatever goes wrong after the mark, the transport's
refusal and the bookkeeping alike, ends in one handler that writes `FAILED` and
gives the job back to the queue.  So the timeline entry can undo a delivery
that has already been made (`Attempt.undoes`), and that is the only thing that
can: `staysDelivered_along_iff`.
-/

namespace UptimeFlow.Alerting

open Tables Runs
open Monitoring (Instant ChannelId DeliveryId IncidentId OrganizationId AlertKind Incident
  IncidentSeverity MonitorRow NotificationDelivery AlertJobData IncidentEvent)

/-! ## rows -/

inductive AlertChannelType where
  | email | sms | voice | slack | discord | telegram | microsoftTeams | webhook | pagerduty
  | opsgenie
deriving DecidableEq, Repr

def AlertChannelType.label : AlertChannelType → String
  | .email => "EMAIL"
  | .sms => "SMS"
  | .voice => "VOICE"
  | .slack => "SLACK"
  | .discord => "DISCORD"
  | .telegram => "TELEGRAM"
  | .microsoftTeams => "MICROSOFT_TEAMS"
  | .webhook => "WEBHOOK"
  | .pagerduty => "PAGERDUTY"
  | .opsgenie => "OPSGENIE"

inductive NotificationStatus where
  | pending | sending | sent | delivered | failed | bounced
deriving DecidableEq, Repr

/-- A row of `notification_deliveries`, with the columns the processor keeps. -/
structure DeliveryRow extends NotificationDelivery where
  status : NotificationStatus := .pending
  attempts : Nat := 0
  providerMessageId : Option String := none
  lastError : Option String := none
  sentAt : Option Instant := none
  deliveredAt : Option Instant := none
deriving DecidableEq, Repr

/-- What a transport is given of a channel. -/
structure AlertChannelView where
  id : ChannelId
  organizationId : OrganizationId
  type : AlertChannelType
  name : String
  config : Json
deriving DecidableEq, Repr

structure AlertPayload where
  kind : AlertKind
  incidentId : IncidentId
  monitorName : String
  title : String
  severity : IncidentSeverity
  summary : Option String
  occurredAt : Instant
deriving DecidableEq, Repr

/-- The metadata of a `NOTIFICATION_SENT` entry. -/
structure SentMetadata where
  channelId : ChannelId
  channelType : AlertChannelType
  deliveryId : DeliveryId
deriving DecidableEq, Repr

structure TimelineEvent extends IncidentEvent where
  sent : Option SentMetadata := none
deriving DecidableEq, Repr

/-- One call of a transport. -/
structure Send where
  deliveryId : DeliveryId
  channel : AlertChannelView
  payload : AlertPayload
deriving DecidableEq, Repr

structure Db where
  notificationDeliveries : List DeliveryRow
  alertChannels : List AlertChannelView
  incidents : List Incident
  monitors : List MonitorRow
  incidentEvents : List TimelineEvent := []
  /-- The transport calls made so far. -/
  sends : List Send := []
  /-- The deliveries a transport has accepted and whose `DELIVERED` was written, as they come. -/
  confirmed : List DeliveryId := []
deriving DecidableEq, Repr

/-! ## attempts -/

/-- The statements of an attempt. -/
inductive Site where
  | find | refused | sending | delivered | event | failed
deriving DecidableEq, Repr

/-- One attempt at a job: what the transport answers if it is called, and the error of each
statement that fails. -/
structure Attempt where
  job : AlertJobData
  now : Instant
  deliveredNow : Instant
  reply : Except String (Option String)
  faults : Site → Option String := fun _ => none

abbrev Work := Eff Db String

def Attempt.write (a : Attempt) (site : Site) (op : Db → Db) : Work Unit :=
  .write (a.faults site).isSome ((a.faults site).getD "") op

inductive Skipped where
  | noDelivery | alreadyDelivered | noTransport
deriving DecidableEq, Repr

inductive AlertJobResult where
  | skipped (reason : Skipped)
  | delivered
deriving DecidableEq, Repr

/-- A delivery with the channel and the incident it joins. -/
structure Loaded where
  delivery : DeliveryRow
  channel : AlertChannelView
  incident : Incident
  monitorName : Option String
deriving DecidableEq, Repr

def Db.deliveryOf (db : Db) (id : DeliveryId) : Option DeliveryRow :=
  db.notificationDeliveries.find? (·.id = id)

def Db.load (db : Db) (id : DeliveryId) : Option Loaded := do
  let delivery ← db.deliveryOf id
  let channel ← db.alertChannels.find? (·.id = delivery.channelId)
  let incident ← db.incidents.find? (·.id = delivery.incidentId)
  pure {
    delivery, channel, incident
    monitorName := (db.monitors.find? (·.id = incident.monitorId)).map (·.name) }

def Db.updateDelivery (db : Db) (id : DeliveryId) (f : DeliveryRow → DeliveryRow) : Db :=
  { db with notificationDeliveries := updateWhere (·.id = id) f db.notificationDeliveries }

/-- `slice(0, 500)` -/
def clip (message : String) : String := String.ofList (message.toList.take 500)

def Attempt.payload (a : Attempt) (l : Loaded) : AlertPayload where
  kind := a.job.kind
  incidentId := a.job.incidentId
  monitorName := l.monitorName.getD "monitor"
  title := l.incident.title
  severity := l.incident.severity
  summary := l.incident.summary
  occurredAt := a.now

/-! ### the writes of an attempt -/

section
variable (a : Attempt) (l : Loaded)

/-- `SENDING`, one attempt more. -/
def Attempt.mark (db : Db) : Db :=
  db.updateDelivery l.delivery.id fun r =>
    { r with status := .sending, attempts := r.attempts + 1, sentAt := some a.now }

/-- The transport has been called. -/
def Attempt.called (db : Db) : Db :=
  { db with sends := db.sends ++ [⟨l.delivery.id, l.channel, a.payload l⟩] }

/-- `DELIVERED`. -/
def Attempt.confirm (providerMessageId : Option String) (db : Db) : Db :=
  { db.updateDelivery l.delivery.id fun r =>
      { r with status := .delivered, deliveredAt := some a.deliveredNow, providerMessageId } with
    confirmed := db.confirmed ++ [l.delivery.id] }

/-- The timeline says so. -/
def Attempt.enter (db : Db) : Db :=
  { db with
    incidentEvents := db.incidentEvents ++
      [{ incidentId := a.job.incidentId
         type := .notificationSent
         message := some
          ("Alert (" ++ a.job.kind.label ++ ") sent via " ++ l.channel.name ++ ".")
         createdAt := a.deliveredNow
         sent := some ⟨l.channel.id, l.channel.type, l.delivery.id⟩ }] }

end

/-- `FAILED`. -/
def Loaded.fail (l : Loaded) (message : String) (db : Db) : Db :=
  db.updateDelivery l.delivery.id fun r => { r with status := .failed, lastError := some message }

/-! ### the processor -/

/-- The body of the `try`. -/
def Attempt.deliver (a : Attempt) (l : Loaded) : Work AlertJobResult := do
  let providerMessageId ← (⟨fun db => (a.reply, a.called l db)⟩ : Work (Option String))
  a.write .delivered (a.confirm l providerMessageId)
  a.write .event (a.enter l)
  pure .delivered

/-- `createAlertProcessor`: process one alert delivery. -/
def alertProcessor (transports : AlertChannelType → Bool) (a : Attempt) : Work AlertJobResult := do
  let found ← Eff.statement (a.faults .find).isSome ((a.faults .find).getD "")
    fun db => (.ok (db.load a.job.deliveryId), db)
  match found with
  | none => pure (.skipped .noDelivery)
  | some l =>
      if l.delivery.status = .delivered ∨ l.delivery.status = .sent then
        pure (.skipped .alreadyDelivered)
      else if transports l.channel.type = false then do
        a.write .refused (l.fail ("No transport configured for channel type " ++
          l.channel.type.label ++ " — nothing was sent."))
        pure (.skipped .noTransport)
      else do
        a.write .sending (a.mark l)
        Eff.rescue (a.deliver l) fun message => do
          a.write .failed (l.fail (clip message))
          Eff.raise message

/-- The tables after an attempt. -/
def Db.attempt (transports : AlertChannelType → Bool) (db : Db) (a : Attempt) : Db :=
  ((alertProcessor transports a).run db).2

/-! ## what an attempt leaves -/

def Db.statusOf (db : Db) (id : DeliveryId) : Option NotificationStatus :=
  (db.deliveryOf id).map (·.status)

/-- The calls of a transport for one delivery. -/
def Db.sendsOf (db : Db) (id : DeliveryId) : List Send := db.sends.filter (·.deliveryId = id)

/-- An attempt at `l` that has changed nothing of any other delivery. -/
structure Touches (id : DeliveryId) (db db' : Db) : Prop where
  status : ∀ j, j ≠ id → db'.statusOf j = db.statusOf j
  sends : ∀ j, j ≠ id → db'.sendsOf j = db.sendsOf j

theorem Touches.trans {id : DeliveryId} {db db' db'' : Db} (h : Touches id db db')
    (h' : Touches id db' db'') : Touches id db db'' where
  status j hj := (h'.status j hj).trans (h.status j hj)
  sends j hj := (h'.sends j hj).trans (h.sends j hj)

section
variable {db : Db} {a : Attempt} {l : Loaded}

theorem statusOf_updateDelivery {id : DeliveryId} {f : DeliveryRow → DeliveryRow}
    (hf : ∀ r, (f r).id = r.id) (j : DeliveryId) :
    (db.updateDelivery id f).statusOf j =
      (db.deliveryOf j).map fun r => if r.id = id then (f r).status else r.status := by
  rw [Db.statusOf, Db.deliveryOf, Db.updateDelivery, find?_updateWhere hf, Option.map_map]
  refine congrArg (fun g => Option.map g _) (funext fun r => ?_)
  by_cases hid : r.id = id <;> simp [hid]

theorem deliveryOf_id {id : DeliveryId} {r : DeliveryRow} (h : db.deliveryOf id = some r) :
    r.id = id := by
  have hfound := List.find?_some h
  exact of_decide_eq_true hfound

/-- An update that writes one status leaves it at the row, and touches no other. -/
theorem updateDelivery_touches {id : DeliveryId} {f : DeliveryRow → DeliveryRow}
    (hf : ∀ r, (f r).id = r.id) : Touches id db (db.updateDelivery id f) where
  status j hj := by
    rw [statusOf_updateDelivery hf, Db.statusOf]
    refine Option.map_congr fun r hr => ?_
    rw [deliveryOf_id hr, if_neg hj]
  sends _ _ := rfl

theorem called_touches : Touches l.delivery.id db (a.called l db) where
  status _ _ := rfl
  sends j hj := by simp [Attempt.called, Db.sendsOf, Ne.symm hj]

theorem load_delivery {id : DeliveryId} (h : db.load id = some l) :
    db.deliveryOf id = some l.delivery := by
  unfold Db.load at h
  cases hdelivery : db.deliveryOf id with
  | none => simp [hdelivery] at h
  | some r =>
      simp only [hdelivery, Option.bind_eq_bind, Option.bind_some, Option.bind_eq_some_iff] at h
      obtain ⟨channel, -, incident, -, h⟩ := h
      cases h
      rfl

end

/-! ## how an attempt ends -/

/-- The attempt gets as far as the transport. -/
def Attempt.reaches (transports : AlertChannelType → Bool) (db : Db) (a : Attempt) : Bool :=
  match db.load a.job.deliveryId with
  | none => false
  | some l =>
      (a.faults .find).isNone && l.delivery.status ≠ .delivered && l.delivery.status ≠ .sent &&
        transports l.channel.type && (a.faults .sending).isNone

/-- The transport accepts, `DELIVERED` is written, the timeline entry fails, and the handler's
`FAILED` goes through. -/
def Attempt.undoes (transports : AlertChannelType → Bool) (db : Db) (a : Attempt) : Bool :=
  a.reaches transports db && a.reply.isOk && (a.faults .delivered).isNone &&
    (a.faults .event).isSome && (a.faults .failed).isNone

/-- The ways an attempt ends: with the tables as they were, with one delivery touched that was
not delivered before, or with that delivery's `DELIVERED` written. -/
inductive Ends (transports : AlertChannelType → Bool) (db : Db) (a : Attempt) : Db → Prop where
  | quiet (hspared : a.undoes transports db = false) : Ends transports db a db
  | unsent (l : Loaded) (db' : Db) (hload : db.load a.job.deliveryId = some l)
      (hnew : l.delivery.status ≠ .delivered) (htouches : Touches l.delivery.id db db')
      (hconfirmed : db'.confirmed = db.confirmed) (hspared : a.undoes transports db = false) :
      Ends transports db a db'
  | sent (l : Loaded) (db' : Db) (hload : db.load a.job.deliveryId = some l)
      (hnew : l.delivery.status ≠ .delivered) (htouches : Touches l.delivery.id db db')
      (hconfirmed : db'.confirmed = db.confirmed ++ [l.delivery.id])
      (hstatus : db'.statusOf l.delivery.id =
        some (if a.undoes transports db then .failed else .delivered)) :
      Ends transports db a db'

section
variable {transports : AlertChannelType → Bool} {db : Db} {a : Attempt} {l : Loaded}

/-- The handler of the `try`: `FAILED`, unless that fails too. -/
def Attempt.handled (a : Attempt) (l : Loaded) (message : String) (db : Db) : Db :=
  if (a.faults .failed).isSome then db else l.fail (clip message) db

/-- An attempt that gets as far as the transport. -/
theorem attempt_of_reaches (hload : db.load a.job.deliveryId = some l)
    (h : a.reaches transports db = true) :
    db.attempt transports a =
      match a.reply, a.faults .delivered, a.faults .event with
      | .error e, _, _ => a.handled l e (a.called l (a.mark l db))
      | .ok _, some e, _ => a.handled l e (a.called l (a.mark l db))
      | .ok m, none, some e => a.handled l e (a.confirm l m (a.called l (a.mark l db)))
      | .ok m, none, none => a.enter l (a.confirm l m (a.called l (a.mark l db))) := by
  simp only [Attempt.reaches, hload, Bool.and_eq_true, decide_eq_true_eq,
    Option.isNone_iff_eq_none] at h
  obtain ⟨⟨⟨⟨hfind, hdelivered⟩, hsent⟩, htransport⟩, hmark⟩ := h
  have hnew : ¬ (l.delivery.status = .delivered ∨ l.delivery.status = .sent) :=
    fun h => h.elim hdelivered hsent
  simp only [Db.attempt, alertProcessor, Attempt.write, hfind, hmark, Eff.bind_run,
    Eff.statement_run, Option.isSome_none, Bool.false_eq_true, if_false, hload, if_neg hnew,
    htransport, Bool.true_eq_false, Eff.write_run, Eff.rescue_run, Attempt.deliver]
  cases a.reply with
  | error e => cases hfailed : a.faults .failed <;> simp [Attempt.handled, hfailed, Eff.raise]
  | ok m =>
      cases hconfirm : a.faults .delivered with
      | some e => cases hfailed : a.faults .failed <;> simp [Attempt.handled, hfailed, Eff.raise]
      | none =>
          cases hevent : a.faults .event with
          | some e => cases hfailed : a.faults .failed <;> simp [Attempt.handled, hfailed, Eff.raise]
          | none => simp

theorem handled_touches (message : String) : Touches l.delivery.id db (a.handled l message db) := by
  unfold Attempt.handled
  split
  · exact ⟨fun _ _ => rfl, fun _ _ => rfl⟩
  · exact updateDelivery_touches fun _ => rfl

/-- An update of a row that is there leaves the status it writes. -/
theorem updateDelivery_status {id : DeliveryId} {f : DeliveryRow → DeliveryRow}
    {old status : NotificationStatus} (hf : ∀ r, (f r).id = r.id)
    (hstatus : ∀ r, (f r).status = status) (hrow : db.statusOf id = some old) :
    (db.updateDelivery id f).statusOf id = some status := by
  obtain ⟨r, hr, -⟩ := Option.map_eq_some_iff.1 hrow
  rw [statusOf_updateDelivery hf, hr, Option.map_some, if_pos (deliveryOf_id hr), hstatus]

theorem mark_status {old : NotificationStatus} (h : db.statusOf l.delivery.id = some old) :
    (a.mark l db).statusOf l.delivery.id = some .sending :=
  updateDelivery_status (fun _ => rfl) (fun _ => rfl) h

theorem confirm_status {old : NotificationStatus} (m : Option String)
    (h : db.statusOf l.delivery.id = some old) :
    (a.confirm l m db).statusOf l.delivery.id = some .delivered :=
  @updateDelivery_status db _ _ _ _ (fun _ => rfl) (fun _ => rfl) h

theorem fail_status {old : NotificationStatus} (message : String)
    (h : db.statusOf l.delivery.id = some old) :
    (l.fail message db).statusOf l.delivery.id = some .failed :=
  updateDelivery_status (fun _ => rfl) (fun _ => rfl) h

theorem confirm_touches (m : Option String) : Touches l.delivery.id db (a.confirm l m db) where
  status := by
    have htouches : Touches l.delivery.id db (db.updateDelivery l.delivery.id fun r =>
        { r with status := .delivered, deliveredAt := some a.deliveredNow, providerMessageId := m }) :=
      updateDelivery_touches fun _ => rfl
    exact htouches.status
  sends _ _ := rfl

theorem undoes_of_not_reaches (h : a.reaches transports db = false) :
    a.undoes transports db = false := by
  simp [Attempt.undoes, h]

/-- An attempt that does not get as far as the transport. -/
theorem attempt_ends_of_not_reaches (h : a.reaches transports db = false) :
    Ends transports db a (db.attempt transports a) := by
  have hspared := undoes_of_not_reaches h
  cases hfind : a.faults .find with
  | some e =>
      have hsame : db.attempt transports a = db := by
        simp [Db.attempt, alertProcessor, hfind, Eff.bind_run]
      rw [hsame]
      exact .quiet hspared
  | none =>
      cases hload : db.load a.job.deliveryId with
      | none =>
          have hsame : db.attempt transports a = db := by
            simp [Db.attempt, alertProcessor, hfind, Eff.bind_run, hload]
          rw [hsame]
          exact .quiet hspared
      | some l =>
          by_cases hdone : l.delivery.status = .delivered ∨ l.delivery.status = .sent
          · have hsame : db.attempt transports a = db := by
              simp [Db.attempt, alertProcessor, hfind, Eff.bind_run, hload, hdone]
            rw [hsame]
            exact .quiet hspared
          · cases htransport : transports l.channel.type with
            | true =>
                -- only the mark is left to stop it
                have hmark : (a.faults .sending).isSome = true := by
                  rw [not_or] at hdone
                  simpa [Attempt.reaches, hload, hfind, hdone.1, hdone.2, htransport,
                    Option.isSome_iff_ne_none] using h
                have hsame : db.attempt transports a = db := by
                  simp [Db.attempt, alertProcessor, Attempt.write, hfind, Eff.bind_run, hload,
                    hdone, htransport, hmark]
                rw [hsame]
                exact .quiet hspared
            | false =>
                cases hrefused : a.faults .refused with
                | some e =>
                    have hsame : db.attempt transports a = db := by
                      simp [Db.attempt, alertProcessor, Attempt.write, hfind, Eff.bind_run, hload,
                        hdone, htransport, hrefused]
                    rw [hsame]
                    exact .quiet hspared
                | none =>
                    have hfailed : db.attempt transports a =
                        l.fail ("No transport configured for channel type " ++
                          l.channel.type.label ++ " — nothing was sent.") db := by
                      simp [Db.attempt, alertProcessor, Attempt.write, hfind, Eff.bind_run, hload,
                        hdone, htransport, hrefused]
                    rw [hfailed]
                    exact .unsent l _ hload (fun h => hdone (.inl h))
                      (updateDelivery_touches fun _ => rfl) rfl hspared

theorem handled_status (message : String) (h : db.statusOf l.delivery.id = some .delivered) :
    (a.handled l message db).statusOf l.delivery.id =
      some (if (a.faults .failed).isNone then .failed else .delivered) := by
  cases hfailed : a.faults .failed with
  | some e => simpa [Attempt.handled, hfailed] using h
  | none => simpa [Attempt.handled, hfailed] using fail_status (clip message) h

/-- **How an attempt ends.** -/
theorem attempt_ends (transports : AlertChannelType → Bool) (db : Db) (a : Attempt) :
    Ends transports db a (db.attempt transports a) := by
  cases hreaches : a.reaches transports db with
  | false => exact attempt_ends_of_not_reaches hreaches
  | true =>
      obtain ⟨l, hload⟩ : ∃ l, db.load a.job.deliveryId = some l := by
        cases hload : db.load a.job.deliveryId with
        | none => simp [Attempt.reaches, hload] at hreaches
        | some l => exact ⟨l, rfl⟩
      have hnew : l.delivery.status ≠ .delivered := by
        simp only [Attempt.reaches, hload, Bool.and_eq_true, decide_eq_true_eq] at hreaches
        exact hreaches.1.1.1.2
      have hrow : db.statusOf l.delivery.id = some l.delivery.status := by
        have hfound := load_delivery hload
        rw [Db.statusOf, deliveryOf_id hfound, hfound, Option.map_some]
      have hmarked : Touches l.delivery.id db (a.mark l db) := updateDelivery_touches fun _ => rfl
      have hcalled : Touches l.delivery.id db (a.called l (a.mark l db)) :=
        hmarked.trans called_touches
      have hkept (message : String) (d : Db) : (a.handled l message d).confirmed = d.confirmed := by
        unfold Attempt.handled
        split <;> rfl
      have hconfirmed (m : Option String) :
          Touches l.delivery.id db (a.confirm l m (a.called l (a.mark l db))) :=
        hcalled.trans (confirm_touches m)
      have hsending : (a.called l (a.mark l db)).statusOf l.delivery.id = some .sending :=
        mark_status hrow
      have hdelivered (m : Option String) := confirm_status (a := a) m hsending
      rw [attempt_of_reaches hload hreaches]
      cases hreply : a.reply with
      | error e =>
          refine .unsent l _ hload hnew (hcalled.trans (handled_touches e)) (hkept e _) ?_
          simp [Attempt.undoes, hreply, Except.isOk, Except.toBool]
      | ok m =>
          cases hwrite : a.faults .delivered with
          | some e =>
              refine .unsent l _ hload hnew (hcalled.trans (handled_touches e)) (hkept e _) ?_
              simp [Attempt.undoes, hwrite]
          | none =>
              cases hevent : a.faults .event with
              | none =>
                  refine .sent l _ hload hnew ⟨(hconfirmed m).status, (hconfirmed m).sends⟩ rfl ?_
                  have hspared : a.undoes transports db = false := by simp [Attempt.undoes, hevent]
                  rw [hspared, if_neg Bool.false_ne_true]
                  exact hdelivered m
              | some e =>
                  refine .sent l _ hload hnew ((hconfirmed m).trans (handled_touches e))
                    (hkept e _) ?_
                  have hundoes : a.undoes transports db = (a.faults .failed).isNone := by
                    simp [Attempt.undoes, hreaches, hreply, hwrite, hevent, Except.isOk,
                      Except.toBool]
                  rw [hundoes]
                  exact handled_status e (hdelivered m)

end

/-! ## delivered once and for all -/

/-- What was delivered before or in the attempt is `DELIVERED` after it, and what was delivered
before is not sent in it. -/
def StaysDelivered (transports : AlertChannelType → Bool) (db : Db) (a : Attempt) : Prop :=
  ∀ id ∈ (db.attempt transports a).confirmed,
    (db.attempt transports a).statusOf id = some .delivered ∧
      (id ∈ db.confirmed → (db.attempt transports a).sendsOf id = db.sendsOf id)

/-- Whatever was confirmed is `DELIVERED`. -/
def Confirmed (db : Db) : Prop := ∀ id ∈ db.confirmed, db.statusOf id = some .delivered

/-- **Step lemma**: an attempt leaves all that was delivered alone, unless it undoes a delivery
of its own. -/
theorem staysDelivered_iff {transports : AlertChannelType → Bool} {db : Db} (h : Confirmed db)
    (a : Attempt) : StaysDelivered transports db a ↔ a.undoes transports db = false := by
  -- the delivery at hand is not a confirmed one: it was not delivered
  have hother : ∀ l, db.load a.job.deliveryId = some l → l.delivery.status ≠ .delivered →
      ∀ id ∈ db.confirmed, id ≠ l.delivery.id := by
    intro l hload hnew id hid hsame
    have hfound := load_delivery hload
    have hstatus := h id hid
    rw [hsame, Db.statusOf, deliveryOf_id hfound, hfound, Option.map_some,
      Option.some.injEq] at hstatus
    exact hnew hstatus
  have hends := attempt_ends transports db a
  rw [StaysDelivered]
  generalize db.attempt transports a = db' at hends
  cases hends with
  | quiet hspared => exact iff_of_true (fun id hid => ⟨h id hid, fun _ => rfl⟩) hspared
  | unsent l _ hload hnew htouches hconfirmed hspared =>
      refine iff_of_true (fun id hid => ?_) hspared
      rw [hconfirmed] at hid
      have hne := hother l hload hnew id hid
      exact ⟨(htouches.status id hne).trans (h id hid), fun _ => htouches.sends id hne⟩
  | sent l _ hload hnew htouches hconfirmed hstatus =>
      have hown : l.delivery.id ∈ db'.confirmed := by simp [hconfirmed]
      cases hundoes : a.undoes transports db with
      | true =>
          refine iff_of_false (fun hstays => ?_) (by simp)
          have hdelivered := (hstays _ hown).1
          rw [hstatus, hundoes] at hdelivered
          simp at hdelivered
      | false =>
          refine iff_of_true (fun id hid => ?_) rfl
          rw [hconfirmed, List.mem_append, List.mem_singleton] at hid
          rw [hundoes, if_neg Bool.false_ne_true] at hstatus
          by_cases hsame : id = l.delivery.id
          · subst hsame
            exact ⟨hstatus, fun hold => absurd rfl (hother l hload hnew _ hold)⟩
          · have hold : id ∈ db.confirmed := hid.resolve_right hsame
            exact ⟨(htouches.status id hsame).trans (h id hold), fun _ => htouches.sends id hsame⟩

/-- **Along every run of attempts a delivery stays delivered and is not sent again, if and only
if no attempt undoes its own delivery.** -/
theorem staysDelivered_along_iff (transports : AlertChannelType → Bool) {db : Db}
    (hconfirmed : Confirmed db) (attempts : List Attempt) :
    Along (Db.attempt transports) (StaysDelivered transports) db attempts ↔
      Along (Db.attempt transports) (fun db a => a.undoes transports db = false) db attempts := by
  refine along_iff (I := Confirmed) ?_ (fun db a h => staysDelivered_iff h a) hconfirmed
  intro db a h hspared id hid
  exact ((staysDelivered_iff h a).2 hspared id hid).1

/-- One pending delivery of an open incident, over a webhook. -/
def pendingDelivery : Db where
  notificationDeliveries := [{ id := 1, organizationId := "acme", channelId := "hook", incidentId := 7 }]
  alertChannels := [{ id := "hook", organizationId := "acme", type := .webhook, name := "Ops",
                      config := .obj [("url", .str "https://ops.test/hook")] }]
  incidents := [{ id := 7, organizationId := "acme", monitorId := "api", status := .open,
                  severity := .major, title := "api is down", summary := none, cause := none,
                  fingerprint := none, startedAt := 0, createdAt := 0 }]
  monitors := []

/-- An attempt whose transport accepts, and whose given statements fail. -/
def attemptWith (faults : Site → Option String) : Attempt where
  job := { deliveryId := 1, incidentId := 7, channelId := "hook", organizationId := "acme"
           kind := .opened }
  now := 10
  deliveredNow := 11
  reply := .ok none
  faults := faults

/-- The timeline entry of the attempt fails. -/
def eventFails : Site → Option String
  | .event => some "connection closed"
  | _ => none

/-- The handler's write fails too. -/
def handlerFails : Site → Option String
  | .event | .failed => some "connection closed"
  | _ => none

theorem staysDelivered_along_handlerFails :
    Along (Db.attempt fun _ => true) (StaysDelivered fun _ => true) pendingDelivery
      [attemptWith handlerFails, attemptWith fun _ => none] :=
  (staysDelivered_along_iff _ (by simp [Confirmed, pendingDelivery]) _).2 (by decide)

/-- A delivery whose timeline entry fails is `FAILED`, and sent again by the retry. -/
theorem not_staysDelivered_eventFails :
    ((pendingDelivery.attempt (fun _ => true) (attemptWith eventFails)).confirmed = [1] ∧
      (pendingDelivery.attempt (fun _ => true) (attemptWith eventFails)).statusOf 1 = some .failed) ∧
    ((run (Db.attempt fun _ => true) pendingDelivery
      [attemptWith eventFails, attemptWith fun _ => none]).sendsOf 1).length = 2 ∧
    ¬ Along (Db.attempt fun _ => true) (StaysDelivered fun _ => true) pendingDelivery
      [attemptWith eventFails, attemptWith fun _ => none] := by
  have hconfirmed : (pendingDelivery.attempt (fun _ => true) (attemptWith eventFails)).confirmed =
      [1] := by rfl
  have hfailed : (pendingDelivery.attempt (fun _ => true) (attemptWith eventFails)).statusOf 1 =
      some .failed := by rfl
  refine ⟨⟨hconfirmed, hfailed⟩, by rfl, fun hstays => ?_⟩
  have hdelivered := (hstays.1 1 (by simp [hconfirmed])).1
  rw [hfailed] at hdelivered
  revert hdelivered
  decide

end UptimeFlow.Alerting
