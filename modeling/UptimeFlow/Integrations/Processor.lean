import UptimeFlow.Runs
import UptimeFlow.Monitoring.Dispatch

/-!
# UptimeFlow.Integrations.Processor

The integration processor: one attempt to send one recorded delivery.

An attempt marks the row `SENDING` before it looks at anything, so it never
learns that an earlier attempt has already delivered: what keeps a delivery
`SUCCESS` is only that the queue does not hand its job out again.  The queue
does so whenever it missed the end of the attempt, and then the row leaves
`SUCCESS` (`lifecycle_along_iff`); where the queue learns of every end, no
delivery does (`lifecycle_along_of_learns`).
-/

namespace UptimeFlow.Integrations

open Tables Runs
open Monitoring (Instant DeliveryId OrganizationId IntegrationType IntegrationRow IntegrationEvent
  IntegrationDelivery IntegrationJobData)

/-! ## rows and jobs -/

inductive IntegrationDeliveryStatus where
  | pending | sending | success | failed | dead
deriving DecidableEq, Repr

/-- A row of `integration_deliveries`, with the columns the processor keeps. -/
structure DeliveryRow extends IntegrationDelivery where
  status : IntegrationDeliveryStatus := .pending
  attempts : Nat := 0
  responseStatus : Option Nat := none
  error : Option String := none
  sentAt : Option Instant := none
deriving DecidableEq, Repr

/-- What a notifier answers; the status is 0 on a network or timeout error. -/
structure DeliveryResult where
  ok : Bool
  status : Nat
  error : Option String := none
deriving DecidableEq, Repr

structure SendOutcome extends DeliveryResult where
  skipped : Bool := false
deriving DecidableEq, Repr

/-- One call of a notifier. -/
structure Send where
  deliveryId : DeliveryId
  integrationType : IntegrationType
  integrationId : String
  event : IntegrationEvent
deriving DecidableEq, Repr

structure Db where
  integrationDeliveries : List DeliveryRow
  integrations : List IntegrationRow
  /-- The notifier calls made so far. -/
  sends : List Send := []
deriving DecidableEq, Repr

/-- A job in the queue: its data, the attempts the queue has counted, and `opts.attempts`. -/
structure Job where
  data : IntegrationJobData
  attemptsMade : Nat := 0
  attempts : Option Nat := some 5
deriving DecidableEq, Repr

/-- `job.attemptsMade + 1` -/
def Job.attempt (job : Job) : Nat := job.attemptsMade + 1

/-- `job.opts.attempts ?? 1` -/
def Job.maxAttempts (job : Job) : Nat := job.attempts.getD 1

/-- `attempt >= maxAttempts` -/
def Job.isFinal (job : Job) : Bool := job.maxAttempts ≤ job.attempt

/-! ## attempts -/

/-- How an attempt ends: its last write is made and the queue learns of it, or does not; or the
worker dies before the send, or between the send and the last write. -/
inductive Ending where
  | learned | missed | diedSending | diedSent
deriving DecidableEq, Repr

/-- One attempt: what the notifier answers if it is called, and how the attempt ends. -/
structure Attempt where
  now : Instant
  reply : DeliveryResult
  ending : Ending := .learned
deriving DecidableEq, Repr

/-- All the writes of the attempt are made. -/
def Attempt.completes (a : Attempt) : Bool := a.ending = .learned || a.ending = .missed

inductive ProcessorError where
  /-- The row to update is not there. -/
  | notFound
  | died
  | deliveryFailed (integrationType : IntegrationType) (status : Nat) (error : Option String)
deriving DecidableEq, Repr

structure Result where
  delivered : Bool
  status : Nat
  skipped : Bool := false
deriving DecidableEq, Repr

abbrev Work := Eff Db ProcessorError

def Db.deliveryOf (db : Db) (id : DeliveryId) : Option DeliveryRow :=
  db.integrationDeliveries.find? (·.id = id)

/-- `integrationDelivery.update` -/
def updateDelivery (id : DeliveryId) (f : DeliveryRow → DeliveryRow) : Work Unit :=
  ⟨fun db => match db.deliveryOf id with
    | none => (.error .notFound, db)
    | some _ => (.ok (), { db with
        integrationDeliveries := updateWhere (·.id = id) f db.integrationDeliveries })⟩

/-- The worker is gone from here on, if this is how the attempt ends. -/
def Attempt.dies (a : Attempt) (ending : Ending) : Work Unit :=
  if a.ending = ending then .raise .died else pure ()

/-- The integration a job is for, unless it was deleted; whether it is enabled is not looked at. -/
def Db.target (db : Db) (data : IntegrationJobData) : Option IntegrationRow :=
  db.integrations.find? fun r =>
    r.type = data.integrationType && r.id = data.integrationId &&
      r.organizationId = data.organizationId && r.deletedAt.isNone

def Attempt.send (a : Attempt) (data : IntegrationJobData) : Work SendOutcome := do
  match ← Eff.read (·.target data) with
  | none =>
      pure { ok := false, status := 0, skipped := true
             error := some "integration not found or disabled" }
  | some cfg =>
      Eff.write false .died fun db =>
        { db with sends := db.sends ++ [⟨data.deliveryId, cfg.type, cfg.id, data.event⟩] }
      pure { toDeliveryResult := a.reply }

def Attempt.process (a : Attempt) (job : Job) : Work Result := do
  let deliveryId := job.data.deliveryId
  updateDelivery deliveryId fun r => { r with status := .sending, attempts := job.attempt }
  a.dies .diedSending
  let outcome ← a.send job.data
  a.dies .diedSent
  if outcome.skipped then
    updateDelivery deliveryId fun r =>
      { r with status := .failed, error := some (outcome.error.getD "skipped") }
    pure { delivered := false, status := 0, skipped := true }
  else if outcome.ok then
    updateDelivery deliveryId fun r =>
      { r with status := .success, responseStatus := some outcome.status, sentAt := some a.now
               error := none }
    pure { delivered := true, status := outcome.status }
  else
    updateDelivery deliveryId fun r =>
      { r with
        status := if job.isFinal then .dead else .failed
        responseStatus := if outcome.status = 0 then none else some outcome.status
        error := some (outcome.error.getD "delivery failed") }
    .raise (.deliveryFailed job.data.integrationType outcome.status outcome.error)

/-! ## the queue -/

structure Worker where
  db : Db
  queue : List Job
deriving DecidableEq, Repr

inductive Op where
  /-- The queue hands out a job it holds, for the first time or again. -/
  | attempt (k : Nat) (a : Attempt)
  /-- The organizations edit their integrations. -/
  | integrations (rows : List IntegrationRow)
deriving DecidableEq, Repr

/-- What the queue keeps of the job `k` once it has learned how the attempt ended: a job that
failed stays until its attempts are used up. -/
def settle (queue : List Job) (k : Nat) (job : Job) : Except ProcessorError Result → List Job
  | .ok _ => queue.eraseIdx k
  | .error _ =>
      if job.isFinal then queue.eraseIdx k
      else queue.set k { job with attemptsMade := job.attempt }

def Worker.step (s : Worker) : Op → Worker
  | .attempt k a =>
      match s.queue[k]? with
      | none => s
      | some job =>
          let (result, db) := (a.process job).run s.db
          { db, queue := if a.ending = .learned then settle s.queue k job result else s.queue }
  | .integrations rows => { s with db := { s.db with integrations := rows } }

/-! ## what an attempt does -/

/-- The first write of an attempt. -/
def Job.mark (job : Job) (r : DeliveryRow) : DeliveryRow :=
  { r with status := .sending, attempts := job.attempt }

/-- The last write of an attempt. -/
def Attempt.record (a : Attempt) (job : Job) (target : Option IntegrationRow) (r : DeliveryRow) :
    DeliveryRow :=
  match target with
  | none => { r with status := .failed, error := some "integration not found or disabled" }
  | some _ =>
      if a.reply.ok then
        { r with
          status := .success, responseStatus := some a.reply.status, sentAt := some a.now
          error := none }
      else
        { r with
          status := if job.isFinal then .dead else .failed
          responseStatus := if a.reply.status = 0 then none else some a.reply.status
          error := some (a.reply.error.getD "delivery failed") }

/-- The row an attempt leaves of its delivery. -/
def Attempt.rowAfter (a : Attempt) (job : Job) (target : Option IntegrationRow) :
    DeliveryRow → DeliveryRow :=
  if a.completes then a.record job target ∘ job.mark else job.mark

/-- The notifier calls of an attempt: one, unless the worker dies first or the target is gone. -/
def Attempt.sent (a : Attempt) (data : IntegrationJobData) (target : Option IntegrationRow) :
    List Send :=
  match target with
  | none => []
  | some cfg =>
      if a.ending = .diedSending then [] else [⟨data.deliveryId, cfg.type, cfg.id, data.event⟩]

/-- How an attempt at a recorded delivery ends. -/
def Attempt.result (a : Attempt) (job : Job) (target : Option IntegrationRow) :
    Except ProcessorError Result :=
  if a.completes then
    match target with
    | none => .ok { delivered := false, status := 0, skipped := true }
    | some _ =>
        if a.reply.ok then .ok { delivered := true, status := a.reply.status }
        else .error (.deliveryFailed job.data.integrationType a.reply.status a.reply.error)
  else .error .died

section
variable {a : Attempt} {job : Job} {db : Db} {id : DeliveryId} {r : DeliveryRow}

theorem updateDelivery_run {f : DeliveryRow → DeliveryRow} (h : db.deliveryOf id = some r) :
    (updateDelivery id f).run db = (.ok (), { db with
      integrationDeliveries := updateWhere (·.id = id) f db.integrationDeliveries }) := by
  simp [updateDelivery, h]

/-- An update that keeps identifiers updates the row of its delivery. -/
theorem deliveryOf_updateWhere (db : Db) (id : DeliveryId) {f : DeliveryRow → DeliveryRow}
    (hf : ∀ r, (f r).id = r.id) (i : DeliveryId) :
    ({ db with integrationDeliveries := updateWhere (·.id = id) f db.integrationDeliveries } :
      Db).deliveryOf i = (db.deliveryOf i).map fun r => if r.id = id then f r else r := by
  have hlook : (updateWhere (·.id = id) f db.integrationDeliveries).find? (·.id = i) = _ :=
    find?_updateWhere hf i
  simpa [Db.deliveryOf] using hlook

theorem deliveryOf_id (h : db.deliveryOf id = some r) : r.id = id := by
  simpa using List.find?_some h

@[simp] theorem mark_id (job : Job) (r : DeliveryRow) : (job.mark r).id = r.id := rfl

@[simp] theorem record_id (target : Option IntegrationRow) (r : DeliveryRow) :
    (a.record job target r).id = r.id := by
  unfold Attempt.record
  split
  · rfl
  · split <;> rfl

@[simp] theorem rowAfter_id (a : Attempt) (job : Job) (target : Option IntegrationRow)
    (r : DeliveryRow) : (a.rowAfter job target r).id = r.id := by
  unfold Attempt.rowAfter
  split <;> simp

/-- The last write finds the row that the first one marked. -/
theorem updateDelivery_run_marked (job : Job) {g : DeliveryRow → DeliveryRow} {marked : Db}
    (h : db.deliveryOf id = some r)
    (hmarked : marked.integrationDeliveries =
      updateWhere (·.id = id) job.mark db.integrationDeliveries) :
    (updateDelivery id g).run marked = (.ok (), { marked with
      integrationDeliveries :=
        updateWhere (·.id = id) (g ∘ job.mark) db.integrationDeliveries }) := by
  have hfound : marked.deliveryOf id = some (job.mark r) := by
    have hlook := deliveryOf_updateWhere db id (mark_id job) id
    simp only [h, Option.map_some, deliveryOf_id h, if_true] at hlook
    simpa [Db.deliveryOf, hmarked] using hlook
  rw [updateDelivery_run hfound, hmarked, updateWhere_updateWhere fun r => by rw [mark_id]]

/-- An attempt leaves one row changed, and its notifier calls appended. -/
theorem process_run (h : db.deliveryOf job.data.deliveryId = some r) :
    (a.process job).run db = (a.result job (db.target job.data), { db with
      integrationDeliveries := updateWhere (·.id = job.data.deliveryId)
        (a.rowAfter job (db.target job.data)) db.integrationDeliveries
      sends := db.sends ++ a.sent job.data (db.target job.data) }) := by
  let marked : Db := { db with
    integrationDeliveries :=
      updateWhere (·.id = job.data.deliveryId) job.mark db.integrationDeliveries }
  have htarget : marked.target job.data = db.target job.data := rfl
  refine (Eff.bind_run_of_ok (t := marked) (updateDelivery_run h) _).trans ?_
  by_cases hcomplete : a.completes = true
  · have hrow : a.rowAfter job (db.target job.data) =
        a.record job (db.target job.data) ∘ job.mark := by
      simp [Attempt.rowAfter, hcomplete]
    have hsending : a.ending ≠ .diedSending := by
      intro h
      simp [Attempt.completes, h] at hcomplete
    have hdied : a.ending ≠ .diedSent := by
      intro h
      simp [Attempt.completes, h] at hcomplete
    have hresult : a.result job (db.target job.data) = _ := if_pos hcomplete
    rw [hrow, hresult]
    cases hcfg : db.target job.data with
    | none =>
        simp only [Attempt.dies, hsending, hdied, if_false, Eff.bind_run, Eff.pure_run,
          Attempt.send, Eff.read_run, htarget, hcfg, if_true, Option.getD_some, Attempt.sent,
          List.append_nil]
        rw [updateDelivery_run_marked job h rfl]
        rfl
    | some cfg =>
        simp only [Attempt.dies, hsending, hdied, if_false, Eff.bind_run, Eff.pure_run,
          Attempt.send, Eff.read_run, htarget, hcfg, Eff.write_run, Bool.false_eq_true,
          Attempt.sent]
        by_cases hok : a.reply.ok = true
        · have hrecord : a.record job (some cfg) = _ := funext fun r => if_pos hok
          simp only [hok, if_true, Eff.bind_run]
          rw [updateDelivery_run_marked job h rfl, hrecord]
          rfl
        · have hrecord : a.record job (some cfg) = _ := funext fun r => if_neg hok
          simp only [hok, if_false, Bool.false_eq_true, Eff.bind_run]
          rw [updateDelivery_run_marked job h rfl, hrecord]
          rfl
  · have hrow : a.rowAfter job (db.target job.data) = job.mark := by
      simp [Attempt.rowAfter, hcomplete]
    have hresult : a.result job (db.target job.data) = _ := if_neg hcomplete
    rw [hrow, hresult]
    by_cases hsending : a.ending = .diedSending
    · have hsent : a.sent job.data (db.target job.data) = [] := by
        unfold Attempt.sent
        split <;> simp [hsending]
      simp [Attempt.dies, hsending, Eff.bind_run, Eff.raise, hsent, marked]
    · have hdied : a.ending = .diedSent := by
        cases hending : a.ending <;> simp_all [Attempt.completes]
      cases hcfg : db.target job.data with
      | none =>
          simp [Attempt.dies, hdied, Eff.bind_run, Eff.raise, Attempt.send, htarget, hcfg,
            Attempt.sent, marked]
      | some cfg =>
          simp [Attempt.dies, hdied, Eff.bind_run, Eff.raise, Attempt.send, htarget, hcfg,
            Attempt.sent, marked]

/-- An attempt at a delivery whose row is gone fails at its first write. -/
theorem process_run_of_none (h : db.deliveryOf job.data.deliveryId = none) :
    ((a.process job).run db).2 = db := by
  simp [Attempt.process, Eff.bind_run, updateDelivery, h]

/-- The status an attempt leaves. -/
theorem rowAfter_status (a : Attempt) (job : Job) (target : Option IntegrationRow)
    (r : DeliveryRow) :
    (a.rowAfter job target r).status =
      if a.completes = false then .sending
      else if target = none then .failed
      else if a.reply.ok then .success
      else if job.isFinal then .dead else .failed := by
  unfold Attempt.rowAfter
  cases hcomplete : a.completes with
  | false => simp [Job.mark]
  | true =>
      cases target with
      | none => simp [Attempt.record]
      | some cfg =>
          by_cases hok : a.reply.ok = true
          · simp [Attempt.record, hok]
          · simp [Attempt.record, hok]

end

/-! ## the law -/

/-- The notifier calls made for one delivery. -/
def Db.sendsOf (db : Db) (id : DeliveryId) : List Send := db.sends.filter (·.deliveryId = id)

/-- The operation is the final attempt at the delivery. -/
def Worker.FinalAttempt (s : Worker) (id : DeliveryId) : Op → Prop
  | .attempt k _ => ∃ job ∈ s.queue[k]?, job.data.deliveryId = id ∧ job.isFinal = true
  | .integrations _ => False

/-- What an operation keeps of every delivery's lifecycle. -/
structure Lifecycle (s : Worker) (op : Op) : Prop where
  /-- A delivery that is `SUCCESS` is not sent again and stays `SUCCESS`. -/
  success : ∀ id, ∀ r ∈ s.db.deliveryOf id, r.status = .success →
    (s.step op).db.sendsOf id = s.db.sendsOf id ∧
      ∀ r' ∈ (s.step op).db.deliveryOf id, r'.status = .success
  /-- `DEAD` is set on the final attempt only. -/
  dead : ∀ id, ∀ r' ∈ (s.step op).db.deliveryOf id, r'.status = .dead →
    s.FinalAttempt id op ∨ s.db.deliveryOf id = some r'
  /-- A final attempt whose writes are all made leaves a status that is final too. -/
  ended : ∀ k a, op = .attempt k a → a.completes = true →
    ∀ job ∈ s.queue[k]?, job.isFinal = true →
      ∀ r' ∈ (s.step op).db.deliveryOf job.data.deliveryId,
        r'.status = .success ∨ r'.status = .dead ∨
          r'.status = .failed ∧ s.db.target job.data = none

/-- No attempt is made at a delivery that is `SUCCESS` already. -/
def NotYetDelivered (s : Worker) : Op → Prop
  | .attempt k _ =>
      ∀ job ∈ s.queue[k]?, ∀ r ∈ s.db.deliveryOf job.data.deliveryId, r.status ≠ .success
  | .integrations _ => True

/-! ## one operation -/

section
variable {s : Worker} {k : Nat} {a : Attempt} {job : Job}

theorem step_attempt (hk : s.queue[k]? = some job) :
    (s.step (.attempt k a)).db = ((a.process job).run s.db).2 := by
  simp [Worker.step, hk]

theorem step_attempt_of_none (hk : s.queue[k]? = none) : s.step (.attempt k a) = s := by
  simp [Worker.step, hk]

/-- An attempt touches the row of its own delivery. -/
theorem deliveryOf_step (hk : s.queue[k]? = some job) (id : DeliveryId) :
    (s.step (.attempt k a)).db.deliveryOf id = (s.db.deliveryOf id).map fun r =>
      if id = job.data.deliveryId then a.rowAfter job (s.db.target job.data) r else r := by
  rw [step_attempt hk]
  cases hr : s.db.deliveryOf job.data.deliveryId with
  | none =>
      rw [process_run_of_none hr]
      cases hid : s.db.deliveryOf id with
      | none => rfl
      | some r =>
          have hne : id ≠ job.data.deliveryId := by
            rintro rfl
            simp [hr] at hid
          simp [hne]
  | some r =>
      have hlook := deliveryOf_updateWhere s.db job.data.deliveryId
        (rowAfter_id a job (s.db.target job.data)) id
      rw [process_run hr]
      refine (show _ = _ from hlook).trans ?_
      cases hid : s.db.deliveryOf id with
      | none => rfl
      | some r' => simp [deliveryOf_id hid]

/-- An attempt calls the notifier of its own delivery. -/
theorem sendsOf_step {r : DeliveryRow} (hk : s.queue[k]? = some job)
    (hr : s.db.deliveryOf job.data.deliveryId = some r) (id : DeliveryId) :
    (s.step (.attempt k a)).db.sendsOf id = s.db.sendsOf id ++
      if id = job.data.deliveryId then a.sent job.data (s.db.target job.data) else [] := by
  rw [step_attempt hk, process_run hr]
  simp only [Db.sendsOf, List.filter_append]
  congr 1
  unfold Attempt.sent
  by_cases hid : id = job.data.deliveryId
  · simp only [hid, if_true]
    split
    · rfl
    · split <;> simp
  · simp only [hid, if_false]
    split
    · rfl
    · split <;> simp [Ne.symm hid]

/-- An operation that changes no delivery and makes no send keeps every lifecycle. -/
theorem Lifecycle.of_same {op : Op}
    (hdeliveries : ∀ id, (s.step op).db.deliveryOf id = s.db.deliveryOf id)
    (hsends : ∀ id, (s.step op).db.sendsOf id = s.db.sendsOf id)
    (hnone : ∀ k a, op = .attempt k a → s.queue[k]? = none) : Lifecycle s op where
  success := by
    intro id r hr hsuccess
    refine ⟨hsends id, fun r' hr' => ?_⟩
    rw [hdeliveries, Option.mem_def.1 hr] at hr'
    obtain rfl := Option.some.inj hr'
    exact hsuccess
  dead := by
    intro id r' hr' _
    rw [hdeliveries] at hr'
    exact .inr hr'
  ended := by
    intro k a hop _ job hjob
    simp [hnone k a hop] at hjob

/-- The first attempt to succeed, or any before it, keeps the lifecycle. -/
theorem Lifecycle.of_attempt (hk : s.queue[k]? = some job)
    (hnot : ∀ r ∈ s.db.deliveryOf job.data.deliveryId, r.status ≠ .success) :
    Lifecycle s (.attempt k a) where
  success := by
    intro id r hr hsuccess
    have hne : id ≠ job.data.deliveryId := by
      rintro rfl
      exact hnot r hr hsuccess
    constructor
    · rw [step_attempt hk]
      cases hown : s.db.deliveryOf job.data.deliveryId with
      | none => rw [process_run_of_none hown]
      | some own =>
          have hsends := sendsOf_step (a := a) hk hown id
          rw [step_attempt hk] at hsends
          simpa [hne] using hsends
    · intro r' hr'
      rw [deliveryOf_step hk] at hr'
      simp only [Option.mem_def.1 hr, hne, if_false, Option.map_some] at hr'
      obtain rfl := Option.some.inj hr'
      exact hsuccess
  dead := by
    intro id r' hr' hdead
    rw [deliveryOf_step hk] at hr'
    by_cases hid : id = job.data.deliveryId
    · refine .inl ⟨job, hk, hid.symm, ?_⟩
      obtain ⟨r, -, rfl⟩ := Option.map_eq_some_iff.1 hr'
      simp only [hid, if_true, rowAfter_status] at hdead
      split_ifs at hdead with hcomplete htarget hok hfinal
      exact hfinal
    · simp only [hid, if_false, Option.map_id'] at hr'
      exact .inr hr'
  ended := by
    rintro k' a' hop hcomplete job' hjob' hfinal r' hr'
    obtain ⟨rfl, rfl⟩ : k = k' ∧ a = a' := by simpa using hop
    obtain rfl : job = job' := by simpa [hk] using hjob'
    rw [deliveryOf_step hk] at hr'
    obtain ⟨r, -, rfl⟩ := Option.map_eq_some_iff.1 hr'
    have hstatus := rowAfter_status a job (s.db.target job.data) r
    simp only [hcomplete, hfinal, Bool.true_eq_false, if_true, if_false] at hstatus ⊢
    rw [hstatus]
    split_ifs with htarget hok
    · exact .inr (.inr ⟨rfl, htarget⟩)
    · exact .inl rfl
    · exact .inr (.inl rfl)

/-- An attempt that leaves `SUCCESS` has sent. -/
theorem sent_ne_nil {target : Option IntegrationRow} {r : DeliveryRow}
    (h : (a.rowAfter job target r).status = .success) : a.sent job.data target ≠ [] := by
  rw [rowAfter_status] at h
  split_ifs at h with hcomplete htarget hok hfinal
  obtain ⟨cfg, rfl⟩ := Option.ne_none_iff_exists'.1 htarget
  have hsending : a.ending ≠ .diedSending := by
    intro hdied
    simp [Attempt.completes, hdied] at hcomplete
  simp [Attempt.sent, hsending]

/-- **Step lemma**: an operation keeps every delivery's lifecycle if and only if it is not an
attempt at a delivery that is `SUCCESS` already. -/
theorem lifecycle_iff (s : Worker) (op : Op) : Lifecycle s op ↔ NotYetDelivered s op := by
  cases op with
  | integrations rows =>
      have hsame : Lifecycle s (.integrations rows) :=
        .of_same (fun _ => rfl) (fun _ => rfl) fun _ _ hop => by cases hop
      exact iff_of_true hsame trivial
  | attempt k a =>
      cases hk : s.queue[k]? with
      | none =>
          have hstays := step_attempt_of_none (a := a) hk
          refine iff_of_true (.of_same ?_ ?_ ?_) ?_
          · simp [hstays]
          · simp [hstays]
          · intro k' a' hop
            obtain ⟨rfl, -⟩ : k = k' ∧ a = a' := by simpa using hop
            exact hk
          · intro job hjob
            simp [hk] at hjob
      | some job =>
          constructor
          · intro hkept job' hjob' r hr hsuccess
            obtain rfl : job = job' := by simpa [hk] using hjob'
            -- the row would be SUCCESS again, so there was one more send
            obtain ⟨hsends, hstays⟩ := hkept.success _ r hr hsuccess
            have hafter := deliveryOf_step (a := a) hk job.data.deliveryId
            simp only [Option.mem_def.1 hr, if_true, Option.map_some] at hafter
            have hsent := sent_ne_nil (hstays _ hafter)
            rw [sendsOf_step hk hr] at hsends
            simp [hsent] at hsends
          · intro hnot
            exact .of_attempt hk (hnot job hk)

end

/-! ## runs -/

/-- **In every run of attempts, retries and re-deliveries, the lifecycle of every delivery is kept
if and only if no attempt is made at a delivery that is `SUCCESS` already.** -/
theorem lifecycle_along_iff (s : Worker) (ops : List Op) :
    Along Worker.step Lifecycle s ops ↔ Along Worker.step NotYetDelivered s ops :=
  along_iff (I := fun _ => True) (fun _ _ _ _ => trivial) (fun s op _ => lifecycle_iff s op) trivial

/-! ## a queue that learns of every end -/

/-- The queue learns of the end of every attempt that makes all its writes. -/
def Learns (_ : Worker) : Op → Prop
  | .attempt _ a => a.ending ≠ .missed
  | .integrations _ => True

/-- The deliveries that have a job in the queue. -/
def Worker.queued (s : Worker) : List DeliveryId := s.queue.map (·.data.deliveryId)

/-- No two jobs of the queue are for one delivery, and none is for one that is `SUCCESS`. -/
structure Undelivered (s : Worker) : Prop where
  distinct : s.queued.Nodup
  unsent : ∀ id ∈ s.queued, ∀ r ∈ s.db.deliveryOf id, r.status ≠ .success

section
variable {s : Worker} {k : Nat} {a : Attempt} {job : Job}

/-- The queue forgets a job, or keeps it for the same delivery. -/
theorem settle_queued {queue : List Job} (hk : queue[k]? = some job)
    (result : Except ProcessorError Result) :
    ((settle queue k job result).map (·.data.deliveryId)).Sublist
      (queue.map (·.data.deliveryId)) := by
  have herased := (List.eraseIdx_sublist queue k).map (·.data.deliveryId)
  cases result with
  | ok _ => exact herased
  | error _ =>
      simp only [settle]
      split
      · exact herased
      · obtain ⟨hlt, rfl⟩ := List.getElem?_eq_some_iff.1 hk
        have hlt' : k < (queue.map (·.data.deliveryId)).length := by simpa using hlt
        have hsame := List.set_getElem_self hlt'
        rw [List.getElem_map] at hsame
        rw [List.map_set, hsame]

/-- The queue forgets the job of a delivery that it learns was sent. -/
theorem not_mem_settle {queue : List Job} (hdistinct : (queue.map (·.data.deliveryId)).Nodup)
    (hk : queue[k]? = some job) (result : Result) :
    job.data.deliveryId ∉ (settle queue k job (.ok result)).map (·.data.deliveryId) := by
  intro hmem
  obtain ⟨job', hjob', hid⟩ := List.mem_map.1 hmem
  obtain ⟨i, hne, hi⟩ := List.mem_eraseIdx_iff_getElem?.1 hjob'
  have hlt : i < (queue.map (·.data.deliveryId)).length := by
    simpa using (List.getElem?_eq_some_iff.1 hi).1
  refine hne ((List.getElem?_inj hlt hdistinct).1 ?_)
  simp [hi, hk, hid]

/-- An attempt that leaves `SUCCESS` returns. -/
theorem result_of_success {target : Option IntegrationRow} {r : DeliveryRow}
    (h : (a.rowAfter job target r).status = .success) : ∃ res, a.result job target = .ok res := by
  rw [rowAfter_status] at h
  split_ifs at h with hcomplete htarget hok hfinal
  obtain ⟨cfg, rfl⟩ := Option.ne_none_iff_exists'.1 htarget
  exact ⟨_, by simp [Attempt.result, hcomplete, hok]; rfl⟩

theorem Undelivered.step (h : Undelivered s) {op : Op} (hlearns : Learns s op) :
    Undelivered (s.step op) := by
  cases op with
  | integrations rows => exact ⟨h.distinct, h.unsent⟩
  | attempt k a =>
      cases hk : s.queue[k]? with
      | none => rwa [step_attempt_of_none hk]
      | some job =>
          have hqueue : (s.step (.attempt k a)).queue =
              if a.ending = .learned then settle s.queue k job ((a.process job).run s.db).1
              else s.queue := by
            simp [Worker.step, hk]
          have hsub : (s.step (.attempt k a)).queued.Sublist s.queued := by
            rw [Worker.queued, hqueue]
            split
            · exact settle_queued hk _
            · exact .refl _
          refine ⟨h.distinct.sublist hsub, fun id hid r' hr' hsuccess => ?_⟩
          rw [deliveryOf_step hk] at hr'
          obtain ⟨r, hr, rfl⟩ := Option.map_eq_some_iff.1 hr'
          by_cases hown : id = job.data.deliveryId
          · -- the attempt succeeded, so it returned, and the queue has forgotten the job
            simp only [hown, if_true] at hsuccess hr
            obtain ⟨res, hres⟩ := result_of_success hsuccess
            have hlearned : a.ending = .learned := by
              rw [rowAfter_status] at hsuccess
              cases hending : a.ending <;> simp_all [Attempt.completes, Learns]
            rw [Worker.queued, hqueue, if_pos hlearned, process_run hr, hres, hown] at hid
            exact not_mem_settle h.distinct hk res hid
          · simp only [hown, if_false] at hsuccess
            exact h.unsent id (hsub.subset hid) r hr hsuccess

end

/-- **Where the queue learns of the end of every attempt, the lifecycle of every delivery is
kept.** -/
theorem lifecycle_along_of_learns {s : Worker} (h : Undelivered s) {ops : List Op}
    (hlearns : Along Worker.step Learns s ops) : Along Worker.step Lifecycle s ops := by
  refine Along.of_inv (fun _ _ h hl => h.step hl) (fun s op h _ => ?_) h hlearns
  refine (lifecycle_iff s op).2 ?_
  cases op with
  | integrations rows => trivial
  | attempt k a =>
      intro job hjob
      exact h.unsent _ (List.mem_map_of_mem (List.mem_of_getElem? hjob))

/-! ## a delivery sent twice -/

/-- One delivery waiting to be sent to a webhook. -/
def waiting : Worker where
  db := {
    integrationDeliveries := [{
      id := 1, organizationId := "acme", integrationType := .webhook, integrationId := "hook"
      event := "incident.opened", dedupeKey := some "incident:7:opened:WEBHOOK:hook" }]
    integrations := [{ type := .webhook, id := "hook", organizationId := "acme" }] }
  queue := [{
    data := {
      deliveryId := 1, integrationType := .webhook, integrationId := "hook"
      organizationId := "acme"
      event := ⟨"incident.opened", "api is down", "api", "DOWN", "https://status", 100⟩ } }]

/-- The webhook accepts the event, but the queue misses the end of the attempt and hands the job
out again. -/
def redelivered : List Op :=
  [.attempt 0 ⟨100, ⟨true, 200, none⟩, .missed⟩, .attempt 0 ⟨200, ⟨true, 200, none⟩, .learned⟩]

theorem not_lifecycle_redelivered :
    ¬ Along Worker.step Lifecycle waiting redelivered ∧
      (run Worker.step waiting redelivered).db.sends.length = 2 := by
  refine ⟨?_, by decide +kernel⟩
  rintro ⟨-, hsecond, -⟩
  have hsends := (hsecond.success 1 _ rfl (by decide +kernel)).1
  exact absurd hsends (by decide +kernel)

end UptimeFlow.Integrations
