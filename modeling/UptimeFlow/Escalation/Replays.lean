import UptimeFlow.Attempts
import UptimeFlow.Escalation.System

/-!
# UptimeFlow.Escalation.Replays

A job that fails and is retried as a whole until it succeeds.

The statements of a step leave their traces one by one, and a retry starts over.
Up to the first trace (`Db.attemptSites`) a failure costs nothing; after it the
retry records a delivery, or the timeline entry, a second time.  So the step is
handled once exactly when every failed attempt was cut off that early:
`replayed_iff`.
-/

namespace UptimeFlow.Escalation

open Tables
open Monitoring (Instant ChannelId DeliveryId NotificationDelivery AlertJobData Incident
  EscalationJobData)

/-! ## handled once -/

/-- What was added to a table. -/
def gained {α : Type} (before after : List α) : List α := after.drop before.length

@[simp] theorem gained_append {α : Type} (rows added : List α) :
    gained rows (rows ++ added) = added := List.drop_left

/-- One delivery was recorded for the channel, and one job was enqueued for it. -/
def DeliveredOnce (job : EscalationJobData) (db db' : Db) (channelId : ChannelId) : Prop :=
  ∃ id : DeliveryId,
    (gained db.notificationDeliveries db'.notificationDeliveries).filter
        (·.channelId = channelId) =
      [{ id, organizationId := job.organizationId, channelId, incidentId := job.incidentId }] ∧
    (gained db.alertQueue db'.alertQueue).filter (·.channelId = channelId) =
      [{ deliveryId := id, incidentId := job.incidentId, channelId
         organizationId := job.organizationId, kind := .opened }]

/-- One entry of the step was made in the timeline, and no other. -/
def EnteredOnce (job : EscalationJobData) (step : StepRow) (db db' : Db) : Prop :=
  ∃ event, gained db.incidentEvents db'.incidentEvents = [event] ∧
    event.incidentId = job.incidentId ∧ event.type = .escalated ∧
    event.escalation.map (·.step) = some step.position

/-- Each live channel of the job's step has its delivery, the timeline its entry, and the queue the
job's successor, all once. -/
def HandledOnce (job : EscalationJobData) (db db' : Db) : Prop :=
  (∀ step ∈ db.stepOf job,
    (∀ channelId ∈ db.live job.organizationId step.channelIds, DeliveredOnce job db db' channelId) ∧
      EnteredOnce job step db db') ∧
  gained db.escalationQueue db'.escalationQueue = (db.next job).toList

/-! ## one attempt -/

/-- One attempt at a job: the statements that fail in it, and when it runs. -/
structure Attempt where
  faults : Faults := noFaults
  now : Instant

def attempt (deps : Deps) (job : EscalationJobData) (a : Attempt) : Work JobResult :=
  escalationProcessor deps a.faults a.now job

/-- The statements of a job that fires `step`, up to the first that leaves a trace. -/
def Db.attemptSites (db : Db) (deps : Deps) (job : EscalationJobData) (now : Instant)
    (step : StepRow) : List Site :=
  [.incident, .policy] ++ db.stepSites deps now job.organizationId step

/-- What an attempt at a job that fires `step` wrote when it ended with `r`. -/
structure Attempted (deps : Deps) (job : EscalationJobData) (policy : LoadedPolicy)
    (step : StepRow) (db : Db) (a : Attempt) (r : Except String JobResult) (w : Writes) :
    Prop where
  recorded : w.rows.map (·.1) <+: db.live job.organizationId step.channelIds
  enqueued : w.jobs <+: w.rows
  complete : ∀ result, r = .ok result →
    w.jobs = w.rows ∧ w.rows.map (·.1) = db.live job.organizationId step.channelIds ∧
      w.next = (successor policy job).toList ∧
      ∃ event, w.events = [event] ∧ event.incidentId = job.incidentId ∧
        event.type = .escalated ∧ event.escalation.map (·.step) = some step.position
  failed : ∀ e, r = .error e → w.next = []
  cut : ∀ e, a.faults.first (db.attemptSites deps job a.now step) = some e →
    r = .error e ∧ w.rows = [] ∧ w.events = []
  opened : a.faults.first (db.attemptSites deps job a.now step) = none →
    (db.live job.organizationId step.channelIds = [] → w.events ≠ []) ∧
      (db.live job.organizationId step.channelIds ≠ [] → w.rows ≠ [])

/-- A store with the same settings differs in what jobs write alone. -/
theorem eq_of_settings {db s : Db} (h : s.settings = db.settings) :
    s = { db with
      incidentEvents := s.incidentEvents, auditLogs := s.auditLogs
      notificationDeliveries := s.notificationDeliveries, alertQueue := s.alertQueue
      escalationQueue := s.escalationQueue, emailQueue := s.emailQueue } := by
  cases s
  cases db
  simp only [Db.settings, Db.mk.injEq] at h ⊢
  simp [h]

section
variable {deps : Deps} {job : EscalationJobData} {db : Db} {incident : Incident}
  {policy : LoadedPolicy} {step : StepRow}

variable (deps) in
/-- An attempt in a store that other attempts have written to. -/
theorem attempt_run (hactive : db.active job = some (incident, policy))
    (hstep : policy.steps[job.stepIndex]? = some step) (a : Attempt) {s : Db}
    (hs : s.settings = db.settings) :
    ∃ r w, (attempt deps job a).run s = (r, s.wrote (db.contextOf job incident) w) ∧
      Attempted deps job policy step db a r w := by
  have hactive' : s.active job = some (incident, policy) := by
    rw [eq_of_settings hs]
    exact hactive
  have hctx : s.contextOf job incident = db.contextOf job incident := by
    rw [eq_of_settings hs]
    rfl
  have hchannels : s.alertChannels = db.alertChannels := by rw [eq_of_settings hs]
  have hload : s.loadSites deps a.now step = db.loadSites deps a.now step := by
    rw [eq_of_settings hs]
    rfl
  have hsites : s.stepSites deps a.now job.organizationId step =
      db.stepSites deps a.now job.organizationId step := by
    rw [Db.stepSites, Db.stepSites, hload, Db.closeSites, Db.closeSites, openingSites_congr hchannels,
      live_congr hchannels]
  rw [attempt, escalationProcessor_active deps a.faults a.now hactive', hctx]
  cases hread : a.faults.first [.incident, .policy] with
  | some e =>
      have hfirst : a.faults.first (db.attemptSites deps job a.now step) = some e := by
        rw [Db.attemptSites, Faults.first_append, hread, Option.some_or]
      refine ⟨.error e, {}, by simp [Db.wrote], ?_⟩
      constructor <;> simp [hfirst]
  | none =>
      obtain ⟨r, w, hrun, hfires⟩ := act_fires hstep deps a.faults a.now (db.contextOf job incident) s
      refine ⟨r, w, hrun, ?_⟩
      have hfirst : a.faults.first (db.attemptSites deps job a.now step) =
          a.faults.first (db.stepSites deps a.now job.organizationId step) := by
        rw [Db.attemptSites, Faults.first_append, hread, Option.none_or]
      obtain ⟨hrecorded, henqueued, hcomplete, hfailed, hcut, hopened⟩ := hfires
      have horganization : (db.contextOf job incident).organizationId = job.organizationId := rfl
      rw [horganization] at hrecorded hcomplete hcut hopened
      rw [hsites, ← hfirst] at hcut hopened
      rw [live_congr hchannels] at hrecorded hcomplete hopened
      refine ⟨hrecorded, henqueued, fun result h => ?_, hfailed, hcut, hopened⟩
      obtain ⟨hjobs, hrows, hnext, -, paged, n, -, hevents, -⟩ := hcomplete result h
      exact ⟨hjobs, hrows, hnext, _, hevents, rfl, rfl, rfl⟩

/-! ## traces -/

/-- The traces of a step with these live channels: the deliveries for the first of them or, without
any, the timeline. -/
def traces (live : List ChannelId) (s : Db) : Nat :=
  match live with
  | [] => s.incidentEvents.length
  | channelId :: _ => (s.notificationDeliveries.filter (·.channelId = channelId)).length

theorem length_deliveries_wrote (s : Db) (ctx : StepContext) (w : Writes) (channelId : ChannelId) :
    ((s.wrote ctx w).notificationDeliveries.filter (·.channelId = channelId)).length =
      (s.notificationDeliveries.filter (·.channelId = channelId)).length +
        (w.rows.map (·.1)).count channelId := by
  rw [Db.wrote, List.filter_append, List.length_append, List.filter_map, List.length_map,
    List.count_eq_countP, List.countP_map, List.countP_eq_length_filter]
  rfl

theorem traces_le (live : List ChannelId) (s : Db) (ctx : StepContext) (w : Writes) :
    traces live s ≤ traces live (s.wrote ctx w) := by
  cases live with
  | nil => simp [traces, Db.wrote]
  | cons channelId rest =>
      rw [traces, traces, length_deliveries_wrote]
      exact Nat.le_add_right _ _

/-- An attempt that is not cut off early leaves a trace, however it ends. -/
theorem Attempted.traces_lt {a : Attempt} {r : Except String JobResult} {w : Writes}
    (h : Attempted deps job policy step db a r w)
    (hopened : a.faults.first (db.attemptSites deps job a.now step) = none) (s : Db)
    (ctx : StepContext) :
    traces (db.live job.organizationId step.channelIds) s <
      traces (db.live job.organizationId step.channelIds) (s.wrote ctx w) := by
  obtain ⟨hevents, hrows⟩ := h.opened hopened
  have hrecorded := h.recorded
  cases hlive : db.live job.organizationId step.channelIds with
  | nil =>
      have hpos := List.length_pos_of_ne_nil (hevents hlive)
      simp only [traces, Db.wrote, List.length_append]
      omega
  | cons channelId rest =>
      have hne : w.rows.map (·.1) ≠ [] := by simpa using hrows (by simp [hlive])
      obtain ⟨first, later, hfirst⟩ := List.exists_cons_of_ne_nil hne
      rw [hlive, hfirst, List.cons_prefix_cons] at hrecorded
      rw [traces, traces, length_deliveries_wrote, hfirst, hrecorded.1, List.count_cons_self]
      omega

/-- The tables only grow. -/
structure Grown (db s : Db) : Prop where
  settings : s.settings = db.settings
  deliveries : db.notificationDeliveries <+: s.notificationDeliveries
  events : db.incidentEvents <+: s.incidentEvents

theorem Grown.wrote {s : Db} (h : Grown db s) (ctx : StepContext) (w : Writes) :
    Grown db (s.wrote ctx w) :=
  ⟨h.settings, h.deliveries.trans (List.prefix_append _ _), h.events.trans (List.prefix_append _ _)⟩

theorem append_gained {α : Type} {before after : List α} (h : before <+: after) :
    before ++ gained before after = after := by
  obtain ⟨added, rfl⟩ := h
  rw [gained_append]

/-- What is handled once leaves one trace. -/
theorem HandledOnce.one_trace {db' : Db} (h : HandledOnce job db db') (hgrown : Grown db db')
    (hstep : db.stepOf job = some step) :
    traces (db.live job.organizationId step.channelIds) db' =
      traces (db.live job.organizationId step.channelIds) db + 1 := by
  obtain ⟨hdelivered, event, hevent, -⟩ := h.1 step hstep
  cases hlive : db.live job.organizationId step.channelIds with
  | nil =>
      have hevents := append_gained hgrown.events
      rw [hevent] at hevents
      simp [traces, ← hevents]
  | cons channelId rest =>
      obtain ⟨id, hrows, -⟩ := hdelivered channelId (by simp [hlive])
      rw [traces, traces, ← append_gained hgrown.deliveries,
        List.filter_append, hrows, List.length_append]
      rfl

/-! ## retries -/

/-- Nothing was written but emails and audit entries. -/
structure Untraced (db s : Db) : Prop where
  settings : s.settings = db.settings
  deliveries : s.notificationDeliveries = db.notificationDeliveries
  jobs : s.alertQueue = db.alertQueue
  events : s.incidentEvents = db.incidentEvents
  queue : s.escalationQueue = db.escalationQueue

theorem Untraced.refl : Untraced db db := ⟨rfl, rfl, rfl, rfl, rfl⟩

/-- An attempt that is cut off early leaves no trace. -/
theorem Attempted.untraced {a : Attempt} {r : Except String JobResult} {w : Writes}
    (h : Attempted deps job policy step db a r w) {e : String}
    (hcut : a.faults.first (db.attemptSites deps job a.now step) = some e) {s : Db}
    (hs : Untraced db s) (ctx : StepContext) : Untraced db (s.wrote ctx w) := by
  obtain ⟨hr, hrows, hevents⟩ := h.cut e hcut
  have hjobs := h.enqueued
  rw [hrows, List.prefix_nil] at hjobs
  have hnext := h.failed e hr
  constructor
  · exact hs.settings
  · simp [Db.wrote, hrows, hs.deliveries]
  · simp [Db.wrote, hjobs, hs.jobs]
  · simp [Db.wrote, hevents, hs.events]
  · simp [Db.wrote, hnext, hs.queue]

/-- A delivery of a channel named once is the only one for it. -/
theorem filter_sent {rows : List Sent} (hnodup : (rows.map (·.1)).Nodup) {sent : Sent}
    (hsent : sent ∈ rows) : rows.filter (fun s => s.1 = sent.1) = [sent] :=
  filter_eq_singleton hnodup hsent

/-- An attempt that succeeds where no trace was left handles the step once. -/
theorem Attempted.handledOnce {a : Attempt} {result : JobResult} {w : Writes}
    (h : Attempted deps job policy step db a (.ok result) w)
    (hactive : db.active job = some (incident, policy))
    (hstep : policy.steps[job.stepIndex]? = some step) {s : Db} (hs : Untraced db s)
    (hnodup : (db.live job.organizationId step.channelIds).Nodup) :
    HandledOnce job db (s.wrote (db.contextOf job incident) w) := by
  obtain ⟨hjobs, hrows, hnext, event, hevents, hevent⟩ := h.complete result rfl
  constructor
  · intro found hfound
    obtain rfl : step = found := by simpa [Db.stepOf, hactive, hstep] using hfound
    constructor
    · intro channelId hlive
      rw [← hrows] at hlive hnodup
      obtain ⟨sent, hsent, rfl⟩ := List.mem_map.1 hlive
      have hone := filter_sent hnodup hsent
      refine ⟨sent.2, ?_, ?_⟩
      · rw [Db.wrote, hs.deliveries, gained_append, List.filter_map]
        change ((w.rows.filter fun s => s.1 = sent.1).map _) = _
        rw [hone]
        rfl
      · rw [Db.wrote, hs.jobs, gained_append, hjobs, List.filter_map]
        change ((w.rows.filter fun s => s.1 = sent.1).map _) = _
        rw [hone]
        rfl
    · exact ⟨event, by rw [Db.wrote, hs.events, gained_append, hevents], hevent⟩
  · rw [Db.wrote, hs.queue, gained_append, hnext]
    simp [Db.next, hactive]

/-- A job that fires no step leaves nothing behind when it fails. -/
theorem fails_of_no_step (hnone : db.stepOf job = none) {attempts : List Attempt} {s : Db}
    (h : Fails (attempt deps job) attempts db s) : s = db := by
  refine h.inv (I := fun s => s = db) (fun a _ s e u hs hrun => ?_) rfl
  subst hs
  have hends := escalationProcessor_ends deps a.faults a.now job s hrun
  cases hends with
  | unread => rfl
  | fires hactive hstep => simp [Db.stepOf, hactive, hstep] at hnone

/-- Every attempt adds to what the one before it left. -/
theorem Grown.attempt (hactive : db.active job = some (incident, policy))
    (hstep : policy.steps[job.stepIndex]? = some step) {a : Attempt} {s u : Db}
    {r : Except String JobResult} (hs : Grown db s) (hrun : (attempt deps job a).run s = (r, u)) :
    Grown db u ∧ ∃ w, u = s.wrote (db.contextOf job incident) w ∧
      Attempted deps job policy step db a r w := by
  obtain ⟨r', w, hrun', hattempted⟩ := attempt_run deps hactive hstep a hs.settings
  rw [hrun', Prod.mk.injEq] at hrun
  obtain ⟨rfl, rfl⟩ := hrun
  exact ⟨hs.wrote _ w, w, rfl, hattempted⟩

/-- Where the step was handled once, no live channel is named twice and no failed attempt left a
trace. -/
theorem HandledOnce.converse {attempts : List Attempt} {last : Attempt} {result : JobResult}
    {s db' : Db} (honce : HandledOnce job db db')
    (hactive : db.active job = some (incident, policy))
    (hstep : policy.steps[job.stepIndex]? = some step)
    (hfails : Fails (attempt deps job) attempts db s)
    (hok : (attempt deps job last).run s = (.ok result, db')) :
    (db.live job.organizationId step.channelIds).Nodup ∧
      ∀ a ∈ attempts, (a.faults.first (db.attemptSites deps job a.now step)).isSome := by
  have hfound : db.stepOf job = some step := by simp [Db.stepOf, hactive, hstep]
  have hself : Grown db db := ⟨rfl, List.prefix_refl _, List.prefix_refl _⟩
  have hgrown : Grown db s := hfails.inv
    (fun a _ u e v hu hrun => (hu.attempt hactive hstep hrun).1) hself
  obtain ⟨hgrown', w, rfl, hattempted⟩ := hgrown.attempt hactive hstep hok
  obtain ⟨-, hrows, -⟩ := hattempted.complete result rfl
  constructor
  · rw [List.nodup_iff_count_le_one]
    intro channelId
    by_cases hlive : channelId ∈ db.live job.organizationId step.channelIds
    · -- the successful attempt alone records one delivery for each mention
      obtain ⟨id, hdeliveries, -⟩ := (honce.1 step hfound).1 channelId hlive
      have hafter := congrArg (fun rows => (rows.filter fun (d : NotificationDelivery) =>
        d.channelId = channelId).length) (append_gained hgrown'.deliveries)
      have hbefore := (hgrown.deliveries.filter fun (d : NotificationDelivery) =>
        d.channelId = channelId).length_le
      simp only [List.filter_append, hdeliveries, List.length_append, length_deliveries_wrote,
        hrows, List.length_singleton] at hafter
      omega
    · rw [List.count_eq_zero_of_not_mem hlive]
      exact Nat.zero_le 1
  · intro a ha
    by_contra hnone
    rw [Bool.not_eq_true, Option.isSome_eq_false_iff, Option.isNone_iff_eq_none] at hnone
    have hraised := hfails.lt_of_mem (I := Grown db)
      (m := traces (db.live job.organizationId step.channelIds)) hself
      (fun a u e v hu hrun => by
        obtain ⟨hv, w, rfl, -⟩ := hu.attempt hactive hstep hrun
        exact ⟨hv, traces_le _ _ _ _⟩) ha
      (fun u e v hu hrun => by
        obtain ⟨-, w, rfl, hattempted⟩ := hu.attempt hactive hstep hrun
        exact hattempted.traces_lt hnone _ _)
    have hopened : last.faults.first (db.attemptSites deps job last.now step) = none := by
      cases hlast : last.faults.first (db.attemptSites deps job last.now step) with
      | none => rfl
      | some e => cases (hattempted.cut e hlast).1
    have hlast := hattempted.traces_lt hopened s (db.contextOf job incident)
    have hone := honce.one_trace hgrown' hfound
    omega

/-- **A job that is retried until it succeeds handles its step once — each live channel has one
delivery, the timeline one entry, the queue one successor — if and only if the step names no live
channel twice and every failed attempt was cut off before its first trace.** -/
theorem replayed_iff {attempts : List Attempt} {result : JobResult} {db' : Db}
    (hcompletes : Completes (attempt deps job) attempts db result db') :
    HandledOnce job db db' ↔ ∀ step ∈ db.stepOf job,
      (db.live job.organizationId step.channelIds).Nodup ∧
        ∀ a ∈ attempts.dropLast,
          (a.faults.first (db.attemptSites deps job a.now step)).isSome := by
  obtain ⟨last, s, hlast, hfails, hok⟩ := hcompletes.split
  cases hfound : db.stepOf job with
  | none =>
      refine iff_of_true ?_ (by simp)
      obtain rfl := fails_of_no_step hfound hfails
      have hqueue := (escalationProcessor_ends deps last.faults last.now job s hok).queue_ok.1
      exact ⟨by simp [hfound], by rw [hqueue, gained_append]⟩
  | some step =>
      obtain ⟨⟨incident, policy⟩, hactive, hstep⟩ := Option.bind_eq_some_iff.1 hfound
      change policy.steps[job.stepIndex]? = some step at hstep
      constructor
      · intro honce found hmem
        obtain rfl : step = found := by simpa using hmem
        exact honce.converse hactive hstep hfails hok
      · intro hcond
        obtain ⟨hnodup, hcut⟩ := hcond step rfl
        have huntraced : Untraced db s := by
          refine hfails.inv (fun a ha u e v hu hrun => ?_) .refl
          obtain ⟨r, w, hrun', hattempted⟩ := attempt_run deps hactive hstep a hu.settings
          rw [hrun', Prod.mk.injEq] at hrun
          obtain ⟨e', he'⟩ := Option.isSome_iff_exists.1 (hcut a ha)
          rw [← hrun.2]
          exact hattempted.untraced he' hu _
        obtain ⟨r, w, hrun, hattempted⟩ :=
          attempt_run deps hactive hstep last huntraced.settings
        rw [hok, Prod.mk.injEq] at hrun
        rw [hrun.2]
        rw [← hrun.1] at hattempted
        exact hattempted.handledOnce hactive hstep huntraced hnodup

end

/-- One step, which dispatches to one channel. -/
def pagesSlack : Db :=
  { escalated.db with
    escalationSteps := [
      { policyId := "p", position := 0, delayMinutes := 5
        targets := [{ type := .channel, channelId := some "slack" }] }]
    alertChannels := [{ id := "slack", organizationId := "acme" }] }

def slackJob : EscalationJobData where
  incidentId := 7
  organizationId := "acme"
  monitorId := "api"
  policyId := "p"
  stepIndex := 0
  round := 0
  delay := 300000

/-- One statement does not go through. -/
def failsAt (site : Site) : Faults := fun s => if s = site then some "timeout" else none

/-- A failure before the delivery is recorded is made good by the retry. -/
theorem replayed_early :
    let failed := ((attempt ⟨fun _ _ => 0, none⟩ slackJob ⟨failsAt (.delivery 0), 1⟩).run
      pagesSlack).2
    HandledOnce slackJob pagesSlack ((attempt ⟨fun _ _ => 0, none⟩ slackJob { now := 2 }).run
      failed).2 := by
  intro failed
  have hcompletes : Completes (attempt ⟨fun _ _ => 0, none⟩ slackJob)
      [⟨failsAt (.delivery 0), 1⟩, { now := 2 }] pagesSlack
      (.fired 0 ⟨[], 0, 0, 1⟩ true) ((attempt ⟨fun _ _ => 0, none⟩ slackJob { now := 2 }).run
      failed).2 := .again rfl (.done rfl)
  exact (replayed_iff hcompletes).2 (by decide +kernel)

/-- A failure at the timeline entry makes the retry dispatch to the channel again. -/
theorem not_replayed_event :
    let failed := ((attempt ⟨fun _ _ => 0, none⟩ slackJob ⟨failsAt .event, 1⟩).run pagesSlack).2
    let replayed := ((attempt ⟨fun _ _ => 0, none⟩ slackJob { now := 2 }).run failed).2
    Completes (attempt ⟨fun _ _ => 0, none⟩ slackJob) [⟨failsAt .event, 1⟩, { now := 2 }] pagesSlack
        (.fired 0 ⟨[], 0, 0, 1⟩ true) replayed ∧
      replayed.notificationDeliveries.map (·.channelId) = ["slack", "slack"] ∧
      replayed.alertQueue.map (·.channelId) = ["slack", "slack"] ∧
      ¬ HandledOnce slackJob pagesSlack replayed := by
  intro failed replayed
  refine ⟨.again rfl (.done rfl), by decide +kernel, by decide +kernel, fun honce => ?_⟩
  have hstep : (⟨⟨"p", 0, 5⟩, [⟨.channel, none, none, some "slack"⟩]⟩ : StepRow) ∈
      pagesSlack.stepOf slackJob := by decide +kernel
  obtain ⟨id, hdeliveries, -⟩ := (honce.1 _ hstep).1 "slack" (by decide +kernel)
  have hone := congrArg List.length hdeliveries
  rw [List.length_singleton] at hone
  exact absurd hone (by decide +kernel)

end UptimeFlow.Escalation
