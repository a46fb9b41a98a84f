import UptimeFlow.Monitoring.Announce
import UptimeFlow.Monitoring.Health

/-!
# UptimeFlow.Monitoring.Retries

Check jobs whose statements fail, and which the queue runs again.

An attempt that fails has written what it had written: the monitor row comes
first, so an attempt cut off after it has moved the monitor to `DOWN`, and the
next attempt finds it there and opens nothing.  `Notified` is what holds as
long as every attempt that takes the monitor `DOWN` is not cut off in that
place: open incidents have told every bound channel once.
-/

namespace UptimeFlow.Monitoring

open Tables Runs

/-! ## attempts -/

/-- One attempt of a check job by a worker, with the statements that fail in it. -/
structure Attempt where
  /-- The job; the queue attempts a failed job again under the same number. -/
  job : Nat
  region : ProbeRegion := defaultRegion
  now : Instant
  probe : ProbeOutcome
  faults : Faults := noFaults
  webUrl : String := ""

/-- A worker passes all three dispatchers. -/
def Attempt.opts (a : Attempt) : ProcessOptions :=
  { region := a.region, now := a.now, alerts := true, integrations := true, escalation := true
    webUrl := a.webUrl }

def Attempt.call (a : Attempt) : Pipe (Except SkipReason ProcessResult) :=
  checkProcessor a.faults a.probe a.opts

def Db.attempt (db : Db) (a : Attempt) : Db := (a.call.run db).2

def Attempt.succeeds (a : Attempt) (db : Db) : Bool := (a.call.run db).1.isOk

/-! ## the invariant -/

/-- No notice is about an incident that is not in the table. -/
def KnownNotices (db : Db) : Prop :=
  db.notices (fun id => id ∉ db.incidents.map Incident.id) = ([], [], [])

/-- Every open incident of the monitor, unless it was opened while flapping, has told
every bound channel once. -/
structure Notified (m : MonitorId) (db : Db) : Prop where
  incidents : IncidentsOk m db.incidents
  known : KnownNotices db
  channels : (db.boundChannels m).Nodup
  delivered : ∀ i ∈ db.incidents, i.isOpen m = true → ¬ Marked db i.id →
    ∀ c ∈ db.boundChannels m, DeliveredOnce db i.id c

/-- Fewer incidents, fewer notices. -/
theorem notices_eq_nil {p q : IncidentId → Bool} {db : Db} (hpq : ∀ id, p id = true → q id = true)
    (h : db.notices q = ([], [], [])) : db.notices p = ([], [], []) := by
  simp only [Db.notices, Prod.mk.injEq, List.filter_eq_nil_iff] at h ⊢
  obtain ⟨he, hd, hj⟩ := h
  refine ⟨fun e hm => ?_, fun d hm => ?_, fun j hm => ?_⟩
  · have := he e hm
    simp only [Bool.and_eq_true, decide_eq_true_eq, not_and] at this ⊢
    exact fun hmark hp => this hmark (hpq _ hp)
  · exact fun hp => hd d hm (hpq _ hp)
  · exact fun hp => hj j hm (hpq _ hp)

section
variable {faults : Faults} {monitor : MonitorSnapshot} {outcome : ProbeOutcome}
  {opts : ProcessOptions} {db : Db}

/-- Nothing was told about a fresh incident. -/
theorem Notified.notices_freshId (h : Notified monitor.id db) :
    db.notices (· = freshId Incident.id db.incidents) = ([], [], []) := by
  refine notices_eq_nil (fun id hid => ?_) h.known
  rw [decide_eq_true_eq] at hid ⊢
  subst hid
  intro hmem
  obtain ⟨i, hi, hid⟩ := List.mem_map.mp hmem
  exact ne_freshId Incident.id hi hid

variable (outcome) in
/-- Opening in a step in which nothing fails: the incident was open already, or it is a
new one and either marked or announced. -/
theorem Notified.openStep (h : Notified monitor.id db)
    (hs : faults.SpareOpening (db.boundChannels monitor.id)) (ha : opts.alerts = true) :
    ∃ r db', (openStep faults monitor outcome opts).run db = (.ok r, db') ∧
      ((OpenDown monitor.id db.incidents ∧ db' = db) ∨
        (¬ OpenDown monitor.id db.incidents ∧
          if db.detectFlapping monitor.id opts.now then Marked db' (freshId Incident.id db.incidents)
          else ¬ Marked db' (freshId Incident.id db.incidents) ∧
            ∀ c ∈ db.boundChannels monitor.id,
              DeliveredOnce db' (freshId Incident.id db.incidents) c)) := by
  rw [openStep_run, hs.1]
  simp only [Bool.false_eq_true, if_false]
  rcases h.incidents.insertIncident_cases outcome opts.now
    with ⟨he, ho⟩ | ⟨he, ho⟩
  · rw [he]
    exact ⟨_, db, rfl, .inl ⟨ho, rfl⟩⟩
  · rw [he]
    simp only []
    let id := freshId Incident.id db.incidents
    let opened := db.opened outcome opts.now
      (db.incidents ++ [newIncident monitor outcome opts.now id]) id
    cases hfl : db.detectFlapping monitor.id opts.now with
    | true =>
        obtain ⟨r, db', hrun, hm⟩ :=
          announceOpened_flapping opts id opened hs
        exact ⟨r, db', hrun, .inr ⟨ho, hm⟩⟩
    | false =>
        have hn : opened.notices (· = id) = ([], [], []) := by
          rw [notices_opened]
          exact h.notices_freshId
        obtain ⟨r, db', hrun, hm, hd⟩ := announceOpened_delivers opened hs ha h.channels hn
        exact ⟨r, db', hrun, .inr ⟨ho, by simpa using ⟨hm, hd⟩⟩⟩

variable (faults monitor outcome opts db) in
/-- The channels bound to a monitor are configuration. -/
theorem incidentStep_boundChannels (decision : TransitionResult) :
    ((incidentStep faults monitor outcome opts decision).run db).2.boundChannels monitor.id =
      db.boundChannels monitor.id :=
  incidentStep_config faults monitor outcome opts (·.boundChannels monitor.id)
    (fun _ _ _ _ _ _ _ _ _ => rfl) (fun _ _ => rfl) decision db

theorem Notified.known_incidentStep (h : Notified monitor.id db) (decision : TransitionResult) :
    KnownNotices ((incidentStep faults monitor outcome opts decision).run db).2 := by
  have hrows := (incidentStep_rows faults monitor outcome opts decision db).2
  rw [KnownNotices, hrows, incidentStep_notices]
  · refine notices_eq_nil (fun id hid => ?_) h.known
    rw [decide_eq_true_eq] at hid ⊢
    exact fun hmem => hid (mem_ids_nextIncidents faults _ hmem)
  · intro ha hf created hc
    obtain rfl := insertIncident_eq_some hc
    simp [ha, nextIncidents, hf, hc, newIncident]
  · intro _ _ i hi
    have hmem : i.id ∈ db.incidents.map Incident.id := List.mem_map_of_mem (findLatest_some hi).1
    rw [decide_eq_false_iff_not, not_not]
    exact mem_ids_nextIncidents faults _ hmem

/-- **Step lemma**: an incident step keeps the invariant, whatever fails in it, as long as
nothing fails in an opening. -/
theorem Notified.kept (h : Notified monitor.id db) {decision : TransitionResult}
    (ha : decision.incident = some .open → opts.alerts = true)
    (hs : decision.incident = some .open →
      faults.SpareOpening (db.boundChannels monitor.id)) :
    Notified monitor.id ((incidentStep faults monitor outcome opts decision).run db).2 := by
  have hrows := (incidentStep_rows faults monitor outcome opts decision db).2
  have hch := incidentStep_boundChannels faults monitor outcome opts db decision
  refine ⟨?_, h.known_incidentStep decision, by rw [hch]; exact h.channels, ?_⟩
  · rw [hrows]
    exact h.incidents.nextIncidents faults decision.incident
  · rw [hch]
    intro i hi hio hmark c hc
    -- where the step gives no notice about `i`, what was told before still counts
    have hold : i ∈ db.incidents →
        ((incidentStep faults monitor outcome opts decision).run db).2.notices (· = i.id) =
          db.notices (· = i.id) →
        DeliveredOnce ((incidentStep faults monitor outcome opts decision).run db).2 i.id c := by
      intro hi hn
      exact (deliveredOnce_congr hn c).mpr
        (h.delivered i hi hio (fun hm => hmark ((marked_congr hn).mpr hm)) c hc)
    cases hact : decision.incident with
    | none =>
        rw [hrows, hact] at hi
        exact hold hi (incidentStep_notices faults monitor outcome opts decision db
          (by simp [hact]) (by simp [hact]))
    | some action =>
        cases action with
        | «open» =>
            obtain ⟨r, db', hrun, hcase⟩ := h.openStep outcome (hs hact) (ha hact)
            have hstep : (incidentStep faults monitor outcome opts decision).run db = (.ok r, db') := by
              rw [incidentStep, hact]
              exact hrun
            rw [hstep] at hi hmark hold ⊢
            rcases hcase with ⟨-, rfl⟩ | ⟨ho, hnew⟩
            · exact hold hi rfl
            · -- the monitor had no open incident, so `i` is the new one
              have hid : i.id = freshId Incident.id db.incidents := by
                rw [hstep, hact] at hrows
                rw [hrows] at hi
                exact h.incidents.id_of_opened faults ho (hs hact).1 hi hio
              rw [hid] at hmark ⊢
              split at hnew
              · exact absurd hnew hmark
              · exact hnew.2 c hc
        | resolve =>
            rw [hrows, hact] at hi
            obtain ⟨hi, hne⟩ := mem_of_resolved faults hi hio
            refine hold hi (incidentStep_notices faults monitor outcome opts decision db
              (by simp [hact]) fun _ hu j hj => ?_)
            simpa using hne hu j hj

variable (monitor outcome opts db) in
/-- A step without an incident action fails at most in the timeline. -/
theorem incidentStep_none_run {decision : TransitionResult} (hact : decision.incident = none)
    (hf : faults .incidentEvent = false) :
    ∃ r db', (incidentStep faults monitor outcome opts decision).run db = (.ok r, db') := by
  rw [incidentStep, hact]
  simp only []
  split
  · rw [relapseStep, Eff.bind_run, Eff.read_run]
    simp only []
    cases db.findOpenIncidentId monitor.id with
    | none => exact ⟨_, _, rfl⟩
    | some id => simp [Eff.bind_run, addEvent, Faults.write, hf]
  · exact ⟨_, _, rfl⟩

variable (monitor outcome opts) in
/-- A step of a monitor that is `DOWN`, in which nothing fails: it goes through, and an
open incident whose alert was not suppressed is there afterwards. -/
theorem Notified.incidentStep_down (h : Notified monitor.id db) {decision : TransitionResult}
    (ha : opts.alerts = true) (hs : faults.SpareOpening (db.boundChannels monitor.id))
    (hact : decision.incident = some .open ∨
      (decision.incident = none ∧ OpenDown monitor.id db.incidents))
    (hfl : db.detectFlapping monitor.id opts.now = false)
    (hmark : ∀ i ∈ db.incidents, i.isOpen monitor.id = true → ¬ Marked db i.id) :
    ∃ r db', (incidentStep faults monitor outcome opts decision).run db = (.ok r, db') ∧
      ∃ i ∈ db'.incidents, i.isOpen monitor.id = true ∧ ¬ Marked db' i.id := by
  have hrows := (incidentStep_rows faults monitor outcome opts decision db).2
  have hnotices := fun p => incidentStep_notices (p := p) faults monitor outcome opts decision db
  rcases hact with hact | ⟨hact, ho⟩
  · obtain ⟨r, db', hrun, hcase⟩ := h.openStep outcome hs ha
    have hstep : (incidentStep faults monitor outcome opts decision).run db = (.ok r, db') := by
      rw [incidentStep, hact]
      exact hrun
    refine ⟨r, db', hstep, ?_⟩
    rcases hcase with ⟨ho, rfl⟩ | ⟨ho, hnew⟩
    · obtain ⟨i, hi, hio⟩ := h.incidents.openDown_iff.mp ho
      exact ⟨i, hi, hio, hmark i hi hio⟩
    · rw [hstep, hact] at hrows
      have hok : IncidentsOk monitor.id
          (nextIncidents faults monitor outcome opts.now (some .open) db.incidents) :=
        h.incidents.nextIncidents faults (some .open)
      obtain ⟨i, hi, hio⟩ := hok.openDown_iff.mp (h.incidents.openDown_of_open faults hs.1)
      refine ⟨i, by rw [hrows]; exact hi, hio, ?_⟩
      rw [h.incidents.id_of_opened faults ho hs.1 hi hio]
      rw [hfl, if_neg (by simp)] at hnew
      exact hnew.1
  · obtain ⟨r, db', hrun⟩ := incidentStep_none_run monitor outcome opts db hact hs.2.1
    obtain ⟨i, hi, hio⟩ := h.incidents.openDown_iff.mp ho
    refine ⟨r, db', hrun, i, ?_, hio, ?_⟩
    · rw [hrun, hact] at hrows
      rw [hrows]
      exact hi
    · have hn := hnotices (· = i.id) (by simp [hact]) (by simp [hact])
      rw [hrun] at hn
      exact fun hm => hmark i hi hio ((marked_congr hn).mp hm)

end

/-! ## runs -/

/-- The attempt moves the persisted health to `DOWN`, outside maintenance and outside
flapping. -/
def MovesDown (db : Db) (a : Attempt) : Prop :=
  db.monitor.health ≠ .down ∧ (db.attempt a).monitor.health = .down ∧
    db.isInMaintenance db.monitor.id a.now = false ∧
      db.detectFlapping db.monitor.id a.now = false

/-- The monitor has an open down incident, and every enabled channel bound to it has
exactly one `opened` delivery for that incident. -/
def OutageAnnounced (db : Db) : Prop :=
  ∃ i ∈ db.incidents, i.monitorId = db.monitor.id ∧
    i.fingerprint = some (downFingerprint db.monitor.id) ∧ i.status ≠ .resolved ∧
      ∀ c ∈ db.boundChannels db.monitor.id, DeliveredOnce db i.id c

/-- `Q` holds after the attempt with which the job succeeds. -/
def AfterSuccess (job : Nat) (Q : Db → Prop) : Db → List Attempt → Prop
  | _, [] => True
  | db, a :: attempts =>
      if a.job = job ∧ a.succeeds db = true then Q (db.attempt a)
      else AfterSuccess job Q (db.attempt a) attempts

/-- Whenever an attempt moves the monitor `DOWN`, the outage is announced once its job
has succeeded. -/
def OutagesAnnounced : Db → List Attempt → Prop
  | _, [] => True
  | db, a :: attempts =>
      (MovesDown db a → AfterSuccess a.job OutageAnnounced db (a :: attempts)) ∧
        OutagesAnnounced (db.attempt a) attempts

/-- The attempt writes `DOWN` over another health. -/
def GoesDown (db : Db) (a : Attempt) : Prop :=
  db.monitor.isChecked = true ∧ a.faults.reachesRow = true ∧ db.monitor.health ≠ .down ∧
    (db.decision (toSnapshot db.monitor) a.probe a.opts).state = .down

instance (db : Db) (a : Attempt) : Decidable (GoesDown db a) :=
  inferInstanceAs (Decidable (_ ∧ _ ∧ _ ∧ _))

/-- Nothing fails in an attempt that takes the monitor `DOWN` once it has written so, and
if the alert is not suppressed, the open incident's alert was not suppressed either. -/
def SafeAttempt (db : Db) (a : Attempt) : Prop :=
  GoesDown db a →
    a.faults.SpareOpening (db.boundChannels db.monitor.id) ∧
      (db.detectFlapping db.monitor.id a.now = false →
        ∀ i ∈ db.incidents, i.isOpen db.monitor.id = true → ¬ Marked db i.id)

instance (db : Db) (a : Attempt) : Decidable (SafeAttempt db a) :=
  inferInstanceAs (Decidable (_ → _ ∧ (_ → _)))

/-- What every run keeps: the open incidents are announced, and an outage has one. -/
structure Told (db : Db) : Prop where
  notified : Notified db.monitor.id db
  outage : db.monitor.health = .down ∨ db.monitor.health = .recovering →
    OpenDown db.monitor.id db.incidents

section
variable {db : Db} {a : Attempt}

theorem attempt_of_not_isChecked (h : db.monitor.isChecked = false) : db.attempt a = db := by
  obtain ⟨reason, hrun⟩ := checkProcessor_skips a.faults a.probe a.opts h
  rw [Db.attempt, Attempt.call, hrun]

theorem attempt_of_isChecked (h : db.monitor.isChecked = true) :
    db.attempt a =
      ((processCheckResult a.faults (toSnapshot db.monitor) a.probe a.opts).run db).2 := by
  rw [Db.attempt, Attempt.call, checkProcessor_checks _ _ _ h, Eff.map_run_snd]

/-- An attempt that reaches the monitor row goes on with the incident step. -/
theorem attempt_run (h : db.monitor.isChecked = true) (hr : a.faults.reachesRow = true) :
    db.attempt a =
      ((incidentStep a.faults (toSnapshot db.monitor) a.probe a.opts
        (db.decision (toSnapshot db.monitor) a.probe a.opts)).run
          (db.recorded (toSnapshot db.monitor) a.probe a.opts
            (db.decision (toSnapshot db.monitor) a.probe a.opts))).2 := by
  rw [attempt_of_isChecked h, processCheckResult_reached _ _ _ _ hr, Eff.map_run_snd]

/-- An attempt whose incident step goes through succeeds. -/
theorem attempt_succeeds (h : db.monitor.isChecked = true) (hr : a.faults.reachesRow = true)
    {r : IncidentOutcome} {db' : Db}
    (hrun : (incidentStep a.faults (toSnapshot db.monitor) a.probe a.opts
        (db.decision (toSnapshot db.monitor) a.probe a.opts)).run
          (db.recorded (toSnapshot db.monitor) a.probe a.opts
            (db.decision (toSnapshot db.monitor) a.probe a.opts)) = (.ok r, db')) :
    a.succeeds db = true := by
  rw [Attempt.succeeds, Attempt.call, checkProcessor_checks _ _ _ h, Eff.map_run,
    processCheckResult_reached _ _ _ _ hr, Eff.map_run, hrun]
  rfl

theorem Notified.recorded (h : Notified db.monitor.id db) (monitor : MonitorSnapshot)
    (outcome : ProbeOutcome) (opts : ProcessOptions) (decision : TransitionResult) :
    Notified db.monitor.id (db.recorded monitor outcome opts decision) :=
  ⟨h.incidents, h.known, h.channels, h.delivered⟩

/-- A monitor that a check leaves out of order without opening an incident has one. -/
theorem Told.openDown_of_outage (h : Told db) {outcome : ProbeOutcome} {opts : ProcessOptions}
    (hact : (db.decision (toSnapshot db.monitor) outcome opts).incident ≠ some .open)
    (hst : (db.decision (toSnapshot db.monitor) outcome opts).state = .down ∨
      (db.decision (toSnapshot db.monitor) outcome opts).state = .recovering) :
    OpenDown db.monitor.id db.incidents :=
  h.outage (normalize_outage_iff.mp (transition_outage_prev hact hst))

/-- **Step lemma**: a safe attempt keeps the invariant, wherever it is cut off. -/
theorem Told.attempt (h : Told db) (hs : SafeAttempt db a) : Told (db.attempt a) := by
  cases hck : db.monitor.isChecked with
  | false => rw [attempt_of_not_isChecked hck]; exact h
  | true =>
      cases hr : a.faults.reachesRow with
      | false =>
          obtain ⟨results, hrun⟩ := processCheckResult_unreached a.faults (toSnapshot db.monitor)
            a.probe a.opts hr db
          rw [attempt_of_isChecked hck, hrun]
          exact ⟨⟨h.notified.incidents, h.notified.known, h.notified.channels,
            h.notified.delivered⟩, h.outage⟩
      | true =>
          set d := db.decision (toSnapshot db.monitor) a.probe a.opts with hd
          have hok : IncidentsOk (toSnapshot db.monitor).id db.incidents := h.notified.incidents
          have hspare : d.incident = some .open →
              a.faults.SpareOpening (db.boundChannels db.monitor.id) := by
            intro ho
            refine (hs ⟨hck, hr, fun hdown => ?_, transition_state_of_open ho⟩).1
            have hne := (transition_open_iff.mp ho).2.2.2.1
            simp [toSnapshot, hdown, normalize] at hne
          have hkept : Notified (toSnapshot db.monitor).id
              ((incidentStep a.faults (toSnapshot db.monitor) a.probe a.opts d).run
                (db.recorded (toSnapshot db.monitor) a.probe a.opts d)).2 :=
            (h.notified.recorded (toSnapshot db.monitor) a.probe a.opts d).kept (fun _ => rfl) hspare
          have hrows := incidentStep_rows a.faults (toSnapshot db.monitor) a.probe a.opts d
            (db.recorded (toSnapshot db.monitor) a.probe a.opts d)
          rw [attempt_run hck hr]
          constructor
          · rw [hrows.1]
            exact hkept
          · rw [hrows.1, hrows.2]
            intro hout
            have hst : d.state = .down ∨ d.state = .recovering := by
              change d.state.toHealth = _ ∨ d.state.toHealth = _ at hout
              cases hs : d.state <;> simp [hs, MonitorState.toHealth] at hout ⊢
            by_cases ho : d.incident = some .open
            · rw [ho]
              exact hok.openDown_of_open a.faults (hspare ho).1
            · refine hok.openDown_nextIncidents a.faults _ (fun hres => ?_)
                (h.openDown_of_outage ho hst)
              have hup : d.state = .up := transition_state_of_resolve hres
              simp [hup] at hst

/-- **Announcement**: a safe attempt that moves the monitor `DOWN` succeeds, and leaves
the outage announced. -/
theorem Told.announces (h : Told db) (hs : SafeAttempt db a) (hm : MovesDown db a) :
    a.succeeds db = true ∧ OutageAnnounced (db.attempt a) := by
  have hafter := h.attempt hs
  obtain ⟨hne, hdown, hmaint, hflap⟩ := hm
  have hck : db.monitor.isChecked = true := by
    by_contra hck
    rw [attempt_of_not_isChecked (by simpa using hck)] at hdown
    exact hne hdown
  have hrow := (processCheckResult_rows a.faults (toSnapshot db.monitor) a.probe a.opts db).1
  rw [← attempt_of_isChecked hck] at hrow
  have hr : a.faults.reachesRow = true := by
    by_contra hr
    rw [if_neg hr] at hrow
    rw [hrow] at hdown
    exact hne hdown
  rw [hr, if_pos rfl] at hrow
  set d := db.decision (toSnapshot db.monitor) a.probe a.opts with hd
  have hst : d.state = .down := by
    rw [hrow] at hdown
    exact (MonitorState.toHealth_inj (t := .down)).mp hdown
  obtain ⟨hspare, hmark⟩ := hs ⟨hck, hr, hne, hst⟩
  have hact : d.incident = some .open ∨
      (d.incident = none ∧ OpenDown db.monitor.id db.incidents) := by
    cases hact : d.incident with
    | none => exact .inr ⟨rfl, h.openDown_of_outage (by rw [← hd, hact]; simp) (.inl hst)⟩
    | some action =>
        cases action with
        | «open» => exact .inl rfl
        | resolve =>
            have hup : d.state = .up := transition_state_of_resolve hact
            simp [hup] at hst
  obtain ⟨r, db', hrun, i, hi, hio, hnm⟩ :=
    (h.notified.recorded (toSnapshot db.monitor) a.probe a.opts d).incidentStep_down
      (toSnapshot db.monitor) a.probe a.opts rfl hspare hact hflap (hmark hflap)
  refine ⟨attempt_succeeds hck hr hrun, ?_⟩
  have hdb : db.attempt a = db' := by rw [attempt_run hck hr, hrun]
  rw [hdb] at hafter hrow ⊢
  have hid : db'.monitor.id = db.monitor.id := by rw [hrow]; rfl
  have hio' : i.isOpen db'.monitor.id = true := by rw [hid]; exact hio
  obtain ⟨hm, hst⟩ := Incident.isOpen_iff.mp hio'
  refine ⟨i, hi, hm, ?_, hst, hafter.notified.delivered i hi hio' hnm⟩
  rw [(hafter.notified.incidents.coherent i hi hm).fingerprint_of_open hst, hm]

end

/-- The queue and the timeline know only incidents of the table, and a channel is bound to
a monitor at most once. -/
structure ForeignKeys (db : Db) : Prop where
  events : ∀ e ∈ db.incidentEvents, e.incidentId ∈ db.incidents.map Incident.id
  deliveries : ∀ d ∈ db.notificationDeliveries, d.incidentId ∈ db.incidents.map Incident.id
  jobs : ∀ j ∈ db.alertQueue, j.incidentId ∈ db.incidents.map Incident.id
  bindings : (db.monitorChannels.map fun b => (b.monitorId, b.channel.id)).Nodup

theorem ForeignKeys.knownNotices {db : Db} (h : ForeignKeys db) : KnownNotices db := by
  simp only [KnownNotices, Db.notices, Prod.mk.injEq, List.filter_eq_nil_iff]
  exact ⟨fun e he => by simp [h.events e he], fun d hd => by simpa using h.deliveries d hd,
    fun j hj => by simpa using h.jobs j hj⟩

theorem ForeignKeys.nodup_boundChannels {db : Db} (h : ForeignKeys db) (m : MonitorId) :
    (db.boundChannels m).Nodup := by
  let bound := db.monitorChannels.filter fun b =>
    b.monitorId = m && b.channel.enabled && b.channel.deletedAt.isNone
  have hpairs : (bound.map fun b => (b.monitorId, b.channel.id)).Nodup :=
    h.bindings.sublist (List.filter_sublist.map _)
  have heq : bound.map (fun b => (b.monitorId, b.channel.id)) =
      (db.boundChannels m).map (Prod.mk m) := by
    rw [Db.boundChannels, List.map_map]
    refine List.map_congr_left fun b hb => ?_
    have hb := (List.mem_filter.mp hb).2
    simp only [Bool.and_eq_true, decide_eq_true_eq] at hb
    simp [hb.1.1]
  exact List.Nodup.of_map _ (heq ▸ hpairs)

/-- A freshly created monitor has told everything there is to tell. -/
theorem Fresh.told {db : Db} (h : Fresh db) (hk : ForeignKeys db) : Told db where
  notified :=
    { incidents := h.incidentsOk
      known := hk.knownNotices
      channels := hk.nodup_boundChannels _
      delivered := fun i hi hio _ => absurd (Incident.isOpen_iff.mp hio).1 (h.noIncidents i hi) }
  outage := by simp [h.health]

/-- **Retries**: from a freshly created monitor, in every run of attempts in which nothing
fails in the announcement of an outage, every move to `DOWN` outside maintenance and
flapping leaves, once its job has succeeded, an open incident that every bound channel
has exactly one delivery for. -/
theorem outagesAnnounced_of_safe (db : Db) (attempts : List Attempt) (hf : Fresh db)
    (hk : ForeignKeys db) (hs : Along Db.attempt SafeAttempt db attempts) :
    OutagesAnnounced db attempts := by
  have hinv : Told db := hf.told hk
  clear hf hk
  induction attempts generalizing db with
  | nil => trivial
  | cons a attempts ih =>
      refine ⟨fun hm => ?_, ih _ hs.2 (hinv.attempt hs.1)⟩
      obtain ⟨hok, hann⟩ := hinv.announces hs.1 hm
      rw [AfterSuccess, if_pos ⟨rfl, hok⟩]
      exact hann

/-- A new monitor with one alert channel bound to it. -/
def pagedMonitor : Db :=
  { newMonitor with monitorChannels := [{ monitorId := "m", channel := { id := "c" } }] }

theorem fresh_pagedMonitor : Fresh pagedMonitor := ⟨rfl, rfl, ⟨rfl, rfl⟩, rfl, by
  simp [pagedMonitor, newMonitor], uniqueKey_nil _, List.nodup_nil⟩

theorem foreignKeys_pagedMonitor : ForeignKeys pagedMonitor := by
  constructor <;> simp [pagedMonitor, newMonitor]

/-- The raw result cannot be written at first; the next attempt of the job goes through. -/
def retriedCheck : List Attempt :=
  [{ job := 0, now := 0, probe := { status := .down }, faults := fun site => site = .checkResult },
    { job := 0, now := 1000, probe := { status := .down } }]

theorem outagesAnnounced_retriedCheck : OutagesAnnounced pagedMonitor retriedCheck :=
  outagesAnnounced_of_safe pagedMonitor retriedCheck fresh_pagedMonitor foreignKeys_pagedMonitor
    (by decide)

/-- The incident cannot be written; the error is taken for an incident already open, and
the job succeeds. -/
def swallowedCreate : List Attempt :=
  [{ job := 0, now := 0, probe := { status := .down },
     faults := fun site => site = .incidentCreate }]

/-- The delivery cannot be recorded; the next attempt of the job finds the monitor
`DOWN` and has nothing to do. -/
def cutOffFanOut : List Attempt :=
  [{ job := 0, now := 0, probe := { status := .down },
     faults := fun site => site = .delivery "c" },
    { job := 0, now := 1000, probe := { status := .down } }]

/-- Either way the job succeeds: once there is no incident, once nobody is told of it. -/
theorem not_outagesAnnounced_cutOff :
    ¬ OutagesAnnounced pagedMonitor swallowedCreate ∧
      ¬ OutagesAnnounced pagedMonitor cutOffFanOut := by
  constructor
  · rintro ⟨h, -⟩
    have hann := h ⟨by decide, by decide, by decide, by decide⟩
    rw [AfterSuccess, if_pos ⟨rfl, by decide⟩] at hann
    obtain ⟨i, hi, -⟩ := hann
    have hnone : (run Db.attempt pagedMonitor swallowedCreate).incidents = [] := by decide
    exact absurd (hnone ▸ hi) List.not_mem_nil
  · rintro ⟨h, -⟩
    have hann := h ⟨by decide, by decide, by decide, by decide⟩
    rw [AfterSuccess, if_neg (by decide), AfterSuccess, if_pos ⟨rfl, by decide⟩] at hann
    obtain ⟨i, -, -, -, -, hall⟩ := hann
    obtain ⟨d, -, hd, -⟩ := hall "c" (by decide)
    have hnone : (run Db.attempt pagedMonitor cutOffFanOut).notificationDeliveries = [] := by decide
    change (run Db.attempt pagedMonitor cutOffFanOut).notificationDeliveries.filter _ = [d] at hd
    rw [hnone] at hd
    simp at hd

end UptimeFlow.Monitoring
