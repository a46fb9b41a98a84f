import UptimeFlow.Monitoring.Incidents

/-!
# UptimeFlow.Monitoring.Announce

What the pipeline tells about an incident: the mark of an alert suppressed for
flapping, the delivery rows and the send jobs.

`Db.notices p` reads those of the incidents `p` selects.  A call only writes
notices about the one incident it opens or resolves, so an invariant about any
other incident is framed; and a fan-out in which nothing fails leaves exactly
one delivery for each bound channel.
-/

namespace UptimeFlow.Monitoring

open Tables

/-- The flapping marks, delivery rows and send jobs of the incidents `p` selects. -/
def Db.notices (p : IncidentId → Bool) (db : Db) :
    List IncidentEvent × List NotificationDelivery × List AlertJobData :=
  (db.incidentEvents.filter fun e => e.metadata = some .flapping && p e.incidentId,
    db.notificationDeliveries.filter (p ·.incidentId), db.alertQueue.filter (p ·.incidentId))

/-- The incident was opened while its monitor was flapping, its alert suppressed. -/
def Marked (db : Db) (id : IncidentId) : Prop :=
  ∃ e ∈ db.incidentEvents, e.incidentId = id ∧ e.metadata = some .flapping

instance (db : Db) (id : IncidentId) : Decidable (Marked db id) :=
  inferInstanceAs (Decidable (∃ e ∈ db.incidentEvents, _ ∧ _))

/-- The channel has exactly one delivery for the incident, and its one send job is an
`opened` one. -/
def DeliveredOnce (db : Db) (id : IncidentId) (channelId : ChannelId) : Prop :=
  ∃ d j, db.notificationDeliveries.filter (fun d => d.channelId = channelId && d.incidentId = id) = [d] ∧
    db.alertQueue.filter (fun j => j.channelId = channelId && j.incidentId = id) = [j] ∧
    j.kind = .opened ∧ j.deliveryId = d.id

section
variable {db db' : Db} {id : IncidentId}

theorem marked_iff : Marked db id ↔ (db.notices (· = id)).1 ≠ [] := by
  simp [Marked, Db.notices, and_comm]

theorem marked_congr (h : db'.notices (· = id) = db.notices (· = id)) :
    Marked db' id ↔ Marked db id := by
  rw [marked_iff, marked_iff, h]

theorem deliveredOnce_congr (h : db'.notices (· = id) = db.notices (· = id))
    (channelId : ChannelId) : DeliveredOnce db' id channelId ↔ DeliveredOnce db id channelId := by
  have hn : db'.notificationDeliveries.filter (·.incidentId = id) =
      db.notificationDeliveries.filter (·.incidentId = id) := congrArg (·.2.1) h
  have hq : db'.alertQueue.filter (·.incidentId = id) =
      db.alertQueue.filter (·.incidentId = id) := congrArg (·.2.2) h
  simp only [DeliveredOnce, ← List.filter_filter, hn, hq]

end

/-! ## what leaves the notices alone -/

section
variable {p : IncidentId → Bool} (faults : Faults)

/-- What is written about an incident gives no notice about another. -/
theorem ignores_notices {id : IncidentId} (h : p id = false) : Ignores (Db.notices p) id where
  event db e he := by simp [Db.notices, he, h]
  audit _ _ := rfl
  delivery db d hd := by simp [Db.notices, hd, h]
  job db j hj := by simp [Db.notices, hj, h]
  escalation _ _ := rfl
  integration _ _ _ := rfl
  call _ _ := rfl

variable (monitor : MonitorSnapshot) (outcome : ProbeOutcome) (opts : ProcessOptions)

/-- Recording an opening or a resolution gives no notice. -/
@[simp] theorem notices_opened (db : Db) (now : Instant) (rows : List Incident)
    (id : IncidentId) : (db.opened outcome now rows id).notices p = db.notices p := by
  simp [Db.notices, Db.opened, detectedEvent]

@[simp] theorem notices_resolved (db : Db) (now : Instant) (i : Incident) :
    (db.resolved now i).notices p = db.notices p := by
  simp [Db.notices, Db.resolved, resolvedEvent]

/-- **Frame of the incident step**: no notice is given about an incident that is neither
the one opened nor the one resolved. -/
theorem incidentStep_notices (decision : TransitionResult) (db : Db)
    (hopen : decision.incident = some .open → faults .incidentCreate = false →
      ∀ created, insertIncident monitor outcome opts.now db.incidents = some created →
        p created.2 = false)
    (hresolve : decision.incident = some .resolve → faults .incidentUpdate = false →
      ∀ i, findOpen monitor.id db.incidents = some i → p i.id = false) :
    ((incidentStep faults monitor outcome opts decision).run db).2.notices p = db.notices p := by
  cases incidentStep_ends faults monitor outcome opts decision db with
  | nothing _ hrun | notOpened _ _ hrun | notResolved _ _ hrun => rw [hrun]
  | relapse _ hrun =>
      rw [hrun]
      exact frames_relapseStep (Db.notices p) faults (fun db e he => by simp [Db.notices, he])
        monitor opts db
  | opened hact hf rows id hins hrun =>
      have hframe := (ignores_notices (hopen hact hf (rows, id) hins)).announceOpened faults monitor
        opts (db.detectFlapping monitor.id opts.now)
      rw [hrun, hframe, notices_opened]
  | resolved hact hf i hfind hrun =>
      have hframe := (ignores_notices (hresolve hact hf i hfind)).announceResolved faults monitor opts
      rw [hrun, hframe, notices_resolved]

end

/-! ## a step in which nothing fails -/

/-- Nothing that an opening issues fails, save for the integrations, whose failures are
swallowed anyway. -/
def Faults.SpareOpening (faults : Faults) (channels : List ChannelId) : Prop :=
  faults .incidentCreate = false ∧ faults .incidentEvent = false ∧ faults .auditLog = false ∧
    faults .escalationJob = false ∧
      ∀ c ∈ channels, faults (.delivery c) = false ∧ faults (.alertJob c) = false

instance (faults : Faults) (channels : List ChannelId) :
    Decidable (faults.SpareOpening channels) := inferInstanceAs (Decidable (_ ∧ _ ∧ _ ∧ _ ∧ _))

/-- The loop of `dispatch` adds one delivery, and its job, for each channel. -/
theorem dispatchEach_run {faults : Faults} (ctx : AlertContext) {channels : List ChannelId}
    (h : ∀ c ∈ channels, faults (.delivery c) = false ∧ faults (.alertJob c) = false) (db : Db) :
    ∃ ds : List NotificationDelivery, ds.map (·.channelId) = channels ∧
      (∀ d ∈ ds, d.incidentId = ctx.incidentId) ∧
      (dispatchEach faults ctx channels).run db =
        (.ok channels.length, { db with
          notificationDeliveries := db.notificationDeliveries ++ ds
          alertQueue := db.alertQueue ++ ds.map fun d => alertJob ctx d.channelId d.id }) := by
  induction channels generalizing db with
  | nil => exact ⟨[], rfl, by simp, by simp [dispatchEach]⟩
  | cons c channels ih =>
      obtain ⟨hd, hj⟩ := h c (by simp)
      let d : NotificationDelivery :=
        { id := freshId NotificationDelivery.id db.notificationDeliveries
          organizationId := ctx.organizationId, channelId := c, incidentId := ctx.incidentId }
      obtain ⟨ds, hch, hinc, hrun⟩ := ih (fun c hc => h c (by simp [hc]))
        { db with
          notificationDeliveries := db.notificationDeliveries ++ [d]
          alertQueue := db.alertQueue ++ [alertJob ctx c d.id] }
      refine ⟨d :: ds, by simp [hch, d], by simpa [d] using hinc, ?_⟩
      rw [dispatchEach, createDelivery]
      simp only [Eff.bind_run, Eff.statement_run, hd, hj, Faults.write, Eff.write_run,
        Bool.false_eq_true, if_false]
      rw [hrun]
      simp [d]

/-- A fan-out about an incident of which nothing was told yet gives each bound channel
its one delivery. -/
theorem dispatch_delivers (faults : Faults) (ctx : AlertContext) (db : Db)
    (h : ∀ c ∈ db.boundChannels ctx.monitorId,
      faults (.delivery c) = false ∧ faults (.alertJob c) = false)
    (hk : ctx.kind = .opened) (hch : (db.boundChannels ctx.monitorId).Nodup)
    (hn : db.notices (· = ctx.incidentId) = ([], [], [])) :
    ∃ n db', (dispatch faults ctx).run db = (.ok n, db') ∧ db'.incidentEvents = db.incidentEvents ∧
      ∀ c ∈ db.boundChannels ctx.monitorId, DeliveredOnce db' ctx.incidentId c := by
  let called : Db := { db with dispatched := db.dispatched ++ [⟨.alerts, ctx.kind, ctx.incidentId⟩] }
  obtain ⟨ds, hmap, hinc, hrun⟩ := dispatchEach_run ctx h called
  refine ⟨_, _, hrun, rfl, fun c hc => ?_⟩
  obtain ⟨hd₀, hj₀⟩ : db.notificationDeliveries.filter (·.incidentId = ctx.incidentId) = [] ∧
      db.alertQueue.filter (·.incidentId = ctx.incidentId) = [] :=
    ⟨congrArg (·.2.1) hn, congrArg (·.2.2) hn⟩
  obtain ⟨d, hd, rfl⟩ := List.mem_map.mp (hmap ▸ hc)
  have hone : ds.filter (fun d' => d'.channelId = d.channelId) = [d] :=
    filter_eq_singleton (hmap ▸ hch) hd
  refine ⟨d, alertJob ctx d.channelId d.id, ?_, ?_, hk, rfl⟩
  · have hds : ds.filter (·.incidentId = ctx.incidentId) = ds :=
      List.filter_eq_self.mpr fun d hd => by simp [hinc d hd]
    rw [← List.filter_filter, List.filter_append, hds, hd₀]
    exact hone
  · have hjs : (ds.map fun d => alertJob ctx d.channelId d.id).filter
        (·.incidentId = ctx.incidentId) = ds.map fun d => alertJob ctx d.channelId d.id :=
      List.filter_eq_self.mpr fun j hj => by
        obtain ⟨d, -, rfl⟩ := List.mem_map.mp hj
        simp [alertJob]
    rw [← List.filter_filter, List.filter_append, hjs, hj₀, List.nil_append, List.filter_map]
    exact congrArg (List.map _) hone

theorem dispatchIntegration_run (faults : Faults) (opts : ProcessOptions)
    (ctx : IncidentDispatchContext) (db : Db) :
    ∃ db', (dispatchIntegration faults opts ctx).run db = (.ok (), db') := by
  rw [dispatchIntegration]
  split
  · rw [Eff.rescue_run]
    split
    · exact ⟨_, rfl⟩
    · exact ⟨_, rfl⟩
  · exact ⟨db, rfl⟩

theorem escalate_run {faults : Faults} (monitor : MonitorSnapshot) (opts : ProcessOptions)
    (id : IncidentId) (h : faults .escalationJob = false) (db : Db) :
    ∃ db', (escalate faults monitor opts id).run db = (.ok (), db') := by
  rw [escalate]
  split
  · split
    · rw [startEscalation]
      simp only [Eff.bind_run, Eff.read_run]
      cases db.firstStep _ with
      | none => exact ⟨_, rfl⟩
      | some first => simp [Eff.bind_run, Faults.write, h]
    · exact ⟨db, rfl⟩
  · exact ⟨db, rfl⟩

section
variable {faults : Faults} {monitor : MonitorSnapshot} {opts : ProcessOptions} {id : IncidentId}
  {db : Db}

variable (opts id db) in
/-- An incident opened while flapping is marked. -/
theorem announceOpened_flapping (h : faults.SpareOpening (db.boundChannels monitor.id)) :
    ∃ r db', (announceOpened faults monitor opts true id).run db = (.ok r, db') ∧ Marked db' id := by
  obtain ⟨-, he, ha, -, -⟩ := h
  refine ⟨_, _, by simp only [announceOpened, if_true, Eff.bind_run, addEvent, writeAudit,
    Faults.write, Eff.write_run, he, ha, Bool.false_eq_true, if_false]; rfl, ?_⟩
  exact ⟨flappingEvent id opts.now, by simp, rfl, rfl⟩

variable (db) in
/-- An incident about which nothing was told yet, announced: every bound channel has
exactly one delivery. -/
theorem announceOpened_delivers (h : faults.SpareOpening (db.boundChannels monitor.id))
    (ha : opts.alerts = true) (hch : (db.boundChannels monitor.id).Nodup)
    (hn : db.notices (· = id) = ([], [], [])) :
    ∃ r db', (announceOpened faults monitor opts false id).run db = (.ok r, db') ∧
      ¬ Marked db' id ∧ ∀ c ∈ db.boundChannels monitor.id, DeliveredOnce db' id c := by
  obtain ⟨-, -, haudit, hesc, hdel⟩ := h
  let audited : Db := { db with
    auditLogs := db.auditLogs ++ [auditOf monitor "incident.opened" "incident" (toString id)] }
  obtain ⟨n, sent, hsent, hev, honce⟩ := dispatch_delivers faults
    (alertContext monitor id .opened) audited hdel rfl hch hn
  obtain ⟨escalated, hescalated⟩ := escalate_run monitor opts id hesc sent
  obtain ⟨final, hfinal⟩ := dispatchIntegration_run faults opts
    (integrationContext monitor id .opened) escalated
  have hrun : (announceOpened faults monitor opts false id).run db =
      (.ok { incidentId := some id, transition := some .down, flapping := false,
             alertsEnqueued := n }, final) := by
    rw [announceOpened, if_neg (by simp), dispatchAlerts, if_pos ha]
    rw [Eff.bind_run_of_ok (a := ()) (t := audited) (by simp [writeAudit, Faults.write, haudit, audited])]
    rw [Eff.bind_run_of_ok hsent, Eff.bind_run_of_ok hescalated, Eff.bind_run_of_ok hfinal]
    rfl
  -- nothing after the alert fan-out gives a notice
  have hnotices : final.notices (· = id) = sent.notices (· = id) := by
    have h₁ := frames_escalate (Db.notices (· = id)) faults (fun _ _ => rfl) monitor
      opts id sent
    have h₂ := frames_dispatchIntegration (Db.notices (· = id)) faults
      (fun _ _ _ _ => rfl) opts (integrationContext monitor id .opened) escalated
    rw [hescalated] at h₁
    rw [hfinal] at h₂
    exact h₂.trans h₁
  refine ⟨_, final, hrun, ?_, fun c hc => (deliveredOnce_congr hnotices c).mpr (honce c hc)⟩
  rw [marked_congr hnotices, marked_iff, not_not]
  have hmarks : (db.notices (· = id)).1 = [] := congrArg Prod.fst hn
  rw [← hmarks]
  exact congrArg (List.filter fun e => e.metadata = some .flapping && e.incidentId = id) hev

end

end UptimeFlow.Monitoring
