import UptimeFlow.Escalation.Engine

/-!
# UptimeFlow.Escalation.Steps

What one step does, statement by statement.

The statements of a step fall into three parts: the reads that resolve its
targets, the pages, which never fail the step, and the dispatch with the two
entries that close it.  `executeStep_run` cuts a step at the first of them that
fails; the `*_run` lemmas before it say what each part leaves behind.
-/

namespace UptimeFlow.Escalation

open Tables OnCall
open Monitoring (Instant IncidentId OrganizationId ChannelId DeliveryId NotificationDelivery
  AlertJobData)

/-- The error of the first of these statements that fails. -/
def Faults.first (faults : Faults) (sites : List Site) : Option String := sites.findSome? faults

section
variable (faults : Faults)

@[simp] theorem Faults.first_nil : faults.first [] = none := rfl

theorem Faults.first_cons (site : Site) (sites : List Site) :
    faults.first (site :: sites) = (faults site).or (faults.first sites) := by
  rw [Faults.first, List.findSome?_cons]
  cases faults site <;> rfl

theorem Faults.first_append (xs ys : List Site) :
    faults.first (xs ++ ys) = (faults.first xs).or (faults.first ys) := List.findSome?_append

/-- A read that fails, or is answered. -/
theorem Faults.read_run {α : Type} (site : Site) (f : Db → α) (db : Db) :
    (faults.read site f).run db = match faults site with
      | some e => (.error e, db)
      | none => (.ok (f db), db) := by
  rw [Faults.read, Eff.statement_run]
  cases faults site <;> rfl

/-- A write that fails, or is done. -/
theorem Faults.write_run (site : Site) (op : Db → Db) (db : Db) :
    (faults.write site op).run db = match faults site with
      | some e => (.error e, db)
      | none => (.ok (), op db) := by
  rw [Faults.write, Eff.write_run]
  cases faults site <;> rfl

end

/-! ## targets -/

/-- The channels a step names. -/
def StepRow.channelIds (step : StepRow) : List ChannelId :=
  step.targets.filterMap fun t => if t.type = .channel then t.channelId else none

/-- What one target adds. -/
def Db.addTarget (db : Db) (deps : Deps) (now : Instant) (found : Targets) (target : TargetRow) :
    Targets :=
  match target.type, target.channelId, target.userId, target.scheduleId with
  | .channel, some channelId, _, _ => { found with channelIds := found.channelIds ++ [channelId] }
  | .user, _, some userId, _ => found.addResponder ⟨userId, "user", none⟩
  | .schedule, _, _, some scheduleId =>
      found.addOnCall (whoIsOnCall deps.tzOffsetMs db.schedules scheduleId now)
  | _, _, _, _ => found

/-- What targets resolve to when no read fails. -/
def Db.resolved (db : Db) (deps : Deps) (now : Instant) (targets : List TargetRow)
    (found : Targets) : Targets :=
  targets.foldl (db.addTarget deps now) found

theorem addTarget_channelIds (db : Db) (deps : Deps) (now : Instant) (found : Targets)
    (target : TargetRow) :
    (db.addTarget deps now found target).channelIds =
      found.channelIds ++ (if target.type = .channel then target.channelId else none).toList := by
  have hadd : ∀ ref, (found.addResponder ref).channelIds = found.channelIds := by
    intro ref
    rw [Targets.addResponder]
    split <;> rfl
  have honCall : ∀ onCall, (found.addOnCall onCall).channelIds = found.channelIds := by
    intro onCall
    unfold Targets.addOnCall
    split
    · exact hadd _
    · rfl
  obtain ⟨type, userId, scheduleId, channelId⟩ := target
  cases type with
  | user => cases userId <;> simp [Db.addTarget, hadd]
  | schedule => cases scheduleId <;> simp [Db.addTarget, honCall]
  | channel => cases channelId <;> simp [Db.addTarget]

/-- The channels a step resolves to are the ones it names. -/
theorem resolved_channelIds (db : Db) (deps : Deps) (now : Instant) (step : StepRow) :
    (db.resolved deps now step.targets {}).channelIds = step.channelIds := by
  have hfold : ∀ (targets : List TargetRow) (found : Targets),
      (db.resolved deps now targets found).channelIds = found.channelIds ++
        targets.filterMap fun t => if t.type = .channel then t.channelId else none := by
    intro targets
    induction targets with
    | nil => simp [Db.resolved]
    | cons target rest ih =>
        intro found
        rw [Db.resolved, List.foldl_cons, ← Db.resolved, ih, addTarget_channelIds,
          List.filterMap_cons]
        cases (if target.type = .channel then target.channelId else none) <;> simp
  simpa [StepRow.channelIds] using hfold step.targets {}

/-- The target is resolved by reading a schedule. -/
def TargetRow.readsSchedule : TargetRow → Bool
  | ⟨.schedule, _, some _, _⟩ => true
  | _ => false

/-- The statements that resolve targets, from the `n`-th on. -/
def scheduleSites : Nat → List TargetRow → List Site
  | _, [] => []
  | n, target :: rest =>
      bif target.readsSchedule then .schedule n :: scheduleSites (n + 1) rest
      else scheduleSites (n + 1) rest

theorem resolveTargets_run (deps : Deps) (faults : Faults) (now : Instant) (db : Db) (n : Nat)
    (targets : List TargetRow) (found : Targets) :
    (resolveTargets deps faults now n targets found).run db =
      match faults.first (scheduleSites n targets) with
      | some e => (.error e, db)
      | none => (.ok (db.resolved deps now targets found), db) := by
  induction targets generalizing n found with
  | nil => rfl
  | cons target rest ih =>
      obtain ⟨type, userId, scheduleId, channelId⟩ := target
      cases type with
      | user => cases userId <;> exact ih (n + 1) _
      | channel => cases channelId <;> exact ih (n + 1) _
      | schedule =>
          cases scheduleId with
          | none => exact ih (n + 1) _
          | some scheduleId =>
              rw [scheduleSites, TargetRow.readsSchedule, cond_true, Faults.first_cons,
                resolveTargets, Eff.bind_run, Faults.read_run]
              cases faults (.schedule n) with
              | some e => rfl
              | none => exact ih (n + 1) _

/-! ## pages -/

/-- The users among `users` that a page reaches. -/
def reachedAmong (faults : Faults) (users : List UserRow) (responders : List ResponderRef) :
    List UserRow :=
  responders.filterMap fun ref =>
    (users.find? fun u => u.id = ref.userId && !u.email.isEmpty).filter fun u =>
      (faults (.page u.id)).isNone

/-- The users a step pages: an email notifier is wired, they have an address, and the queue
takes the page. -/
def Db.reached (db : Db) (deps : Deps) (faults : Faults) (responders : List ResponderRef) :
    List UserRow :=
  if deps.responders.isSome then reachedAmong faults db.users responders else []

/-- The page of one user. -/
def Db.page (webUrl : String) (ctx : StepContext) (step : Int) (db : Db) (user : UserRow) : Db :=
  db.enqueueEmail (pageId ctx.incidentId step user.id) (pageEmail webUrl ctx user)

/-- The pages of a step. -/
def Db.paged (db : Db) (deps : Deps) (ctx : StepContext) (step : Int) (users : List UserRow) : Db :=
  users.foldl (Db.page (deps.responders.getD "") ctx step) db

/-- The statements that load the responders. -/
def userSites (deps : Deps) (responders : List ResponderRef) : List Site :=
  bif responders.isEmpty || deps.responders.isNone then [] else [.users]

theorem pageEach_run (faults : Faults) (webUrl : String) (ctx : StepContext) (step : Int)
    (users : List UserRow) (responders : List ResponderRef) (done : Paged) (db : Db) :
    ∃ failed, (pageEach faults webUrl ctx step users responders done).run db =
      (.ok ⟨done.pagedUserIds ++ (reachedAmong faults users responders).map (·.id), failed⟩,
        (reachedAmong faults users responders).foldl (Db.page webUrl ctx step) db) := by
  induction responders generalizing done db with
  | nil => exact ⟨done.failed, by simp [pageEach, reachedAmong]⟩
  | cons ref rest ih =>
      cases hfind : users.find? fun u => u.id = ref.userId && !u.email.isEmpty with
      | none =>
          have hreached : reachedAmong faults users (ref :: rest) =
              reachedAmong faults users rest :=
            List.filterMap_cons_none (by simp [hfind])
          rw [hreached, pageEach, hfind]
          exact ih _ db
      | some user =>
          rw [pageEach, hfind]
          cases hfault : faults (.page user.id) with
          | none =>
              have hreached : reachedAmong faults users (ref :: rest) =
                  user :: reachedAmong faults users rest :=
                List.filterMap_cons_some (by simp [hfind, hfault, Option.filter])
              obtain ⟨failed, hrest⟩ := ih { done with pagedUserIds := done.pagedUserIds ++
                [user.id] } (db.page webUrl ctx step user)
              refine ⟨failed, ?_⟩
              rw [List.append_assoc, List.singleton_append] at hrest
              rw [hreached, List.map_cons, List.foldl_cons, ← hrest]
              simp [Eff.bind_run, Eff.rescue_run, Eff.map_run, Faults.write_run, hfault, Db.page]
          | some e =>
              have hreached : reachedAmong faults users (ref :: rest) =
                  reachedAmong faults users rest :=
                List.filterMap_cons_none (by simp [hfind, hfault, Option.filter])
              obtain ⟨failed, hrest⟩ := ih { done with failed := done.failed ++
                [⟨ref.userId, clip e⟩] } db
              refine ⟨failed, ?_⟩
              rw [hreached, ← hrest]
              simp [Eff.bind_run, Eff.rescue_run, Eff.map_run, Faults.write_run, hfault]

/-- A user looked up among those loaded for the responders is the one in the table. -/
theorem reachedAmong_loaded (faults : Faults) (users : List UserRow)
    (responders : List ResponderRef) :
    reachedAmong faults (users.filter fun u => responders.any (·.userId = u.id)) responders =
      reachedAmong faults users responders := by
  refine List.filterMap_congr fun ref href => ?_
  rw [find?_filter_of_imp]
  intro u _ hu
  rw [Bool.and_eq_true, decide_eq_true_eq] at hu
  rw [List.any_eq_true]
  exact ⟨ref, href, by simp [hu.1]⟩

/-- The pages of a step fail it only where the responders cannot be loaded. -/
theorem pageResponders_run (deps : Deps) (faults : Faults) (ctx : StepContext) (step : Int)
    (responders : List ResponderRef) (db : Db) :
    ∃ failed, (pageResponders deps faults ctx step responders).run db =
      match faults.first (userSites deps responders) with
      | some e => (.error e, db)
      | none => (.ok ⟨(db.reached deps faults responders).map (·.id), failed⟩,
          db.paged deps ctx step (db.reached deps faults responders)) := by
  by_cases hempty : responders.isEmpty = true
  · refine ⟨[], ?_⟩
    rw [List.isEmpty_iff] at hempty
    subst hempty
    have hreached : db.reached deps faults [] = [] := by simp [Db.reached, reachedAmong]
    rw [hreached]
    rfl
  · have hsome : responders.isEmpty = false := by simpa using hempty
    cases hurl : deps.responders with
    | none =>
        refine ⟨responders.map fun r => ⟨r.userId, "no responder notifier configured"⟩, ?_⟩
        simp [pageResponders, hsome, hurl, userSites, Db.reached, Db.paged]
    | some webUrl =>
        obtain ⟨failed, hpages⟩ := pageEach_run faults webUrl ctx step
          (db.users.filter fun u => responders.any (·.userId = u.id)) responders {} db
        rw [reachedAmong_loaded] at hpages
        refine ⟨failed, ?_⟩
        rw [pageResponders, if_neg hempty, hurl, Eff.bind_run, Faults.read_run]
        cases hfault : faults .users with
        | some e => simp [userSites, hsome, hurl, Faults.first_cons, hfault]
        | none =>
            change (pageEach faults webUrl ctx step _ responders {}).run db = _
            rw [hpages]
            simp [userSites, hsome, hurl, Faults.first_cons, hfault, Db.reached, Db.paged]

theorem pageId_injective (incidentId : IncidentId) (step : Int) :
    Function.Injective (pageId incidentId step) := by
  intro a b h
  have hchars := congrArg String.toList h
  unfold pageId at hchars
  generalize "escalation-page:" ++ toString incidentId ++ ":" ++ toString step ++ ":" = head
    at hchars
  rw [String.toList_append, String.toList_append] at hchars
  exact String.toList_inj.1 (List.append_cancel_left hchars)

/-- The page of one user, as the email queue holds it. -/
def queuedPage (deps : Deps) (ctx : StepContext) (step : Int) (user : UserRow) : QueuedEmail :=
  ⟨pageId ctx.incidentId step user.id, pageEmail (deps.responders.getD "") ctx user⟩

/-- The email queue knows the page of this user. -/
def Db.knowsPage (db : Db) (incidentId : IncidentId) (step : Int) (user : UserRow) : Bool :=
  db.emailQueue.any (·.jobId = pageId incidentId step user.id)

/-- The emails that the pages of these users add. -/
def Db.newPages (db : Db) (deps : Deps) (ctx : StepContext) (step : Int) (users : List UserRow) :
    List QueuedEmail :=
  (users.filter fun u => !db.knowsPage ctx.incidentId step u).map (queuedPage deps ctx step)

/-- Pages of different users add the emails that the queue does not know. -/
theorem paged_eq (db : Db) (deps : Deps) (ctx : StepContext) (step : Int) {users : List UserRow}
    (hnodup : (users.map (·.id)).Nodup) :
    db.paged deps ctx step users =
      { db with emailQueue := db.emailQueue ++ db.newPages deps ctx step users } := by
  induction users generalizing db with
  | nil => simp [Db.paged, Db.newPages]
  | cons user rest ih =>
      rw [List.map_cons, List.nodup_cons] at hnodup
      rw [Db.paged, List.foldl_cons, ← Db.paged, ih _ hnodup.2]
      cases hknown : db.knowsPage ctx.incidentId step user with
      | true =>
          have hpage : db.page (deps.responders.getD "") ctx step user = db := by
            rw [Db.knowsPage] at hknown
            rw [Db.page, Db.enqueueEmail, if_pos hknown]
          simp [hpage, Db.newPages, hknown]
      | false =>
          have hpage : db.page (deps.responders.getD "") ctx step user =
              { db with emailQueue := db.emailQueue ++ [queuedPage deps ctx step user] } := by
            rw [Db.knowsPage] at hknown
            rw [Db.page, Db.enqueueEmail, if_neg (by simp [hknown])]
            rfl
          -- the page just added is of another user
          have hrest : ∀ u ∈ rest, (db.page (deps.responders.getD "") ctx step user).knowsPage
              ctx.incidentId step u = db.knowsPage ctx.incidentId step u := by
            intro u hu
            have hne : user.id ≠ u.id := fun h => hnodup.1 (h ▸ List.mem_map_of_mem hu)
            have hid : pageId ctx.incidentId step user.id ≠ pageId ctx.incidentId step u.id :=
              (pageId_injective ctx.incidentId step).ne hne
            simp [hpage, Db.knowsPage, queuedPage, hid]
          have hnew : (db.page (deps.responders.getD "") ctx step user).newPages deps ctx step rest =
              db.newPages deps ctx step rest := by
            rw [Db.newPages, Db.newPages]
            congr 1
            exact List.filter_congr fun u hu => by rw [hrest u hu]
          rw [hnew, hpage]
          simp [Db.newPages, hknown]

/-- Whoever is added, a step contacts each person once. -/
theorem addTarget_nodup (db : Db) (deps : Deps) (now : Instant) {found : Targets}
    (target : TargetRow) (h : (found.responders.map (·.userId)).Nodup) :
    ((db.addTarget deps now found target).responders.map (·.userId)).Nodup := by
  have hadd : ∀ ref, ((found.addResponder ref).responders.map (·.userId)).Nodup := by
    intro ref
    rw [Targets.addResponder]
    split
    · exact h
    · next hany =>
        simp only [List.any_eq_true, decide_eq_true_eq, not_exists, not_and] at hany
        rw [List.map_append, List.nodup_append]
        simpa [h] using hany
  have honCall : ∀ onCall, ((found.addOnCall onCall).responders.map (·.userId)).Nodup := by
    intro onCall
    unfold Targets.addOnCall
    split
    · exact hadd _
    · exact h
  rw [Db.addTarget]
  split
  · exact h
  · exact hadd _
  · exact honCall _
  · exact h

/-- What each of these targets keeps, resolving them keeps. -/
theorem resolved_induction {db : Db} {deps : Deps} {now : Instant} {targets : List TargetRow}
    {P : Targets → Prop} (hnone : P {})
    (hadd : ∀ target ∈ targets, ∀ found, P found → P (db.addTarget deps now found target)) :
    P (db.resolved deps now targets {}) :=
  List.foldlRecOn targets _ hnone fun found hfound target htarget => hadd target htarget found hfound

theorem resolved_nodup (db : Db) (deps : Deps) (now : Instant) (targets : List TargetRow) :
    ((db.resolved deps now targets {}).responders.map (·.userId)).Nodup :=
  resolved_induction (P := fun found => (found.responders.map (·.userId)).Nodup) List.nodup_nil
    fun target _ _ h => addTarget_nodup db deps now target h

theorem reachedAmong_sublist (faults : Faults) (users : List UserRow)
    (responders : List ResponderRef) :
    ((reachedAmong faults users responders).map (·.id)).Sublist (responders.map (·.userId)) := by
  induction responders with
  | nil => simp [reachedAmong]
  | cons ref rest ih =>
      rw [reachedAmong, List.filterMap_cons, ← reachedAmong, List.map_cons]
      split
      · exact ih.cons _
      · next user huser =>
          rw [Option.filter_eq_some_iff] at huser
          have hid := List.find?_some huser.1
          simp only [Bool.and_eq_true, decide_eq_true_eq] at hid
          rw [List.map_cons, hid.1]
          exact ih.cons_cons _

theorem reached_nodup (db : Db) (deps : Deps) (faults : Faults) (now : Instant)
    (targets : List TargetRow) :
    ((db.reached deps faults (db.resolved deps now targets {}).responders).map (·.id)).Nodup := by
  rw [Db.reached]
  split
  · exact (resolved_nodup db deps now targets).sublist (reachedAmong_sublist faults _ _)
  · exact List.nodup_nil

/-- Whoever a step pages is one of its responders. -/
theorem mem_reached {db : Db} {deps : Deps} {faults : Faults} {responders : List ResponderRef}
    {user : UserRow} (h : user ∈ db.reached deps faults responders) :
    ∃ ref ∈ responders, ref.userId = user.id := by
  rw [Db.reached] at h
  split at h
  · have hid := (reachedAmong_sublist faults db.users responders).subset (List.mem_map_of_mem h)
    exact List.mem_map.1 hid
  · cases h

/-- The target contacts the user: it names them, or a schedule that has them on call. -/
def Db.contacts (db : Db) (deps : Deps) (now : Instant) (target : TargetRow) (userId : UserId) :
    Prop :=
  (target.type = .user ∧ target.userId = some userId) ∨
    (target.type = .schedule ∧ ∃ scheduleId onCall, target.scheduleId = some scheduleId ∧
      whoIsOnCall deps.tzOffsetMs db.schedules scheduleId now = some onCall ∧
      onCall.primaryUserId = some userId)

theorem addTarget_responders {db : Db} {deps : Deps} {now : Instant} {found : Targets}
    {target : TargetRow} {ref : ResponderRef}
    (h : ref ∈ (db.addTarget deps now found target).responders) :
    ref ∈ found.responders ∨ db.contacts deps now target ref.userId := by
  have hadd : ∀ new, ref ∈ (found.addResponder new).responders →
      ref ∈ found.responders ∨ ref = new := by
    intro new hnew
    rw [Targets.addResponder] at hnew
    split at hnew
    · exact .inl hnew
    · obtain hold | hnew := List.mem_append.1 hnew
      · exact .inl hold
      · exact .inr (List.mem_singleton.1 hnew)
  obtain ⟨type, userId, scheduleId, channelId⟩ := target
  cases type with
  | channel => cases channelId <;> exact .inl h
  | user =>
      cases userId with
      | none => exact .inl h
      | some userId =>
          obtain hold | rfl := hadd _ h
          · exact .inl hold
          · exact .inr (.inl ⟨rfl, rfl⟩)
  | schedule =>
      cases scheduleId with
      | none => exact .inl h
      | some scheduleId =>
          simp only [Db.addTarget] at h
          cases honCall : whoIsOnCall deps.tzOffsetMs db.schedules scheduleId now with
          | none =>
              rw [honCall] at h
              exact .inl h
          | some onCall =>
              obtain ⟨primary, secondary, source⟩ := onCall
              rw [honCall] at h
              cases primary with
              | none => exact .inl h
              | some userId =>
                  obtain hold | rfl := hadd _ h
                  · exact .inl hold
                  · exact .inr (.inr ⟨rfl, scheduleId, _, rfl, honCall, rfl⟩)

/-- Each responder of a step is contacted by one of its targets. -/
theorem resolved_responders {db : Db} {deps : Deps} {now : Instant} {targets : List TargetRow} :
    ∀ ref ∈ (db.resolved deps now targets {}).responders,
      ∃ target ∈ targets, db.contacts deps now target ref.userId := by
  refine resolved_induction (P := fun found => ∀ ref ∈ found.responders,
    ∃ target ∈ targets, db.contacts deps now target ref.userId) (by simp) ?_
  intro target htarget found hfound ref href
  obtain hold | hcontacts := addTarget_responders href
  · exact hfound ref hold
  · exact ⟨target, htarget, hcontacts⟩

/-! ## channels -/

/-- Those of these channels that are live. -/
def Db.live (db : Db) (organizationId : OrganizationId) (channelIds : List ChannelId) :
    List ChannelId :=
  channelIds.filter (db.channelLive organizationId)

/-- A channel, and the delivery recorded for it. -/
abbrev Sent := ChannelId × DeliveryId

def deliveryRow (ctx : StepContext) (sent : Sent) : NotificationDelivery :=
  { id := sent.2, organizationId := ctx.organizationId, channelId := sent.1
    incidentId := ctx.incidentId }

/-- The deliveries of `rows` recorded, and the jobs of `jobs` enqueued. -/
def Db.sent (db : Db) (ctx : StepContext) (rows jobs : List Sent) : Db :=
  { db with
    notificationDeliveries := db.notificationDeliveries ++ rows.map (deliveryRow ctx)
    alertQueue := db.alertQueue ++ jobs.map fun s => alertJob ctx s.1 s.2 }

/-- The statements of a dispatch, from the `n`-th channel on, up to the first that writes. -/
def Db.openingSites (db : Db) (organizationId : OrganizationId) : Nat → List ChannelId → List Site
  | _, [] => []
  | n, channelId :: rest =>
      .channel n ::
        bif db.channelLive organizationId channelId then [.delivery n]
        else db.openingSites organizationId (n + 1) rest

/-- What a dispatch that ends with `r` recorded and enqueued. -/
structure Dispatched (faults : Faults) (ctx : StepContext) (db : Db) (n : Nat)
    (channelIds : List ChannelId) (r : Except String Nat) (rows jobs : List Sent) : Prop where
  recorded : rows.map (·.1) <+: db.live ctx.organizationId channelIds
  enqueued : jobs <+: rows
  complete : ∀ m, r = .ok m → jobs = rows ∧ rows.map (·.1) = db.live ctx.organizationId channelIds
  cut : ∀ e, faults.first (db.openingSites ctx.organizationId n channelIds) = some e →
    r = .error e ∧ rows = []
  opened : faults.first (db.openingSites ctx.organizationId n channelIds) = none →
    db.live ctx.organizationId channelIds ≠ [] → rows ≠ []
  silent : faults.first (db.openingSites ctx.organizationId n channelIds) = none →
    db.live ctx.organizationId channelIds = [] → r = .ok 0

@[simp] theorem sent_nil (db : Db) (ctx : StepContext) : db.sent ctx [] [] = db := by
  simp [Db.sent]

theorem sent_sent (db : Db) (ctx : StepContext) (sent : Sent) (rows jobs : List Sent) :
    (db.sent ctx [sent] [sent]).sent ctx rows jobs = db.sent ctx (sent :: rows) (sent :: jobs) := by
  simp [Db.sent]

theorem channelLive_congr {db db' : Db} (h : db'.alertChannels = db.alertChannels) :
    db'.channelLive = db.channelLive := by
  funext organizationId channelId
  rw [Db.channelLive, Db.channelLive, h]

theorem live_congr {db db' : Db} (h : db'.alertChannels = db.alertChannels)
    (organizationId : OrganizationId) (channelIds : List ChannelId) :
    db'.live organizationId channelIds = db.live organizationId channelIds := by
  rw [Db.live, Db.live, channelLive_congr h]

theorem openingSites_congr {db db' : Db} (h : db'.alertChannels = db.alertChannels)
    (organizationId : OrganizationId) (n : Nat) (channelIds : List ChannelId) :
    db'.openingSites organizationId n channelIds = db.openingSites organizationId n channelIds := by
  induction channelIds generalizing n with
  | nil => rfl
  | cons channelId rest ih => rw [Db.openingSites, Db.openingSites, ih, channelLive_congr h]

/-- A channel that is not live is passed over. -/
theorem dispatchToChannels_skip (faults : Faults) (ctx : StepContext) (db : Db) (n : Nat)
    {channelId : ChannelId} (rest : List ChannelId)
    (hlive : db.channelLive ctx.organizationId channelId = false) :
    (dispatchToChannels faults ctx n (channelId :: rest)).run db = match faults (.channel n) with
      | some e => (.error e, db)
      | none => (dispatchToChannels faults ctx (n + 1) rest).run db := by
  rw [dispatchToChannels, Eff.bind_run, Faults.read_run]
  cases faults (.channel n) with
  | some e => rfl
  | none => simp [hlive]

/-- A live channel gets a delivery, then a job, then the rest is gone over. -/
theorem dispatchToChannels_send (faults : Faults) (ctx : StepContext) (db : Db) (n : Nat)
    {channelId : ChannelId} (rest : List ChannelId)
    (hlive : db.channelLive ctx.organizationId channelId = true) :
    let sent : Sent := (channelId, freshId NotificationDelivery.id db.notificationDeliveries)
    (dispatchToChannels faults ctx n (channelId :: rest)).run db =
      match faults.first [.channel n, .delivery n] with
      | some e => (.error e, db)
      | none => match faults (.alertJob n) with
        | some e => (.error e, db.sent ctx [sent] [])
        | none => ((· + 1) <$> dispatchToChannels faults ctx (n + 1) rest).run
            (db.sent ctx [sent] [sent]) := by
  intro sent
  rw [dispatchToChannels, Eff.bind_run, Faults.read_run, Faults.first_cons]
  cases faults (.channel n) with
  | some e => rfl
  | none =>
      cases hrow : faults (.delivery n) with
      | some e => simp [hlive, Eff.bind_run, createDelivery, hrow, Faults.first_cons]
      | none =>
          cases hjob : faults (.alertJob n) with
          | some e =>
              simp [hlive, Eff.bind_run, createDelivery, hrow, Faults.first_cons, hjob,
                Faults.write_run, Db.sent, deliveryRow, sent]
          | none =>
              simp [hlive, Eff.bind_run, Eff.map_run, createDelivery, hrow, Faults.first_cons,
                hjob, Faults.write_run, Db.sent, deliveryRow, sent]

theorem dispatchToChannels_run (faults : Faults) (ctx : StepContext) (db : Db) (n : Nat)
    (channelIds : List ChannelId) :
    ∃ r rows jobs, (dispatchToChannels faults ctx n channelIds).run db =
      (r, db.sent ctx rows jobs) ∧ Dispatched faults ctx db n channelIds r rows jobs := by
  induction channelIds generalizing n db with
  | nil =>
      refine ⟨.ok 0, [], [], by simp [dispatchToChannels], ?_⟩
      constructor <;> simp [Db.live, Db.openingSites]
  | cons channelId rest ih =>
      cases hlive : db.channelLive ctx.organizationId channelId with
      | false =>
          have hrest : db.live ctx.organizationId (channelId :: rest) =
              db.live ctx.organizationId rest := by
            simp [Db.live, hlive]
          have hsites : db.openingSites ctx.organizationId n (channelId :: rest) =
              .channel n :: db.openingSites ctx.organizationId (n + 1) rest := by
            simp [Db.openingSites, hlive]
          rw [dispatchToChannels_skip faults ctx db n rest hlive]
          cases hfault : faults (.channel n) with
          | some e =>
              refine ⟨.error e, [], [], by simp, ?_⟩
              constructor <;> simp [hsites, Faults.first_cons, hfault]
          | none =>
              obtain ⟨r, rows, jobs, hrun, hends⟩ := ih db (n + 1)
              refine ⟨r, rows, jobs, hrun, ?_⟩
              obtain ⟨hrecorded, henqueued, hcomplete, hcut, hopened, hsilent⟩ := hends
              constructor <;> simpa [hrest, hsites, Faults.first_cons, hfault]
      | true =>
          have hrest : db.live ctx.organizationId (channelId :: rest) =
              channelId :: db.live ctx.organizationId rest := by
            simp [Db.live, hlive]
          have hsites : db.openingSites ctx.organizationId n (channelId :: rest) =
              [.channel n, .delivery n] := by
            simp [Db.openingSites, hlive]
          rw [dispatchToChannels_send faults ctx db n rest hlive]
          cases hfirst : faults.first [.channel n, .delivery n] with
          | some e =>
              refine ⟨.error e, [], [], by simp, ?_⟩
              constructor <;> simp [hsites, hfirst]
          | none =>
              cases hjob : faults (.alertJob n) with
              | some e =>
                  refine ⟨.error e, [_], [], rfl, ?_⟩
                  constructor <;> simp [hsites, hfirst, hrest]
              | none =>
                  let sent : Sent :=
                    (channelId, freshId NotificationDelivery.id db.notificationDeliveries)
                  obtain ⟨r, rows, jobs, hrun, hends⟩ := ih (db.sent ctx [sent] [sent]) (n + 1)
                  refine ⟨(· + 1) <$> r, sent :: rows, sent :: jobs, ?_, ?_⟩
                  · rw [← sent_sent db ctx sent rows jobs]
                    change ((· + 1) <$> dispatchToChannels faults ctx (n + 1) rest).run
                      (db.sent ctx [sent] [sent]) = _
                    rw [Eff.map_run, hrun]
                    cases r <;> rfl
                  · constructor
                    · rw [hrest]
                      exact List.cons_prefix_cons.2 ⟨rfl, hends.recorded⟩
                    · simpa using hends.enqueued
                    · intro m hm
                      cases r with
                      | error e => cases hm
                      | ok k =>
                          obtain ⟨hjobs, hrows⟩ := hends.complete k rfl
                          exact ⟨by rw [hjobs], by rw [List.map_cons, hrows, hrest]; rfl⟩
                    · simp [hsites, hfirst]
                    · simp
                    · simp [hrest]

/-! ## the step as a whole -/

def stepMetadata (step : StepRow) (found : Targets) (paged : Paged) : StepMetadata where
  step := step.position
  responders := found.responders
  channelIds := found.channelIds
  pagedUserIds := paged.pagedUserIds
  failedPages := paged.failed

def stepResult (found : Targets) (paged : Paged) (channelsPaged : Nat) : StepResult where
  responders := found.responders.map (·.userId)
  respondersPaged := paged.pagedUserIds.length
  respondersFailed := paged.failed.length
  channelsPaged := channelsPaged

/-- These entries made in the timeline and in the audit log. -/
def Db.entered (db : Db) (events : List TimelineEvent) (audits : List AuditEntry) : Db :=
  { db with incidentEvents := db.incidentEvents ++ events, auditLogs := db.auditLogs ++ audits }

/-- The dispatch of a step, and the two entries that close it. -/
def finishStep (faults : Faults) (ctx : StepContext) (step : StepRow) (now : Instant)
    (found : Targets) (paged : Paged) : Work StepResult := do
  let channelsPaged ← dispatchToChannels faults ctx 0 found.channelIds
  faults.write .event fun db =>
    { db with
      incidentEvents := db.incidentEvents ++ [stepEvent ctx now
        (stepMessage step.position paged channelsPaged) (stepMetadata step found paged)] }
  faults.write .audit fun db =>
    { db with auditLogs := db.auditLogs ++ [stepAudit ctx (stepMetadata step found paged)] }
  pure (stepResult found paged channelsPaged)

/-- The reads that come before the dispatch. -/
def Db.loadSites (db : Db) (deps : Deps) (now : Instant) (step : StepRow) : List Site :=
  scheduleSites 0 step.targets ++
    userSites deps (db.resolved deps now step.targets {}).responders

/-- A step is cut off by the first of its reads that fails; the pages do not fail it. -/
theorem executeStep_run (deps : Deps) (faults : Faults) (ctx : StepContext) (step : StepRow)
    (now : Instant) (db : Db) :
    let found := db.resolved deps now step.targets {}
    let reached := db.reached deps faults found.responders
    ∃ failed, (executeStep deps faults ctx step now).run db =
      match faults.first (db.loadSites deps now step) with
      | some e => (.error e, db)
      | none => (finishStep faults ctx step now found ⟨reached.map (·.id), failed⟩).run
          (db.paged deps ctx step.position reached) := by
  intro found reached
  obtain ⟨failed, hpages⟩ := pageResponders_run deps faults ctx step.position found.responders db
  refine ⟨failed, ?_⟩
  rw [executeStep, Eff.bind_run, resolveTargets_run, Db.loadSites, Faults.first_append]
  cases faults.first (scheduleSites 0 step.targets) with
  | some e => rfl
  | none =>
      change (pageResponders deps faults ctx step.position found.responders >>= fun paged =>
        finishStep faults ctx step now found paged).run db = _
      rw [Eff.bind_run, hpages]
      cases faults.first (userSites deps found.responders) <;> rfl

/-- The statements that close a step up to the first that leaves a trace. -/
def Db.closeSites (db : Db) (organizationId : OrganizationId) (channelIds : List ChannelId) :
    List Site :=
  db.openingSites organizationId 0 channelIds ++
    if db.live organizationId channelIds = [] then [.event] else []

/-- What the end of a step recorded, enqueued and entered when it ended with `r`. -/
structure Finished (faults : Faults) (ctx : StepContext) (step : StepRow) (now : Instant)
    (found : Targets) (paged : Paged) (db : Db) (r : Except String StepResult)
    (rows jobs : List Sent) (events : List TimelineEvent) : Prop where
  recorded : rows.map (·.1) <+: db.live ctx.organizationId found.channelIds
  enqueued : jobs <+: rows
  complete : ∀ result, r = .ok result →
    jobs = rows ∧ rows.map (·.1) = db.live ctx.organizationId found.channelIds ∧
      ∃ n, result = stepResult found paged n ∧
        events = [stepEvent ctx now (stepMessage step.position paged n)
          (stepMetadata step found paged)]
  cut : ∀ e, faults.first (db.closeSites ctx.organizationId found.channelIds) = some e →
    r = .error e ∧ rows = [] ∧ events = []
  opened : faults.first (db.closeSites ctx.organizationId found.channelIds) = none →
    (db.live ctx.organizationId found.channelIds = [] → events ≠ []) ∧
      (db.live ctx.organizationId found.channelIds ≠ [] → rows ≠ [])

section
variable {faults : Faults} {ctx : StepContext} {db : Db} {channelIds : List ChannelId}
  {r : Except String Nat} {rows jobs : List Sent}

/-- A close that is cut off at once fails in the dispatch, or at the entry after an empty one. -/
theorem Dispatched.cut_close (h : Dispatched faults ctx db 0 channelIds r rows jobs) {e : String}
    (he : faults.first (db.closeSites ctx.organizationId channelIds) = some e) :
    rows = [] ∧ (r = .error e ∨ (r = .ok 0 ∧ faults .event = some e)) := by
  rw [Db.closeSites, Faults.first_append] at he
  cases hopening : faults.first (db.openingSites ctx.organizationId 0 channelIds) with
  | some e' =>
      rw [hopening, Option.some_or, Option.some.injEq] at he
      subst he
      obtain ⟨herror, hrows⟩ := h.cut e' hopening
      exact ⟨hrows, .inl herror⟩
  | none =>
      rw [hopening, Option.none_or] at he
      split at he
      · next hnone =>
        have hrows := h.recorded
        rw [hnone, List.prefix_nil, List.map_eq_nil_iff] at hrows
        rw [Faults.first_cons, Faults.first_nil, Option.or_none] at he
        exact ⟨hrows, .inr ⟨h.silent hopening hnone, he⟩⟩
      · cases he

/-- A close that is not cut off at once records a delivery, or comes to the entry. -/
theorem Dispatched.opened_close (h : Dispatched faults ctx db 0 channelIds r rows jobs)
    (he : faults.first (db.closeSites ctx.organizationId channelIds) = none) :
    (db.live ctx.organizationId channelIds = [] → r = .ok 0 ∧ faults .event = none) ∧
      (db.live ctx.organizationId channelIds ≠ [] → rows ≠ []) := by
  rw [Db.closeSites, Faults.first_append, Option.or_eq_none_iff] at he
  obtain ⟨hopening, hevent⟩ := he
  refine ⟨fun hnone => ⟨h.silent hopening hnone, ?_⟩, h.opened hopening⟩
  rwa [if_pos hnone, Faults.first_cons, Faults.first_nil, Option.or_none] at hevent

end

theorem finishStep_run (faults : Faults) (ctx : StepContext) (step : StepRow) (now : Instant)
    (found : Targets) (paged : Paged) (db : Db) :
    ∃ r rows jobs events audits, (finishStep faults ctx step now found paged).run db =
        (r, (db.sent ctx rows jobs).entered events audits) ∧
      Finished faults ctx step now found paged db r rows jobs events := by
  obtain ⟨r, rows, jobs, hrun, hends⟩ := dispatchToChannels_run faults ctx db 0 found.channelIds
  rw [finishStep, Eff.bind_run, hrun]
  cases r with
  | error e =>
      refine ⟨.error e, rows, jobs, [], [], by simp [Db.entered], hends.recorded, hends.enqueued,
        by simp, fun e' he => ?_, fun he => ?_⟩
      · obtain ⟨hrows, hr | ⟨hok, -⟩⟩ := hends.cut_close he
        · cases hr
          exact ⟨rfl, hrows, rfl⟩
        · cases hok
      · obtain ⟨hevents, hrows⟩ := hends.opened_close he
        exact ⟨fun hnone => absurd (hevents hnone).1 (by simp), hrows⟩
  | ok n =>
      obtain ⟨hjobs, hrows⟩ := hends.complete n rfl
      cases hevent : faults .event with
      | some e =>
          refine ⟨.error e, rows, jobs, [], [], ?_, hends.recorded, hends.enqueued, by simp,
            fun e' he => ?_, fun he => ?_⟩
          · simp [Eff.bind_run, Faults.write_run, hevent, Db.entered]
          · obtain ⟨hnil, hr | ⟨-, hfault⟩⟩ := hends.cut_close he
            · cases hr
            · rw [hevent] at hfault
              cases hfault
              exact ⟨rfl, hnil, rfl⟩
          · obtain ⟨hevents, hrows⟩ := hends.opened_close he
            refine ⟨fun hnone => ?_, hrows⟩
            have hfault := (hevents hnone).2
            rw [hevent] at hfault
            cases hfault
      | none =>
          have hcut : ∀ e,
              faults.first (db.closeSites ctx.organizationId found.channelIds) ≠ some e := by
            intro e he
            obtain ⟨-, hr | ⟨-, hfault⟩⟩ := hends.cut_close he
            · cases hr
            · rw [hevent] at hfault
              cases hfault
          have hopened := fun he => (hends.opened_close he).2
          cases haudit : faults .audit with
          | some e =>
              refine ⟨.error e, rows, jobs, [stepEvent ctx now (stepMessage step.position paged n)
                (stepMetadata step found paged)], [], ?_, hends.recorded, hends.enqueued, by simp,
                fun e he => absurd he (hcut e), fun he => ⟨fun _ => by simp, hopened he⟩⟩
              simp [Eff.bind_run, Faults.write_run, hevent, haudit, Db.entered]
          | none =>
              refine ⟨.ok (stepResult found paged n), rows, jobs,
                [stepEvent ctx now (stepMessage step.position paged n)
                  (stepMetadata step found paged)], [stepAudit ctx (stepMetadata step found paged)],
                ?_, hends.recorded, hends.enqueued, fun result h => ?_,
                fun e he => absurd he (hcut e), fun he => ⟨fun _ => by simp, hopened he⟩⟩
              · simp [Eff.bind_run, Faults.write_run, hevent, haudit, Db.entered]
              · cases h
                exact ⟨hjobs, hrows, n, rfl, rfl⟩

end UptimeFlow.Escalation
