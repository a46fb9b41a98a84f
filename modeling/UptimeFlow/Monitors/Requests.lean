import UptimeFlow.Monitors.Service

/-!
# UptimeFlow.Monitors.Requests

Requests as checks followed by lists of writes, and what the writes do.

`update_run` and `setChannels_run` put a request in this form.  What the
writes do to the assertions and channels of a monitor is read off lemma by lemma;
the rows of monitors change only where `create` adds one and where `update` ends
(`create_monitors`, `update_monitors`).
-/

namespace UptimeFlow.Monitors

open Monitoring (OrganizationId MonitorId ChannelId)
open Writes

/-! ## requests as lists of writes -/

def assertionWrites (monitorId : MonitorId) : Option (List AssertionDef) → List (Write Db Site)
  | none => []
  | some assertions =>
      ⟨.assertionsDelete, deleteAssertions monitorId⟩ ::
        if assertions.length > 0 then [⟨.assertionsCreate, createAssertions monitorId assertions⟩]
        else []

def channelWrites (monitorId : MonitorId) : Option (List ChannelId) → List (Write Db Site)
  | none => []
  | some channelIds =>
      ⟨.channelsDelete, deleteChannels monitorId⟩ ::
        if channelIds.length > 0 then [⟨.channelsCreate, createChannels monitorId channelIds⟩]
        else []

/-- The writes of `update` before that of the row. -/
def listWrites (monitorId : MonitorId) (input : UpdateMonitorInput) : List (Write Db Site) :=
  assertionWrites monitorId input.assertions ++ channelWrites monitorId input.channelIds

variable {stored : Headers → Headers} {faults : Faults} {organizationId : OrganizationId}
  {monitorId : MonitorId} {input : UpdateMonitorInput} {actor : MonitorActor} {db : Db}

theorem replaceAssertions_eq (assertions : Option (List AssertionDef)) :
    replaceAssertions faults monitorId assertions =
      issue faults .database (assertionWrites monitorId assertions) := by
  cases assertions with
  | none => rfl
  | some assertions =>
      cases assertions with
      | nil => rfl
      | cons a as =>
          rw [replaceAssertions, assertionWrites, if_pos (by simp), if_pos (by simp), issue,
            issue_singleton]
          rfl

theorem replaceChannels_eq (channelIds : List ChannelId) :
    replaceChannels faults monitorId channelIds =
      issue faults .database (channelWrites monitorId (some channelIds)) := by
  cases channelIds with
  | nil => rfl
  | cons c cs =>
      rw [replaceChannels, channelWrites, if_pos (by simp), if_pos (by simp), issue,
        issue_singleton]
      rfl

theorem guard_run (check : Db → Except ServiceError Unit) (db : Db) :
    (guard check).run db = (check db, db) := rfl

/-- What `update` checks before it writes. -/
def checkUpdate (db : Db) (organizationId : OrganizationId) (existing : MonitorRow)
    (input : UpdateMonitorInput) : Except ServiceError Unit := do
  checkTarget (mergedTarget existing input)
  checkReferences db organizationId input.toMonitorFields

/-- The write of the row. -/
def rowWrite (stored : Headers → Headers) (monitorId : MonitorId) (input : UpdateMonitorInput)
    (actor : MonitorActor) : Write Db Site :=
  ⟨.monitorUpdate, updateMonitor stored monitorId input actor⟩

def updatedEvent (organizationId : OrganizationId) (monitorId : MonitorId) (actor : MonitorActor) :
    AuditEvent :=
  { organizationId, actorId := actor.userId, actorType := actor.actorType
    action := "monitor.updated", resourceType := "monitor", resourceId := monitorId }

/-- What `update` does with a monitor it has found: check, write, and read again. -/
def updateFound (stored : Headers → Headers) (faults : Faults) (organizationId : OrganizationId)
    (existing : MonitorRow) (monitorId : MonitorId) (input : UpdateMonitorInput)
    (actor : MonitorActor) : Service (Option MonitorDetail) := do
  guard fun db => checkUpdate db organizationId existing input
  issue faults .database (listWrites monitorId input ++ [rowWrite stored monitorId input actor])
  audit faults (updatedEvent organizationId monitorId actor)
  Eff.read (loadDetail organizationId monitorId)

theorem update_run {existing : MonitorRow}
    (hfound : db.findMonitor organizationId monitorId = some existing) :
    (update stored faults organizationId monitorId input actor).run db =
      (updateFound stored faults organizationId existing monitorId input actor).run db := by
  have hguard : (guard fun db => checkUpdate db organizationId existing input) =
      (guard fun _ => checkTarget (mergedTarget existing input)) >>= fun _ =>
        guard fun db => checkReferences db organizationId input.toMonitorFields := by
    refine congrArg Eff.mk (funext fun db => ?_)
    simp only [guard_run, checkUpdate]
    cases checkTarget (mergedTarget existing input) <;> rfl
  rw [update, Eff.bind_run, Eff.read_run, hfound, updateFound, hguard, listWrites, issue_append,
    issue_append, ← replaceAssertions_eq, issue_singleton]
  simp only [Eff.bind_assoc]
  cases input.channelIds with
  | none => rfl
  | some channelIds =>
      rw [← replaceChannels_eq]
      rfl

theorem audit_run (faults : Faults) (event : AuditEvent) (db : Db) :
    ∃ db', (audit faults event).run db = (.ok (), db') := by
  unfold audit Faults.write
  rw [Eff.rescue_run, Eff.write_run]
  cases faults .auditLog
  · exact ⟨_, rfl⟩
  · exact ⟨_, rfl⟩

/-- Past the checks, what raises is a write. -/
theorem updateFound_run_error {existing : MonitorRow}
    (hcheck : checkUpdate db organizationId existing input = .ok ()) {e : ServiceError} {db' : Db} :
    (updateFound stored faults organizationId existing monitorId input actor).run db =
        (.error e, db') ↔
      (issue faults .database
        (listWrites monitorId input ++ [rowWrite stored monitorId input actor])).run db =
        (.error e, db') := by
  have hguard : (guard fun db => checkUpdate db organizationId existing input).run db =
      (.ok (), db) := by rw [guard_run, hcheck]
  rw [updateFound, Eff.bind_run_of_ok hguard, Eff.bind_run]
  cases hissue : (issue faults ServiceError.database
      (listWrites monitorId input ++ [rowWrite stored monitorId input actor])).run db with
  | mk result written =>
      cases result with
      | error e' => simp
      | ok u =>
          dsimp only
          obtain ⟨logged, hlogged⟩ := audit_run faults
            (updatedEvent organizationId monitorId actor) written
          rw [Eff.bind_run, hlogged]
          simp

/-- A request for which nothing fails and that finds the monitor passes the checks. -/
theorem exists_of_accepted {d : MonitorDetail}
    (h : ((update stored noFaults organizationId monitorId input actor).run db).1 = .ok (some d)) :
    ∃ existing, db.findMonitor organizationId monitorId = some existing ∧
      checkUpdate db organizationId existing input = .ok () := by
  cases hfound : db.findMonitor organizationId monitorId with
  | none =>
      rw [update, Eff.bind_run, Eff.read_run, hfound] at h
      cases h
  | some existing =>
      refine ⟨existing, rfl, ?_⟩
      rw [update_run hfound, updateFound, Eff.bind_run, guard_run] at h
      cases hcheck : checkUpdate db organizationId existing input with
      | ok u => rfl
      | error e =>
          rw [hcheck] at h
          cases h

theorem setChannels_run {channelIds : List ChannelId} {bound : List ChannelId}
    (h : ((setChannels noFaults organizationId monitorId channelIds).run db).1 = .ok bound)
    (faults : Faults) :
    (setChannels faults organizationId monitorId channelIds).run db =
      (do issue faults .database (channelWrites monitorId (some channelIds))
          return channelIds : Service (List ChannelId)).run db := by
  have hguards : (if (db.findMonitor organizationId monitorId).isNone then
      Except.error ServiceError.notFound else .ok ()) = .ok () ∧
      assertChannelsOwned db channelIds organizationId = .ok () := by
    unfold setChannels at h
    rw [Eff.bind_run, guard_run] at h
    cases hfound : (if (db.findMonitor organizationId monitorId).isNone then
      Except.error ServiceError.notFound else .ok ()) with
    | error e =>
        rw [hfound] at h
        cases h
    | ok u =>
        rw [hfound] at h
        dsimp only at h
        rw [Eff.bind_run, guard_run] at h
        cases howned : assertChannelsOwned db channelIds organizationId with
        | error e =>
            rw [howned] at h
            cases h
        | ok v => exact ⟨rfl, rfl⟩
  unfold setChannels
  rw [Eff.bind_run, guard_run, hguards.1]
  dsimp only
  rw [Eff.bind_run, guard_run, hguards.2]
  dsimp only
  rw [replaceChannels_eq]

/-! ## what the writes do to a monitor -/

@[simp] theorem assertionsOf_deleteAssertions :
    (deleteAssertions monitorId db).assertionsOf monitorId = [] := by
  simp [deleteAssertions, Db.assertionsOf, List.filter_filter]

@[simp] theorem assertionsOf_createAssertions (assertions : List AssertionDef) :
    (createAssertions monitorId assertions db).assertionsOf monitorId =
      db.assertionsOf monitorId ++ assertions := by
  simp [createAssertions, Db.assertionsOf, List.filter_map, Function.comp_def]

@[simp] theorem boundChannelIds_deleteChannels :
    (deleteChannels monitorId db).boundChannelIds monitorId = [] := by
  simp [deleteChannels, Db.boundChannelIds, List.filter_filter]

/-- The bindings created are those that were not there. -/
theorem boundChannelIds_createChannels (channelIds : List ChannelId) :
    (createChannels monitorId channelIds db).boundChannelIds monitorId =
      channelIds.foldl (fun ids c => if c ∈ ids then ids else ids ++ [c])
        (db.boundChannelIds monitorId) := by
  unfold createChannels Db.boundChannelIds
  dsimp only
  generalize db.monitorChannels = rows
  induction channelIds generalizing rows with
  | nil => rfl
  | cons c cs ih =>
      rw [List.map_cons, List.foldl_cons, List.foldl_cons, ih]
      have hmem : MonitorChannel.mk monitorId c ∈ rows ↔
          c ∈ (rows.filter fun r => r.monitorId = monitorId).map (·.channelId) := by
        simp only [List.mem_map, List.mem_filter, decide_eq_true_eq]
        constructor
        · intro h
          exact ⟨_, ⟨h, rfl⟩, rfl⟩
        · rintro ⟨⟨m, c'⟩, ⟨h, rfl⟩, rfl⟩
          exact h
      by_cases h : MonitorChannel.mk monitorId c ∈ rows
      · rw [if_pos h, if_pos (hmem.1 h)]
      · rw [if_neg h, if_neg fun hc => h (hmem.2 hc)]
        simp

theorem deleteAssertions_of_nil (h : db.assertionsOf monitorId = []) :
    deleteAssertions monitorId db = db := by
  have hnone : ∀ a ∈ db.monitorAssertions, a.monitorId ≠ monitorId := by
    simpa [Db.assertionsOf, List.filter_eq_nil_iff] using h
  have hall : (db.monitorAssertions.filter fun a => a.monitorId ≠ monitorId) =
      db.monitorAssertions := List.filter_eq_self.2 fun a ha => by simp [hnone a ha]
  rw [deleteAssertions, hall]

theorem deleteChannels_of_nil (h : db.boundChannelIds monitorId = []) :
    deleteChannels monitorId db = db := by
  have hnone : ∀ c ∈ db.monitorChannels, c.monitorId ≠ monitorId := by
    simpa [Db.boundChannelIds, List.filter_eq_nil_iff] using h
  have hall : (db.monitorChannels.filter fun c => c.monitorId ≠ monitorId) =
      db.monitorChannels := List.filter_eq_self.2 fun c hc => by simp [hnone c hc]
  rw [deleteChannels, hall]

theorem assertionsOf_assertionWrites (assertions : List AssertionDef) :
    (applied (assertionWrites monitorId (some assertions)) db).assertionsOf monitorId =
      assertions := by
  cases assertions with
  | nil => exact assertionsOf_deleteAssertions
  | cons a as =>
      rw [assertionWrites, if_pos (by simp), applied_cons, applied_cons, applied_nil,
        assertionsOf_createAssertions, assertionsOf_deleteAssertions, List.nil_append]

theorem boundChannelIds_assertionWrites (assertions : Option (List AssertionDef)) :
    (applied (assertionWrites monitorId assertions) db).boundChannelIds monitorId =
      db.boundChannelIds monitorId := by
  cases assertions with
  | none => rfl
  | some assertions => cases assertions <;> rfl

theorem mem_foldl_insert {α : Type} [DecidableEq α] (xs ys : List α) (a : α) :
    a ∈ xs.foldl (fun ids c => if c ∈ ids then ids else ids ++ [c]) ys ↔ a ∈ ys ∨ a ∈ xs := by
  induction xs generalizing ys with
  | nil => simp
  | cons x xs ih =>
      rw [List.foldl_cons, ih]
      by_cases hx : x ∈ ys
      · grind
      · grind

/-- Inserting one by one keeps a list just if nothing in it is repeated. -/
theorem foldl_insert_eq_self_iff {α : Type} [DecidableEq α] {xs : List α} :
    xs.foldl (fun ids c => if c ∈ ids then ids else ids ++ [c]) [] = xs ↔ xs.Nodup := by
  have hnodup : ∀ xs ys : List α, ys.Nodup →
      (xs.foldl (fun ids c => if c ∈ ids then ids else ids ++ [c]) ys).Nodup := by
    intro xs
    induction xs with
    | nil => exact fun ys hys => hys
    | cons x xs ih =>
        intro ys hys
        rw [List.foldl_cons]
        refine ih _ ?_
        by_cases hx : x ∈ ys
        · rwa [if_pos hx]
        · rw [if_neg hx]
          exact List.nodup_append.2 ⟨hys, List.nodup_singleton x, by grind⟩
  have hself : ∀ xs ys : List α, (ys ++ xs).Nodup →
      xs.foldl (fun ids c => if c ∈ ids then ids else ids ++ [c]) ys = ys ++ xs := by
    intro xs
    induction xs with
    | nil => intro ys _; simp
    | cons x xs ih =>
        intro ys hys
        have hx : x ∉ ys := by grind
        rw [List.foldl_cons, if_neg hx, ih _ (by simpa using hys), List.append_assoc,
          List.singleton_append]
  constructor
  · intro h
    rw [← h]
    exact hnodup xs [] List.nodup_nil
  · exact fun h => hself xs [] h

theorem mem_boundChannelIds_channelWrites (channelIds : List ChannelId) (c : ChannelId) :
    c ∈ (applied (channelWrites monitorId (some channelIds)) db).boundChannelIds monitorId ↔
      c ∈ channelIds := by
  cases channelIds with
  | nil => simp [channelWrites]
  | cons c' cs =>
      rw [channelWrites, if_pos (by simp), applied_cons, applied_cons, applied_nil,
        boundChannelIds_createChannels, boundChannelIds_deleteChannels, mem_foldl_insert]
      simp

/-! ## what a request does to the rows -/

/-- The writes before that of the row leave the rows alone. -/
theorem listWrites_monitors {w : Write Db Site} (hw : w ∈ listWrites monitorId input) (db : Db) :
    (w.op db).monitors = db.monitors := by
  have hop : w.op = deleteAssertions monitorId ∨ (∃ as, w.op = createAssertions monitorId as) ∨
      w.op = deleteChannels monitorId ∨ ∃ ids, w.op = createChannels monitorId ids := by
    unfold listWrites assertionWrites channelWrites at hw
    grind
  obtain hop | ⟨as, hop⟩ | hop | ⟨ids, hop⟩ := hop
  all_goals
    rw [hop]
    rfl

theorem audit_frames (event : AuditEvent) :
    Eff.Frames (fun db : Db => db.monitors) (audit faults event) := by
  unfold audit Faults.write
  exact Eff.Frames.rescue (Eff.Frames.write fun _ => rfl) fun _ => Eff.Frames.pure ()

/-- An update writes the row of a monitor it found, or no row. -/
theorem update_monitors :
    ((update stored faults organizationId monitorId input actor).run db).2.monitors = db.monitors ∨
      ((db.findMonitor organizationId monitorId).isSome ∧
        ((update stored faults organizationId monitorId input actor).run db).2.monitors =
          (updateMonitor stored monitorId input actor db).monitors) := by
  cases hfound : db.findMonitor organizationId monitorId with
  | none =>
      refine .inl ?_
      rw [update, Eff.bind_run, Eff.read_run, hfound]
      rfl
  | some existing =>
      rw [update_run hfound, updateFound, Eff.bind_run, guard_run]
      cases checkUpdate db organizationId existing input with
      | error e => exact .inl rfl
      | ok u =>
          dsimp only
          have hrest : ∀ _ : Unit, Eff.Frames (fun db : Db => db.monitors) (do
              audit faults (updatedEvent organizationId monitorId actor)
              Eff.read (loadDetail organizationId monitorId)) :=
            fun _ => (audit_frames _).bind fun _ => Eff.Frames.read _
          rw [Eff.view_bind (fun db : Db => db.monitors) hrest, issue_append, Eff.bind_run]
          have hlists : Eff.Frames (fun db : Db => db.monitors)
              (issue faults ServiceError.database (listWrites monitorId input)) :=
            issue_frames fun _ hw => listWrites_monitors hw
          have hsame := hlists db
          cases hrun : (issue faults ServiceError.database (listWrites monitorId input)).run db with
          | mk result written =>
              replace hsame : written.monitors = db.monitors := by rwa [hrun] at hsame
              cases result with
              | error e => exact .inl hsame
              | ok u =>
                  dsimp only
                  rw [issue_singleton, Eff.write_run]
                  cases faults (rowWrite stored monitorId input actor).site with
                  | true => exact .inl hsame
                  | false =>
                      refine .inr ⟨rfl, ?_⟩
                      change Tables.updateWhere _ _ written.monitors = _
                      rw [hsame]
                      rfl

/-- A check that fails leaves the store, and one that passes leaves it to the rest. -/
theorem guard_bind_run_snd {α : Type} {P : Db → Prop} {check : Db → Except ServiceError Unit}
    {rest : Service α} (hdb : P db) (hrest : P (rest.run db).2) :
    P ((guard check >>= fun _ => rest).run db).2 := by
  rw [Eff.bind_run, guard_run]
  cases check db with
  | error e => exact hdb
  | ok u => exact hrest

/-- A row was added under an identifier that was not in use, or none was. -/
def Added (row : MonitorRow) (db db' : Db) : Prop :=
  db'.monitors = db.monitors ∨
    ((∀ m ∈ db.monitors, m.id ≠ row.id) ∧ db'.monitors = db.monitors ++ [row])

/-- A creation adds the row it is asked for, or none. -/
theorem create_monitors (stored : Headers → Headers) (faults : Faults) (limitReached : Bool)
    (id : MonitorId) (organizationId : OrganizationId) (new : CreateMonitorInput)
    (actor : MonitorActor) (db : Db) :
    Added (newRow stored id organizationId new actor) db
      ((create stored faults limitReached id organizationId new actor).run db).2 := by
  have hrest : ∀ _ : Unit, Eff.Frames (fun db : Db => db.monitors) (do
      audit faults
        { organizationId, actorId := actor.userId, actorType := actor.actorType
          action := "monitor.created", resourceType := "monitor", resourceId := id }
      Eff.read fun db => toDetail db (newRow stored id organizationId new actor)) :=
    fun _ => (audit_frames _).bind fun _ => Eff.Frames.read _
  have hnone : Added (newRow stored id organizationId new actor) db db := .inl rfl
  unfold create
  refine guard_bind_run_snd hnone (guard_bind_run_snd hnone (guard_bind_run_snd hnone ?_))
  rw [Added, Eff.view_bind (fun db : Db => db.monitors) hrest, Eff.statement_run]
  cases faults .monitorCreate with
  | true => exact hnone
  | false =>
      rw [if_neg Bool.false_ne_true]
      unfold insertMonitor
      split
      · exact hnone
      · next hfresh =>
        refine .inr ⟨fun m hm hid => hfresh (List.any_eq_true.2 ⟨m, hm, ?_⟩), rfl⟩
        exact decide_eq_true hid

/-! ## updates that go through -/

theorem findMonitor_eq_some {row : MonitorRow}
    (h : db.findMonitor organizationId monitorId = some row) :
    row ∈ db.monitors ∧ row.id = monitorId := by
  have hrow := List.find?_some h
  simp only [Bool.and_eq_true, decide_eq_true_eq] at hrow
  exact ⟨List.mem_of_find?_eq_some h, hrow.1.1⟩

theorem findMonitor_updateMonitor (db : Db) :
    (updateMonitor stored monitorId input actor db).findMonitor organizationId monitorId =
      (db.findMonitor organizationId monitorId).map fun row => updatedRow stored row input actor := by
  unfold Db.findMonitor updateMonitor Tables.updateWhere
  dsimp only
  rw [List.find?_map]
  have hpred : ((fun m : MonitorRow => decide (m.id = monitorId) &&
      decide (m.organizationId = organizationId) && m.deletedAt.isNone) ∘ fun r =>
        if decide (r.id = monitorId) = true then updatedRow stored r input actor else r) =
      fun m => decide (m.id = monitorId) && decide (m.organizationId = organizationId) &&
        m.deletedAt.isNone := by
    funext m
    rw [Function.comp_apply]
    split <;> rfl
  rw [hpred]
  cases hfound : db.monitors.find? (fun m => decide (m.id = monitorId) &&
      decide (m.organizationId = organizationId) && m.deletedAt.isNone) with
  | none => rfl
  | some row =>
      have hid : row.id = monitorId := (findMonitor_eq_some hfound).2
      rw [Option.map_some, Option.map_some, if_pos (decide_eq_true hid)]

theorem boundChannelIds_listWrites :
    (applied (listWrites monitorId input) db).boundChannelIds monitorId =
      match input.channelIds with
      | none => db.boundChannelIds monitorId
      | some channelIds =>
          channelIds.foldl (fun ids c => if c ∈ ids then ids else ids ++ [c]) [] := by
  rw [listWrites, applied_append]
  cases input.channelIds with
  | none => exact boundChannelIds_assertionWrites input.assertions
  | some channelIds =>
      cases channelIds with
      | nil => exact boundChannelIds_deleteChannels
      | cons c cs =>
          rw [channelWrites, if_pos (by simp), applied_cons, applied_cons, applied_nil,
            boundChannelIds_createChannels, boundChannelIds_deleteChannels]

/-- **An update that passes the checks** answers with the row updated and the channels replaced. -/
theorem update_run_ok {existing : MonitorRow}
    (hfound : db.findMonitor organizationId monitorId = some existing)
    (hcheck : checkUpdate db organizationId existing input = .ok ()) :
    ∃ d, ((update stored noFaults organizationId monitorId input actor).run db).1 = .ok (some d) ∧
      d.toMonitorRow = updatedRow stored existing input actor ∧
      d.boundChannelIds = (applied (listWrites monitorId input) db).boundChannelIds monitorId := by
  obtain ⟨written, hwritten⟩ : ∃ written, written =
      applied (listWrites monitorId input ++ [rowWrite stored monitorId input actor]) db := ⟨_, rfl⟩
  have hguard : (guard fun db => checkUpdate db organizationId existing input).run db =
      (.ok (), db) := by rw [guard_run, hcheck]
  have hissue : (issue noFaults ServiceError.database
      (listWrites monitorId input ++ [rowWrite stored monitorId input actor])).run db =
      (.ok (), written) := by
    rw [hwritten]
    exact issue_run_of_ok (fun _ _ => rfl) db
  have hrows : (applied (listWrites monitorId input) db).monitors = db.monitors := by
    have hframe : Eff.Frames (fun db : Db => db.monitors)
        (issue noFaults ServiceError.database (listWrites monitorId input)) :=
      issue_frames fun _ hw => listWrites_monitors hw
    have hsame := hframe db
    rwa [issue_run_of_ok (fun _ _ => rfl)] at hsame
  have hload : loadDetail organizationId monitorId written =
      some (toDetail written (updatedRow stored existing input actor)) := by
    have hmonitors : written.findMonitor organizationId monitorId =
        (updateMonitor stored monitorId input actor db).findMonitor organizationId monitorId := by
      rw [hwritten, applied_append]
      unfold Db.findMonitor
      change List.find? _ (Tables.updateWhere _ _ (applied (listWrites monitorId input) db).monitors) = _
      rw [hrows]
      rfl
    rw [loadDetail, hmonitors, findMonitor_updateMonitor, hfound]
    rfl
  refine ⟨toDetail written (updatedRow stored existing input actor), ?_, rfl, ?_⟩
  · rw [update_run hfound, updateFound, Eff.bind_run_of_ok hguard, Eff.bind_run_of_ok hissue]
    exact congrArg Except.ok hload
  · have hid : existing.id = monitorId := (findMonitor_eq_some hfound).2
    change written.boundChannelIds existing.id = _
    rw [hid, hwritten, applied_append]
    rfl

end UptimeFlow.Monitors
