import Mathlib.Data.Set.Basic
import UptimeFlow.Monitors.Requests

/-!
# UptimeFlow.Monitors.Atomicity

What a request leaves behind that fails half way.

A supplied list is deleted before it is created again, and the row comes last; so
a failure leaves the monitor as it was, wherever it happens, only where there was
nothing to delete and nothing to create (`allOrNothing_iff`).
-/

namespace UptimeFlow.Monitors

open Monitoring (OrganizationId MonitorId ChannelId)
open Writes

variable {stored : Headers → Headers} {organizationId : OrganizationId} {monitorId : MonitorId}
  {input : UpdateMonitorInput} {actor : MonitorActor} {db : Db}

/-! ## all or nothing -/

/-- What a request is to leave as it was: the row, the assertions and the channels. -/
def config (monitorId : MonitorId) (db : Db) :
    Option MonitorRow × List AssertionDef × Set ChannelId :=
  (db.monitors.find? fun m => m.id = monitorId, db.assertionsOf monitorId,
    { c | c ∈ db.boundChannelIds monitorId })

/-- Whichever writes fail, a request that raises leaves the monitor as it was. -/
def AllOrNothing {α : Type} (request : Faults → Service α) (monitorId : MonitorId) (db : Db) :
    Prop :=
  ∀ faults e db', (request faults).run db = (.error e, db') →
    config monitorId db' = config monitorId db

/-- The lists a request carries are empty, and so are those of the monitor. -/
def NothingReplaced (db : Db) (monitorId : MonitorId) (input : UpdateMonitorInput) : Prop :=
  (∀ assertions ∈ input.assertions, assertions = [] ∧ db.assertionsOf monitorId = []) ∧
    ∀ channelIds ∈ input.channelIds, channelIds = [] ∧ db.boundChannelIds monitorId = []

/-- Deleting first, nothing stays just where there was nothing and nothing comes. -/
theorem prefixes_iff :
    (∀ before, before <+: listWrites monitorId input →
      config monitorId (applied before db) = config monitorId db) ↔
      NothingReplaced db monitorId input := by
  constructor
  · intro h
    have hassertions : ∀ before, before <+: listWrites monitorId input →
        (applied before db).assertionsOf monitorId = db.assertionsOf monitorId :=
      fun before hbefore => congrArg (·.2.1) (h before hbefore)
    have hchannels : ∀ before, before <+: listWrites monitorId input → ∀ c,
        c ∈ (applied before db).boundChannelIds monitorId ↔ c ∈ db.boundChannelIds monitorId :=
      fun before hbefore c => Set.ext_iff.1 (congrArg (·.2.2) (h before hbefore)) c
    constructor
    · intro assertions hsome
      have hsupplied : input.assertions = some assertions := hsome
      have hdeleted := hassertions [⟨.assertionsDelete, deleteAssertions monitorId⟩]
        (by simp [listWrites, assertionWrites, hsupplied])
      have hcreated := hassertions (assertionWrites monitorId input.assertions)
        (List.prefix_append _ _)
      rw [applied_cons, applied_nil, assertionsOf_deleteAssertions] at hdeleted
      rw [hsupplied, assertionsOf_assertionWrites, ← hdeleted] at hcreated
      exact ⟨hcreated, hdeleted.symm⟩
    · intro channelIds hsome
      have hsupplied : input.channelIds = some channelIds := hsome
      have hdeleted := hchannels (assertionWrites monitorId input.assertions ++
        [⟨.channelsDelete, deleteChannels monitorId⟩])
        (by simp [listWrites, channelWrites, hsupplied])
      have hcreated := hchannels (listWrites monitorId input) (List.prefix_refl _)
      simp only [applied_append, applied_cons, applied_nil, boundChannelIds_deleteChannels,
        List.not_mem_nil, false_iff] at hdeleted
      simp only [listWrites, hsupplied, applied_append, mem_boundChannelIds_channelWrites,
        hdeleted, iff_false] at hcreated
      exact ⟨List.eq_nil_iff_forall_not_mem.2 hcreated, List.eq_nil_iff_forall_not_mem.2 hdeleted⟩
  · rintro ⟨hassertions, hchannels⟩ before hbefore
    rw [applied_of_fixed fun w hw => ?_]
    rcases List.mem_append.1 (hbefore.subset hw) with hw | hw
    · cases hsome : input.assertions with
      | none => simp [hsome, assertionWrites] at hw
      | some assertions =>
          obtain ⟨rfl, hnone⟩ := hassertions assertions hsome
          obtain rfl : w = ⟨.assertionsDelete, deleteAssertions monitorId⟩ := by
            simpa [hsome, assertionWrites] using hw
          exact deleteAssertions_of_nil hnone
    · cases hsome : input.channelIds with
      | none => simp [hsome, channelWrites] at hw
      | some channelIds =>
          obtain ⟨rfl, hnone⟩ := hchannels channelIds hsome
          obtain rfl : w = ⟨.channelsDelete, deleteChannels monitorId⟩ := by
            simpa [hsome, channelWrites] using hw
          exact deleteChannels_of_nil hnone

theorem nodup_sites :
    ((listWrites monitorId input ++ [rowWrite stored monitorId input actor]).map
      Write.site).Nodup := by
  rw [listWrites, rowWrite]
  cases input.assertions with
  | none =>
      cases input.channelIds with
      | none => simp [assertionWrites, channelWrites]
      | some cs => cases cs <;> simp [assertionWrites, channelWrites]
  | some as =>
      cases input.channelIds with
      | none => cases as <;> simp [assertionWrites, channelWrites]
      | some cs => cases as <;> cases cs <;> simp [assertionWrites, channelWrites]

/-- **An accepted update is all or nothing** just if it replaces nothing. -/
theorem update_allOrNothing_iff {d : MonitorDetail}
    (h : ((update stored noFaults organizationId monitorId input actor).run db).1 = .ok (some d)) :
    AllOrNothing (fun faults => update stored faults organizationId monitorId input actor)
        monitorId db ↔ NothingReplaced db monitorId input := by
  obtain ⟨existing, hfound, hcheck⟩ := exists_of_accepted h
  unfold AllOrNothing
  simp only [update_run hfound, updateFound_run_error hcheck]
  rw [unchanged_iff (config monitorId) _ nodup_sites, prefixes_iff]

/-- **An accepted replacement of the channels is all or nothing** just if there are none to
delete, or none to create. -/
theorem setChannels_allOrNothing_iff {channelIds : List ChannelId} {bound : List ChannelId}
    (h : ((setChannels noFaults organizationId monitorId channelIds).run db).1 = .ok bound) :
    AllOrNothing (fun faults => setChannels faults organizationId monitorId channelIds)
        monitorId db ↔ channelIds = [] ∨ db.boundChannelIds monitorId = [] := by
  have hissue : ∀ faults e db',
      (setChannels faults organizationId monitorId channelIds).run db = (.error e, db') ↔
        (issue faults .database (channelWrites monitorId (some channelIds))).run db =
          (.error e, db') := by
    intro faults e db'
    rw [setChannels_run h, Eff.bind_run]
    cases (issue faults ServiceError.database (channelWrites monitorId (some channelIds))).run db with
    | mk result written => cases result <;> simp
  unfold AllOrNothing
  simp only [hissue]
  cases channelIds with
  | nil =>
      have hone : channelWrites monitorId (some []) =
          [] ++ [⟨.channelsDelete, deleteChannels monitorId⟩] := rfl
      rw [hone, unchanged_iff (config monitorId) _ (by simp)]
      simp
  | cons c cs =>
      have htwo : channelWrites monitorId (some (c :: cs)) =
          [⟨.channelsDelete, deleteChannels monitorId⟩] ++
            [⟨.channelsCreate, createChannels monitorId (c :: cs)⟩] := rfl
      rw [htwo, unchanged_iff (config monitorId) _ (by simp)]
      constructor
      · intro hprefix
        have hdeleted := hprefix _ (List.prefix_refl _)
        have hsame : ∀ c, c ∈ (deleteChannels monitorId db).boundChannelIds monitorId ↔
            c ∈ db.boundChannelIds monitorId :=
          fun c => Set.ext_iff.1 (congrArg (·.2.2) hdeleted) c
        simp only [boundChannelIds_deleteChannels, List.not_mem_nil, false_iff] at hsame
        exact .inr (List.eq_nil_iff_forall_not_mem.2 hsame)
      · rintro (hnil | hnone) before hbefore
        · contradiction
        · rw [applied_of_fixed fun w hw => ?_]
          obtain rfl := List.mem_singleton.1 (hbefore.subset hw)
          exact deleteChannels_of_nil hnone

/-- **Accepted requests are all or nothing** just if they replace nothing. -/
theorem allOrNothing_iff (stored : Headers → Headers) (organizationId : OrganizationId)
    (monitorId : MonitorId) (db : Db) :
    (∀ input actor d,
      ((update stored noFaults organizationId monitorId input actor).run db).1 = .ok (some d) →
      (AllOrNothing (fun faults => update stored faults organizationId monitorId input actor)
          monitorId db ↔ NothingReplaced db monitorId input)) ∧
    ∀ channelIds bound,
      ((setChannels noFaults organizationId monitorId channelIds).run db).1 = .ok bound →
      (AllOrNothing (fun faults => setChannels faults organizationId monitorId channelIds)
          monitorId db ↔ channelIds = [] ∨ db.boundChannelIds monitorId = []) :=
  ⟨fun _ _ _ => update_allOrNothing_iff, fun _ _ => setChannels_allOrNothing_iff⟩

/-- A monitor with one channel, and another channel of its organization. -/
def oneMonitor : Db where
  monitors :=
    [{ id := "m", organizationId := "acme", groupId := none, name := "API", type := .http
       url := some "https://x.com", host := none, port := none, requestBody := none
       keyword := none, escalationPolicyId := none }]
  monitorChannels := [{ monitorId := "m", channelId := "mail" }]
  alertChannels := [{ id := "mail", organizationId := "acme" },
    { id := "pager", organizationId := "acme" }]

theorem allOrNothing_iff_rename :
    AllOrNothing (fun faults =>
      update id faults "acme" "m" { name := some "Web" } { userId := none, actorType := "user" })
      "m" oneMonitor :=
  ((allOrNothing_iff id "acme" "m" oneMonitor).1 { name := some "Web" }
    { userId := none, actorType := "user" } _ (by rfl)).2
    ⟨fun _ h => (Option.some_ne_none _ (Option.mem_def.1 h).symm).elim,
      fun _ h => (Option.some_ne_none _ (Option.mem_def.1 h).symm).elim⟩

/-- The new binding fails after the old one is deleted: the monitor pages nobody. -/
theorem not_allOrNothing_oneMonitor :
    ((∃ d, ((update id noFaults "acme" "m" { channelIds := some ["pager"] }
          { userId := none, actorType := "user" }).run oneMonitor).1 = .ok (some d)) ∧
      ¬ AllOrNothing (fun faults => update id faults "acme" "m" { channelIds := some ["pager"] }
        { userId := none, actorType := "user" }) "m" oneMonitor) ∧
    ((setChannels noFaults "acme" "m" ["pager"]).run oneMonitor).1 = .ok ["pager"] ∧
      ¬ AllOrNothing (fun faults => setChannels faults "acme" "m" ["pager"]) "m" oneMonitor := by
  have hlost : ∀ db' : Db, db'.boundChannelIds "m" = [] →
      config "m" db' ≠ config "m" oneMonitor := by
    intro db' hnone hsame
    have hmem : "mail" ∈ db'.boundChannelIds "m" ↔ "mail" ∈ oneMonitor.boundChannelIds "m" :=
      Set.ext_iff.1 (congrArg (·.2.2) hsame) "mail"
    rw [hnone] at hmem
    exact absurd (hmem.2 (by decide)) List.not_mem_nil
  refine ⟨⟨⟨_, rfl⟩, fun h => ?_⟩, rfl, fun h => ?_⟩
  · exact hlost _ (by decide) (h (fun site => site = .channelsCreate) .database _ rfl)
  · exact hlost _ (by decide) (h (fun site => site = .channelsCreate) .database _ rfl)

end UptimeFlow.Monitors
