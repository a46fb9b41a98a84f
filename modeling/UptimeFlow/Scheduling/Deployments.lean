import Mathlib.Algebra.BigOperators.Group.List.Basic
import UptimeFlow.Js
import UptimeFlow.Scheduling.Scheduler

/-!
# UptimeFlow.Scheduling.Deployments

Workers that divide the probe regions among them.

Each deployment serves the regions its environment names and takes the first of
them for the default region, so a monitor that maps to the default region maps
to as many regions as there are deployments.  Every other monitor has one
scheduler per configured region, however the regions are divided
(`placedOnce_iff`).
-/

namespace UptimeFlow.Scheduling

open Reconcile
open Monitoring (ProbeRegion)

/-! ## the wiring -/

/-- `PROBE_REGIONS` -/
def probeRegions : List ProbeRegion :=
  [.naEast, .naWest, .euWest, .euCentral, .apSoutheast, .apNortheast, .saEast, .afSouth]

theorem mem_probeRegions (region : ProbeRegion) : region ∈ probeRegions := by
  cases region <;> decide

/-- The regions named by the environment of a worker, NA_EAST if there are none. -/
def servedRegions (env : List Char) : List ProbeRegion :=
  let regions := (Js.split [','] env).filterMap fun r =>
    probeRegions.find? fun region => (label region).toList = Js.trim r
  if regions.length = 0 then [.naEast] else regions

/-- The scheduler of a worker: its first region is the default. -/
def workerScheduler (env : List Char) : SchedulerDeps where
  served := servedRegions env
  defaultRegion := (servedRegions env).headD Monitoring.defaultRegion

example : servedRegions "EU_WEST, SA_EAST,nowhere".toList = [.euWest, .saEast] := by decide

theorem servedRegions_ne_nil (env : List Char) : servedRegions env ≠ [] := by
  intro hnil
  simp only [servedRegions] at hnil
  split at hnil
  · cases hnil
  · next hnone => exact hnone (by rw [hnil, List.length_nil])

theorem defaultRegion_mem (env : List Char) :
    (workerScheduler env).defaultRegion ∈ (workerScheduler env).served := by
  have hne := servedRegions_ne_nil env
  rw [workerScheduler]
  cases hregions : servedRegions env with
  | nil => exact absurd hregions hne
  | cons first rest => simp

/-- The queues after the deployments have synced, in the order given. -/
def syncAll (table : List MonitorRow) (queues : Queues) (syncs : List (List Char)) : Queues :=
  syncs.foldl (fun queues env => (sync (workerScheduler env) table queues).2) queues

/-! ## live schedulers -/

/-- The key is that of a scheduler of the monitor. -/
def isSchedulerOf (m : MonitorRow) (key : String) : Bool :=
  probeRegions.any fun region => key = schedulerId m.id region

/-- The live schedulers of a monitor in the queue of a region. -/
def liveIn (queues : Queues) (m : MonitorRow) (region : ProbeRegion) : Nat :=
  ((queues region).keys.filter (isSchedulerOf m)).length

/-- The live schedulers of a monitor over all queues. -/
def live (queues : Queues) (m : MonitorRow) : Nat := (probeRegions.map (liveIn queues m)).sum

/-- The monitor maps to the default region. -/
def MonitorRow.isCentral (m : MonitorRow) : Bool := m.type = .heartbeat || m.regions.isEmpty

/-- Every active monitor has one scheduler: heartbeats and monitors without regions one over all
queues, every other monitor one in each of its regions. -/
def PlacedOnce (table : List MonitorRow) (queues : Queues) : Prop :=
  ∀ m ∈ table, m.isScheduled = true →
    if m.isCentral then live queues m = 1
    else ∀ region, liveIn queues m region = if region ∈ m.regions then 1 else 0

theorem regionsOf_central {m : MonitorRow} (h : m.isCentral = true) (defaultRegion : ProbeRegion) :
    regionsOf defaultRegion m = [defaultRegion] := by
  rw [MonitorRow.isCentral, Bool.or_eq_true, decide_eq_true_eq, List.isEmpty_iff] at h
  obtain htype | hnone := h
  · simp [regionsOf, htype]
  · simp [regionsOf, hnone]

theorem regionsOf_of_not_central {m : MonitorRow} (h : m.isCentral = false)
    (defaultRegion : ProbeRegion) : regionsOf defaultRegion m = m.regions := by
  rw [MonitorRow.isCentral, Bool.or_eq_false_iff, decide_eq_false_iff_not] at h
  rw [regionsOf, if_neg h.1, if_pos]
  exact List.length_pos_of_ne_nil (by simpa using h.2)

section
variable {table : List MonitorRow} {queues : Queues} {envs syncs : List (List Char)}

/-- A region's queue is as the one deployment that serves it leaves it. -/
theorem lookup_syncAll {env : List Char} {region : ProbeRegion}
    (hserves : region ∈ servedRegions env)
    (honly : ∀ env' ∈ syncs, region ∈ servedRegions env' → env' = env) (key : String) :
    ((syncAll table queues syncs) region).lookup key =
      if env ∈ syncs then ((sync (workerScheduler env) table queues).2 region).lookup key
      else (queues region).lookup key := by
  induction syncs generalizing queues with
  | nil => simp [syncAll]
  | cons env' syncs ih =>
      obtain ⟨hhere, hrest⟩ := List.forall_mem_cons.1 honly
      rw [syncAll, List.foldl_cons, ← syncAll, ih hrest]
      by_cases henv : env' = env
      · subst henv
        simp [sync_sync]
      · have hother : region ∉ (workerScheduler env').served := fun hregion => henv (hhere hregion)
        have hne : env ≠ env' := fun h => henv h.symm
        simp only [List.mem_cons, hne, false_or]
        by_cases hin : env ∈ syncs
        · rw [if_pos hin, if_pos hin, lookup_sync, lookup_sync]
          simp [destination, lookup_sync, hother]
        · rw [if_neg hin, if_neg hin, lookup_sync, if_neg hother]

/-- A monitor has one scheduler in the queues it maps to, and none elsewhere. -/
theorem liveIn_sync (hids : (table.map (·.id)).Nodup) {m : MonitorRow} (hm : m ∈ table)
    (hscheduled : m.isScheduled = true) {env : List Char} {region : ProbeRegion}
    (hserves : region ∈ servedRegions env) {after : Queues}
    (hafter : ∀ key, (after region).lookup key =
      ((sync (workerScheduler env) table queues).2 region).lookup key) :
    liveIn after m region =
      if region ∈ regionsOf (workerScheduler env).defaultRegion m then 1 else 0 := by
  have hkeys : ∀ key, isScheduler key = true → (key ∈ (after region).keys ↔
      ∃ n ∈ table, n.isScheduled = true ∧
        region ∈ regionsOf (workerScheduler env).defaultRegion n ∧
        key = schedulerId n.id region) := by
    intro key hkey
    rw [← AList.mem_keys, ← AList.lookup_isSome, hafter, ← Option.isSome_map (f := (·.every)),
      Option.isSome_iff_exists]
    simp only [schedulers_sync_iff (workerScheduler env) queues hids hserves hkey]
    constructor
    · rintro ⟨every, n, hn, hactive, hmaps, hkey, -⟩
      exact ⟨n, hn, hactive, hmaps, hkey⟩
    · rintro ⟨n, hn, hactive, hmaps, hkey⟩
      exact ⟨_, n, hn, hactive, hmaps, hkey, rfl⟩
  have hcount : liveIn after m region = (after region).keys.count (schedulerId m.id region) := by
    rw [liveIn, List.count_eq_length_filter]
    congr 1
    refine List.filter_congr fun key hkey => ?_
    rw [Bool.eq_iff_iff, isSchedulerOf, List.any_eq_true]
    simp only [decide_eq_true_eq, beq_iff_eq]
    constructor
    · rintro ⟨r, -, rfl⟩
      obtain ⟨n, -, -, -, hid⟩ := (hkeys _ (isScheduler_schedulerId m.id r)).1 hkey
      rw [(schedulerId_inj hid).2]
    · rintro rfl
      exact ⟨region, mem_probeRegions region, rfl⟩
  rw [hcount, List.Nodup.count (AList.keys_nodup _)]
  refine if_congr ?_ rfl rfl
  rw [hkeys _ (isScheduler_schedulerId m.id region)]
  constructor
  · rintro ⟨n, hn, -, hmaps, hid⟩
    have hsame : m = n := Tables.eq_of_id_eq hids hm hn (schedulerId_inj hid).1
    exact hsame ▸ hmaps
  · exact fun hmaps => ⟨m, hm, hscheduled, hmaps, rfl⟩

/-- In a partition a region is served by one deployment. -/
theorem server_unique (hpartition : (envs.flatMap servedRegions).Perm probeRegions)
    {env env' : List Char} (henv : env ∈ envs) (henv' : env' ∈ envs) {region : ProbeRegion}
    (hserves : region ∈ servedRegions env) (hserves' : region ∈ servedRegions env') :
    env' = env := by
  have hnodup : (envs.flatMap servedRegions).Nodup := hpartition.nodup_iff.2 (by decide)
  have hsymm : Std.Symm (Function.onFun List.Disjoint servedRegions) := ⟨fun _ _ h => List.disjoint_symm h⟩
  by_contra hne
  exact List.Pairwise.forall (List.nodup_flatMap.1 hnodup).2 henv' henv hne hserves' hserves

/-- After every deployment has synced, a monitor has one scheduler in each queue it maps to under
the deployment that serves the queue. -/
theorem liveIn_syncAll (hids : (table.map (·.id)).Nodup)
    (hpartition : (envs.flatMap servedRegions).Perm probeRegions)
    (hsyncs : ∀ env, env ∈ syncs ↔ env ∈ envs) {m : MonitorRow} (hm : m ∈ table)
    (hscheduled : m.isScheduled = true) {env : List Char} (henv : env ∈ envs)
    {region : ProbeRegion} (hserves : region ∈ servedRegions env) :
    liveIn (syncAll table queues syncs) m region =
      if region ∈ regionsOf (workerScheduler env).defaultRegion m then 1 else 0 := by
  have hafter : ∀ key, (syncAll table queues syncs region).lookup key =
      ((sync (workerScheduler env) table queues).2 region).lookup key := by
    intro key
    rw [lookup_syncAll hserves fun env' henv' hserves' =>
      server_unique hpartition henv ((hsyncs env').1 henv') hserves hserves']
    exact if_pos ((hsyncs env).2 henv)
  exact liveIn_sync hids hm hscheduled hserves hafter

/-- A monitor without regions of its own has one scheduler per deployment. -/
theorem live_syncAll_central (hids : (table.map (·.id)).Nodup)
    (hpartition : (envs.flatMap servedRegions).Perm probeRegions)
    (hsyncs : ∀ env, env ∈ syncs ↔ env ∈ envs) {m : MonitorRow} (hm : m ∈ table)
    (hscheduled : m.isScheduled = true) (hcentral : m.isCentral = true) :
    live (syncAll table queues syncs) m = envs.length := by
  have hserved : ∀ env ∈ envs,
      ((servedRegions env).map (liveIn (syncAll table queues syncs) m)).sum = 1 := by
    intro env henv
    have hnodup : (servedRegions env).Nodup :=
      (List.nodup_flatMap.1 (hpartition.nodup_iff.2 (by decide))).1 env henv
    have hmap : (servedRegions env).map (liveIn (syncAll table queues syncs) m) =
        (servedRegions env).map fun region =>
          if region = (workerScheduler env).defaultRegion then 1 else 0 := by
      refine List.map_congr_left fun region hregion => ?_
      rw [liveIn_syncAll hids hpartition hsyncs hm hscheduled henv hregion,
        regionsOf_central hcentral]
      simp
    have hcount : ∀ l : List ProbeRegion,
        (l.map fun region => if region = (workerScheduler env).defaultRegion then 1 else 0).sum =
          l.count (workerScheduler env).defaultRegion := by
      intro l
      induction l with
      | nil => rfl
      | cons r l ih =>
          rw [List.map_cons, List.sum_cons, ih, List.count_cons]
          by_cases hr : r = (workerScheduler env).defaultRegion
          · simp [hr, Nat.add_comm]
          · simp [hr]
    rw [hmap, hcount, hnodup.count]
    exact if_pos (defaultRegion_mem env)
  have hperm := (hpartition.map (liveIn (syncAll table queues syncs) m)).sum_eq
  have hones := List.map_congr_left (g := fun _ => 1) hserved
  rw [live, ← hperm, List.map_flatMap, List.flatMap_def, List.sum_flatten, List.map_map]
  exact (congrArg List.sum hones).trans (by simp)

/-- **However the regions are divided among the deployments, after every deployment has synced each
active monitor has one scheduler if and only if there is a single deployment or no active monitor
maps to the default region.** -/
theorem placedOnce_iff (hids : (table.map (·.id)).Nodup)
    (hpartition : (envs.flatMap servedRegions).Perm probeRegions)
    (hsyncs : ∀ env, env ∈ syncs ↔ env ∈ envs) (queues : Queues) :
    PlacedOnce table (syncAll table queues syncs) ↔
      envs.length = 1 ∨ ∀ m ∈ table, m.isScheduled = true → m.isCentral = false := by
  constructor
  · intro hplaced
    by_cases hone : envs.length = 1
    · exact .inl hone
    · refine .inr fun m hm hscheduled => ?_
      by_contra hcentral
      rw [Bool.not_eq_false] at hcentral
      have hm' := hplaced m hm hscheduled
      rw [if_pos hcentral, live_syncAll_central hids hpartition hsyncs hm hscheduled hcentral] at hm'
      exact hone hm'
  · intro hlaw m hm hscheduled
    by_cases hcentral : m.isCentral = true
    · have hone : envs.length = 1 :=
        hlaw.resolve_right fun h => by simp [h m hm hscheduled] at hcentral
      rw [if_pos hcentral, live_syncAll_central hids hpartition hsyncs hm hscheduled hcentral, hone]
    · rw [if_neg hcentral]
      intro region
      have hregion := hpartition.mem_iff.2 (mem_probeRegions region)
      obtain ⟨env, henv, hserves⟩ := List.mem_flatMap.1 hregion
      rw [liveIn_syncAll hids hpartition hsyncs hm hscheduled henv hserves,
        regionsOf_of_not_central (by simpa using hcentral)]

end

/-- A heartbeat, and a monitor with two regions. -/
def heartbeat : MonitorRow :=
  { id := "hb", organizationId := "acme", name := "backup", type := .heartbeat }

def twoRegions : MonitorRow :=
  { id := "m2", organizationId := "acme", name := "api", type := .http
    regions := [.naEast, .euWest] }

def everywhere : List Char :=
  "NA_EAST,NA_WEST,EU_WEST,EU_CENTRAL,AP_SOUTHEAST,AP_NORTHEAST,SA_EAST,AF_SOUTH".toList

theorem placedOnce_everywhere :
    PlacedOnce [heartbeat, twoRegions]
      (syncAll [heartbeat, twoRegions] (fun _ => ∅) [everywhere]) := by
  have hpartition : ([everywhere].flatMap servedRegions).Perm probeRegions := by decide +kernel
  exact (placedOnce_iff (by decide) hpartition (fun _ => Iff.rfl) _).2 (.inl rfl)

def america : List Char := "NA_EAST,NA_WEST,SA_EAST".toList

def elsewhere : List Char := "EU_WEST,EU_CENTRAL,AP_SOUTHEAST,AP_NORTHEAST,AF_SOUTH".toList

/-- Two deployments give a heartbeat two schedulers. -/
theorem not_placedOnce_divided :
    ([america, elsewhere].flatMap servedRegions).Perm probeRegions ∧
      ¬ PlacedOnce [heartbeat] (syncAll [heartbeat] (fun _ => ∅) [america, elsewhere]) := by
  refine ⟨by decide +kernel, fun hplaced => ?_⟩
  have hone := hplaced heartbeat (by simp) (by decide)
  rw [if_pos (by decide)] at hone
  revert hone
  decide +kernel

end UptimeFlow.Scheduling
