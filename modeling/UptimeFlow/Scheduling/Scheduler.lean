import UptimeFlow.Reconcile
import UptimeFlow.Monitoring.Schema

/-!
# UptimeFlow.Scheduling.Scheduler

The scheduler of checks: a sync turns the monitor table into job schedulers,
one repeatable check per monitor and region.

A sync is a reconciler over the queues of the regions a deployment serves.  It
owns the keys that start with `monitor:` and goes by the interval alone: an
entry that fires as often as it should is left as it is.  After a sync the
owned keys are the wanted ones (`schedulers_sync_iff`), and syncs of several
workers, however their queue operations interleave, end where one sync ends
(`lookup_sync_run`).
-/

namespace UptimeFlow.Scheduling

open Reconcile Runs
open Monitoring (MonitorId OrganizationId ProbeRegion)

/-! ## rows -/

/-- A monitor as the scheduler reads it. -/
structure MonitorRow extends Monitoring.MonitorRow where
  intervalSeconds : Int := 60
  regions : List ProbeRegion := []
deriving DecidableEq, Repr

structure CheckJobData where
  monitorId : MonitorId
  organizationId : OrganizationId
  region : ProbeRegion
deriving DecidableEq, Repr

/-- What a queue keeps of a job scheduler. -/
structure JobScheduler where
  every : Option Int
  name : String
  data : Option CheckJobData := none
deriving DecidableEq, Repr

/-- A job scheduler as a sync wants it. -/
structure SchedulerSpec where
  every : Int
  data : CheckJobData
deriving DecidableEq, Repr

/-- The job schedulers of the regions' queues. -/
abbrev Queues := ProbeRegion → Store String JobScheduler

/-! ## keys -/

def label : ProbeRegion → String
  | .naEast => "NA_EAST"
  | .naWest => "NA_WEST"
  | .euWest => "EU_WEST"
  | .euCentral => "EU_CENTRAL"
  | .apSoutheast => "AP_SOUTHEAST"
  | .apNortheast => "AP_NORTHEAST"
  | .saEast => "SA_EAST"
  | .afSouth => "AF_SOUTH"

/-- `SCHEDULER_PREFIX` -/
def schedulerPrefix : String := "monitor:"

def schedulerId (monitorId : MonitorId) (region : ProbeRegion) : String :=
  schedulerPrefix ++ monitorId ++ ":" ++ label region

/-- `key.startsWith(SCHEDULER_PREFIX)` -/
def isScheduler (key : String) : Bool := schedulerPrefix.toList.isPrefixOf key.toList

def checkJobName : String := "check"

theorem isScheduler_schedulerId (monitorId : MonitorId) (region : ProbeRegion) :
    isScheduler (schedulerId monitorId region) = true := by
  rw [isScheduler, List.isPrefixOf_iff_prefix, schedulerId]
  simp only [String.toList_append, List.append_assoc]
  exact List.prefix_append _ _

/-- A text ends at its last colon one way. -/
theorem append_colon_inj {xs ys as bs : List Char} (has : ':' ∉ as) (hbs : ':' ∉ bs)
    (h : xs ++ ':' :: as = ys ++ ':' :: bs) : xs = ys ∧ as = bs := by
  induction xs generalizing ys with
  | nil =>
      cases ys with
      | nil => simpa using h
      | cons y ys =>
          rw [List.nil_append, List.cons_append, List.cons.injEq] at h
          exact absurd (h.2 ▸ by simp) has
  | cons x xs ih =>
      cases ys with
      | nil =>
          rw [List.nil_append, List.cons_append, List.cons.injEq] at h
          exact absurd (h.2 ▸ by simp) hbs
      | cons y ys =>
          rw [List.cons_append, List.cons_append, List.cons.injEq] at h
          obtain ⟨hxs, hrest⟩ := ih h.2
          exact ⟨by rw [h.1, hxs], hrest⟩

theorem label_inj {r s : ProbeRegion} (h : label r = label s) : r = s := by
  revert h
  cases r <;> cases s <;> decide

/-- A key names one monitor and one region. -/
theorem schedulerId_inj {m n : MonitorId} {r s : ProbeRegion}
    (h : schedulerId m r = schedulerId n s) : m = n ∧ r = s := by
  have hcolon : ∀ r : ProbeRegion, ':' ∉ (label r).toList := by
    intro r
    cases r <;> decide
  have hlist := congrArg String.toList h
  simp only [schedulerId, String.toList_append, List.append_assoc] at hlist
  have hlist := List.append_cancel_left hlist
  obtain ⟨hm, hr⟩ := append_colon_inj (hcolon r) (hcolon s) hlist
  exact ⟨String.toList_inj.1 hm, label_inj (String.toList_inj.1 hr)⟩

/-! ## what is wanted -/

/-- What a deployment's scheduler is made with. -/
structure SchedulerDeps where
  /-- The regions of its queues. -/
  served : List ProbeRegion
  defaultRegion : ProbeRegion := Monitoring.defaultRegion
deriving DecidableEq, Repr

/-- `state: "ACTIVE", deletedAt: null` -/
def MonitorRow.isScheduled (m : MonitorRow) : Bool := m.state = .active && m.deletedAt.isNone

/-- Heartbeats are evaluated centrally; everything else fans out to its configured regions, or the
default when unset. -/
def regionsOf (defaultRegion : ProbeRegion) (m : MonitorRow) : List ProbeRegion :=
  if m.type = .heartbeat then [defaultRegion]
  else if 0 < m.regions.length then m.regions
  else [defaultRegion]

def everyMs (m : MonitorRow) : Int := max 1 m.intervalSeconds * 1000

def specOf (m : MonitorRow) (region : ProbeRegion) : SchedulerSpec where
  every := everyMs m
  data := { monitorId := m.id, organizationId := m.organizationId, region }

/-- Note the scheduler of a monitor among the desired ones of a region, if the monitor maps there. -/
def setDesired (defaultRegion region : ProbeRegion) (want : Store String SchedulerSpec)
    (m : MonitorRow) : Store String SchedulerSpec :=
  if region ∈ regionsOf defaultRegion m then
    want.insert (schedulerId m.id region) (specOf m region)
  else want

/-- The desired schedulers of one region. -/
def desired (defaultRegion : ProbeRegion) (monitors : List MonitorRow) (region : ProbeRegion) :
    Store String SchedulerSpec :=
  monitors.foldl (setDesired defaultRegion region) ∅

section
variable {defaultRegion region : ProbeRegion} {monitors : List MonitorRow}

theorem isScheduler_of_mem_foldl {want : Store String SchedulerSpec}
    (hwant : ∀ key ∈ want, isScheduler key = true) :
    ∀ key ∈ monitors.foldl (setDesired defaultRegion region) want, isScheduler key = true := by
  induction monitors generalizing want with
  | nil => exact hwant
  | cons m monitors ih =>
      refine ih fun key hkey => ?_
      by_cases hregion : region ∈ regionsOf defaultRegion m
      · rw [setDesired, if_pos hregion] at hkey
        obtain rfl | hkey := (AList.mem_insert want).1 hkey
        · exact isScheduler_schedulerId _ _
        · exact hwant key hkey
      · rw [setDesired, if_neg hregion] at hkey
        exact hwant key hkey

theorem isScheduler_of_mem_desired :
    ∀ key ∈ desired defaultRegion monitors region, isScheduler key = true :=
  isScheduler_of_mem_foldl fun key hkey => absurd hkey (AList.notMem_empty key)

/-- The monitor wants the scheduler under the key, in the region. -/
def Wants (defaultRegion region : ProbeRegion) (key : String) (spec : SchedulerSpec)
    (m : MonitorRow) : Prop :=
  region ∈ regionsOf defaultRegion m ∧ key = schedulerId m.id region ∧ spec = specOf m region

theorem lookup_foldl_iff (hids : (monitors.map (·.id)).Nodup) {want : Store String SchedulerSpec}
    (hwant : ∀ m ∈ monitors, want.lookup (schedulerId m.id region) = none) {key : String}
    {spec : SchedulerSpec} :
    (monitors.foldl (setDesired defaultRegion region) want).lookup key = some spec ↔
      want.lookup key = some spec ∨ ∃ m ∈ monitors, Wants defaultRegion region key spec m := by
  induction monitors generalizing want with
  | nil => simp
  | cons m monitors ih =>
      obtain ⟨hm, hmonitors⟩ := List.forall_mem_cons.1 hwant
      rw [List.map_cons, List.nodup_cons] at hids
      have hother : ∀ n ∈ monitors, schedulerId n.id region ≠ schedulerId m.id region := by
        intro n hn heq
        have hid := (schedulerId_inj heq).1
        exact hids.1 (hid ▸ List.mem_map_of_mem  hn)
      rw [List.foldl_cons, List.exists_mem_cons_iff]
      by_cases hregion : region ∈ regionsOf defaultRegion m
      · have hset : setDesired defaultRegion region want m =
            want.insert (schedulerId m.id region) (specOf m region) := if_pos hregion
        rw [hset, ih hids.2 fun n hn => by
          rw [AList.lookup_insert_ne (hother n hn)]
          exact hmonitors n hn]
        by_cases hkey : key = schedulerId m.id region
        · subst hkey
          rw [AList.lookup_insert, hm]
          simp [Wants, hregion, eq_comm]
        · rw [AList.lookup_insert_ne hkey]
          simp [Wants, hkey]
      · have hset : setDesired defaultRegion region want m = want := if_neg hregion
        rw [hset, ih hids.2 hmonitors]
        simp [Wants, hregion]

/-- **The desired schedulers of a region are those of the monitors that map to it.** -/
theorem lookup_desired_iff (hids : (monitors.map (·.id)).Nodup) {key : String}
    {spec : SchedulerSpec} :
    (desired defaultRegion monitors region).lookup key = some spec ↔
      ∃ m ∈ monitors, Wants defaultRegion region key spec m := by
  rw [desired, lookup_foldl_iff hids fun _ _ => AList.lookup_empty _]
  simp

end

/-- What a sync wants of the queue of a region. -/
def schedulerGoal (defaultRegion : ProbeRegion) (monitors : List MonitorRow)
    (region : ProbeRegion) : Goal String SchedulerSpec JobScheduler where
  owned := isScheduler
  want := desired defaultRegion monitors region
  meets spec s := s.every = some spec.every
  make spec := { every := some spec.every, name := checkJobName, data := some spec.data }
  owned_want := isScheduler_of_mem_desired
  meets_make := by simp

/-! ## a sync -/

structure SyncSummary where
  monitors : Nat
  upserts : Nat := 0
  removals : Nat := 0
deriving DecidableEq, Repr

/-- Reconcile the queue of one region. -/
def syncRegion (goals : ProbeRegion → Goal String SchedulerSpec JobScheduler)
    (found : SyncSummary × Queues) (region : ProbeRegion) : SyncSummary × Queues :=
  let existing := found.2 region
  ({ found.1 with
      upserts := found.1.upserts + ((goals region).upserts existing).length
      removals := found.1.removals + ((goals region).removals existing).length },
    Function.update found.2 region ((goals region).reconcile existing))

/-- Reconcile the live schedulers of the served regions against the desired set. -/
def sync (deps : SchedulerDeps) (table : List MonitorRow) (queues : Queues) :
    SyncSummary × Queues :=
  let monitors := table.filter (·.isScheduled)
  deps.served.foldl (syncRegion (schedulerGoal deps.defaultRegion monitors))
    ({ monitors := monitors.length }, queues)

section
variable {goals : ProbeRegion → Goal String SchedulerSpec JobScheduler} {served : List ProbeRegion}

theorem lookup_syncRegions (found : SyncSummary × Queues) (region : ProbeRegion) (key : String) :
    ((served.foldl (syncRegion goals) found).2 region).lookup key =
      if region ∈ served then destination goals found.2 region key
      else (found.2 region).lookup key := by
  induction served generalizing found with
  | nil => simp
  | cons r served ih =>
      rw [List.foldl_cons, ih]
      by_cases hr : region = r
      · subst hr
        simp [syncRegion, destination, Goal.lookup_reconcile, Goal.settle_settle]
      · simp [syncRegion, destination, hr]

/-- A settled queue is left alone, and nothing is counted. -/
theorem syncRegion_of_settled {found : SyncSummary × Queues} {region : ProbeRegion}
    (h : (goals region).plan (found.2 region) = []) : syncRegion goals found region = found := by
  have hparts : (goals region).upserts (found.2 region) = [] ∧
      (goals region).removals (found.2 region) = [] := by
    rwa [Goal.plan, List.append_eq_nil_iff] at h
  have hsame : (goals region).reconcile (found.2 region) = found.2 region := by
    rw [Goal.reconcile, h, List.foldl_nil]
  simp only [syncRegion, hparts, hsame, Function.update_eq_self, List.length_nil, Nat.add_zero]

theorem syncRegions_of_settled {found : SyncSummary × Queues}
    (h : ∀ region ∈ served, (goals region).plan (found.2 region) = []) :
    served.foldl (syncRegion goals) found = found := by
  induction served with
  | nil => rfl
  | cons region served ih =>
      obtain ⟨hregion, hserved⟩ := List.forall_mem_cons.1 h
      rw [List.foldl_cons, syncRegion_of_settled hregion]
      exact ih hserved

end

section
variable (deps : SchedulerDeps) (table : List MonitorRow) (queues : Queues)

/-- What the deployment wants of the queues. -/
def SchedulerDeps.goals : ProbeRegion → Goal String SchedulerSpec JobScheduler :=
  schedulerGoal deps.defaultRegion (table.filter (·.isScheduled))

theorem lookup_sync (region : ProbeRegion) (key : String) :
    ((sync deps table queues).2 region).lookup key =
      if region ∈ deps.served then destination (deps.goals table) queues region key
      else (queues region).lookup key :=
  lookup_syncRegions _ region key

/-- A sync right after a sync makes no change. -/
theorem sync_sync :
    sync deps table (sync deps table queues).2 =
      ({ monitors := (table.filter (·.isScheduled)).length }, (sync deps table queues).2) := by
  refine syncRegions_of_settled fun region hregion => ?_
  change (deps.goals table region).plan _ = []
  rw [Goal.plan_eq_nil_iff]
  intro key
  rw [lookup_sync, if_pos hregion, destination, Goal.settle_settle]

variable {table}

/-- The owned schedulers of a served queue after a sync. -/
theorem schedulers_sync_iff (hids : (table.map (·.id)).Nodup) {region : ProbeRegion}
    (hregion : region ∈ deps.served) {key : String} (hkey : isScheduler key = true)
    (every : Option Int) :
    (((sync deps table queues).2 region).lookup key).map (·.every) = some every ↔
      ∃ m ∈ table, m.isScheduled = true ∧ region ∈ regionsOf deps.defaultRegion m ∧
        key = schedulerId m.id region ∧ every = some (everyMs m) := by
  have hids : ((table.filter (·.isScheduled)).map (·.id)).Nodup :=
    hids.sublist (List.filter_sublist.map _)
  rw [lookup_sync, if_pos hregion, destination]
  have hwants : ∀ spec, (deps.goals table region).want.lookup key = some spec ↔
      ∃ m ∈ table.filter (·.isScheduled), Wants deps.defaultRegion region key spec m :=
    fun spec => lookup_desired_iff hids
  cases hwant : (deps.goals table region).want.lookup key with
  | none =>
      rw [Goal.settle_of_unwanted _ hkey hwant]
      refine iff_of_false (by simp) ?_
      rintro ⟨m, hm, hscheduled, hmaps, hid, -⟩
      have hsome := (hwants (specOf m region)).2
        ⟨m, List.mem_filter.2 ⟨hm, hscheduled⟩, hmaps, hid, rfl⟩
      simp [hwant] at hsome
  | some spec =>
      have hevery : ((deps.goals table region).settle key ((queues region).lookup key)).map
          (·.every) = some (some spec.every) := by
        rw [Goal.settle_of_wanted _ hwant]
        cases hold : (queues region).lookup key with
        | none => rfl
        | some s =>
            by_cases hmeets : s.every = some spec.every
            · simp [SchedulerDeps.goals, schedulerGoal, hmeets]
            · simp [SchedulerDeps.goals, schedulerGoal, hmeets]
      rw [hevery, Option.some.injEq]
      constructor
      · rintro rfl
        obtain ⟨m, hm, hmaps, hid, rfl⟩ := (hwants spec).1 hwant
        obtain ⟨hm, hscheduled⟩ := List.mem_filter.1 hm
        exact ⟨m, hm, hscheduled, hmaps, hid, rfl⟩
      · rintro ⟨m, hm, hscheduled, hmaps, hid, rfl⟩
        have hsome := (hwants (specOf m region)).2
          ⟨m, List.mem_filter.2 ⟨hm, hscheduled⟩, hmaps, hid, rfl⟩
        rw [hwant, Option.some.injEq] at hsome
        rw [hsome]
        rfl

/-! ## syncs of several workers -/

variable (table) in
/-- Workers that are about to sync, each going over the served regions in an order of its own. -/
def startSyncs (orders : List (List ProbeRegion)) : World ProbeRegion String JobScheduler :=
  ⟨queues, orders.map fun order => { todo := order }⟩

/-- **However the queue operations of several syncs interleave, they end where one sync ends.** -/
theorem lookup_sync_run {orders : List (List ProbeRegion)}
    (horders : ∀ order ∈ orders, ∀ region, region ∈ order ↔ region ∈ deps.served)
    (steps : List Nat) {r : Reconciler ProbeRegion String JobScheduler}
    (hr : r ∈ (run (World.step (deps.goals table)) (startSyncs queues orders) steps).reconcilers)
    (hfinished : r.finished) (region : ProbeRegion) (key : String) :
    ((run (World.step (deps.goals table)) (startSyncs queues orders) steps).stores region).lookup
      key = ((sync deps table queues).2 region).lookup key := by
  rw [lookup_sync]
  exact settled_run horders queues steps hr hfinished region key

/-- **A sync is exact, idempotent and safe to run side by side.**  The owned schedulers of the
served queues become those of the active monitors that map there, all others stay, a second sync
changes nothing, and syncs of several workers end where one does. -/
theorem sync_exact (hids : (table.map (·.id)).Nodup) :
    let after := (sync deps table queues).2
    (∀ region ∈ deps.served, ∀ key, isScheduler key = true → ∀ every,
      ((after region).lookup key).map (·.every) = some every ↔
        ∃ m ∈ table, m.isScheduled = true ∧ region ∈ regionsOf deps.defaultRegion m ∧
          key = schedulerId m.id region ∧ every = some (everyMs m)) ∧
    (∀ region key, (region ∈ deps.served → isScheduler key = false) →
      (after region).lookup key = (queues region).lookup key) ∧
    sync deps table after = ({ monitors := (table.filter (·.isScheduled)).length }, after) ∧
    ∀ orders steps, orders ≠ [] →
      (∀ order ∈ orders, ∀ region, region ∈ order ↔ region ∈ deps.served) →
      let w := run (World.step (deps.goals table)) (startSyncs queues orders) steps
      (∀ r ∈ w.reconcilers, r.finished) →
        ∀ region key, (w.stores region).lookup key = (after region).lookup key := by
  intro after
  refine ⟨?_, ?_, sync_sync deps table queues, ?_⟩
  · intro region hregion key hkey every
    exact schedulers_sync_iff deps queues hids hregion hkey every
  · intro region key howned
    rw [lookup_sync]
    by_cases hregion : region ∈ deps.served
    · rw [if_pos hregion, destination, Goal.settle_of_not_owned _ (howned hregion)]
    · rw [if_neg hregion]
  · intro orders steps hne horders w hfinished region key
    have hlength : w.reconcilers.length = orders.length := by
      simp [w, length_reconcilers_run, startSyncs]
    have hsome : w.reconcilers ≠ [] := by
      intro hnil
      rw [hnil] at hlength
      exact hne (List.length_eq_zero_iff.1 hlength.symm)
    obtain ⟨r, hr⟩ := List.exists_mem_of_ne_nil _ hsome
    exact lookup_sync_run deps queues horders steps hr (hfinished r hr) region key

end

/-- A monitor that has moved to Europe, with its old scheduler still in place and the new one at
another interval, beside a scheduler that is not a monitor's. -/
def moved : MonitorRow :=
  { id := "m1", organizationId := "acme", name := "api", type := .http, intervalSeconds := 30
    regions := [.euWest] }

def drifted : Queues := fun
  | .naEast => [⟨"monitor:m1:NA_EAST", { every := some 30000, name := "check" }⟩,
      ⟨"nightly", { every := none, name := "report" }⟩].toAList
  | .euWest => [⟨"monitor:m1:EU_WEST", { every := some 60000, name := "check" }⟩].toAList
  | _ => ∅

def bothRegions : SchedulerDeps := { served := [.naEast, .euWest] }

/-- Two workers over the drifted queues, in turn. -/
def inTurn : World ProbeRegion String JobScheduler :=
  run (World.step (bothRegions.goals [moved]))
    (startSyncs drifted [[.naEast, .euWest], [.euWest, .naEast]]) [0, 1, 0, 1, 0, 1, 0, 1, 0, 1]

theorem sync_exact_drifted :
    let after := (sync bothRegions [moved] drifted).2
    ((after .euWest).lookup "monitor:m1:EU_WEST").map (·.every) = some (some 30000) ∧
      ((after .naEast).lookup "monitor:m1:NA_EAST").map (·.every) ≠ some (some 30000) ∧
      (after .naEast).lookup "nightly" = (drifted .naEast).lookup "nightly" ∧
      sync bothRegions [moved] after = ({ monitors := 1 }, after) ∧
      ∀ region key, (inTurn.stores region).lookup key = (after region).lookup key := by
  obtain ⟨howned, hothers, hagain, hinterleaved⟩ :=
    sync_exact bothRegions drifted (show ([moved].map (·.id)).Nodup by decide)
  refine ⟨?_, ?_, ?_, hagain, ?_⟩
  · rw [howned .euWest (by decide) _ (by decide +kernel)]
    exact ⟨moved, by simp, rfl, by decide, by decide +kernel, rfl⟩
  · rw [Ne, howned .naEast (by decide) _ (by decide +kernel)]
    rintro ⟨m, hm, -, hmaps, -⟩
    obtain rfl := List.mem_singleton.1 hm
    revert hmaps
    decide
  · exact hothers .naEast "nightly" fun _ => by decide +kernel
  · refine hinterleaved _ _ (by simp) ?_ (by decide +kernel)
    intro order horder region
    simp only [List.mem_cons, List.not_mem_nil, or_false] at horder
    obtain rfl | rfl := horder
    · exact Iff.rfl
    · simp [bothRegions, or_comm]

end UptimeFlow.Scheduling
