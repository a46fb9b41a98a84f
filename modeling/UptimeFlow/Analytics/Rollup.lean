import Mathlib.Data.List.Sort
import Mathlib.Data.PNat.Basic
import Mathlib.Data.Rat.Floor
import Mathlib.Data.String.Basic
import UptimeFlow.Analytics.Days
import UptimeFlow.Upserts

/-!
# UptimeFlow.Analytics.Rollup

The daily roll-up: one row per monitor, region and day, recomputed from the
day's checks.

`rollupWindow` is one statement, `INSERT … SELECT … ON CONFLICT DO UPDATE`.
It writes the keys of the checks in its window, and what it writes under a key
depends on the checks with that key alone; so a run of windows is one write of
the keys of the days they cover (`run_perm`).  Averages and shares are exact
rationals before they are rounded; how percentiles are interpolated is a
parameter.
-/

namespace UptimeFlow.Analytics

open IsoDate
open Monitoring (Instant CheckStatus ProbeRegion OrganizationId)

variable {μ : Type} [DecidableEq μ]

/-! ## rows -/

structure MonitorRow (μ : Type) where
  id : μ
  organizationId : OrganizationId
  intervalSeconds : Nat
deriving DecidableEq, Repr

structure CheckRow (μ : Type) where
  organizationId : OrganizationId
  monitorId : μ
  region : ProbeRegion
  status : CheckStatus
  responseMs : Option Int
  checkedAt : Instant
deriving DecidableEq, Repr

/-- The columns the roll-up computes. -/
structure Aggregate where
  totalChecks : Nat
  upChecks : Nat
  downChecks : Nat
  uptimePct : ℚ
  avgResponseMs : Option Int
  p95ResponseMs : Option Int
  p99ResponseMs : Option Int
  downtimeSec : Nat
deriving DecidableEq

/-- A row of `monitor_daily_stats`; `region` is null in a row of all regions. -/
structure StatRow (μ : Type) extends Aggregate where
  organizationId : OrganizationId
  monitorId : μ
  region : Option ProbeRegion
  day : Int
deriving DecidableEq

/-- The monitors and their checks: a check belongs to the organization of its monitor. -/
structure Source (μ : Type) where
  monitors : List (MonitorRow μ)
  checks : List (CheckRow μ)
  monitors_nodup : (monitors.map MonitorRow.id).Nodup
  owned : ∀ c ∈ checks, ∃ m ∈ monitors, m.id = c.monitorId ∧ m.organizationId = c.organizationId

/-! ## aggregates -/

/-- `ROUND(q)`: halves go away from zero. -/
def round (q : ℚ) : Int := if 0 ≤ q then ⌊q + 1 / 2⌋ else -⌊-q + 1 / 2⌋

/-- `ROUND(q, digits)`. -/
def roundTo (digits : Nat) (q : ℚ) : ℚ := round (q * 10 ^ digits) / 10 ^ digits

/-- Statuses counted as a successful observation. -/
def isUp : CheckStatus → Bool
  | .up | .degraded => true
  | .down | .timeout | .error => false

/-- Statuses counted as a failed observation. -/
def isDown : CheckStatus → Bool
  | .down | .timeout | .error => true
  | .up | .degraded => false

/-- The response times of the successful checks, where there are any. -/
def latencies (checks : List (CheckRow μ)) : List Int :=
  (checks.filter fun c => isUp c.status).filterMap (·.responseMs)

/-- `AVG`, which is null of no values. -/
def avg (xs : List Int) : Option ℚ := if xs = [] then none else some (xs.sum / xs.length)

/-- Seconds in a day. -/
def daySec : Nat := 86400

section
variable (percentileCont : ℚ → List Int → Option Int)

/-- The aggregates of one group of checks. -/
def aggregate (intervalSeconds : Nat) (checks : List (CheckRow μ)) : Aggregate :=
  let up := (checks.filter fun c => isUp c.status).length
  let down := (checks.filter fun c => isDown c.status).length
  let ordered := (latencies checks).insertionSort (· ≤ ·)
  { totalChecks := checks.length
    upChecks := up
    downChecks := down
    uptimePct := roundTo 4 (100 * up / checks.length)
    -- Latency covers successful checks only.
    avgResponseMs := (avg (latencies checks)).map round
    p95ResponseMs := percentileCont (95 / 100) ordered
    p99ResponseMs := percentileCont (99 / 100) ordered
    downtimeSec := min (down * intervalSeconds) daySec }

/-! ## the statement -/

/-- The columns a check is grouped by, and its monitor's interval. -/
abbrev Group (μ : Type) := OrganizationId × μ × ProbeRegion × Int × Nat

def groupOf (joined : CheckRow μ × MonitorRow μ) : Group μ :=
  (joined.1.organizationId, joined.1.monitorId, joined.1.region, dayOf joined.1.checkedAt,
    joined.2.intervalSeconds)

/-- `JOIN monitors m ON m.id = cr."monitorId"`. -/
def join (src : Source μ) (checks : List (CheckRow μ)) : List (CheckRow μ × MonitorRow μ) :=
  checks.flatMap fun c => (src.monitors.filter fun m => m.id = c.monitorId).map fun m => (c, m)

/-- The rows of the `SELECT`, one a group. -/
def groupRow (joined : List (CheckRow μ × MonitorRow μ)) (g : Group μ) : StatRow μ :=
  { aggregate percentileCont g.2.2.2.2 ((joined.filter fun j => groupOf j = g).map (·.1)) with
    organizationId := g.1
    monitorId := g.2.1
    region := some g.2.2.1
    day := g.2.2.2.1 }

def selectRows (src : Source μ) (from_ until_ : Int) : List (StatRow μ) :=
  let joined := join src (src.checks.filter fun c =>
    from_ * millisPerDay ≤ c.checkedAt && c.checkedAt < until_ * millisPerDay)
  (joined.map groupOf).dedup.map (groupRow percentileCont joined)

/-- What two rows are in conflict over; null regions are never in conflict. -/
abbrev Key (μ : Type) := μ × ProbeRegion × Int

def conflictKey (r : StatRow μ) : Option (Key μ) := r.region.map fun region => (r.monitorId, region, r.day)

/-- `DO UPDATE SET`: the aggregates are replaced. -/
def doUpdate (old excluded : StatRow μ) : StatRow μ := { old with toAggregate := excluded.toAggregate }

/-- `INSERT … ON CONFLICT DO UPDATE`; two proposed rows in conflict are an error. -/
def insertOnConflict (rows proposed : List (StatRow μ)) : Option (List (StatRow μ)) :=
  if (proposed.map conflictKey).Nodup then
    some (proposed.foldl (Upserts.upsert conflictKey doUpdate) rows)
  else none

structure RollupWindow where
  /-- Inclusive start. Floored to midnight UTC. -/
  start : Instant
  /-- Exclusive end. Floored to midnight UTC. -/
  stop : Instant
deriving DecidableEq, Repr

/-- The table after the statement, and the number of rows written; `none` where it fails. -/
def rollupWindow (src : Source μ) (stats : List (StatRow μ)) (window : RollupWindow) :
    Option (List (StatRow μ) × Nat) := do
  let start := dayParam window.start
  let stop := dayParam window.stop
  if stop ≤ start then return (stats, 0)
  let proposed := selectRows percentileCont src (← castDate start) (← castDate stop)
  let stats ← insertOnConflict stats proposed
  return (stats, proposed.length)

/-- Recompute today plus the previous `lookbackDays` days. -/
def rollupRecentDays (src : Source μ) (stats : List (StatRow μ)) (lookbackDays : Int)
    (now : Instant) : Option (List (StatRow μ) × Nat) :=
  let lookback := max 0 lookbackDays
  let today := utcDayStart now
  rollupWindow percentileCont src stats
    { start := today - lookback * millisPerDay, stop := today + millisPerDay }

theorem chunkEnd_lt {chunkDays : ℕ+} {stop cursor : Instant} (h : cursor < stop) :
    (stop - min (cursor + chunkDays * millisPerDay) stop).toNat < (stop - cursor).toNat := by
  have hpos : (0 : Int) < chunkDays * millisPerDay :=
    mul_pos (by exact_mod_cast chunkDays.pos) (by decide)
  have hlt : cursor < min (cursor + chunkDays * millisPerDay) stop :=
    lt_min (lt_add_of_pos_right _ hpos) h
  exact (Int.toNat_lt_toNat (sub_pos.2 h)).2 (sub_lt_sub_left hlt stop)

/-- The chunks of the backfill's loop, from a cursor on. -/
def chunks (chunkDays : ℕ+) (stop cursor : Instant) : List RollupWindow :=
  if cursor < stop then
    let chunkEnd := min (cursor + chunkDays * millisPerDay) stop
    { start := cursor, stop := chunkEnd } :: chunks chunkDays stop chunkEnd
  else []
termination_by (stop - cursor).toNat
decreasing_by exact chunkEnd_lt ‹_›

/-- The loop calls for one chunk after the other, until one call fails. -/
def backfillLoop (src : Source μ) : List RollupWindow → List (StatRow μ) → Nat →
    Option (List (StatRow μ) × Nat)
  | [], stats, totalRows => some (stats, totalRows)
  | w :: ws, stats, totalRows =>
      (rollupWindow percentileCont src stats w).bind fun written =>
        backfillLoop src ws written.1 (totalRows + written.2)

/-- The backfill of `[since, stop)`, where that is not empty. -/
def backfill (src : Source μ) (chunkDays : ℕ+) (since stop : Instant) (stats : List (StatRow μ)) :
    Option (List (StatRow μ) × Nat) :=
  if stop ≤ since then none
  else backfillLoop percentileCont src (chunks chunkDays stop since) stats 0

/-- A sequence of calls; one that fails leaves the table as it is. -/
def runWindows (src : Source μ) (windows : List RollupWindow) (stats : List (StatRow μ)) :
    List (StatRow μ) :=
  windows.foldl (fun stats w => ((rollupWindow percentileCont src stats w).map (·.1)).getD stats)
    stats

end

/-! ## what a group holds -/

/-- What a check's day is recomputed under. -/
def checkKey (c : CheckRow μ) : Key μ := (c.monitorId, c.region, dayOf c.checkedAt)

def Source.monitor? (src : Source μ) (id : μ) : Option (MonitorRow μ) :=
  src.monitors.find? fun m => m.id = id

def Source.interval (src : Source μ) (id : μ) : Nat :=
  ((src.monitor? id).map (·.intervalSeconds)).getD 0

def Source.owner (src : Source μ) (id : μ) : OrganizationId :=
  ((src.monitor? id).map (·.organizationId)).getD ""

/-- The checks of a monitor, region and day. -/
def Source.checksOf (src : Source μ) (k : Key μ) : List (CheckRow μ) :=
  src.checks.filter fun c => checkKey c = k

/-- The row of a monitor, region and day, computed from all its checks. -/
def freshRow (percentileCont : ℚ → List Int → Option Int) (src : Source μ) (k : Key μ) :
    StatRow μ :=
  { aggregate percentileCont (src.interval k.1) (src.checksOf k) with
    organizationId := src.owner k.1
    monitorId := k.1
    region := some k.2.1
    day := k.2.2 }

/-- The group of the checks with a key. -/
def groupOfKey (src : Source μ) (k : Key μ) : Group μ :=
  (src.owner k.1, k.1, k.2.1, k.2.2, src.interval k.1)

theorem groupOfKey_injective (src : Source μ) : Function.Injective (groupOfKey src) := by
  intro a b hab
  simp only [groupOfKey, Prod.mk.injEq] at hab
  ext1
  · exact hab.2.1
  · ext1
    · exact hab.2.2.1
    · exact hab.2.2.2.1

/-- A check is joined with its monitor. -/
theorem filter_monitors (src : Source μ) {c : CheckRow μ} (hc : c ∈ src.checks) :
    ∃ m, src.monitors.filter (fun m => m.id = c.monitorId) = [m] ∧
      src.monitor? c.monitorId = some m ∧ m.organizationId = c.organizationId := by
  obtain ⟨m, hm, hid, horg⟩ := src.owned c hc
  refine ⟨m, ?_, ?_, horg⟩
  · rw [← hid]
    exact Tables.filter_eq_singleton src.monitors_nodup hm
  · rw [← hid]
    exact Tables.find?_of_nodup src.monitors_nodup hm

/-- Every check appears once in the join, in the group of its key. -/
theorem join_eq (src : Source μ) {checks : List (CheckRow μ)} (h : ∀ c ∈ checks, c ∈ src.checks) :
    (join src checks).map (·.1) = checks ∧
      ∀ j ∈ join src checks, groupOf j = groupOfKey src (checkKey j.1) := by
  induction checks with
  | nil => simp [join]
  | cons c checks ih =>
      obtain ⟨m, hfilter, hmonitor, horg⟩ := filter_monitors src (h c List.mem_cons_self)
      obtain ⟨hmap, hgroup⟩ := ih fun c' hc' => h c' (List.mem_cons_of_mem c hc')
      have hjoin : join src (c :: checks) = (c, m) :: join src checks := by
        rw [join, List.flatMap_cons, hfilter]
        rfl
      rw [hjoin]
      refine ⟨by rw [List.map_cons, hmap], fun j hj => ?_⟩
      rcases List.mem_cons.1 hj with rfl | hj
      · simp only [groupOf, groupOfKey, checkKey, Source.owner, Source.interval, hmonitor,
          Option.map_some, Option.getD_some, horg]
      · exact hgroup j hj

/-- The checks of a group are those with its key. -/
theorem filter_join (src : Source μ) {checks : List (CheckRow μ)} (h : ∀ c ∈ checks, c ∈ src.checks)
    (k : Key μ) :
    ((join src checks).filter fun j => groupOf j = groupOfKey src k).map (·.1) =
      checks.filter fun c => checkKey c = k := by
  obtain ⟨hmap, hgroup⟩ := join_eq src h
  have hcongr : ((join src checks).filter fun j => groupOf j = groupOfKey src k) =
      (join src checks).filter ((fun c => decide (checkKey c = k)) ∘ (·.1)) := by
    refine List.filter_congr fun j hj => ?_
    rw [Function.comp_apply, hgroup j hj]
    simp only [(groupOfKey_injective src).eq_iff]
  rw [hcongr, ← List.filter_map, hmap]

/-! ## one window -/

/-- The days from `start` up to `stop`, the latter not among them, cover a day. -/
def coversDay (start stop day : Int) : Bool := start ≤ day && day < stop

def coveredKeys (src : Source μ) (cover : Int → Bool) : List (Key μ) :=
  ((src.checks.filter fun c => cover (dayOf c.checkedAt)).map checkKey).dedup

theorem mem_coveredKeys {src : Source μ} {cover : Int → Bool} {k : Key μ} :
    k ∈ coveredKeys src cover ↔ cover k.2.2 = true ∧ ∃ c ∈ src.checks, checkKey c = k := by
  rw [coveredKeys, List.mem_dedup, List.mem_map]
  constructor
  · rintro ⟨c, hc, rfl⟩
    obtain ⟨hc, hcover⟩ := List.mem_filter.1 hc
    exact ⟨hcover, c, hc, rfl⟩
  · rintro ⟨hcover, c, hc, rfl⟩
    exact ⟨c, List.mem_filter.2 ⟨hc, hcover⟩, rfl⟩

/-- The bounds of the statement are those of whole days. -/
theorem window_iff (start stop : Int) (t : Instant) :
    (decide (start * millisPerDay ≤ t) && decide (t < stop * millisPerDay)) =
      coversDay start stop (dayOf t) := by
  have hpos : (0 : Int) < millisPerDay := by decide
  rw [coversDay, dayOf]
  congr 1
  · rw [decide_eq_decide, Int.le_ediv_iff_mul_le hpos]
  · rw [decide_eq_decide, Int.ediv_lt_iff_lt_mul hpos]

section
variable {percentileCont : ℚ → List Int → Option Int}

/-- **The statement proposes the rows of whole days**, one a key. -/
theorem selectRows_eq (src : Source μ) (start stop : Int) :
    selectRows percentileCont src start stop =
      (coveredKeys src (coversDay start stop)).map (freshRow percentileCont src) := by
  obtain ⟨checks, hchecks⟩ : ∃ checks, checks =
      src.checks.filter fun c => coversDay start stop (dayOf c.checkedAt) := ⟨_, rfl⟩
  have hfilter : (src.checks.filter fun c =>
      decide (start * millisPerDay ≤ c.checkedAt) && decide (c.checkedAt < stop * millisPerDay)) =
      checks := by
    rw [hchecks]
    exact List.filter_congr fun c _ => window_iff start stop c.checkedAt
  have hsub : ∀ c ∈ checks, c ∈ src.checks := by
    rw [hchecks]
    exact fun c hc => (List.mem_filter.1 hc).1
  obtain ⟨hmap, hgroup⟩ := join_eq src hsub
  have hkeys : (join src checks).map groupOf = (checks.map checkKey).map (groupOfKey src) := by
    rw [List.map_congr_left hgroup, List.map_map, ← hmap, List.map_map, hmap]
    rfl
  rw [selectRows, hfilter]
  rw [hkeys, List.dedup_map_of_injective (groupOfKey_injective src), List.map_map, coveredKeys,
    ← hchecks]
  refine List.map_congr_left fun k hk => ?_
  have hcover : coversDay start stop k.2.2 = true := by
    have hkey : k ∈ coveredKeys src (coversDay start stop) := by
      rw [coveredKeys, ← hchecks]
      exact hk
    exact (mem_coveredKeys.1 hkey).1
  have hall : (checks.filter fun c => checkKey c = k) = src.checksOf k := by
    rw [hchecks, List.filter_filter, Source.checksOf]
    refine List.filter_congr fun c _ => ?_
    by_cases hc : checkKey c = k
    · have hday : dayOf c.checkedAt = k.2.2 := by
        rw [← hc]
        rfl
      simp [hc, hday, hcover]
    · simp [hc]
  rw [Function.comp_apply, groupRow, filter_join src hsub, hall]
  rfl

theorem overwrites (src : Source μ) :
    Upserts.Overwrites conflictKey doUpdate (freshRow percentileCont src) where
  key_set _ _ := rfl
  key_fresh _ := rfl
  set_set _ _ := rfl
  set_fresh _ := rfl

/-- The days a window covers. -/
def RollupWindow.covers (w : RollupWindow) (day : Int) : Bool :=
  coversDay (dayOf w.start) (dayOf w.stop) day

/-- The window's bounds lie in the years 100 to 9999. -/
def RollupWindow.InYears (w : RollupWindow) : Prop :=
  Analytics.InYears w.start ∧ Analytics.InYears w.stop

/-- **What one call does**: it writes the keys of the days its window covers. -/
theorem rollupWindow_eq (src : Source μ) (stats : List (StatRow μ)) {w : RollupWindow}
    (h : w.InYears) :
    ∃ n, rollupWindow percentileCont src stats w =
      some (Upserts.refreshed conflictKey doUpdate (freshRow percentileCont src)
        (coveredKeys src w.covers) stats, n) := by
  have hnodup : (coveredKeys src w.covers).Nodup := List.nodup_dedup _
  have hover : Upserts.Overwrites conflictKey doUpdate (freshRow percentileCont src) :=
    overwrites src
  have hwrite := Upserts.foldl_upsert hover hnodup stats
  rw [rollupWindow]
  dsimp only
  by_cases hle : dayParam w.stop ≤ dayParam w.start
  · have hday : dayOf w.stop ≤ dayOf w.start := by
      by_contra hnot
      exact not_lt.2 hle ((dayParam_lt_iff h.1 h.2).2 (not_le.1 hnot))
    have hnil : coveredKeys src w.covers = [] := by
      refine List.eq_nil_iff_forall_not_mem.2 fun k hk => ?_
      have hcover := (mem_coveredKeys.1 hk).1
      simp only [RollupWindow.covers, coversDay, Bool.and_eq_true, decide_eq_true_eq] at hcover
      omega
    rw [hnil] at hwrite
    rw [if_pos hle, hnil, ← hwrite]
    exact ⟨0, rfl⟩
  · have hkeys : ((selectRows percentileCont src (dayOf w.start) (dayOf w.stop)).map
        conflictKey).Nodup := by
      rw [selectRows_eq, List.map_map]
      exact (hnodup.map (Option.some_injective _) : _)
    rw [if_neg hle, castDate_dayParam h.1, castDate_dayParam h.2]
    simp only [Option.bind_eq_bind, Option.bind_some, insertOnConflict, if_pos hkeys]
    rw [selectRows_eq]
    exact ⟨_, by rw [← hwrite]; rfl⟩

/-! ## runs -/

/-- Some window covers the day. -/
def covered (windows : List RollupWindow) (day : Int) : Bool := windows.any fun w => w.covers day

theorem runWindows_cons {src : Source μ} {w : RollupWindow} {windows : List RollupWindow}
    {stats rows : List (StatRow μ)} {n : Nat}
    (hw : rollupWindow percentileCont src stats w = some (rows, n)) :
    runWindows percentileCont src (w :: windows) stats =
      runWindows percentileCont src windows rows := by
  rw [runWindows, List.foldl_cons, hw]
  rfl

theorem backfillLoop_cons {src : Source μ} {w : RollupWindow} {windows : List RollupWindow}
    {stats rows : List (StatRow μ)} {n : Nat} (totalRows : Nat)
    (hw : rollupWindow percentileCont src stats w = some (rows, n)) :
    backfillLoop percentileCont src (w :: windows) stats totalRows =
      backfillLoop percentileCont src windows rows (totalRows + n) := by
  rw [backfillLoop, hw, Option.bind_some]

/-- **What a sequence of calls does**: it writes the keys of all days covered, once. -/
theorem runWindows_perm (src : Source μ) {windows : List RollupWindow}
    (h : ∀ w ∈ windows, w.InYears) (stats : List (StatRow μ)) :
    (runWindows percentileCont src windows stats).Perm
      (Upserts.refreshed conflictKey doUpdate (freshRow percentileCont src)
        (coveredKeys src (covered windows)) stats) := by
  have hrun : runWindows percentileCont src windows stats =
      (windows.map fun w => coveredKeys src w.covers).foldl (fun stats ks =>
        Upserts.refreshed conflictKey doUpdate (freshRow percentileCont src) ks stats) stats := by
    induction windows generalizing stats with
    | nil => rfl
    | cons w windows ih =>
        obtain ⟨n, hw⟩ : ∃ n, rollupWindow percentileCont src stats w = some (_, n) :=
          rollupWindow_eq src stats (h w List.mem_cons_self)
        rw [runWindows_cons hw, List.map_cons, List.foldl_cons]
        exact ih (fun w' hw' => h w' (List.mem_cons_of_mem w hw')) _
  have hnodup : (coveredKeys src (covered windows)).Nodup := List.nodup_dedup _
  rw [hrun]
  refine Upserts.run_refreshed (overwrites src) _ ?_ hnodup (fun k => ?_) stats
  · intro ks hks
    obtain ⟨w, -, rfl⟩ := List.mem_map.1 hks
    exact List.nodup_dedup _
  · rw [mem_coveredKeys]
    constructor
    · rintro ⟨hcover, hc⟩
      obtain ⟨w, hw, hcover⟩ := List.any_eq_true.1 hcover
      exact ⟨_, List.mem_map_of_mem hw, mem_coveredKeys.2 ⟨hcover, hc⟩⟩
    · rintro ⟨ks, hks, hk⟩
      obtain ⟨w, hw, rfl⟩ := List.mem_map.1 hks
      obtain ⟨hcover, hc⟩ := mem_coveredKeys.1 hk
      exact ⟨List.any_eq_true.2 ⟨w, hw, hcover⟩, hc⟩

/-- Only which days are covered counts. -/
theorem runWindows_congr (src : Source μ) {windows windows' : List RollupWindow}
    (h : ∀ w ∈ windows, w.InYears) (h' : ∀ w ∈ windows', w.InYears)
    (hsame : ∀ day, covered windows' day = covered windows day) (stats : List (StatRow μ)) :
    (runWindows percentileCont src windows' stats).Perm
      (runWindows percentileCont src windows stats) := by
  have hcover : covered windows' = covered windows := funext hsame
  refine (runWindows_perm src h' stats).trans ?_
  rw [hcover]
  exact (runWindows_perm src h stats).symm

omit [DecidableEq μ] in
/-- A successful check is one that did not fail. -/
theorem aggregate_sum (percentileCont : ℚ → List Int → Option Int) (intervalSeconds : Nat) (checks : List (CheckRow μ)) :
    (aggregate percentileCont intervalSeconds checks).upChecks +
        (aggregate percentileCont intervalSeconds checks).downChecks =
      (aggregate percentileCont intervalSeconds checks).totalChecks ∧
    (aggregate percentileCont intervalSeconds checks).downtimeSec ≤ daySec := by
  refine ⟨?_, min_le_right _ _⟩
  have hdown : ∀ c : CheckRow μ, isDown c.status = !isUp c.status := fun c => by
    cases c.status <;> rfl
  simp only [aggregate, hdown]
  induction checks with
  | nil => rfl
  | cons c checks ih =>
      rw [List.filter_cons, List.filter_cons]
      cases isUp c.status <;> simp <;> omega

/-! ## the backfill -/

/-- Days between two of the years 100 to 9999 lie in them. -/
theorem inYears_of_le {a b t : Instant} (ha : InYears a) (hb : InYears b) (hat : a ≤ t)
    (htb : t ≤ b) : InYears t := by
  have hmono : ∀ {s t : Instant}, s ≤ t →
      (dateOfDay (dayOf s)).year ≤ (dateOfDay (dayOf t)).year := by
    intro s t hst
    rcases (Int.ediv_le_ediv (by decide : (0 : Int) < millisPerDay) hst).lt_or_eq with hlt | heq
    · have hbefore := dateOfDay_before hlt
      unfold Date.Before at hbefore
      change (dateOfDay (s / millisPerDay)).year ≤ (dateOfDay (t / millisPerDay)).year
      omega
    · exact (congrArg (fun d => (dateOfDay d).year) heq).le
  exact ⟨ha.1.trans (hmono hat), (hmono htb).trans_lt hb.2⟩

/-- The chunks stay within the range, and cover its days. -/
theorem chunks_spec (chunkDays : ℕ+) {since stop : Instant} (hsince : InYears since)
    (hstop : InYears stop) : ∀ n : Nat, ∀ cursor : Instant, since ≤ cursor → cursor ≤ stop →
      (stop - cursor).toNat ≤ n →
      (∀ w ∈ chunks chunkDays stop cursor, w.InYears) ∧
        ∀ day, covered (chunks chunkDays stop cursor) day =
          coversDay (dayOf cursor) (dayOf stop) day := by
  intro n
  induction n with
  | zero =>
      intro cursor _ hle hn
      have heq : cursor = stop := le_antisymm hle (by
        have := Int.toNat_eq_zero.1 (Nat.le_zero.1 hn)
        exact sub_nonpos.1 this)
      rw [chunks, if_neg (by rw [heq]; exact lt_irrefl _)]
      refine ⟨by simp, fun day => ?_⟩
      rw [heq]
      simp only [covered, List.any_nil, coversDay]
      by_cases hday : dayOf stop ≤ day
      · simp [hday]
      · simp [hday]
  | succ n ih =>
      intro cursor hge hle hn
      by_cases hlt : cursor < stop
      · have hchunk : (0 : Int) < chunkDays * millisPerDay :=
          mul_pos (by exact_mod_cast chunkDays.pos) (by decide)
        obtain ⟨next, hnext⟩ : ∃ next, next = min (cursor + chunkDays * millisPerDay) stop := ⟨_, rfl⟩
        have hcn : cursor < next := hnext ▸ lt_min (lt_add_of_pos_right _ hchunk) hlt
        have hns : next ≤ stop := hnext ▸ min_le_right _ _
        have hless : (stop - next).toNat < (stop - cursor).toNat := by
          rw [hnext]
          exact chunkEnd_lt hlt
        obtain ⟨hyears, hcover⟩ := ih next (hge.trans hcn.le) hns (by omega)
        rw [chunks, if_pos hlt]
        simp only [← hnext]
        refine ⟨fun w hw => ?_, fun day => ?_⟩
        · rcases List.mem_cons.1 hw with rfl | hw
          · exact ⟨inYears_of_le hsince hstop hge hle,
              inYears_of_le hsince hstop (hge.trans hcn.le) hns⟩
          · exact hyears w hw
        · have hfirst : dayOf cursor ≤ dayOf next :=
            Int.ediv_le_ediv (by decide) hcn.le
          have hsecond : dayOf next ≤ dayOf stop := Int.ediv_le_ediv (by decide) hns
          rw [covered, List.any_cons, ← covered, hcover, Bool.eq_iff_iff]
          simp only [RollupWindow.covers, coversDay, Bool.or_eq_true, Bool.and_eq_true,
            decide_eq_true_eq]
          constructor
          · rintro (hday | hday) <;> omega
          · intro hday
            by_cases hd : day < dayOf next
            · exact .inl ⟨hday.1, hd⟩
            · exact .inr ⟨not_lt.1 hd, hday.2⟩
      · have heq : cursor = stop := le_antisymm hle (not_lt.1 hlt)
        exact ih cursor hge hle (by rw [heq]; simp)

theorem backfillLoop_eq (src : Source μ) {windows : List RollupWindow}
    (h : ∀ w ∈ windows, w.InYears) (stats : List (StatRow μ)) (totalRows : Nat) :
    ∃ n, backfillLoop percentileCont src windows stats totalRows =
      some (runWindows percentileCont src windows stats, n) := by
  induction windows generalizing stats totalRows with
  | nil => exact ⟨totalRows, rfl⟩
  | cons w windows ih =>
      obtain ⟨n, hw⟩ : ∃ n, rollupWindow percentileCont src stats w = some (_, n) :=
        rollupWindow_eq src stats (h w List.mem_cons_self)
      rw [backfillLoop_cons totalRows hw, runWindows_cons hw]
      exact ih (fun w' hw' => h w' (List.mem_cons_of_mem w hw')) _ _

/-- **The backfill is one large window**, whatever its chunks. -/
theorem backfill_perm (src : Source μ) (stats : List (StatRow μ)) (chunkDays : ℕ+)
    {since stop : Instant} (hsince : InYears since) (hstop : InYears stop) (hlt : since < stop) :
    ∃ rows n, backfill percentileCont src chunkDays since stop stats = some (rows, n) ∧
      rows.Perm (runWindows percentileCont src [{ start := since, stop := stop }] stats) := by
  obtain ⟨hyears, hcover⟩ := chunks_spec chunkDays hsince hstop _ since le_rfl hlt.le le_rfl
  obtain ⟨n, hn⟩ : ∃ n, backfillLoop percentileCont src (chunks chunkDays stop since) stats 0 =
      some (_, n) := backfillLoop_eq src hyears stats 0
  refine ⟨runWindows percentileCont src (chunks chunkDays stop since) stats, n, ?_, ?_⟩
  · have hnot : ¬ stop ≤ since := not_le.2 hlt
    unfold backfill
    rw [if_neg hnot, hn]
  refine runWindows_congr src ?_ hyears (fun day => ?_) stats
  · intro w hw
    rw [List.mem_singleton.1 hw]
    exact ⟨hsince, hstop⟩
  · rw [hcover day]
    simp only [covered, List.any_cons, List.any_nil, Bool.or_false, RollupWindow.covers]

/-! ## the table after a run -/

/-- The days covered hold the aggregates of their checks, the others what they held. -/
structure RolledUp (percentileCont : ℚ → List Int → Option Int) (src : Source μ)
    (windows : List RollupWindow) (stats after : List (StatRow μ)) : Prop where
  covered_days : ∀ c ∈ src.checks, covered windows (dayOf c.checkedAt) = true →
    ∃ row, after.filter (fun r => conflictKey r = some (checkKey c)) = [row] ∧
      row.toAggregate = aggregate percentileCont (src.interval c.monitorId)
        (src.checksOf (checkKey c)) ∧
      row.upChecks + row.downChecks = row.totalChecks ∧ row.downtimeSec ≤ daySec
  uncovered_days : (after.filter fun r => !covered windows r.day).Perm
    (stats.filter fun r => !covered windows r.day)

theorem rolledUp_refreshed (src : Source μ) (windows : List RollupWindow)
    {stats : List (StatRow μ)} (hindex : Tables.UniqueKey conflictKey stats) :
    RolledUp percentileCont src windows stats (Upserts.refreshed conflictKey doUpdate
      (freshRow percentileCont src) (coveredKeys src (covered windows)) stats) where
  covered_days c hc hcover := by
    have hk : checkKey c ∈ coveredKeys src (covered windows) :=
      mem_coveredKeys.2 ⟨hcover, c, hc, rfl⟩
    have hone := hindex.length_filter_le_one (p := fun r => conflictKey r = some (checkKey c))
      (k := checkKey c) fun r _ hr => by simpa using hr
    have hover : Upserts.Overwrites conflictKey doUpdate (freshRow percentileCont src) :=
      overwrites src
    obtain ⟨row, hrow, hfresh⟩ := Upserts.filter_refreshed hover (List.nodup_dedup _) hk hone
    have hagg : row.toAggregate = aggregate percentileCont (src.interval c.monitorId)
        (src.checksOf (checkKey c)) := by
      rcases hfresh with rfl | ⟨old, rfl⟩ <;> rfl
    have hsum := aggregate_sum percentileCont (src.interval c.monitorId)
      (src.checksOf (checkKey c))
    rw [← hagg] at hsum
    exact ⟨row, hrow, hagg, hsum⟩
  uncovered_days := by
    rw [Upserts.filter_refreshed_of_not_mem]
    · intro r k hr hk
      have hcover := (mem_coveredKeys.1 hk).1
      obtain ⟨region, -, rfl⟩ := Option.map_eq_some_iff.1 hr
      simpa [doUpdate] using hcover
    · intro k hk
      simpa [freshRow] using (mem_coveredKeys.1 hk).1

theorem RolledUp.of_perm {src : Source μ} {windows : List RollupWindow}
    {stats after after' : List (StatRow μ)} (h : RolledUp percentileCont src windows stats after)
    (hperm : after'.Perm after) : RolledUp percentileCont src windows stats after' where
  covered_days c hc hcover := by
    obtain ⟨row, hrow, hagg⟩ := h.covered_days c hc hcover
    have hfilter := hperm.filter fun r => conflictKey r = some (checkKey c)
    rw [hrow] at hfilter
    exact ⟨row, List.perm_singleton.1 hfilter, hagg⟩
  uncovered_days := (hperm.filter _).trans h.uncovered_days

/-- The tick recomputes today and the days before it. -/
theorem rollupRecentDays_eq (src : Source μ) (stats : List (StatRow μ)) {lookbackDays : Int}
    {now : Instant} (hnow : InYears now)
    (hstart : InYears (utcDayStart now - max 0 lookbackDays * millisPerDay))
    (hstop : InYears (utcDayStart now + millisPerDay)) :
    ∃ n, rollupRecentDays percentileCont src stats lookbackDays now =
      some (Upserts.refreshed conflictKey doUpdate (freshRow percentileCont src)
        (coveredKeys src (coversDay (dayOf now - max 0 lookbackDays) (dayOf now + 1))) stats, n) := by
  obtain ⟨n, hn⟩ : ∃ n, rollupWindow percentileCont src stats
      { start := utcDayStart now - max 0 lookbackDays * millisPerDay
        stop := utcDayStart now + millisPerDay } = some (_, n) :=
    rollupWindow_eq src stats ⟨hstart, hstop⟩
  have hfrom : dayOf (utcDayStart now - max 0 lookbackDays * millisPerDay) =
      dayOf now - max 0 lookbackDays := by
    rw [utcDayStart_eq hnow, ← sub_mul]
    exact dayOf_mul _
  have huntil : dayOf (utcDayStart now + millisPerDay) = dayOf now + 1 := by
    rw [utcDayStart_eq hnow, ← add_one_mul]
    exact dayOf_mul _
  refine ⟨n, hn.trans ?_⟩
  have hcover : RollupWindow.covers
      { start := utcDayStart now - max 0 lookbackDays * millisPerDay
        stop := utcDayStart now + millisPerDay } =
      coversDay (dayOf now - max 0 lookbackDays) (dayOf now + 1) := by
    unfold RollupWindow.covers
    rw [hfrom, huntil]
  rw [hcover]

/-- **The roll-up is right after any sequence of calls** with bounds in the years 100 to 9999:
only the days covered count, once or again, and a backfill is one large window. -/
theorem rolled_up (src : Source μ) {stats : List (StatRow μ)}
    (hindex : Tables.UniqueKey conflictKey stats) {windows : List RollupWindow}
    (hyears : ∀ w ∈ windows, w.InYears) :
    RolledUp percentileCont src windows stats (runWindows percentileCont src windows stats) ∧
    (∀ windows', (∀ w ∈ windows', w.InYears) →
      (∀ day, covered windows' day = covered windows day) →
      (runWindows percentileCont src windows' stats).Perm
        (runWindows percentileCont src windows stats)) ∧
    (runWindows percentileCont src windows (runWindows percentileCont src windows stats)).Perm
      (runWindows percentileCont src windows stats) ∧
    ∀ chunkDays since stop, InYears since → InYears stop → since < stop →
      ∃ rows n, backfill percentileCont src chunkDays since stop stats = some (rows, n) ∧
        rows.Perm (runWindows percentileCont src [{ start := since, stop := stop }] stats) := by
  refine ⟨(rolledUp_refreshed src windows hindex).of_perm (runWindows_perm src hyears stats),
    fun windows' hyears' hsame => runWindows_congr src hyears hyears' hsame stats, ?_,
    fun chunkDays since stop hsince hstop hlt => backfill_perm src stats chunkDays hsince hstop hlt⟩
  have htwice : runWindows percentileCont src windows (runWindows percentileCont src windows stats) =
      runWindows percentileCont src (windows ++ windows) stats := by
    rw [runWindows, runWindows, runWindows, List.foldl_append]
  rw [htwice]
  refine runWindows_congr src hyears (fun w hw => ?_) (fun day => ?_) stats
  · exact hyears w ((List.mem_append.1 hw).elim id id)
  · rw [covered, covered, List.any_append, Bool.or_self]

end

/-- One monitor, and a check of it at noon on 1 January 2024. -/
def oneCheck : Source Nat where
  monitors := [{ id := 1, organizationId := "acme", intervalSeconds := 60 }]
  checks := [{ organizationId := "acme", monitorId := 1, region := .naEast, status := .up,
               responseMs := some 120, checkedAt := 1704110400000 }]
  monitors_nodup := by decide
  owned := by decide

theorem rolled_up_oneCheck :
    RolledUp (fun _ _ => none) oneCheck [{ start := 1704067200000, stop := 1704153600000 }] []
      (runWindows (fun _ _ => none) oneCheck
        [{ start := 1704067200000, stop := 1704153600000 }] []) :=
  (rolled_up oneCheck (Tables.uniqueKey_nil _)
    (by simp only [List.mem_singleton, forall_eq]
        exact ⟨by decide +kernel, by decide +kernel⟩)).1

/-- A window that ends with the year 9999 is taken for an empty one. -/
theorem not_rolledUp_oneCheck :
    ¬ RolledUp (fun _ _ => none) oneCheck [{ start := 1704067200000, stop := 253402300800000 }] []
      (runWindows (fun _ _ => none) oneCheck
        [{ start := 1704067200000, stop := 253402300800000 }] []) := by
  intro h
  obtain ⟨row, hrow, -⟩ := h.covered_days _ List.mem_cons_self (by decide +kernel)
  have hnone : runWindows (fun _ _ => none) oneCheck
      [{ start := 1704067200000, stop := 253402300800000 }] [] = [] := by decide +kernel
  rw [hnone] at hrow
  contradiction

end UptimeFlow.Analytics
