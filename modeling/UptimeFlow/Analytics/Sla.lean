import UptimeFlow.Analytics.IncidentReport
import UptimeFlow.Analytics.Latency

/-!
# UptimeFlow.Analytics.Sla

The SLA report of an organization: its headline, and a row a monitor, the worst
first.

The headline and the rows come of queries of their own: the one adds the checks
up over all monitors and rounds the downtime once, the others do so for each
monitor.  Over any run of roll-ups the headline lies between the rows, and the
downtimes differ by rounding only (`sla_reconciles`).

How a share is shown as a percentage is a parameter, of which only its order is
used.  The queries of one report are taken to see one state of the tables.
-/

namespace UptimeFlow.Analytics.Sla

open IsoDate Grouping WeightedMeans
open Monitoring (Instant OrganizationId)

variable {ρ : Type} [LinearOrder ρ]

/-! ## the report -/

structure MonitorName where
  id : Nat
  name : String

/-- The columns of `incidents` the report selects on. -/
structure IncidentRow where
  organizationId : OrganizationId
  monitorId : Option Nat
  startedAt : Instant
  resolvedAt : Option Instant := none
  durationSec : Option Int := none

structure Db where
  monitors : List MonitorName
  incidents : List IncidentRow
  stats : List (StatRow Nat)

structure SlaMonitorRow (ρ : Type) where
  monitorId : Nat
  name : String
  uptimePct : Option ρ
  downtimeSec : Int
  incidents : Nat

structure SlaReport (ρ : Type) where
  rangeDays : Nat
  slaPct : Option ρ
  downtimeSec : Int
  totalIncidents : Nat
  avgRecoverySec : Option Int
  monitors : List (SlaMonitorRow ρ)

/-- The organization's incidents that started within the range. -/
def Db.startedIn (db : Db) (organizationId : OrganizationId) (range : AnalyticsRange) :
    List IncidentRow :=
  db.incidents.filter fun r =>
    r.organizationId = organizationId && range.since ≤ r.startedAt && r.startedAt ≤ range.stop

/-- The durations of those that were resolved within the range. -/
def Db.recoveries (db : Db) (organizationId : OrganizationId) (range : AnalyticsRange) : List Int :=
  (db.incidents.filter fun r => r.organizationId = organizationId &&
    r.resolvedAt.any fun t => range.since ≤ t && t ≤ range.stop).filterMap (·.durationSec)

section
-- `round2((up / total) * 100)`, and the number 101, in the numbers of the host
variable (percent : Nat → Nat → ρ) (unmeasured : ρ)

def slaRow (names : List MonitorName) (incidentsByMonitor : List (Option Nat × Nat))
    (m : PerMonitorRow Nat) : SlaMonitorRow ρ where
  monitorId := m.monitor_id
  name := ((names.find? fun n => n.id = m.monitor_id).map (·.name)).getD "(deleted monitor)"
  uptimePct := pct percent m.up_checks m.total_checks
  downtimeSec := m.downtime_sec
  incidents := ((incidentsByMonitor.find? fun i => i.1 = some m.monitor_id).map (·.2)).getD 0

def sla (db : Db) (organizationId : OrganizationId) (range : AnalyticsRange) : SlaReport ρ :=
  let scope := resolveScope db.stats organizationId range none
  let perMonitor := perMonitorTotals db.stats scope
  let attached := (db.startedIn organizationId range).filter (·.monitorId.isSome)
  let incidentsByMonitor := (keys IncidentRow.monitorId attached).map fun id =>
    (id, (group IncidentRow.monitorId attached id).length)
  let t := totals db.stats scope
  let names := db.monitors.filter fun m => m.id ∈ perMonitor.map (·.monitor_id)
  let recoveries := db.recoveries organizationId range
  { rangeDays := range.days
    slaPct := pct percent t.upChecks t.totalChecks
    downtimeSec := t.downtimeSec
    totalIncidents := (db.startedIn organizationId range).length
    avgRecoverySec := IncidentReport.meanOf recoveries.sum recoveries.length
    monitors := (perMonitor.map (slaRow percent names incidentsByMonitor)).insertionSort
      fun a b => a.uptimePct.getD unmeasured ≤ b.uptimePct.getD unmeasured }

end

/-! ## the table over a run of roll-ups -/

/-- Each row is of some checks, made from some region. -/
def Counted (stats : List (StatRow Nat)) : Prop :=
  ∀ r ∈ stats, 0 < r.totalChecks ∧ r.region.isSome

/-- A roll-up, over the monitors and checks there are by then. -/
structure RollupCall where
  src : Source Nat
  window : RollupWindow

section
variable {percentileCont : ℚ → List Int → Option Int} {stats : List (StatRow Nat)}

theorem counted_selectRows (src : Source Nat) (from_ until_ : Int) :
    Counted (selectRows percentileCont src from_ until_) := by
  intro r hr
  obtain ⟨g, hg, rfl⟩ := List.mem_map.1 hr
  obtain ⟨j, hj, hjg⟩ := List.mem_map.1 (List.mem_dedup.1 hg)
  refine ⟨List.length_pos_of_mem (List.mem_map.2 ⟨j, List.mem_filter.2 ⟨hj, ?_⟩, rfl⟩), rfl⟩
  exact decide_eq_true hjg

theorem Counted.upsert {p : StatRow Nat} (h : Counted stats)
    (hp : 0 < p.totalChecks ∧ p.region.isSome) :
    Counted (Upserts.upsert conflictKey doUpdate stats p) := by
  intro r hr
  unfold Upserts.upsert at hr
  split at hr
  · obtain ⟨old, hold, -, rfl⟩ | ⟨hr, -⟩ := Tables.mem_updateWhere.1 hr
    · exact ⟨hp.1, (h old hold).2⟩
    · exact h r hr
  · obtain hr | hr := List.mem_append.1 hr
    · exact h r hr
    · obtain rfl := List.mem_singleton.1 hr
      exact hp

theorem Counted.upserts {proposed : List (StatRow Nat)} (hproposed : Counted proposed)
    (h : Counted stats) :
    Counted (proposed.foldl (Upserts.upsert conflictKey doUpdate) stats) := by
  induction proposed generalizing stats with
  | nil => exact h
  | cons p proposed ih =>
      exact ih (fun r hr => hproposed r (List.mem_cons_of_mem p hr))
        (h.upsert (hproposed p List.mem_cons_self))

/-- One call keeps the rows counted, whatever there is to count by then. -/
theorem Counted.rollupWindow {src : Source Nat} {window : RollupWindow}
    {written : List (StatRow Nat) × Nat} (h : Counted stats)
    (hwrite : rollupWindow percentileCont src stats window = some written) : Counted written.1 := by
  unfold Analytics.rollupWindow insertOnConflict at hwrite
  dsimp only at hwrite
  split at hwrite
  · cases hwrite
    exact h
  · obtain ⟨from_, -, hwrite⟩ := Option.bind_eq_some_iff.1 hwrite
    obtain ⟨until_, -, hwrite⟩ := Option.bind_eq_some_iff.1 hwrite
    obtain ⟨stats', hinsert, hwrite⟩ := Option.bind_eq_some_iff.1 hwrite
    cases hwrite
    split at hinsert
    · cases hinsert
      exact (counted_selectRows src from_ until_).upserts h
    · cases hinsert

/-- The table after a run of roll-ups. -/
def rolled (percentileCont : ℚ → List Int → Option Int) (calls : List RollupCall) :
    List (StatRow Nat) :=
  calls.foldl (fun stats call => runWindows percentileCont call.src [call.window] stats) []

theorem counted_rolled (calls : List RollupCall) : Counted (rolled percentileCont calls) := by
  induction calls using List.reverseRecOn with
  | nil => exact fun r hr => absurd hr List.not_mem_nil
  | append_singleton calls call ih =>
      rw [rolled, List.foldl_concat, ← rolled, runWindows, List.foldl_cons, List.foldl_nil]
      cases hwrite : Analytics.rollupWindow percentileCont call.src (rolled percentileCont calls)
          call.window with
      | none => exact ih
      | some written => exact ih.rollupWindow hwrite

end

/-! ## downtimes -/

/-- The downtime of the rows, before it is rounded. -/
def downtimeOf (rows : List (StatRow Nat)) : ℚ :=
  let day := fun r : StatRow Nat => (r.monitorId, r.day)
  ((keys day rows).map fun k =>
    ((group day rows k).map fun r => (r.downtimeSec : ℚ)).sum / (group day rows k).length).sum

section
variable {rows : List (StatRow Nat)}

/-- The days of a monitor are the days with its name. -/
theorem downtimeOf_group (m : Nat) :
    downtimeOf (group StatRow.monitorId rows m) =
      ((group Prod.fst (keys (fun r : StatRow Nat => (r.monitorId, r.day)) rows) m).map fun k =>
        ((group (fun r : StatRow Nat => (r.monitorId, r.day)) rows k).map
          fun r => (r.downtimeSec : ℚ)).sum /
            (group (fun r : StatRow Nat => (r.monitorId, r.day)) rows k).length).sum := by
  have hdays : (keys (fun r : StatRow Nat => (r.monitorId, r.day))
      (group StatRow.monitorId rows m)).Perm
        (group Prod.fst (keys (fun r : StatRow Nat => (r.monitorId, r.day)) rows) m) := by
    refine (List.perm_ext_iff_of_nodup nodup_keys (nodup_keys.filter _)).2 fun k => ?_
    rw [group, List.mem_filter, mem_keys, mem_keys, decide_eq_true_eq]
    constructor
    · rintro ⟨r, hr, rfl⟩
      obtain ⟨hr, hm⟩ := List.mem_filter.1 hr
      exact ⟨⟨r, hr, rfl⟩, of_decide_eq_true hm⟩
    · rintro ⟨⟨r, hr, rfl⟩, hm⟩
      exact ⟨r, List.mem_filter.2 ⟨hr, decide_eq_true hm⟩, rfl⟩
  have hgroup : ∀ k ∈ group Prod.fst (keys (fun r : StatRow Nat => (r.monitorId, r.day)) rows) m,
      group (fun r : StatRow Nat => (r.monitorId, r.day)) (group StatRow.monitorId rows m) k =
        group (fun r : StatRow Nat => (r.monitorId, r.day)) rows k := by
    intro k hk
    have hm : k.1 = m := of_decide_eq_true (List.mem_filter.1 hk).2
    rw [group, group, List.filter_filter]
    refine List.filter_congr fun r _ => ?_
    by_cases hday : (r.monitorId, r.day) = k
    · subst hm hday
      simp
    · simp [hday]
  rw [downtimeOf, (hdays.map _).sum_eq]
  exact congrArg List.sum (List.map_congr_left fun k hk => by rw [hgroup k hk])

theorem sum_downtimeOf :
    ((keys StatRow.monitorId rows).map fun m => downtimeOf (group StatRow.monitorId rows m)).sum =
      downtimeOf rows := by
  simp only [downtimeOf_group]
  refine sum_groups _ nodup_keys fun k hk => ?_
  obtain ⟨r, hr, rfl⟩ := mem_keys.1 hk
  exact mem_keys.2 ⟨r, hr, rfl⟩

end

/-- Rounding the parts or the whole: half a unit for each rounding. -/
theorem abs_sum_round_sub_le {κ : Type} (f : κ → ℚ) (ks : List κ) :
    2 * |(ks.map fun k => round (f k)).sum - round (ks.map f).sum| ≤ ks.length + 1 := by
  have hparts := abs_sum_le (fun k => (round (f k) : ℚ) - f k) ks (ε := 1 / 2) (a := fun _ => 1)
    fun k _ => by
      rw [mul_one]
      exact abs_round_sub_le _
  have hwhole := abs_round_sub_le (ks.map f).sum
  have hcast : (((ks.map fun k => round (f k)).sum : Int) : ℚ) =
      (ks.map fun k => (round (f k) : ℚ)).sum := by
    rw [Int.cast_list_sum, List.map_map]
    rfl
  have hlength : (ks.map fun _ => (1 : ℚ)).sum = ks.length := by simp
  rw [sum_sub, hlength] at hparts
  have hrat : (2 : ℚ) * |((ks.map fun k => round (f k)).sum : Int) - round (ks.map f).sum| ≤
      ks.length + 1 := by
    rw [Int.cast_abs, Int.cast_sub, hcast]
    rw [abs_le] at hparts hwhole
    have : |(ks.map fun k => (round (f k) : ℚ)).sum - round (ks.map f).sum| ≤
        ((ks.length : ℚ) + 1) / 2 := abs_le.2 ⟨by linarith, by linarith⟩
    linarith
  exact_mod_cast hrat

/-! ## the rows -/

/-- The rows of the organization within the range. -/
def Db.within (db : Db) (organizationId : OrganizationId) (range : AnalyticsRange) :
    List (StatRow Nat) :=
  db.stats.filter fun r =>
    r.organizationId = organizationId && dayOf range.since ≤ r.day && r.day ≤ dayOf range.stop

/-- A larger share of the checks is not shown as less. -/
def ShowsOrder (percent : Nat → Nat → ρ) : Prop :=
  ∀ u t u' t', 0 < t → 0 < t' → u * t' ≤ u' * t → percent u t ≤ percent u' t'

/-- A report of these rows and incidents. -/
structure Reconciles (db : Db) (organizationId : OrganizationId) (range : AnalyticsRange)
    (report : SlaReport ρ) : Prop where
  /-- One row for each monitor that has checks in the range. -/
  nodup : (report.monitors.map (·.monitorId)).Nodup
  ids : ∀ id, id ∈ report.monitors.map (·.monitorId) ↔
    ∃ r ∈ db.within organizationId range, r.monitorId = id
  measured : ∀ m ∈ report.monitors, m.uptimePct.isSome
  worstFirst : report.monitors.Pairwise fun a b =>
    ∀ p ∈ a.uptimePct, ∀ q ∈ b.uptimePct, p ≤ q
  /-- The headline is no better than the best row and no worse than the worst. -/
  headline : match report.slaPct with
    | none => report.monitors = []
    | some p => (∃ m ∈ report.monitors, ∃ q ∈ m.uptimePct, q ≤ p) ∧
        ∃ m ∈ report.monitors, ∃ q ∈ m.uptimePct, p ≤ q
  downtime : 2 * |(report.monitors.map (·.downtimeSec)).sum - report.downtimeSec| ≤
    report.monitors.length + 1
  incidents : ∀ m ∈ report.monitors, m.incidents =
    (group IncidentRow.monitorId (db.startedIn organizationId range) (some m.monitorId)).length
  /-- The other incidents are of no monitor, or of one without checks in the range. -/
  total : report.totalIncidents = (report.monitors.map (·.incidents)).sum +
    ((db.startedIn organizationId range).filter fun r =>
      r.monitorId.all (· ∉ report.monitors.map (·.monitorId))).length

section
variable {db : Db} {organizationId : OrganizationId} {range : AnalyticsRange}

theorem scopedRows_eq (h : Counted db.stats) :
    scopedRows db.stats (resolveScope db.stats organizationId range none) =
      db.within organizationId range := by
  have hregion : ∀ r ∈ db.stats, r.region.isSome := fun r hr => (h r hr).2
  rw [← scopedRows_perRegion organizationId none hregion range, scopedRows, Db.within]
  refine List.filter_congr fun r hr => ?_
  simp [scopeSql, resolveScope, hregion r hr]

/-- The count of a monitor, looked up among the counts of all. -/
theorem find?_counts (rows : List IncidentRow) (k : Option Nat) :
    ((((keys IncidentRow.monitorId rows).map fun id =>
      (id, (group IncidentRow.monitorId rows id).length)).find? fun i => i.1 = k).map
        (·.2)).getD 0 =
        (group IncidentRow.monitorId rows k).length := by
  rw [List.find?_map, Option.map_map]
  cases hfind : (keys IncidentRow.monitorId rows).find? ((fun i => decide (i.1 = k)) ∘ fun id =>
      (id, (group IncidentRow.monitorId rows id).length)) with
  | none =>
      have hnone : group IncidentRow.monitorId rows k = [] := by
        refine group_eq_nil fun hmem => ?_
        have hk := List.find?_eq_none.1 hfind k (mem_keys.2 (List.mem_map.1 hmem))
        exact hk (decide_eq_true rfl)
      rw [hnone]
      rfl
  | some id =>
      have hid : id = k := by simpa using List.find?_some hfind
      rw [hid]
      rfl

theorem group_attached (rows : List IncidentRow) (k : Nat) :
    group IncidentRow.monitorId (rows.filter (·.monitorId.isSome)) (some k) =
      group IncidentRow.monitorId rows (some k) := by
  rw [group, group, List.filter_filter]
  refine List.filter_congr fun r _ => ?_
  by_cases hk : r.monitorId = some k <;> simp [hk]

/-- The incidents of these monitors, and the others. -/
theorem length_incidents {ids : List Nat} (hids : ids.Nodup) (rows : List IncidentRow) :
    rows.length = (ids.map fun k => (group IncidentRow.monitorId rows (some k)).length).sum +
      (rows.filter fun r => r.monitorId.all (· ∉ ids)).length := by
  have hgroup : ∀ k ∈ ids, group IncidentRow.monitorId
      (rows.filter fun r => r.monitorId.any (· ∈ ids)) (some k) =
        group IncidentRow.monitorId rows (some k) := by
    intro k hk
    rw [group, group, List.filter_filter]
    refine List.filter_congr fun r _ => ?_
    by_cases hr : r.monitorId = some k <;> simp [hr, hk]
  have hsum : ((ids.map some).map fun k => ((group IncidentRow.monitorId
      (rows.filter fun r => r.monitorId.any (· ∈ ids)) k).map fun _ => 1).sum).sum =
        ((rows.filter fun r => r.monitorId.any (· ∈ ids)).map fun _ => 1).sum :=
    sum_groups _ (hids.map (Option.some_injective _)) fun r hr => by
      obtain ⟨k, hk, hmem⟩ := (Option.any_eq_true _ _).1 (List.mem_filter.1 hr).2
      exact List.mem_map.2 ⟨k, of_decide_eq_true hmem, hk.symm⟩
  rw [List.map_map, List.map_congr_left fun k hk => by
    rw [Function.comp_apply, hgroup k hk, List.map_const', List.sum_replicate, smul_eq_mul,
      mul_one]] at hsum
  have hothers : (rows.filter fun r => !r.monitorId.any (· ∈ ids)) =
      rows.filter fun r => r.monitorId.all (· ∉ ids) := by
    refine List.filter_congr fun r _ => ?_
    cases r.monitorId <;> simp
  rw [hsum, List.map_const', List.sum_replicate, smul_eq_mul, mul_one, ← hothers]
  exact List.length_eq_length_filter_add _

/-- The row of a monitor of the rows. -/
def rowOf (percent : Nat → Nat → ρ) (db : Db) (organizationId : OrganizationId)
    (range : AnalyticsRange) (id : Nat) : SlaMonitorRow ρ :=
  let rows := group StatRow.monitorId (db.within organizationId range) id
  { monitorId := id
    name := ((db.monitors.find? fun n => n.id = id).map (·.name)).getD "(deleted monitor)"
    uptimePct := some (percent (upChecksOf rows) (totalChecksOf rows))
    downtimeSec := downtimeSecOf rows
    incidents :=
      (group IncidentRow.monitorId (db.startedIn organizationId range) (some id)).length }

/-- The monitors of the rows. -/
def idsOf (db : Db) (organizationId : OrganizationId) (range : AnalyticsRange) : List Nat :=
  keys StatRow.monitorId (db.within organizationId range)

theorem totalChecksOf_pos (h : Counted db.stats) {id : Nat}
    (hid : id ∈ idsOf db organizationId range) :
    0 < totalChecksOf (group StatRow.monitorId (db.within organizationId range) id) := by
  obtain ⟨r, hr, hrid⟩ := mem_keys.1 hid
  have hmem : r ∈ group StatRow.monitorId (db.within organizationId range) id :=
    List.mem_filter.2 ⟨hr, decide_eq_true hrid⟩
  exact (h r (List.mem_filter.1 hr).1).1.trans_le
    (List.single_le_sum (fun _ _ => Nat.zero_le _) _ (List.mem_map_of_mem hmem))

theorem monitors_perm (percent : Nat → Nat → ρ) (unmeasured : ρ) (h : Counted db.stats) :
    (sla percent unmeasured db organizationId range).monitors.Perm
      ((idsOf db organizationId range).map (rowOf percent db organizationId range)) := by
  rw [sla]
  refine (List.perm_insertionSort _ _).trans (List.Perm.of_eq ?_)
  rw [perMonitorTotals, scopedRows_eq h, List.map_map]
  refine List.map_congr_left fun id hid => ?_
  rw [Function.comp_apply, slaRow, rowOf]
  rw [Tables.find?_filter_of_imp fun n _ hn => ?_]
  · simp only [find?_counts, group_attached, pct, if_pos (totalChecksOf_pos h hid)]
  · simp only [List.map_map, Function.comp_def, List.map_id', decide_eq_true_eq]
    rw [of_decide_eq_true hn]
    exact hid

/-- The share of all checks lies between shares of single monitors. -/
theorem exists_shares {percent : Nat → Nat → ρ} (horder : ShowsOrder percent)
    (h : Counted db.stats) (hne : idsOf db organizationId range ≠ []) :
    let p := percent (upChecksOf (db.within organizationId range))
      (totalChecksOf (db.within organizationId range))
    0 < totalChecksOf (db.within organizationId range) ∧
      (∃ id ∈ idsOf db organizationId range,
        ∃ q ∈ (rowOf percent db organizationId range id).uptimePct, q ≤ p) ∧
      ∃ id ∈ idsOf db organizationId range,
        ∃ q ∈ (rowOf percent db organizationId range id).uptimePct, p ≤ q := by
  intro p
  have hup : ((idsOf db organizationId range).map fun id =>
      upChecksOf (group StatRow.monitorId (db.within organizationId range) id)).sum =
        upChecksOf (db.within organizationId range) := sum_keys _
  have htotal : ((idsOf db organizationId range).map fun id =>
      totalChecksOf (group StatRow.monitorId (db.within organizationId range) id)).sum =
        totalChecksOf (db.within organizationId range) := sum_keys _
  have hpos : 0 < totalChecksOf (db.within organizationId range) := by
    rw [← htotal]
    obtain ⟨id, hid⟩ := List.exists_mem_of_ne_nil _ hne
    exact (totalChecksOf_pos h hid).trans_le
      (List.single_le_sum (fun _ _ => Nat.zero_le _) _ (List.mem_map_of_mem hid))
  obtain ⟨a, ha, hle⟩ := exists_ratio_le (t := fun id =>
    totalChecksOf (group StatRow.monitorId (db.within organizationId range) id)) (u := fun id =>
      upChecksOf (group StatRow.monitorId (db.within organizationId range) id)) hne
  obtain ⟨b, hb, hge⟩ := exists_le_ratio (t := fun id =>
    totalChecksOf (group StatRow.monitorId (db.within organizationId range) id)) (u := fun id =>
      upChecksOf (group StatRow.monitorId (db.within organizationId range) id)) hne
  rw [hup, htotal] at hle hge
  exact ⟨hpos, ⟨a, ha, _, rfl, horder _ _ _ _ (totalChecksOf_pos h ha) hpos hle⟩,
    b, hb, _, rfl, horder _ _ _ _ hpos (totalChecksOf_pos h hb) hge⟩

/-- **The headline agrees with the rows**, where every row is of some checks. -/
theorem reconciles_of_counted {percent : Nat → Nat → ρ} (horder : ShowsOrder percent)
    (unmeasured : ρ) (h : Counted db.stats) :
    Reconciles db organizationId range (sla percent unmeasured db organizationId range) := by
  have hperm : (sla percent unmeasured db organizationId range).monitors.Perm
      ((idsOf db organizationId range).map (rowOf percent db organizationId range)) :=
    monitors_perm percent unmeasured h
  have hmem : ∀ m, m ∈ (sla percent unmeasured db organizationId range).monitors ↔
      ∃ id ∈ idsOf db organizationId range, rowOf percent db organizationId range id = m :=
    fun m => hperm.mem_iff.trans List.mem_map
  have hids : ((sla percent unmeasured db organizationId range).monitors.map (·.monitorId)).Perm
      (idsOf db organizationId range) := by
    refine (hperm.map _).trans (List.Perm.of_eq ?_)
    rw [List.map_map]
    exact List.map_id _
  constructor
  case nodup => exact hids.nodup_iff.2 nodup_keys
  case ids => exact fun id => hids.mem_iff.trans mem_keys
  case measured =>
    intro m hm
    obtain ⟨id, -, rfl⟩ := (hmem m).1 hm
    rfl
  case worstFirst =>
    let better : SlaMonitorRow ρ → SlaMonitorRow ρ → Prop := fun a b =>
      a.uptimePct.getD unmeasured ≤ b.uptimePct.getD unmeasured
    have : Std.Total better := ⟨fun _ _ => le_total _ _⟩
    have : IsTrans _ better := ⟨fun _ _ _ hab hbc => le_trans hab hbc⟩
    refine (List.pairwise_insertionSort better _).imp fun hab p hp q hq => ?_
    simpa only [better, Option.mem_def.1 hp, Option.mem_def.1 hq, Option.getD_some] using hab
  case headline =>
    have hpct : (sla percent unmeasured db organizationId range).slaPct =
        pct percent (upChecksOf (db.within organizationId range))
          (totalChecksOf (db.within organizationId range)) := by
      rw [← scopedRows_eq h]
      rfl
    by_cases hne : idsOf db organizationId range = []
    · have hnil : db.within organizationId range = [] :=
        List.eq_nil_iff_forall_not_mem.2 fun r hr => List.not_mem_nil
          (hne ▸ mem_keys.2 ⟨r, hr, rfl⟩ : r.monitorId ∈ [])
      rw [hpct, hnil]
      show (sla percent unmeasured db organizationId range).monitors = []
      rw [hne] at hperm
      exact hperm.eq_nil
    · obtain ⟨hpos, ⟨a, ha, hle⟩, b, hb, hge⟩ := exists_shares horder h hne
      rw [hpct, pct, if_pos hpos]
      exact ⟨⟨_, (hmem _).2 ⟨a, ha, rfl⟩, hle⟩, _, (hmem _).2 ⟨b, hb, rfl⟩, hge⟩
  case downtime =>
    have hround := abs_sum_round_sub_le (fun id =>
      downtimeOf (group StatRow.monitorId (db.within organizationId range) id))
      (idsOf db organizationId range)
    have hsum : ((idsOf db organizationId range).map fun id =>
        downtimeOf (group StatRow.monitorId (db.within organizationId range) id)).sum =
          downtimeOf (db.within organizationId range) := sum_downtimeOf
    have htotal : (sla percent unmeasured db organizationId range).downtimeSec =
        round (downtimeOf (db.within organizationId range)) := by
      rw [← scopedRows_eq h]
      rfl
    rw [hsum] at hround
    rw [htotal, (hperm.map _).sum_eq, hperm.length_eq, List.length_map, List.map_map]
    exact hround
  case incidents =>
    intro m hm
    obtain ⟨id, -, rfl⟩ := (hmem m).1 hm
    rfl
  case total =>
    have hcounts : ((sla percent unmeasured db organizationId range).monitors.map
        (·.incidents)).sum = ((idsOf db organizationId range).map fun id => (group
          IncidentRow.monitorId (db.startedIn organizationId range) (some id)).length).sum := by
      rw [(hperm.map _).sum_eq, List.map_map]
      rfl
    simp only [hcounts, hids.mem_iff]
    exact length_incidents nodup_keys _

/-- **The SLA report agrees with itself**, over any run of roll-ups: every monitor with checks in
the range has one row, the worst first; the headline lies between the rows; the downtimes differ
by the roundings alone; and every incident is counted, at its monitor or beside the rows. -/
theorem sla_reconciles {percent : Nat → Nat → ρ} (horder : ShowsOrder percent) (unmeasured : ρ)
    (percentileCont : ℚ → List Int → Option Int) (calls : List RollupCall)
    (monitors : List MonitorName) (incidents : List IncidentRow) (organizationId : OrganizationId)
    (range : AnalyticsRange) :
    let db : Db := { monitors, incidents, stats := rolled percentileCont calls }
    Reconciles db organizationId range (sla percent unmeasured db organizationId range) :=
  reconciles_of_counted horder unmeasured (counted_rolled calls)

end

/-! ## percentages of two digits -/

/-- `round2((up / total) * 100)` -/
def round2Percent (up total : Nat) : ℚ := Buckets.mathRound (up / total * 100 * 100 : ℚ) / 100

theorem showsOrder_round2Percent : ShowsOrder round2Percent := by
  intro u t u' t' ht ht' hle
  have hshare : (u / t : ℚ) ≤ u' / t' := by
    rw [div_le_div_iff₀ (by exact_mod_cast ht) (by exact_mod_cast ht')]
    exact_mod_cast hle
  have hround : Buckets.mathRound (u / t * 100 * 100 : ℚ) ≤
      Buckets.mathRound (u' / t' * 100 * 100 : ℚ) :=
    Int.floor_le_floor (by linarith)
  have hcast : ((Buckets.mathRound (u / t * 100 * 100 : ℚ) : Int) : ℚ) ≤
      Buckets.mathRound (u' / t' * 100 * 100 : ℚ) := by exact_mod_cast hround
  unfold round2Percent
  linarith

/-- At noon on 1 January 2024 one monitor was up, the other down in one region of two. -/
def twoMonitors : Source Nat where
  monitors := [{ id := 1, organizationId := "acme", intervalSeconds := 60 },
    { id := 2, organizationId := "acme", intervalSeconds := 30 }]
  checks := [
    { organizationId := "acme", monitorId := 1, region := .naEast, status := .up,
      responseMs := some 120, checkedAt := 1704110400000 },
    { organizationId := "acme", monitorId := 2, region := .naEast, status := .down,
      responseMs := none, checkedAt := 1704110400000 },
    { organizationId := "acme", monitorId := 2, region := .euWest, status := .up,
      responseMs := some 80, checkedAt := 1704110400000 }]
  monitors_nodup := by decide
  owned := by decide

theorem sla_reconciles_twoMonitors :
    let db : Db :=
      { monitors := [⟨1, "API"⟩, ⟨2, "Web"⟩]
        incidents := [{ organizationId := "acme", monitorId := some 2, startedAt := 1704110400000 }]
        stats := rolled (fun _ _ => none)
          [⟨twoMonitors, { start := 1704067200000, stop := 1704153600000 }⟩] }
    Reconciles db "acme" (rangeForDays 7 1704110400000)
      (sla round2Percent 101 db "acme" (rangeForDays 7 1704110400000)) :=
  sla_reconciles showsOrder_round2Percent 101 _ _ _ _ _ _

end UptimeFlow.Analytics.Sla
