import UptimeFlow.Analytics.Reports
import UptimeFlow.StatusPages.Isolation

/-!
# UptimeFlow.Analytics.Agreement

The readers of the daily statistics agree.

Where all rows carry a region, every reader of a scope reads the same rows,
each grouped its own way, and sums over groups add up to the sum over all rows.
The public page's history gathers the rows of a monitor one by one; in the days
of its window these are the rows of the monitor's scope.
-/

namespace UptimeFlow.Analytics

open IsoDate Grouping
open Monitoring (Instant ProbeRegion OrganizationId)

variable {μ : Type} [DecidableEq μ] {ρ : Type} {stats : List (StatRow μ)}
  {organizationId : OrganizationId} {monitorId : Option μ} {n : Nat} {now : Instant}

/-! ## the days of a range -/

theorem dayOf_add (day : Int) (t : Instant) : dayOf (t + day * millisPerDay) = dayOf t + day :=
  Int.add_mul_ediv_right _ _ (by decide)

theorem dayOf_since (n : Nat) (now : Instant) :
    dayOf (rangeForDays n now).since = dayOf now - ((n : Int) - 1) := by
  rw [rangeForDays, startOfUtcDay, ← sub_mul]
  exact dayOf_mul _

/-- The days of a range are the last `n`, up to today. -/
theorem daysOf_eq (n : Nat) (now : Instant) :
    daysOf (rangeForDays n now) = (List.range n).map fun i : Nat => dayOf now - ((n : Int) - 1) + i := by
  rw [daysOf]
  refine List.map_congr_left fun i _ => ?_
  rw [dayOf_add, startOfUtcDay, dayOf_mul, dayOf_since]

theorem nodup_daysOf (n : Nat) (now : Instant) : (daysOf (rangeForDays n now)).Nodup := by
  rw [daysOf_eq]
  refine List.nodup_range.map fun i j hij => ?_
  simpa using hij

theorem mem_daysOf {d : Int} :
    d ∈ daysOf (rangeForDays n now) ↔ dayOf now - ((n : Int) - 1) ≤ d ∧ d ≤ dayOf now := by
  rw [daysOf_eq, List.mem_map]
  constructor
  · rintro ⟨i, hi, rfl⟩
    have := List.mem_range.1 hi
    omega
  · rintro ⟨h0, h1⟩
    exact ⟨(d - (dayOf now - ((n : Int) - 1))).toNat, List.mem_range.2 (by omega), by omega⟩

theorem day_mem_daysOf {r : StatRow μ} (hr : r ∈ scopedRows stats
    (resolveScope stats organizationId (rangeForDays n now) monitorId)) :
    r.day ∈ daysOf (rangeForDays n now) := by
  have hscope := (List.mem_filter.1 hr).2
  simp only [scopeSql, Bool.and_eq_true] at hscope
  obtain ⟨⟨⟨⟨-, hsince⟩, hstop⟩, -⟩, -⟩ := hscope
  have hlow : dayOf (rangeForDays n now).since ≤ r.day := of_decide_eq_true hsince
  rw [dayOf_since] at hlow
  exact mem_daysOf.2 ⟨hlow, of_decide_eq_true hstop⟩

/-! ## grouped sums -/

/-- The row of a day is that of its group; a day without one has nothing to sum. -/
theorem byDay_eq (scope : StatScope μ) (d : Int) :
    (((byDay stats scope d).map (·.total_checks)).getD 0 =
      totalChecksOf (group StatRow.day (scopedRows stats scope) d)) ∧
    (((byDay stats scope d).map (·.up_checks)).getD 0 =
      upChecksOf (group StatRow.day (scopedRows stats scope) d)) ∧
    (((byDay stats scope d).map (·.down_checks)).getD 0 =
      downChecksOf (group StatRow.day (scopedRows stats scope) d)) ∧
    (byDay stats scope d).bind (·.avg_response_ms) =
      avgResponseMsOf (group StatRow.day (scopedRows stats scope) d) := by
  have hfind : byDay stats scope d =
      ((keys StatRow.day (scopedRows stats scope)).find? fun k => k = d).map fun day =>
        { day, total_checks := totalChecksOf (group StatRow.day (scopedRows stats scope) day)
          up_checks := upChecksOf (group StatRow.day (scopedRows stats scope) day)
          down_checks := downChecksOf (group StatRow.day (scopedRows stats scope) day)
          avg_response_ms := avgResponseMsOf (group StatRow.day (scopedRows stats scope) day) } := by
    rw [byDay, dailyRows, List.find?_map]
    rfl
  by_cases hd : d ∈ keys StatRow.day (scopedRows stats scope)
  · have hids : ((keys StatRow.day (scopedRows stats scope)).map id).Nodup := by
      rw [List.map_id]
      exact nodup_keys
    have hone : (keys StatRow.day (scopedRows stats scope)).find? (fun k => k = d) = some d :=
      Tables.find?_of_nodup hids hd
    rw [hfind, hone]
    exact ⟨rfl, rfl, rfl, rfl⟩
  · have hnone : (keys StatRow.day (scopedRows stats scope)).find? (fun k => k = d) = none := by
      rw [List.find?_eq_none]
      intro k hk hkd
      exact hd (of_decide_eq_true hkd ▸ hk)
    have hempty : group StatRow.day (scopedRows stats scope) d = [] := by
      rw [group, List.filter_eq_nil_iff]
      exact fun r hr hday => hd (mem_keys.2 ⟨r, hr, by simpa using hday⟩)
    rw [hfind, hnone, hempty]
    exact ⟨rfl, rfl, rfl, rfl⟩

/-- Where all rows carry a region, the resolved scope reads the regional rows. -/
theorem scopedRows_perRegion (organizationId : OrganizationId) (monitorId : Option μ)
    (hregion : ∀ r ∈ stats, r.region.isSome) (range : AnalyticsRange) :
    scopedRows stats { resolveScope stats organizationId range monitorId with perRegion := true } =
      scopedRows stats (resolveScope stats organizationId range monitorId) := by
  rw [scopedRows, scopedRows, resolveScope]
  dsimp only
  by_cases hcount : 0 < (stats.filter fun r =>
      decide (r.organizationId = organizationId) && decide (dayOf range.since ≤ r.day) &&
        decide (r.day ≤ dayOf range.stop) && monitorId.all (fun m => decide (r.monitorId = m)) &&
        r.region.isSome).length
  · simp only [hcount, decide_true]
  · have hnil := List.length_eq_zero_iff.1 (Nat.eq_zero_of_not_pos hcount)
    simp only [hcount, decide_false]
    refine List.filter_congr fun r hr => ?_
    have hnot := List.filter_eq_nil_iff.1 hnil r hr
    have hsome := hregion r hr
    have hnone : r.region.isNone = false := by
      rw [← Option.not_isSome, hsome]
      rfl
    simp only [scopeSql, if_true, Bool.false_eq_true, if_false, hnone, Bool.and_false]
    exact Bool.eq_false_iff.2 hnot

/-! ## agreement -/

/-- The sums of the series, the regional breakdown and the monitors are the totals. -/
structure Agree (percent : Nat → Nat → ρ) (stats : List (StatRow μ)) (scope : StatScope μ)
    (range : AnalyticsRange) : Prop where
  daily_total : ((dailySeries percent stats scope range).map (·.totalChecks)).sum =
    (totals stats scope).totalChecks
  daily_up : ((daysOf range).map fun d =>
    ((byDay stats scope d).map (·.up_checks)).getD 0).sum = (totals stats scope).upChecks
  daily_down : ((dailySeries percent stats scope range).map (·.failedChecks)).sum =
    (totals stats scope).downChecks
  region_total : ((regionStats percent stats scope).map (·.totalChecks)).sum =
    (totals stats scope).totalChecks
  region_up : ((regionRows stats scope).map (·.up_checks)).sum = (totals stats scope).upChecks
  region_down : ((regionStats percent stats scope).map (·.failedChecks)).sum =
    (totals stats scope).downChecks
  monitor_total : ((perMonitorTotals stats scope).map (·.total_checks)).sum =
    (totals stats scope).totalChecks
  monitor_up : ((perMonitorTotals stats scope).map (·.up_checks)).sum =
    (totals stats scope).upChecks

theorem agree (percent : Nat → Nat → ρ) (hregion : ∀ r ∈ stats, r.region.isSome)
    (organizationId : OrganizationId) (monitorId : Option μ) (n : Nat) (now : Instant) :
    Agree percent stats (resolveScope stats organizationId (rangeForDays n now) monitorId)
      (rangeForDays n now) := by
  obtain ⟨scope, hscope⟩ : ∃ scope, scope =
      resolveScope stats organizationId (rangeForDays n now) monitorId := ⟨_, rfl⟩
  have hdays : ∀ f : StatRow μ → Nat, ((daysOf (rangeForDays n now)).map fun d =>
      ((group StatRow.day (scopedRows stats scope) d).map f).sum).sum =
      ((scopedRows stats scope).map f).sum := fun f =>
    sum_groups f (nodup_daysOf n now) fun r hr => by
      rw [hscope] at hr
      exact day_mem_daysOf hr
  have hregional := scopedRows_perRegion organizationId monitorId hregion (rangeForDays n now)
  rw [← hscope] at hregional ⊢
  have hregions : ∀ f : RegionStat ρ → Nat, ((regionStats percent stats scope).map f).sum =
      ((regionRows stats scope).map fun r => f
        { region := r.region, avgResponseMs := r.avg_response_ms
          successRatePct := pct percent r.up_checks r.total_checks
          failedChecks := r.down_checks, totalChecks := r.total_checks
          lastOutageAt := r.last_outage }).sum := by
    intro f
    rw [regionStats, ((List.perm_insertionSort _ _).map f).sum_eq, List.map_map]
    rfl
  constructor
  · rw [dailySeries, List.map_map]
    refine Eq.trans ?_ (hdays (·.totalChecks))
    exact congrArg List.sum (List.map_congr_left fun d _ => (byDay_eq scope d).1)
  · refine Eq.trans ?_ (hdays (·.upChecks))
    exact congrArg List.sum (List.map_congr_left fun d _ => (byDay_eq scope d).2.1)
  · rw [dailySeries, List.map_map]
    refine Eq.trans ?_ (hdays (·.downChecks))
    exact congrArg List.sum (List.map_congr_left fun d _ => (byDay_eq scope d).2.2.1)
  · rw [hregions, regionRows, hregional, List.map_map]
    exact sum_keys _
  · rw [regionRows, hregional, List.map_map]
    exact sum_keys _
  · rw [hregions, regionRows, hregional, List.map_map]
    exact sum_keys _
  · rw [perMonitorTotals, List.map_map]
    exact sum_keys _
  · rw [perMonitorTotals, List.map_map]
    exact sum_keys _

/-! ## the days without data -/

/-- The series is the days of the range, one point each, with zeros where there are no rows. -/
theorem dailySeries_spec (percent : Nat → Nat → ρ) (stats : List (StatRow μ)) (scope : StatScope μ)
    (n : Nat) (now : Instant) :
    (dailySeries percent stats scope (rangeForDays n now)).map (·.day) =
      (List.range n).map (fun i : Nat => dayOf now - ((n : Int) - 1) + i) ∧
    ∀ p ∈ dailySeries percent stats scope (rangeForDays n now),
      (∀ r ∈ scopedRows stats scope, r.day ≠ p.day) →
      p.totalChecks = 0 ∧ p.failedChecks = 0 ∧ p.uptimePct = none ∧ p.avgResponseMs = none := by
  refine ⟨?_, fun p hp hnone => ?_⟩
  · rw [dailySeries, List.map_map, ← daysOf_eq]
    exact List.map_id _
  · obtain ⟨d, -, rfl⟩ := List.mem_map.1 hp
    have hrow : byDay stats scope d = none := by
      rw [byDay, List.find?_eq_none]
      intro row hrow hday
      obtain ⟨k, hk, rfl⟩ := List.mem_map.1 hrow
      obtain ⟨r, hr, hrk⟩ := mem_keys.1 hk
      exact hnone r hr (hrk.trans (of_decide_eq_true hday))
    simp [hrow, pct]

/-! ## the public history -/

section
open StatusPages

variable {stats : List (StatRow Nat)} {label : Option ProbeRegion → String} {db : Db}

/-- The row as the status pages read it. -/
def toDailyStat (label : Option ProbeRegion → String) (r : StatRow Nat) : DailyStat :=
  { organizationId := r.organizationId, monitorId := r.monitorId, region := label r.region
    day := r.day, totalChecks := r.totalChecks, upChecks := r.upChecks }

/-- What is gathered of a monitor's day is the sum of its rows. -/
theorem gather_getD (rows : List DailyStat) (m : Nat) (d : Int) :
    (gather rows m d).getD ⟨0, 0⟩ =
      ⟨((rows.filter fun s => s.monitorId = m && s.day = d).map (·.upChecks)).sum,
        ((rows.filter fun s => s.monitorId = m && s.day = d).map (·.totalChecks)).sum⟩ := by
  induction rows using List.reverseRecOn with
  | nil => rfl
  | append_singleton rows s ih =>
      rw [gather, List.foldl_append, List.foldl_cons, List.foldl_nil, ← gather, ByMonitor.add]
      by_cases hs : m = s.monitorId ∧ d = s.day
      · have hp : (decide (s.monitorId = m) && decide (s.day = d)) = true := by simp [hs.1, hs.2]
        rw [if_pos hs, Option.getD_some, ih, List.filter_append, List.filter_singleton, hp]
        simp
      · have hp : (decide (s.monitorId = m) && decide (s.day = d)) = false := by
          simp only [Bool.and_eq_false_iff, decide_eq_false_iff_not]
          by_contra hnot
          push Not at hnot
          exact hs ⟨hnot.1.symm, hnot.2.symm⟩
        rw [if_neg hs, ih, List.filter_append, List.filter_singleton, hp]
        simp

/-- Days without rows add nothing to the sum. -/
theorem sumTotals_filterMap (f : Int → Option DayTotal) (days : List Int) :
    sumTotals (days.filterMap f) =
      ⟨(days.map fun d => ((f d).getD ⟨0, 0⟩).up).sum,
        (days.map fun d => ((f d).getD ⟨0, 0⟩).total).sum⟩ := by
  induction days with
  | nil => rfl
  | cons d days ih =>
      simp only [sumTotals, DayTotal.mk.injEq] at ih
      cases hd : f d with
      | none => simp [sumTotals, hd, ih]
      | some t => simp [sumTotals, hd, ih]

theorem windowOf_eq (today : Int) (n : Nat) :
    windowOf today n = (List.range n).reverse.map fun i : Nat => today - i := by
  simp [windowOf, List.map_eq_flatMap, List.flatMap_assoc]

theorem mem_windowOf {today d : Int} :
    d ∈ windowOf today n ↔ today - ((n : Int) - 1) ≤ d ∧ d ≤ today := by
  rw [windowOf_eq, List.mem_map]
  constructor
  · rintro ⟨i, hi, rfl⟩
    have := List.mem_range.1 (List.mem_reverse.1 hi)
    omega
  · rintro ⟨h0, h1⟩
    exact ⟨(today - d).toNat, List.mem_reverse.2 (List.mem_range.2 (by omega)), by omega⟩

theorem nodup_windowOf (today : Int) (n : Nat) : (windowOf today n).Nodup := by
  rw [windowOf_eq]
  refine (List.nodup_reverse.2 List.nodup_range).map fun i j hij => ?_
  simpa using hij

/-- On a day of the window, the history reads the rows of the monitor's scope. -/
theorem filter_historyStats (hc : db.Consistent) (hstats : db.dailyStats = stats.map (toDailyStat label))
    (hregion : ∀ r ∈ stats, r.region.isSome) {m : Nat} (horg : db.monitorOrg m = some organizationId)
    {ids : List Nat} (hm : m ∈ ids) {d : Int} (hd : d ∈ windowOf (dayOf now) n) :
    (db.historyStats ids (dayOf now - n)).filter (fun s => s.monitorId = m && s.day = d) =
      (group StatRow.day (scopedRows stats
        (resolveScope stats organizationId (rangeForDays n now) (some m))) d).map
          (toDailyStat label) := by
  rw [← scopedRows_perRegion _ _ hregion, group, scopedRows, List.filter_filter, Db.historyStats,
    List.filter_filter, hstats, List.filter_map]
  congr 1
  refine List.filter_congr fun r hr => ?_
  have hday := mem_windowOf.1 hd
  have hsome := hregion r hr
  by_cases hrow : r.monitorId = m ∧ r.day = d
  · have hown : db.monitorOrg r.monitorId = some r.organizationId :=
      hc.statOrgs (toDailyStat label r) (by rw [hstats]; exact List.mem_map_of_mem hr)
    have horg' : r.organizationId = organizationId := by
      rw [hrow.1, horg] at hown
      exact (Option.some.inj hown).symm
    have hlow : dayOf now - ((n : Int) - 1) ≤ r.day := by rw [hrow.2]; exact hday.1
    have hhigh : r.day ≤ dayOf now := by rw [hrow.2]; exact hday.2
    have hsince : dayOf now - (n : Int) ≤ r.day := by omega
    have hids : r.monitorId ∈ ids := hrow.1 ▸ hm
    simp only [Function.comp_apply, toDailyStat, scopeSql, resolveScope, dayOf_since,
      Option.all_some, if_true, hrow.1, hrow.2, horg', hsome, decide_true, Bool.and_true,
      Bool.true_and]
    rw [hrow.2] at hlow hhigh hsince
    rw [hrow.1] at hids
    simp [hids, hlow, hsince, rangeForDays, hhigh]
  · simp only [Function.comp_apply, toDailyStat]
    by_cases hrm : r.monitorId = m
    · have hrd : r.day ≠ d := fun he => hrow ⟨hrm, he⟩
      simp [hrd]
    · simp [scopeSql, resolveScope, hrm]

/-- **The public page shows the share analytics reports**. -/
theorem historyComponent_uptimePct (n : Nat) (now : Instant) (percent : Nat → Nat → ρ) (hc : db.Consistent)
    (hstats : db.dailyStats = stats.map (toDailyStat label))
    (hregion : ∀ r ∈ stats, r.region.isSome) {m : Nat} (horg : db.monitorOrg m = some organizationId)
    {ids : List Nat} (hm : m ∈ ids) {c : ComponentRow} (hlink : c.monitorId = some m) :
    (historyComponent percent (gather (db.historyStats ids (dayOf now - n)))
      (windowOf (dayOf now) n) c).1.uptimePct =
    pct percent
      (totals stats (resolveScope stats organizationId (rangeForDays n now) (some m))).upChecks
      (totals stats (resolveScope stats organizationId (rangeForDays n now) (some m))).totalChecks := by
  obtain ⟨rows, hrows⟩ : ∃ rows, rows = scopedRows stats
      (resolveScope stats organizationId (rangeForDays n now) (some m)) := ⟨_, rfl⟩
  have hdays : ∀ r ∈ rows, r.day ∈ daysOf (rangeForDays n now) := by
    intro r hr
    rw [hrows] at hr
    exact day_mem_daysOf hr
  have hwindow : ∀ f : StatRow Nat → Nat, ((windowOf (dayOf now) n).map fun d =>
      ((group StatRow.day rows d).map f).sum).sum = (rows.map f).sum := fun f =>
    sum_groups f (nodup_windowOf _ n) fun r hr => mem_windowOf.2 (mem_daysOf.1 (hdays r hr))
  have hday : ∀ d ∈ windowOf (dayOf now) n,
      (gather (db.historyStats ids (dayOf now - n)) m d).getD ⟨0, 0⟩ =
        ⟨upChecksOf (group StatRow.day rows d), totalChecksOf (group StatRow.day rows d)⟩ := by
    intro d hd
    rw [gather_getD, filter_historyStats hc hstats hregion horg hm hd, ← hrows, List.map_map,
      List.map_map]
    rfl
  have hup : ((windowOf (dayOf now) n).map fun d =>
      ((gather (db.historyStats ids (dayOf now - n)) m d).getD ⟨0, 0⟩).up).sum = upChecksOf rows := by
    refine Eq.trans ?_ (hwindow (·.upChecks))
    exact congrArg List.sum (List.map_congr_left fun d hd => congrArg DayTotal.up (hday d hd))
  have htotal : ((windowOf (dayOf now) n).map fun d =>
      ((gather (db.historyStats ids (dayOf now - n)) m d).getD ⟨0, 0⟩).total).sum =
      totalChecksOf rows := by
    refine Eq.trans ?_ (hwindow (·.totalChecks))
    exact congrArg List.sum (List.map_congr_left fun d hd => congrArg DayTotal.total (hday d hd))
  simp only [historyComponent, hlink, Option.bind_some, sumTotals_filterMap, uptimePct, hup, htotal,
    totals, ← hrows, pct]

/-- A monitor analytics reports on is one of the organization's. -/
theorem monitorOrg_of_monitor {percent : Nat → Nat → ρ}
    {percentileCont : ℚ → List Int → Option Int} (hc : db.Consistent)
    {checks : List (CheckRow Nat)} {m : Nat} {range : AnalyticsRange} {report : MonitorAnalytics ρ}
    (h : monitor percent percentileCont db.monitors checks stats organizationId m range =
      some report) :
    db.monitorOrg m = some organizationId ∧ report.uptimePct = pct percent
      (totals stats (resolveScope stats organizationId range (some m))).upChecks
      (totals stats (resolveScope stats organizationId range (some m))).totalChecks := by
  unfold monitor at h
  split at h
  · next hany =>
      obtain ⟨row, hrow, hown⟩ := List.any_eq_true.1 hany
      simp only [Bool.and_eq_true, decide_eq_true_eq] at hown
      have hfind : db.monitor m = some row := by
        rw [Db.monitor, ← hown.1.1]
        exact Tables.find?_of_nodup hc.monitorIds hrow
      refine ⟨by rw [Db.monitorOrg, hfind, Option.map_some, hown.1.2], ?_⟩
      rw [← Option.some.inj h]
  · contradiction

/-- **The readers agree**: the series, the regional breakdown and the monitors' shares sum to the
totals, the series is the days up to today, and the public page shows what analytics reports. -/
theorem readers_agree (percent : Nat → Nat → ρ) (percentileCont : ℚ → List Int → Option Int)
    {stats : List (StatRow Nat)} (hregion : ∀ r ∈ stats, r.region.isSome) (n : Nat)
    (now : Instant) :
    (∀ organizationId monitorId,
      Agree percent stats (resolveScope stats organizationId (rangeForDays n now) monitorId)
        (rangeForDays n now)) ∧
    (∀ scope : StatScope Nat,
      (dailySeries percent stats scope (rangeForDays n now)).map (·.day) =
        (List.range n).map (fun i : Nat => dayOf now - ((n : Int) - 1) + i) ∧
      ∀ p ∈ dailySeries percent stats scope (rangeForDays n now),
        (∀ r ∈ scopedRows stats scope, r.day ≠ p.day) →
        p.totalChecks = 0 ∧ p.failedChecks = 0 ∧ p.uptimePct = none ∧ p.avgResponseMs = none) ∧
    ∀ (db : Db) (label : Option ProbeRegion → String), db.Consistent →
      db.dailyStats = stats.map (toDailyStat label) →
      ∀ slug row, db.publicRow slug = some row → ∀ c ∈ db.historyComponents row.id,
      ∀ m organizationId checks report, c.monitorId = some m →
      monitor percent percentileCont db.monitors checks stats organizationId m
        (rangeForDays n now) = some report →
      ∃ history, getHistory percent db slug n now = some history ∧
        ∃ shown ∈ history.components, shown.id = c.id ∧ shown.uptimePct = report.uptimePct := by
  refine ⟨fun organizationId monitorId => agree percent hregion organizationId monitorId n now,
    fun scope => dailySeries_spec percent stats scope n now, ?_⟩
  intro db label hc hstats slug row hrow c hcomponent m organizationId checks report hlink hreport
  obtain ⟨horg, hpct⟩ := monitorOrg_of_monitor hc hreport
  have hm : m ∈ (db.historyComponents row.id).filterMap (·.monitorId) :=
    List.mem_filterMap.2 ⟨c, hcomponent, hlink⟩
  have hshown := historyComponent_uptimePct n now percent hc hstats hregion horg hm hlink
  refine ⟨_, by rw [getHistory, hrow]; rfl, _,
    List.mem_map_of_mem (List.mem_map_of_mem hcomponent), rfl, ?_⟩
  rw [hpct, ← hshown]
  rfl

theorem readers_agree_one :
    Agree (fun up total => 100 * up / total)
      [{ organizationId := "acme", monitorId := 1, region := some .naEast, day := 19723
         totalChecks := 10, upChecks := 9, downChecks := 1, uptimePct := 90
         avgResponseMs := some 120, p95ResponseMs := none, p99ResponseMs := none
         downtimeSec := 60 }]
      (resolveScope
        [{ organizationId := "acme", monitorId := 1, region := some .naEast, day := 19723
           totalChecks := 10, upChecks := 9, downChecks := 1, uptimePct := 90
           avgResponseMs := some 120, p95ResponseMs := none, p99ResponseMs := none
           downtimeSec := 60 }] "acme" (rangeForDays 7 1704110400000) none)
      (rangeForDays 7 1704110400000) :=
  (readers_agree _ (fun _ _ => none) (by simp) 7 1704110400000).1 "acme" none

end

end UptimeFlow.Analytics
