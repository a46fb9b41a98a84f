import UptimeFlow.Analytics.Rollup
import UptimeFlow.Grouping
import UptimeFlow.StatusPages.Store

/-!
# UptimeFlow.Analytics.Reports

The readers of the daily statistics: totals, the daily series, the regional
breakdown and the monitors' shares.

Each reader is a query of its own with the condition `scopeSql`, grouped its
own way.
Days are numbers here: ranges are of 366 days at most, in years where a day and
its text are one (`castDate_dayParam`).  How a share is shown as a percentage is
a parameter.
-/

namespace UptimeFlow.Analytics

open IsoDate Grouping
open Monitoring (Instant CheckStatus ProbeRegion OrganizationId)

variable {μ : Type} [DecidableEq μ] {ρ : Type}

/-! ## ranges and scopes -/

structure AnalyticsRange where
  /-- Inclusive lower bound (UTC midnight, days-1 before today). -/
  since : Instant
  /-- Now. -/
  stop : Instant
  days : Nat
deriving DecidableEq, Repr

def startOfUtcDay (d : Instant) : Instant := dayOf d * millisPerDay

/-- Build a day-aligned range ending now and spanning `days` days. -/
def rangeForDays (days : Nat) (now : Instant) : AnalyticsRange :=
  { since := startOfUtcDay now - ((days : Int) - 1) * millisPerDay, stop := now, days }

/-- A resolved read scope: what to aggregate, and from which granularity. -/
structure StatScope (μ : Type) where
  organizationId : OrganizationId
  since : Instant
  stop : Instant
  monitorId : Option μ
  perRegion : Bool
deriving DecidableEq, Repr

/-- The condition shared by every daily-stat aggregate. -/
def scopeSql (scope : StatScope μ) (r : StatRow μ) : Bool :=
  r.organizationId = scope.organizationId && dayOf scope.since ≤ r.day &&
    r.day ≤ dayOf scope.stop && scope.monitorId.all (r.monitorId = ·) &&
    (if scope.perRegion then r.region.isSome else r.region.isNone)

def scopedRows (stats : List (StatRow μ)) (scope : StatScope μ) : List (StatRow μ) :=
  stats.filter (scopeSql scope)

/-- Decide which daily-stat granularity to aggregate from: per-region wins when present. -/
def resolveScope (stats : List (StatRow μ)) (organizationId : OrganizationId)
    (range : AnalyticsRange) (monitorId : Option μ) : StatScope μ :=
  let perRegion := (stats.filter fun r =>
    r.organizationId = organizationId && dayOf range.since ≤ r.day && r.day ≤ dayOf range.stop &&
      monitorId.all (r.monitorId = ·) && r.region.isSome).length
  { organizationId, since := range.since, stop := range.stop, monitorId
    perRegion := decide (0 < perRegion) }

/-! ## aggregates of the rows of a scope -/

def totalChecksOf (rows : List (StatRow μ)) : Nat := (rows.map (·.totalChecks)).sum

def upChecksOf (rows : List (StatRow μ)) : Nat := (rows.map (·.upChecks)).sum

def downChecksOf (rows : List (StatRow μ)) : Nat := (rows.map (·.downChecks)).sum

/-- Check-weighted latency: days without one count in neither sum. -/
def avgResponseMsOf (rows : List (StatRow μ)) : Option Int :=
  let weighed := rows.filterMap fun r => r.avgResponseMs.map fun avg => (avg, r.totalChecks)
  let checks := (weighed.map (·.2)).sum
  if checks = 0 then none
  else some (round ((weighed.map fun w => (w.1 * w.2 : ℚ)).sum / checks))

/-- Downtime collapsed across regions per (monitor, day) before summing. -/
def downtimeSecOf (rows : List (StatRow μ)) : Int :=
  let day := fun r : StatRow μ => (r.monitorId, r.day)
  round ((keys day rows).map fun k =>
    ((group day rows k).map fun r => (r.downtimeSec : ℚ)).sum / (group day rows k).length).sum

structure Totals where
  upChecks : Nat
  totalChecks : Nat
  downChecks : Nat
  downtimeSec : Int
  avgResponseMs : Option Int
deriving DecidableEq, Repr

/-- Org-wide (or per-monitor) rolled-up totals across the range, in one query. -/
def totals (stats : List (StatRow μ)) (scope : StatScope μ) : Totals :=
  let rows := scopedRows stats scope
  { upChecks := upChecksOf rows
    totalChecks := totalChecksOf rows
    downChecks := downChecksOf rows
    downtimeSec := downtimeSecOf rows
    avgResponseMs := avgResponseMsOf rows }

section
-- `round2((up / total) * 100)`, in the numbers of the host
variable (percent : Nat → Nat → ρ)

def pct (up total : Nat) : Option ρ := if 0 < total then some (percent up total) else none

/-! ## the daily series -/

structure DailyRow where
  day : Int
  total_checks : Nat
  up_checks : Nat
  down_checks : Nat
  avg_response_ms : Option Int
deriving DecidableEq, Repr

structure DailyPoint (ρ : Type) where
  day : Int
  uptimePct : Option ρ
  avgResponseMs : Option Int
  totalChecks : Nat
  failedChecks : Nat
deriving DecidableEq, Repr

/-- The series' query: one row a day that has any. -/
def dailyRows (stats : List (StatRow μ)) (scope : StatScope μ) : List DailyRow :=
  let rows := scopedRows stats scope
  (keys StatRow.day rows).map fun day =>
    let ofDay := group StatRow.day rows day
    { day, total_checks := totalChecksOf ofDay, up_checks := upChecksOf ofDay
      down_checks := downChecksOf ofDay, avg_response_ms := avgResponseMsOf ofDay }

/-- The days of a range, the earliest first. -/
def daysOf (range : AnalyticsRange) : List Int :=
  (List.range range.days).map fun i : Nat => dayOf (startOfUtcDay range.since + i * millisPerDay)

/-- The row of a day, if the query has one. -/
def byDay (stats : List (StatRow μ)) (scope : StatScope μ) (day : Int) : Option DailyRow :=
  (dailyRows stats scope).find? fun r => r.day = day

/-- A continuous series, so charts have no gaps for quiet days. -/
def dailySeries (stats : List (StatRow μ)) (scope : StatScope μ) (range : AnalyticsRange) :
    List (DailyPoint ρ) :=
  (daysOf range).map fun key =>
    let r := byDay stats scope key
    let total := (r.map (·.total_checks)).getD 0
    { day := key
      uptimePct := pct percent ((r.map (·.up_checks)).getD 0) total
      avgResponseMs := r.bind (·.avg_response_ms)
      totalChecks := total
      failedChecks := (r.map (·.down_checks)).getD 0 }

/-! ## the regional breakdown -/

structure RegionRow where
  region : Option ProbeRegion
  total_checks : Nat
  up_checks : Nat
  down_checks : Nat
  avg_response_ms : Option Int
  last_outage : Option Int
deriving DecidableEq, Repr

structure RegionStat (ρ : Type) where
  region : Option ProbeRegion
  avgResponseMs : Option Int
  successRatePct : Option ρ
  failedChecks : Nat
  totalChecks : Nat
  /-- Most recent day with at least one failed check, or null. -/
  lastOutageAt : Option Int
deriving DecidableEq, Repr

def allRegions : List ProbeRegion :=
  [.naEast, .naWest, .euWest, .euCentral, .apSoutheast, .apNortheast, .saEast, .afSouth]

/-- The breakdown's query: it reads per-region rows, whatever the scope resolved to. -/
def regionRows (stats : List (StatRow μ)) (scope : StatScope μ) : List RegionRow :=
  let rows := scopedRows stats { scope with perRegion := true }
  (keys StatRow.region rows).map fun region =>
    let ofRegion := group StatRow.region rows region
    { region, total_checks := totalChecksOf ofRegion, up_checks := upChecksOf ofRegion
      down_checks := downChecksOf ofRegion, avg_response_ms := avgResponseMsOf ofRegion
      last_outage := ((ofRegion.filter fun r => 0 < r.downChecks).map (·.day)).max? }

def regionStats (stats : List (StatRow μ)) (scope : StatScope μ) : List (RegionStat ρ) :=
  let position := fun r : Option ProbeRegion => r.map (allRegions.idxOf ·)
  ((regionRows stats scope).map fun r =>
    ({ region := r.region
       avgResponseMs := r.avg_response_ms
       successRatePct := pct percent r.up_checks r.total_checks
       failedChecks := r.down_checks
       totalChecks := r.total_checks
       lastOutageAt := r.last_outage } : RegionStat ρ)).insertionSort
    fun a b => (position a.region).getD 0 ≤ (position b.region).getD 0

/-! ## the monitors -/

structure PerMonitorRow (μ : Type) where
  monitor_id : μ
  up_checks : Nat
  total_checks : Nat
  downtime_sec : Int
deriving DecidableEq, Repr

/-- Per-monitor SLA rows, with downtime collapsed across regions as in `totals`. -/
def perMonitorTotals (stats : List (StatRow μ)) (scope : StatScope μ) : List (PerMonitorRow μ) :=
  let rows := scopedRows stats scope
  (keys StatRow.monitorId rows).map fun id =>
    let ofMonitor := group StatRow.monitorId rows id
    { monitor_id := id, up_checks := upChecksOf ofMonitor, total_checks := totalChecksOf ofMonitor
      downtime_sec := downtimeSecOf ofMonitor }

/-- Exact p95 latency over the range, from raw checks. -/
def exactP95 (percentileCont : ℚ → List Int → Option Int) (checks : List (CheckRow μ))
    (monitorId : μ) (range : AnalyticsRange) : Option Int :=
  percentileCont (95 / 100) (((checks.filter fun c =>
    c.monitorId = monitorId && dayOf range.since * millisPerDay ≤ c.checkedAt &&
      c.checkedAt < (dayOf range.stop + 1) * millisPerDay && isUp c.status).filterMap
        (·.responseMs)).insertionSort (· ≤ ·))

structure MonitorAnalytics (ρ : Type) where
  rangeDays : Nat
  uptimePct : Option ρ
  avgResponseMs : Option Int
  p95ResponseMs : Option Int
  downtimeSec : Int
  daily : List (DailyPoint ρ)
  regions : List (RegionStat ρ)

def monitor (percentileCont : ℚ → List Int → Option Int) (monitors : List StatusPages.MonitorRow)
    (checks : List (CheckRow Nat)) (stats : List (StatRow Nat)) (organizationId : OrganizationId)
    (monitorId : Nat) (range : AnalyticsRange) : Option (MonitorAnalytics ρ) :=
  if monitors.any fun m =>
      m.id = monitorId && m.organizationId = organizationId && m.deletedAt.isNone then
    let scope := resolveScope stats organizationId range (some monitorId)
    let t := totals stats scope
    some
      { rangeDays := range.days
        uptimePct := pct percent t.upChecks t.totalChecks
        avgResponseMs := t.avgResponseMs
        p95ResponseMs := exactP95 percentileCont checks monitorId range
        downtimeSec := t.downtimeSec
        daily := dailySeries percent stats scope range
        regions := regionStats percent stats scope }
  else none

end

end UptimeFlow.Analytics
