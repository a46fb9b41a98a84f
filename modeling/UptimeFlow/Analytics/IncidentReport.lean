import UptimeFlow.Analytics.Buckets
import UptimeFlow.Analytics.Reports
import UptimeFlow.Sorting

/-!
# UptimeFlow.Analytics.IncidentReport

The incident analytics of an organization: by severity, by cause, by month, and
the longest.

Severities are counted by the database; causes and months in one pass over the
incidents, in the order they started, into two maps.  Every breakdown is a
partition of the same incidents, whatever causes they give (`incidents_adds_up`).

The queries of one report are taken to see one state of the table.
-/

namespace UptimeFlow.Analytics.IncidentReport

open IsoDate Grouping Sorting
open Monitoring (Incident IncidentId IncidentSeverity Instant OrganizationId)
open Buckets (mathRound)

/-! ## the report -/

structure SeverityCount where
  severity : IncidentSeverity
  count : Nat

structure CauseCount where
  cause : List Char
  count : Nat

structure MonthlyIncidentPoint where
  month : List Char
  count : Nat
  avgDurationSec : Option Int

structure LongIncident where
  id : IncidentId
  title : String
  durationSec : Option Int
  startedAt : Instant

structure IncidentAnalytics where
  rangeDays : Nat
  total : Nat
  avgDurationSec : Option Int
  bySeverity : List SeverityCount
  byCause : List CauseCount
  monthly : List MonthlyIncidentPoint
  longest : List LongIncident

def dayKey (date : Instant) : List Char := (toISOString date).take 10

/-- `r.cause?.trim() || "Unknown"` -/
def causeOf (r : Incident) : List Char :=
  let cause := Js.trim ((r.cause.map String.toList).getD [])
  if cause.isEmpty then "Unknown".toList else cause

def monthOf (r : Incident) : List Char := (dayKey r.startedAt).take 7

/-- What is gathered of a month. -/
structure Month where
  count : Nat := 0
  durSum : Int := 0
  durN : Nat := 0

def Month.add (m : Month) (r : Incident) : Month :=
  match r.durationSec with
  | some d => { count := m.count + 1, durSum := m.durSum + d, durN := m.durN + 1 }
  | none => { m with count := m.count + 1 }

/-- `Math.round` of the mean, if there is one. -/
def meanOf (sum : Int) (n : Nat) : Option Int := if 0 < n then some (mathRound (sum / n)) else none

structure Maps where
  causeMap : List (List Char × Nat) := []
  monthMap : List (List Char × Month) := []

/-- One turn of the loop over the incidents. -/
def Maps.add (maps : Maps) (r : Incident) : Maps where
  causeMap := bump 0 (· + 1) (causeOf r) maps.causeMap
  monthMap := bump {} (Month.add · r) (monthOf r) maps.monthMap

/-- `where`: the organization's incidents that started within the range. -/
def inRange (organizationId : OrganizationId) (range : AnalyticsRange) (r : Incident) : Bool :=
  r.organizationId = organizationId && range.since ≤ r.startedAt && r.startedAt ≤ range.stop

def durations (rows : List Incident) : List Int := rows.filterMap (·.durationSec)

def toLong (r : Incident) : LongIncident := ⟨r.id, r.title, r.durationSec, r.startedAt⟩

/-- The incidents, from the longest on. -/
def byDuration (rows : List Incident) : List Incident :=
  (rows.filter (·.durationSec.isSome)).insertionSort fun a b =>
    b.durationSec.getD 0 ≤ a.durationSec.getD 0

/-- The rows of the range, by when they started. -/
def rowsOf (table : List Incident) (organizationId : OrganizationId) (range : AnalyticsRange) :
    List Incident :=
  (table.filter (inRange organizationId range)).insertionSort fun a b => a.startedAt ≤ b.startedAt

def incidents (table : List Incident) (organizationId : OrganizationId) (range : AnalyticsRange) :
    IncidentAnalytics :=
  let selected := table.filter (inRange organizationId range)
  let rows := rowsOf table organizationId range
  let maps := rows.foldl Maps.add {}
  { rangeDays := range.days
    total := rows.length
    avgDurationSec := meanOf (durations selected).sum (durations selected).length
    bySeverity := (keys (·.severity) selected).map fun severity =>
      ⟨severity, (group (·.severity) selected severity).length⟩
    byCause := (maps.causeMap.map fun e => CauseCount.mk e.1 e.2).insertionSort
      fun a b => b.count ≤ a.count
    monthly := (maps.monthMap.insertionSort fun a b => a.1 ≤ b.1).map fun e =>
      ⟨e.1, e.2.count, meanOf e.2.durSum e.2.durN⟩
    longest := ((byDuration rows).take 5).map toLong }

/-! ## what a report says -/

/-- Each key of the rows has one entry, with the number of its rows. -/
structure Breakdown {κ : Type} [DecidableEq κ] (rows : List Incident) (key : Incident → κ)
    (entries : List (κ × Nat)) : Prop where
  nodup : (entries.map Prod.fst).Nodup
  keys : ∀ k, k ∈ entries.map Prod.fst ↔ ∃ r ∈ rows, key r = k
  counts : ∀ e ∈ entries, e.2 = (group key rows e.1).length
  sum : (entries.map Prod.snd).sum = rows.length

/-- Where a key is seen first. -/
def seenAt {κ : Type} [DecidableEq κ] (rows : List Incident) (key : Incident → κ) (k : κ) :
    Nat :=
  (rows.map key).idxOf k

/-- How long an incident took; the report asks it of those that are over. -/
def lasted (r : Incident) : Int := r.durationSec.getD 0

/-- The report is of these incidents, in the order they started. -/
structure AddsUp (rows : List Incident) (report : IncidentAnalytics) : Prop where
  total : report.total = rows.length
  average : report.avgDurationSec = meanOf (durations rows).sum (durations rows).length
  severities : Breakdown rows (·.severity) (report.bySeverity.map fun c => (c.severity, c.count))
  causes : Breakdown rows causeOf (report.byCause.map fun c => (c.cause, c.count))
  months : Breakdown rows monthOf (report.monthly.map fun m => (m.month, m.count))
  monthAverages : ∀ m ∈ report.monthly, m.avgDurationSec =
    meanOf (durations (group monthOf rows m.month)).sum
      (durations (group monthOf rows m.month)).length
  /-- The most frequent cause first; of equally frequent ones the one seen first. -/
  causeOrder : report.byCause.Pairwise (Stably (fun a b => b.count ≤ a.count) fun a b =>
    seenAt rows causeOf a.cause < seenAt rows causeOf b.cause)
  /-- What started in an earlier month started earlier. -/
  monthOrder : report.monthly.Pairwise fun a b => ∀ i ∈ rows, ∀ j ∈ rows,
    monthOf i = a.month → monthOf j = b.month → i.startedAt < j.startedAt
  /-- Five of the longest, or all that are over. -/
  longest : ∃ first rest, report.longest = first.map toLong ∧
    (rows.filter (·.durationSec.isSome)).Perm (first ++ rest) ∧
      first.length = min 5 (rows.filter (·.durationSec.isSome)).length ∧
        first.Pairwise (fun a b => lasted b ≤ lasted a) ∧
          ∀ a ∈ first, ∀ b ∈ rest, lasted b ≤ lasted a

/-! ## the loop -/

theorem foldl_add (rows : List Incident) :
    rows.foldl Maps.add {} =
      { causeMap := values 0 (fun n _ => n + 1) causeOf rows
        monthMap := values {} Month.add monthOf rows } := by
  rw [← foldl_bump, ← foldl_bump]
  induction rows using List.reverseRecOn with
  | nil => rfl
  | append_singleton rows r ih =>
      rw [List.foldl_concat, ih, Maps.add, List.foldl_concat, List.foldl_concat]

theorem foldl_count (rows : List Incident) : rows.foldl (fun n _ => n + 1) 0 = rows.length := by
  induction rows using List.reverseRecOn with
  | nil => rfl
  | append_singleton rows r ih =>
      rw [List.foldl_concat, ih, List.length_append, List.length_singleton]

theorem foldl_month (rows : List Incident) :
    rows.foldl Month.add {} =
      ⟨rows.length, (durations rows).sum, (durations rows).length⟩ := by
  induction rows using List.reverseRecOn with
  | nil => rfl
  | append_singleton rows r ih =>
      rw [List.foldl_concat, ih, Month.add]
      cases hd : r.durationSec <;> simp [durations, hd]

/-- The entries of the keys in order of first appearance. -/
def counted {κ : Type} [DecidableEq κ] (key : Incident → κ) (rows : List Incident) :
    List (κ × Nat) :=
  (firstKeys key rows).map fun k => (k, (group key rows k).length)

section
variable {κ : Type} [DecidableEq κ] {rows : List Incident} {key : Incident → κ}
  {entries entries' : List (κ × Nat)}

theorem Breakdown.perm (h : Breakdown rows key entries) (hperm : entries.Perm entries') :
    Breakdown rows key entries' where
  nodup := (hperm.map _).nodup_iff.1 h.nodup
  keys k := (hperm.map _).mem_iff.symm.trans (h.keys k)
  counts e he := h.counts e (hperm.mem_iff.2 he)
  sum := (hperm.map _).sum_eq.symm.trans h.sum

theorem breakdown_counted : Breakdown rows key (counted key rows) := by
  have hfst : (counted key rows).map Prod.fst = firstKeys key rows := by
    simp [counted, Function.comp_def]
  refine ⟨?_, fun k => ?_, fun e he => ?_, ?_⟩
  · rw [hfst]
    exact firstAppearance_firstKeys.nodup
  · rw [hfst]
    exact firstAppearance_firstKeys.1 k
  · obtain ⟨k, -, rfl⟩ := List.mem_map.1 he
    rfl
  · have hsum : ((firstKeys key rows).map fun k => ((group key rows k).map fun _ => 1).sum).sum =
        (rows.map fun _ => 1).sum := sum_firstKeys _
    simpa [counted, Function.comp_def] using hsum

/-- The database counts the groups of the same rows in an order of its own. -/
theorem breakdown_keys {selected : List Incident} (hperm : selected.Perm rows) :
    Breakdown rows key ((keys key selected).map fun k => (k, (group key selected k).length)) := by
  have hfst : ((keys key selected).map fun k => (k, (group key selected k).length)).map Prod.fst =
      keys key selected := by
    simp [Function.comp_def]
  refine ⟨?_, fun k => ?_, fun e he => ?_, ?_⟩
  · rw [hfst]
    exact nodup_keys
  · rw [hfst, mem_keys]
    simp only [hperm.mem_iff]
  · obtain ⟨k, -, rfl⟩ := List.mem_map.1 he
    exact (hperm.filter _).length_eq
  · have hsum : ((keys key selected).map fun k =>
        ((group key selected k).map fun _ => 1).sum).sum = (selected.map fun _ => 1).sum :=
      sum_keys _
    rw [← hperm.length_eq]
    simpa [Function.comp_def] using hsum

end

/-! ## causes and months -/

theorem causeMap_eq (rows : List Incident) :
    (rows.foldl Maps.add {}).causeMap = counted causeOf rows := by
  rw [foldl_add]
  simp only [values, counted, foldl_count]

theorem monthMap_eq (rows : List Incident) :
    (rows.foldl Maps.add {}).monthMap = (firstKeys monthOf rows).map fun k =>
      (k, ⟨(group monthOf rows k).length, (durations (group monthOf rows k)).sum,
        (durations (group monthOf rows k)).length⟩) := by
  rw [foldl_add]
  simp only [values, foldl_month]

instance : Std.Total fun a b : CauseCount => b.count ≤ a.count := ⟨fun _ _ => Nat.le_total _ _⟩

instance : IsTrans CauseCount fun a b => b.count ≤ a.count :=
  ⟨fun _ _ _ hab hbc => hbc.trans hab⟩

instance : Std.Total fun a b : List Char × Month => a.1 ≤ b.1 := ⟨fun _ _ => le_total _ _⟩

instance : IsTrans (List Char × Month) fun a b => a.1 ≤ b.1 :=
  ⟨fun _ _ _ hab hbc => hab.trans hbc⟩

instance : Std.Total fun a b : Incident => lasted b ≤ lasted a := ⟨fun _ _ => Int.le_total _ _⟩

instance : IsTrans Incident fun a b => lasted b ≤ lasted a :=
  ⟨fun _ _ _ hab hbc => hbc.trans hab⟩

section
variable {table : List Incident} {organizationId : OrganizationId} {range : AnalyticsRange}
  {rows : List Incident}

theorem perm_rowsOf :
    (table.filter (inRange organizationId range)).Perm (rowsOf table organizationId range) :=
  (List.perm_insertionSort _ _).symm

/-- The causes, before they are sorted, are in order of first appearance. -/
theorem pairwise_causes : ((counted causeOf rows).map fun e => CauseCount.mk e.1 e.2).Pairwise
    fun a b => seenAt rows causeOf a.cause < seenAt rows causeOf b.cause := by
  rw [counted, List.map_map, List.pairwise_map]
  exact eraseDups_idxOf (rows.map causeOf)

theorem breakdown_byCause : Breakdown rows causeOf
    ((((counted causeOf rows).map fun e => CauseCount.mk e.1 e.2).insertionSort
      fun a b => b.count ≤ a.count).map fun c => (c.cause, c.count)) := by
  refine breakdown_counted.perm ?_
  have hsort := (List.perm_insertionSort (fun a b : CauseCount => b.count ≤ a.count)
    ((counted causeOf rows).map fun e => CauseCount.mk e.1 e.2)).symm.map fun c =>
      (c.cause, c.count)
  have hback : (fun c : CauseCount => (c.cause, c.count)) ∘ (fun e => CauseCount.mk e.1 e.2) =
      id := rfl
  rwa [List.map_map, hback, List.map_id] at hsort

/-- An incident that started in an earlier month, in the years of four digits, started earlier. -/
theorem startedAt_lt {i j : Incident} (hi : InYears i.startedAt) (hj : InYears j.startedAt)
    (h : monthOf i < monthOf j) : i.startedAt < j.startedAt := by
  have hkey : ∀ {t : Instant}, InYears t → dayKey t = dayParam t := by
    intro t ht
    have hpositive := ht.1
    unfold dayOf at hpositive
    rw [dayParam_eq ht, dayKey, take_toISOString (by omega) ht.2]
    rfl
  have hlength : ∀ {t : Instant}, InYears t → ((dayKey t).take 7).length = 7 := by
    intro t ht
    rw [hkey ht, dayParam_eq ht]
    simp [dateText, length_fixed]
  have htext : dayKey i.startedAt < dayKey j.startedAt := by
    rw [← List.take_append_drop 7 (dayKey i.startedAt),
      ← List.take_append_drop 7 (dayKey j.startedAt)]
    exact append_lt_append ((hlength hi).trans (hlength hj).symm) h _ _
  rw [hkey hi, hkey hj, dayParam_lt_iff hi hj] at htext
  by_contra hle
  have hmono := Int.ediv_le_ediv (show (0 : Int) < millisPerDay by decide) (not_lt.1 hle)
  unfold dayOf at htext
  omega

/-- What is gathered of the months, sorted by their texts. -/
def monthsOf (rows : List Incident) : List (List Char × Month) :=
  ((firstKeys monthOf rows).map fun k =>
    (k, (⟨(group monthOf rows k).length, (durations (group monthOf rows k)).sum,
      (durations (group monthOf rows k)).length⟩ : Month))).insertionSort fun a b => a.1 ≤ b.1

theorem mem_monthsOf {e : List Char × Month} (he : e ∈ monthsOf rows) :
    e.2 = ⟨(group monthOf rows e.1).length, (durations (group monthOf rows e.1)).sum,
      (durations (group monthOf rows e.1)).length⟩ := by
  obtain ⟨k, -, rfl⟩ := List.mem_map.1 ((List.mem_insertionSort _).1 he)
  rfl

theorem breakdown_monthsOf :
    Breakdown rows monthOf ((monthsOf rows).map fun e => (e.1, e.2.count)) := by
  refine breakdown_counted.perm ?_
  have hsort := (List.perm_insertionSort (fun a b : List Char × Month => a.1 ≤ b.1)
    ((firstKeys monthOf rows).map fun k => (k, (⟨(group monthOf rows k).length,
      (durations (group monthOf rows k)).sum,
      (durations (group monthOf rows k)).length⟩ : Month)))).symm.map fun e => (e.1, e.2.count)
  rwa [List.map_map] at hsort

/-- The months are in strict order. -/
theorem pairwise_monthsOf : (monthsOf rows).Pairwise fun a b => a.1 < b.1 := by
  have hsorted : (monthsOf rows).Pairwise fun a b => a.1 ≤ b.1 := List.pairwise_insertionSort _ _
  have hnodup : (monthsOf rows).Pairwise fun a b => a.1 ≠ b.1 := by
    have hkeys := (@breakdown_monthsOf rows).nodup
    rw [List.map_map] at hkeys
    exact List.pairwise_map.1 hkeys
  exact (hsorted.and hnodup).imp fun h => lt_of_le_of_ne h.1 h.2

/-! ## the report adds up -/

/-- **The report adds up.**  Severities, causes and months each count every incident of the range
once; causes are in order of frequency, months in order of time, and the longest are not exceeded
by any other. -/
theorem incidents_adds_up (table : List Incident) (organizationId : OrganizationId)
    {range : AnalyticsRange} (hsince : InYears range.since) (hstop : InYears range.stop) :
    AddsUp (rowsOf table organizationId range) (incidents table organizationId range) := by
  obtain ⟨rows, hrows⟩ : ∃ rows, rows = rowsOf table organizationId range := ⟨_, rfl⟩
  have hperm : (table.filter (inRange organizationId range)).Perm rows := hrows ▸ perm_rowsOf
  have hyears : ∀ r ∈ rows, InYears r.startedAt := by
    intro r hr
    obtain ⟨-, hin⟩ := List.mem_filter.1 (hperm.mem_iff.2 hr)
    simp only [inRange, Bool.and_eq_true, decide_eq_true_eq] at hin
    exact inYears_of_le hsince hstop hin.1.2 hin.2
  have hmonthly : (incidents table organizationId range).monthly = (monthsOf rows).map fun e =>
      ⟨e.1, e.2.count, meanOf e.2.durSum e.2.durN⟩ := by
    rw [hrows, monthsOf, ← monthMap_eq]
    rfl
  have hcauses : (incidents table organizationId range).byCause =
      ((counted causeOf rows).map fun e => CauseCount.mk e.1 e.2).insertionSort
        fun a b => b.count ≤ a.count := by
    rw [hrows, ← causeMap_eq]
    rfl
  rw [← hrows]
  refine {
    total := congrArg List.length hrows.symm
    average := ?_, severities := ?_, causes := ?_, months := ?_, monthAverages := ?_
    causeOrder := ?_, monthOrder := ?_, longest := ?_ }
  · have hdurations := hperm.filterMap (·.durationSec)
    rw [durations, ← hdurations.sum_eq, ← hdurations.length_eq]
    rfl
  · have hcounts : Breakdown rows (·.severity) _ := breakdown_keys hperm
    simpa [incidents, Function.comp_def] using hcounts
  · rw [hcauses]
    exact breakdown_byCause
  · rw [hmonthly, List.map_map]
    exact breakdown_monthsOf
  · rw [hmonthly]
    intro m hm
    obtain ⟨e, he, rfl⟩ := List.mem_map.1 hm
    rw [mem_monthsOf he]
  · rw [hcauses]
    exact pairwise_insertionSort_stable pairwise_causes
  · rw [hmonthly, List.pairwise_map]
    refine pairwise_monthsOf.imp fun {a b} hab i hi j hj hia hjb => ?_
    exact startedAt_lt (hyears i hi) (hyears j hj) (by rwa [hia, hjb])
  · obtain ⟨rest, hsplit, hsorted, hapart⟩ := take_insertionSort
      (r := fun a b : Incident => lasted b ≤ lasted a) (rows.filter (·.durationSec.isSome)) 5
    refine ⟨_, rest, ?_, hsplit, ?_, hsorted, hapart⟩
    · rw [hrows]
      rfl
    · rw [List.length_take, List.length_insertionSort]

/-- Three incidents of one organization, and one of another. -/
def fourIncidents : List Incident :=
  let one : Incident := { id := 1, organizationId := "acme", monitorId := "api", status := .resolved
                          severity := .major, title := "API is down", summary := none
                          cause := some " timeout ", fingerprint := none
                          startedAt := 1767225600000, durationSec := some 60
                          createdAt := 1767225600000 }
  [one, { one with id := 2, cause := none, startedAt := 1769904000000, durationSec := none },
    { one with id := 3, cause := some "timeout", startedAt := 1769904060000, severity := .minor
               durationSec := some 90 },
    { one with id := 4, organizationId := "globex" }]

theorem incidents_adds_up_four :
    AddsUp (rowsOf fourIncidents "acme" (rangeForDays 90 1769990400000))
      (incidents fourIncidents "acme" (rangeForDays 90 1769990400000)) :=
  incidents_adds_up fourIncidents "acme" (by decide +kernel) (by decide +kernel)

end

end UptimeFlow.Analytics.IncidentReport
