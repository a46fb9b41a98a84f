import Mathlib.Data.String.Basic
import UptimeFlow.Shared.Pagination

/-!
# UptimeFlow.Monitoring.Listings

The listings of incidents and of check results, page by page.

Incidents are listed as most listings are, by the shared helpers; the listing
of check results has the cursor, the order and the page written out for the
column `checkedAt`.  Both are descending listings of the rows in their scope,
and so are complete.
-/

namespace UptimeFlow.Monitoring.Listings

open Keyset Shared

variable {ι : Type} [LinearOrder ι] (ids : IdText ι) (lossy : List UInt8 → List Char)
  (legacy : List Char → Option Instant)

/-! ## incidents -/

structure IncidentListItem (ι : Type) where
  id : ι
  status : IncidentStatus
  severity : IncidentSeverity
  title : String
  summary : Option String
  monitorId : Option MonitorId
  monitorName : Option String
  startedAt : Instant
  acknowledgedAt : Option Instant
  resolvedAt : Option Instant
  durationSec : Option Int
  createdAt : Instant
deriving DecidableEq, Repr

/-- A row with the name of its monitor joined to it. -/
structure IncidentRow (ι : Type) where
  id : ι
  organizationId : OrganizationId
  status : IncidentStatus
  severity : IncidentSeverity
  title : String
  summary : Option String
  monitorId : Option MonitorId
  monitor : Option String
  startedAt : Instant
  acknowledgedAt : Option Instant
  resolvedAt : Option Instant
  durationSec : Option Int
  createdAt : Instant
deriving DecidableEq, Repr

structure IncidentListQuery where
  limit : Nat
  cursor : Option (List Char) := none
  status : Option IncidentStatus := none
  monitorId : Option MonitorId := none

def toListItem (row : IncidentRow ι) : IncidentListItem ι :=
  { id := row.id, status := row.status, severity := row.severity, title := row.title
    summary := row.summary, monitorId := row.monitorId, monitorName := row.monitor
    startedAt := row.startedAt, acknowledgedAt := row.acknowledgedAt, resolvedAt := row.resolvedAt
    durationSec := row.durationSec, createdAt := row.createdAt }

def incidentColumns : Columns (IncidentRow ι) ι :=
  { ids with id := IncidentRow.id, createdAt := IncidentRow.createdAt }

def incidentItemColumns : Columns (IncidentListItem ι) ι :=
  { ids with id := IncidentListItem.id, createdAt := IncidentListItem.createdAt }

/-- The conditions of the listing besides that of the cursor. -/
def incidentScope (organizationId : OrganizationId) (query : IncidentListQuery)
    (r : IncidentRow ι) : Bool :=
  r.organizationId = organizationId && query.status.all (r.status = ·) &&
    query.monitorId.all (r.monitorId = some ·)

def list (rows : List (IncidentRow ι)) (organizationId : OrganizationId)
    (query : IncidentListQuery) : Except Failure (Page (IncidentListItem ι)) := do
  let cond ← whereAfter (incidentColumns ids) lossy legacy (afterCursorDesc (incidentColumns ids))
    query.cursor
  let found := (orderByDesc (incidentColumns ids)
    (rows.filter fun r => incidentScope organizationId query r && cond r)).take (query.limit + 1)
  return buildPage (incidentItemColumns ids) (found.map toListItem) query.limit

/-! ## check results -/

structure CheckResultItem (ι : Type) where
  id : ι
  region : ProbeRegion
  status : CheckStatus
  statusCode : Option Int
  responseMs : Option Int
  errorType : Option String
  errorMessage : Option String
  checkedAt : Instant
deriving DecidableEq, Repr

structure CheckResultRow (ι : Type) extends CheckResult where
  id : ι
deriving DecidableEq, Repr

structure CheckResultQuery where
  limit : Nat
  cursor : Option (List Char) := none
  region : Option ProbeRegion := none

def select (row : CheckResultRow ι) : CheckResultItem ι :=
  { id := row.id, region := row.region, status := row.status, statusCode := row.statusCode
    responseMs := row.responseMs, errorType := row.errorType, errorMessage := row.errorMessage
    checkedAt := row.checkedAt }

def checkResultColumns : Columns (CheckResultRow ι) ι :=
  { ids with id := CheckResultRow.id, createdAt := fun r => r.checkedAt }

def checkResultItemColumns : Columns (CheckResultItem ι) ι :=
  { ids with id := CheckResultItem.id, createdAt := CheckResultItem.checkedAt }

/-- The organization's monitor, unless it is deleted. -/
def ownMonitor (monitors : List MonitorRow) (organizationId : OrganizationId)
    (monitorId : MonitorId) : Option MonitorRow :=
  monitors.find? fun m =>
    m.id = monitorId && m.organizationId = organizationId && m.deletedAt.isNone

def checkResultScope (organizationId : OrganizationId) (monitorId : MonitorId)
    (query : CheckResultQuery) (r : CheckResultRow ι) : Bool :=
  r.monitorId = monitorId && r.organizationId = organizationId &&
    query.region.all (r.region = ·)

def listCheckResults (monitors : List MonitorRow) (rows : List (CheckResultRow ι))
    (organizationId : OrganizationId) (monitorId : MonitorId) (query : CheckResultQuery) :
    Except Failure (Option (Page (CheckResultItem ι))) := do
  -- Verify the monitor belongs to this org before exposing check data.
  if (ownMonitor monitors organizationId monitorId).isNone then return none
  -- We encode checkedAt into the cursor's createdAt field.
  let cond ← whereAfter (checkResultColumns ids) lossy legacy
    (fun (ts, id) r => r.checkedAt < ts || (r.checkedAt = ts && r.id < id)) query.cursor
  let rows := ((orderByDesc (checkResultColumns ids)
    (rows.filter fun r => checkResultScope organizationId monitorId query r && cond r)).take
      (query.limit + 1)).map select
  let hasMore : Bool := query.limit < rows.length
  let items := if hasMore then rows.take query.limit else rows
  let nextCursor := match items.getLast? with
    | some last =>
        if hasMore then
          some (encodeCursor { id := ids.write last.id
                               createdAt := IsoDate.toISOString last.checkedAt })
        else none
    | none => none
  return some { items, nextCursor }

/-- `GET /:monitorId/check-results`. -/
def getCheckResults (monitors : List MonitorRow) (rows : List (CheckResultRow ι))
    (organizationId : OrganizationId) (monitorId : MonitorId) (query : CheckResultQuery) :
    Except Failure (Page (CheckResultItem ι)) := do
  match ← listCheckResults ids lossy legacy monitors rows organizationId monitorId query with
  | none => throw (.notFound "Monitor not found.")
  | some page => return page

/-! ## what they list -/

/-- Selecting columns leaves the order as it is. -/
theorem map_orderByDesc {ρ α : Type} (cols : Columns ρ ι) (cols' : Columns α ι) (f : ρ → α)
    (hid : ∀ r, cols'.id (f r) = cols.id r) (hat : ∀ r, cols'.createdAt (f r) = cols.createdAt r)
    (rows : List ρ) : (orderByDesc cols rows).map f = orderByDesc cols' (rows.map f) := by
  refine List.map_insertionSort _ _ f rows fun a _ b _ => ?_
  simp only [Descending, Ascending, hid, hat]

/-- A listing of selected columns is one of the rows in its scope. -/
theorem select_listing {ρ α : Type} (cols : Columns ρ ι) (cols' : Columns α ι) (f : ρ → α)
    (hid : ∀ r, cols'.id (f r) = cols.id r) (hat : ∀ r, cols'.createdAt (f r) = cols.createdAt r)
    (rows : List ρ) (scope : ρ → Bool) (cond : ρ → Bool) (cond' : α → Bool)
    (hcond : ∀ r, cond' (f r) = cond r) (n : Nat) :
    ((orderByDesc cols (rows.filter fun r => scope r && cond r)).take n).map f =
      (orderByDesc cols' (((rows.filter scope).map f).filter cond')).take n := by
  have hfilter : (rows.filter fun r => scope r && cond r).map f =
      ((rows.filter scope).map f).filter cond' := by
    rw [List.filter_map, List.filter_filter]
    congr 1
    refine List.filter_congr fun r _ => ?_
    rw [Function.comp_apply, hcond, Bool.and_comm]
  rw [List.map_take, map_orderByDesc cols cols' f hid hat, hfilter]

/-- The listing's rows, as they are listed. -/
def incidentsOf (organizationId : OrganizationId) (query : IncidentListQuery)
    (rows : List (IncidentRow ι)) : List (IncidentListItem ι) :=
  (rows.filter (incidentScope organizationId query)).map toListItem

def checkResultsOf (organizationId : OrganizationId) (monitorId : MonitorId)
    (query : CheckResultQuery) (rows : List (CheckResultRow ι)) : List (CheckResultItem ι) :=
  (rows.filter (checkResultScope organizationId monitorId query)).map select

omit [LinearOrder ι] in
/-- A cursor means the same position of a row and of what is selected from it. -/
theorem whereAfter_select {ρ α : Type} (cols : Columns ρ ι) (cols' : Columns α ι) (f : ρ → α)
    (hread : cols'.read = cols.read) (after : Instant × ι → ρ → Bool)
    (after' : Instant × ι → α → Bool) (hafter : ∀ p r, after' p (f r) = after p r)
    (raw : Option (List Char)) :
    (∃ e, whereAfter cols lossy legacy after raw = .error e ∧
      whereAfter cols' lossy legacy after' raw = .error e) ∨
    ∃ cond cond', whereAfter cols lossy legacy after raw = .ok cond ∧
      whereAfter cols' lossy legacy after' raw = .ok cond' ∧ ∀ r, cond' (f r) = cond r := by
  unfold whereAfter
  cases hparse : parseCursor lossy raw with
  | error e => exact .inl ⟨e, rfl, rfl⟩
  | ok cursor =>
      cases cursor with
      | none => exact .inr ⟨_, _, rfl, rfl, fun _ => rfl⟩
      | some cursor =>
          have hposition : position cols' legacy cursor = position cols legacy cursor := by
            unfold position
            rw [hread]
          simp only [bind, Except.bind, hposition]
          cases position cols legacy cursor with
          | error e => exact .inl ⟨e, rfl, rfl⟩
          | ok p => exact .inr ⟨_, _, rfl, rfl, hafter p⟩

theorem list_eq (rows : List (IncidentRow ι)) (organizationId : OrganizationId)
    (query : IncidentListQuery) :
    list ids lossy legacy rows organizationId query =
      listDesc (incidentItemColumns ids) lossy legacy (incidentsOf organizationId query rows)
        query.cursor query.limit := by
  rw [list, listDesc]
  rcases whereAfter_select lossy legacy (incidentColumns ids) (incidentItemColumns ids) toListItem
      rfl (afterCursorDesc (incidentColumns ids)) (afterCursorDesc (incidentItemColumns ids))
      (fun _ _ => rfl) query.cursor with
    ⟨e, herror, herror'⟩ | ⟨cond, cond', hok, hok', hcond⟩
  · rw [herror, herror']
    rfl
  · rw [hok, hok']
    simp only [bind, Except.bind, pure, Except.pure]
    rw [select_listing (incidentColumns ids) (incidentItemColumns ids) toListItem (fun _ => rfl)
      (fun _ => rfl) rows _ cond cond' hcond, incidentsOf]

theorem getCheckResults_eq {monitors : List MonitorRow} {organizationId : OrganizationId}
    {monitorId : MonitorId} (hmonitor : (ownMonitor monitors organizationId monitorId).isSome)
    (rows : List (CheckResultRow ι)) (query : CheckResultQuery) :
    getCheckResults ids lossy legacy monitors rows organizationId monitorId query =
      listDesc (checkResultItemColumns ids) lossy legacy
        (checkResultsOf organizationId monitorId query rows) query.cursor query.limit := by
  obtain ⟨m, hm⟩ := Option.isSome_iff_exists.1 hmonitor
  rw [getCheckResults, listCheckResults, listDesc]
  rcases whereAfter_select lossy legacy (checkResultColumns ids) (checkResultItemColumns ids) select
      rfl (fun (ts, id) r => r.checkedAt < ts || (r.checkedAt = ts && r.id < id))
      (afterCursorDesc (checkResultItemColumns ids)) (fun _ _ => rfl) query.cursor with
    ⟨e, herror, herror'⟩ | ⟨cond, cond', hok, hok', hcond⟩
  · rw [herror, herror']
    simp [hm, bind, Except.bind]
  · rw [hok, hok']
    simp only [hm, Option.isNone_some, Bool.false_eq_true, if_false, bind, Except.bind, pure,
      Except.pure]
    rw [select_listing (checkResultColumns ids) (checkResultItemColumns ids) select (fun _ => rfl)
      (fun _ => rfl) rows _ cond cond' hcond, buildPage, checkResultsOf]
    obtain ⟨found, hfound⟩ : ∃ found, found = (orderByDesc (checkResultItemColumns ids)
      (((rows.filter (checkResultScope organizationId monitorId query)).map select).filter
        cond')).take (query.limit + 1) := ⟨_, rfl⟩
    rw [← hfound]
    cases hlast : (if decide (query.limit < found.length) = true then found.take query.limit
      else found).getLast? <;> rfl

/-! ## walks -/

theorem completeWalks_desc {ρ τ : Type} (cols : Columns ρ ι) {limit : Nat} (hlimit : 1 ≤ limit)
    (rowsOf : τ → List ρ) {distinct : τ → Prop}
    (hdistinct : ∀ t, distinct t → ((rowsOf t).map cols.id).Nodup) :
    CompleteWalks (Descending cols) limit distinct rowsOf
      (fun table raw => listDesc cols lossy legacy (rowsOf table) raw limit) := by
  have hserve : Serves (fun r => OrderDual.toDual (key cols r)) (cursorOf cols) limit rowsOf
      (fun table raw => listDesc cols lossy legacy (rowsOf table) raw limit) := fun table last =>
    listDesc_serves cols lossy legacy hlimit (rowsOf table) last
  exact completeWalks_of_serves hserve (descending_iff cols) hlimit fun t ht =>
    nodup_key cols (hdistinct t ht)

theorem completeWalks_asc {ρ : Type} (cols : Columns ρ ι) {limit : Nat} (hlimit : 1 ≤ limit) :
    CompleteWalks (Ascending cols) limit (fun rows => (rows.map cols.id).Nodup) id
      (fun rows raw => listAsc cols lossy legacy rows raw limit) :=
  completeWalks_of_serves (listAsc_serves cols lossy legacy hlimit) (ascending_iff cols) hlimit
    fun _ => nodup_key cols

omit [LinearOrder ι] in
theorem nodup_select {ρ α : Type} {id : ρ → ι} {id' : α → ι} {f : ρ → α}
    (hid : ∀ r, id' (f r) = id r) {rows : List ρ} (h : (rows.map id).Nodup) (scope : ρ → Bool) :
    (((rows.filter scope).map f).map id').Nodup := by
  have hmap : ((rows.filter scope).map f).map id' = (rows.filter scope).map id := by
    rw [List.map_map]
    exact List.map_congr_left fun r _ => hid r
  rw [hmap]
  exact h.sublist (List.filter_sublist.map id)

/-- **Following the cursors delivers every row once, in order**: in the ascending listings, and
in the descending ones, also while rows are delivered and deleted, or inserted before some row
already delivered. -/
theorem pages_complete {ρ : Type} (cols : Columns ρ ι) {limit : Nat} (hlimit : 1 ≤ limit) :
    CompleteWalks (Ascending cols) limit (fun rows => (rows.map cols.id).Nodup) id
      (fun rows cursor => listAsc cols lossy legacy rows cursor limit) ∧
    CompleteWalks (Descending cols) limit (fun rows => (rows.map cols.id).Nodup) id
      (fun rows cursor => listDesc cols lossy legacy rows cursor limit) ∧
    (∀ organizationId status monitorId,
      CompleteWalks (Descending (incidentItemColumns ids)) limit
        (fun rows => (rows.map IncidentRow.id).Nodup)
        (incidentsOf organizationId { limit, status, monitorId })
        (fun rows cursor =>
          list ids lossy legacy rows organizationId { limit, cursor, status, monitorId })) ∧
    ∀ monitors organizationId monitorId region,
      (ownMonitor monitors organizationId monitorId).isSome →
      CompleteWalks (Descending (checkResultItemColumns ids)) limit
        (fun rows => (rows.map CheckResultRow.id).Nodup)
        (checkResultsOf organizationId monitorId { limit, region })
        (fun rows cursor => getCheckResults ids lossy legacy monitors rows organizationId monitorId
          { limit, cursor, region }) := by
  refine ⟨completeWalks_asc lossy legacy cols hlimit,
    completeWalks_desc lossy legacy cols hlimit id fun _ h => h,
    fun organizationId status monitorId => ?_,
    fun monitors organizationId monitorId region hmonitor => ?_⟩
  · simp only [list_eq]
    refine completeWalks_desc lossy legacy _ hlimit _ fun rows h => ?_
    exact nodup_select (f := toListItem) (fun _ => rfl) h _
  · simp only [getCheckResults_eq ids lossy legacy hmonitor]
    refine completeWalks_desc lossy legacy _ hlimit _ fun rows h => ?_
    exact nodup_select (f := select) (fun _ => rfl) h _

theorem pages_complete_text :
    CompleteWalks (Descending (incidentColumns textIds)) 2
      (fun rows => (rows.map IncidentRow.id).Nodup) id
      (fun rows cursor => listDesc (incidentColumns textIds) (fun _ => []) (fun _ => none) rows
        cursor 2) :=
  (pages_complete textIds (fun _ => []) (fun _ => none) (incidentColumns textIds)
    (by decide : 1 ≤ 2)).2.1

end UptimeFlow.Monitoring.Listings
