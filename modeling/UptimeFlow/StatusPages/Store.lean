import Mathlib.Algebra.GroupWithZero.Nat
import Mathlib.Data.List.Sort
import UptimeFlow.Monitoring.Schema
import UptimeFlow.Runs

/-!
# UptimeFlow.StatusPages.Store

Status pages: the tables, what members may write to them, and what the public
reads.

Every write of a page names the organization it acts for, and finds the page
by both.  The monitors a component links are named by identifier alone; the
foreign key asks that they exist.  Public reads start from the page's slug,
which is unique over all organizations, and join the linked monitors.

Request bodies are taken as the schemas leave them.  Of the tables only what
the public reads or the writes look at is kept, so audit entries, subscribers
and who wrote a row are absent.
-/

namespace UptimeFlow.StatusPages

open Tables
open Monitoring (OrganizationId Instant MonitorLifecycle)

/-! ## rows -/

inductive ComponentStatus where
  | operational | degradedPerformance | partialOutage | majorOutage | underMaintenance
deriving DecidableEq, Repr

inductive Visibility where
  | «public» | unlisted | «private»
deriving DecidableEq, Repr

inductive IncidentStatus where
  | investigating | identified | monitoring | resolved
deriving DecidableEq, Repr

inductive IncidentImpact where
  | none | minor | major | critical | maintenance
deriving DecidableEq, Repr

/-- A row of `monitors`. -/
structure MonitorRow where
  id : Nat
  organizationId : OrganizationId
  state : MonitorLifecycle := .active
  health : MonitorHealth := .pending
  deletedAt : Option Instant := none
deriving DecidableEq, Repr

/-- A row of `monitor_daily_stats`; `day` counts days of the UTC calendar. -/
structure DailyStat where
  organizationId : OrganizationId
  monitorId : Nat
  region : String
  day : Int
  totalChecks : Nat
  upChecks : Nat
deriving DecidableEq, Repr

structure PageRow where
  id : Nat
  organizationId : OrganizationId
  slug : String
  customDomain : Option String
  name : String
  description : Option String
  visibility : Visibility
  branding : Option String
  createdAt : Instant
  updatedAt : Instant
  deletedAt : Option Instant := none
deriving DecidableEq, Repr

structure ComponentRow where
  id : Nat
  statusPageId : Nat
  monitorId : Option Nat
  name : String
  description : Option String
  groupName : Option String
  status : ComponentStatus := .operational
  position : Nat
  showUptime : Bool := true
  createdAt : Instant
deriving DecidableEq, Repr

structure IncidentUpdate where
  status : IncidentStatus
  body : String
  createdAt : Instant
deriving DecidableEq, Repr

/-- A row of `status_page_incidents` with its updates. -/
structure IncidentRow where
  id : Nat
  statusPageId : Nat
  title : String
  status : IncidentStatus
  impact : IncidentImpact
  startedAt : Instant
  resolvedAt : Option Instant := none
  createdAt : Instant
  updates : List IncidentUpdate
deriving DecidableEq, Repr

structure Db where
  monitors : List MonitorRow := []
  dailyStats : List DailyStat := []
  pages : List PageRow := []
  components : List ComponentRow := []
  incidents : List IncidentRow := []
deriving DecidableEq, Repr

/-! ## looking rows up -/

def Db.monitor (db : Db) (id : Nat) : Option MonitorRow := db.monitors.find? (·.id = id)

def Db.page (db : Db) (id : Nat) : Option PageRow := db.pages.find? (·.id = id)

/-- The organization of a monitor, soft-deleted or not. -/
def Db.monitorOrg (db : Db) (id : Nat) : Option OrganizationId :=
  (db.monitor id).map (·.organizationId)

/-- The organization of a page, soft-deleted or not. -/
def Db.pageOrg (db : Db) (id : Nat) : Option OrganizationId :=
  (db.page id).map (·.organizationId)

/-- True when the page exists and belongs to the organization (the tenant guard). -/
def Db.pageInOrg (db : Db) (org : OrganizationId) (pageId : Nat) : Bool :=
  db.pages.any fun p => p.id = pageId ∧ p.organizationId = org ∧ p.deletedAt = none

/-- The look-up a component write makes: the component, on a page of the organization. -/
def Db.componentInOrg (db : Db) (org : OrganizationId) (pageId componentId : Nat) : Bool :=
  db.pageInOrg org pageId &&
    db.components.any fun c => c.id = componentId ∧ c.statusPageId = pageId

/-! ## writes -/

inductive StoreError where
  | planLimit | uniqueViolation | foreignKey
deriving DecidableEq, Repr

/-- How a write ends: it throws, it finds nothing to act on, or it answers with the new
tables. -/
abbrev Outcome (α : Type) := Except StoreError (Option (α × Db))

/-- The tables after a write. -/
def Outcome.settle {α : Type} (db : Db) : Outcome α → Db
  | .ok (some (_, db')) => db'
  | _ => db

structure ComponentInput where
  monitorId : Option Nat := none
  displayName : String
  description : Option String := none
  groupName : Option String := none
  sortOrder : Option Nat := none
deriving DecidableEq, Repr

structure CreatePageInput where
  name : String
  slug : String
  description : Option String := none
  customDomain : Option String := none
  visibility : Option Visibility := none
  isPublic : Option Bool := none
  branding : Option String := none
  components : List ComponentInput := []
deriving DecidableEq, Repr

/-- The visibility to persist, from the (preferred) enum or the legacy flag. -/
def resolveVisibility (visibility : Option Visibility) (isPublic : Option Bool) :
    Option Visibility :=
  match visibility, isPublic with
  | some v, _ => some v
  | none, none => none
  | none, some true => some .public
  | none, some false => some .private

/-- What an operator sees of a page. -/
structure PageSummary where
  id : Nat
  name : String
  slug : String
  description : Option String
  customDomain : Option String
  visibility : Visibility
  isPublic : Bool
  branding : Option String
  createdAt : Instant
  updatedAt : Instant
deriving DecidableEq, Repr

def toSummary (row : PageRow) : PageSummary :=
  { id := row.id, name := row.name, slug := row.slug, description := row.description,
    customDomain := row.customDomain, visibility := row.visibility,
    isPublic := row.visibility = .public, branding := row.branding, createdAt := row.createdAt,
    updatedAt := row.updatedAt }

/-- The rows the inline components of a new page become, numbered from `first`. -/
def inlineComponents (pageId first : Nat) (now : Instant) (inputs : List ComponentInput) :
    List ComponentRow :=
  inputs.zipIdx.map fun (c, i) =>
    { id := first + i, statusPageId := pageId, monitorId := c.monitorId, name := c.displayName,
      description := c.description, groupName := c.groupName, position := c.sortOrder.getD i,
      createdAt := now }

/-- A page's slug or domain is in use by another row. -/
def Db.addressTaken (db : Db) (slug : String) (customDomain : Option String) : Bool :=
  db.pages.any (·.slug = slug) || taken (·.customDomain) customDomain db.pages

/-- A monitor identifier satisfies the foreign key. -/
def Db.monitorExists (db : Db) (id : Nat) : Bool := db.monitors.any (·.id = id)

/-- `create`; `withinLimit` is the answer of the plan's gate. -/
def create (db : Db) (org : OrganizationId) (withinLimit : Bool) (input : CreatePageInput)
    (now : Instant) : Outcome PageSummary :=
  if !withinLimit then .error .planLimit
  else if db.addressTaken input.slug input.customDomain then .error .uniqueViolation
  else if !(input.components.filterMap (·.monitorId)).all db.monitorExists then
    .error .foreignKey
  else
    let row : PageRow :=
      { id := freshId (·.id) db.pages, organizationId := org, slug := input.slug,
        customDomain := input.customDomain, name := input.name, description := input.description,
        visibility := (resolveVisibility input.visibility input.isPublic).getD .public,
        branding := input.branding, createdAt := now, updatedAt := now }
    let rows := inlineComponents row.id (freshId (·.id) db.components) now input.components
    .ok (some (toSummary row,
      { db with pages := db.pages ++ [row], components := db.components ++ rows }))

/-- Fields left out are kept; a nullable field may be set to null. -/
structure UpdatePageInput where
  name : Option String := none
  slug : Option String := none
  description : Option (Option String) := none
  customDomain : Option (Option String) := none
  visibility : Option Visibility := none
  isPublic : Option Bool := none
  branding : Option (Option String) := none
deriving DecidableEq, Repr

def UpdatePageInput.apply (input : UpdatePageInput) (now : Instant) (row : PageRow) : PageRow :=
  { row with
    name := input.name.getD row.name
    slug := input.slug.getD row.slug
    description := input.description.getD row.description
    customDomain := input.customDomain.getD row.customDomain
    visibility := (resolveVisibility input.visibility input.isPublic).getD row.visibility
    branding := input.branding.getD row.branding
    updatedAt := now }

def update (db : Db) (org : OrganizationId) (id : Nat) (input : UpdatePageInput)
    (now : Instant) : Outcome PageSummary :=
  match db.pages.find? fun p => p.id = id ∧ p.organizationId = org ∧ p.deletedAt = none with
  | none => .ok none
  | some existing =>
      let row := input.apply now existing
      let others := { db with pages := db.pages.filter (·.id ≠ id) }
      if others.addressTaken row.slug row.customDomain then .error .uniqueViolation
      else
        .ok (some (toSummary row,
          { db with pages := updateWhere (·.id = id) (input.apply now) db.pages }))

def remove (db : Db) (org : OrganizationId) (id : Nat) (now : Instant) : Outcome Unit :=
  if db.pageInOrg org id then
    let rows := updateWhere (·.id = id)
      (fun p => { p with deletedAt := some now, updatedAt := now }) db.pages
    .ok (some ((), { db with pages := rows }))
  else .ok none

structure CreateComponentInput where
  monitorId : Option Nat := none
  name : String
  description : Option String := none
  groupName : Option String := none
  status : Option ComponentStatus := none
  showUptime : Option Bool := none
  position : Option Nat := none
deriving DecidableEq, Repr

/-- The position below all components of the page. -/
def Db.nextPosition (db : Db) (pageId : Nat) : Nat :=
  freshId (·.position) (db.components.filter (·.statusPageId = pageId))

def createComponent (db : Db) (org : OrganizationId) (pageId : Nat) (input : CreateComponentInput)
    (now : Instant) : Outcome ComponentRow :=
  if !db.pageInOrg org pageId then .ok none
  else if !input.monitorId.all db.monitorExists then .error .foreignKey
  else
    let row : ComponentRow :=
      { id := freshId (·.id) db.components, statusPageId := pageId, monitorId := input.monitorId,
        name := input.name, description := input.description, groupName := input.groupName,
        status := input.status.getD .operational, showUptime := input.showUptime.getD true,
        position := input.position.getD (db.nextPosition pageId), createdAt := now }
    .ok (some (row, { db with components := db.components ++ [row] }))

structure UpdateComponentInput where
  monitorId : Option (Option Nat) := none
  name : Option String := none
  description : Option (Option String) := none
  groupName : Option (Option String) := none
  status : Option ComponentStatus := none
  showUptime : Option Bool := none
  position : Option Nat := none
deriving DecidableEq, Repr

def UpdateComponentInput.apply (input : UpdateComponentInput) (row : ComponentRow) :
    ComponentRow :=
  { row with
    monitorId := input.monitorId.getD row.monitorId
    name := input.name.getD row.name
    description := input.description.getD row.description
    groupName := input.groupName.getD row.groupName
    status := input.status.getD row.status
    showUptime := input.showUptime.getD row.showUptime
    position := input.position.getD row.position }

/-- The monitor an update connects. -/
def UpdateComponentInput.connects (input : UpdateComponentInput) : Option Nat :=
  input.monitorId.join

def updateComponent (db : Db) (org : OrganizationId) (pageId componentId : Nat)
    (input : UpdateComponentInput) : Outcome ComponentRow :=
  match db.components.find? fun c => c.id = componentId ∧ c.statusPageId = pageId with
  | none => .ok none
  | some existing =>
      if !db.pageInOrg org pageId then .ok none
      else if !input.connects.all db.monitorExists then .error .foreignKey
      else
        .ok (some (input.apply existing,
          { db with components := updateWhere (·.id = componentId) input.apply db.components }))

def deleteComponent (db : Db) (org : OrganizationId) (pageId componentId : Nat) : Outcome Unit :=
  if db.componentInOrg org pageId componentId then
    .ok (some ((), { db with components := db.components.filter (·.id ≠ componentId) }))
  else .ok none

/-- The order of components on a page. -/
def ComponentRow.before (a b : ComponentRow) : Bool :=
  a.position < b.position || (a.position = b.position && a.createdAt ≤ b.createdAt)

def Db.pageComponents (db : Db) (pageId : Nat) : List ComponentRow :=
  (db.components.filter (·.statusPageId = pageId)).insertionSort (fun a b => a.before b)

/-- Only identifiers of the page's own components move. -/
def reorderComponents (db : Db) (org : OrganizationId) (pageId : Nat) (orderedIds : List Nat) :
    Outcome (List ComponentRow) :=
  if !db.pageInOrg org pageId then .ok none
  else
    let owned := (db.components.filter (·.statusPageId = pageId)).map (·.id)
    let ordered := orderedIds.filter owned.contains
    let moved := ordered.zipIdx.foldl
      (fun rows (id, i) => updateWhere (·.id = id) (fun c => { c with position := i }) rows)
      db.components
    let db' := { db with components := moved }
    .ok (some (db'.pageComponents pageId, db'))

def openIncident (db : Db) (org : OrganizationId) (pageId : Nat) (title body : String)
    (impact : Option IncidentImpact) (now : Instant) : Outcome IncidentRow :=
  if !db.pageInOrg org pageId then .ok none
  else
    let row : IncidentRow :=
      { id := freshId (·.id) db.incidents, statusPageId := pageId, title, status := .investigating,
        impact := impact.getD .minor, startedAt := now, createdAt := now,
        updates := [⟨.investigating, body, now⟩] }
    .ok (some (row, { db with incidents := db.incidents ++ [row] }))

def addIncidentUpdate (db : Db) (org : OrganizationId) (pageId incidentId : Nat)
    (status : IncidentStatus) (body : String) (now : Instant) : Outcome IncidentRow :=
  match db.incidents.find? fun i => i.id = incidentId ∧ i.statusPageId = pageId with
  | none => .ok none
  | some existing =>
      if !db.pageInOrg org pageId then .ok none
      else
        let write := fun i : IncidentRow => { i with
          status, resolvedAt := if status = .resolved then some now else none,
          updates := ⟨status, body, now⟩ :: i.updates }
        .ok (some (write existing,
          { db with incidents := updateWhere (·.id = incidentId) write db.incidents }))

/-! ## monitors -/

/-- `monitors.create`, in the columns kept here. -/
def createMonitor (db : Db) (org : OrganizationId) (withinLimit : Bool) : Outcome Nat :=
  if !withinLimit then .error .planLimit
  else
    let id := freshId (·.id) db.monitors
    .ok (some (id, { db with monitors := db.monitors ++ [{ id, organizationId := org }] }))

/-- The writes of a monitor's own organization: they change the row it finds. -/
def Db.writeMonitor (db : Db) (org : OrganizationId) (id : Nat) (write : MonitorRow → MonitorRow) :
    Outcome Unit :=
  if db.monitors.any fun m => m.id = id ∧ m.organizationId = org ∧ m.deletedAt = none then
    .ok (some ((), { db with monitors := updateWhere (·.id = id) write db.monitors }))
  else .ok none

def removeMonitor (db : Db) (org : OrganizationId) (id : Nat) (now : Instant) : Outcome Unit :=
  db.writeMonitor org id fun m => { m with deletedAt := some now }

def pauseMonitor (db : Db) (org : OrganizationId) (id : Nat) : Outcome Unit :=
  db.writeMonitor org id fun m =>
    if m.state ≠ .paused then { m with state := .paused, health := .paused } else m

def resumeMonitor (db : Db) (org : OrganizationId) (id : Nat) : Outcome Unit :=
  db.writeMonitor org id fun m =>
    if m.state ≠ .active then { m with state := .active, health := .pending } else m

/-- What a processed check leaves in the monitor's row. -/
def recordHealth (db : Db) (id : Nat) (health : MonitorHealth) : Outcome Unit :=
  let rows := updateWhere (·.id = id) (fun m => { m with health }) db.monitors
  .ok (some ((), { db with monitors := rows }))

/-- The daily roll-up of one monitor, region and day: a row of the monitor's organization,
replaced where there is one. -/
def rollup (db : Db) (monitorId : Nat) (region : String) (day : Int) (total up : Nat) :
    Outcome Unit :=
  match db.monitor monitorId with
  | none => .ok none
  | some m =>
      let same := fun st : DailyStat => st.monitorId = monitorId ∧ st.region = region ∧ st.day = day
      if db.dailyStats.any same then
        let rows := updateWhere same
          (fun st => { st with totalChecks := total, upChecks := up }) db.dailyStats
        .ok (some ((), { db with dailyStats := rows }))
      else
        let row : DailyStat := ⟨m.organizationId, monitorId, region, day, total, up⟩
        .ok (some ((), { db with dailyStats := db.dailyStats ++ [row] }))

/-! ## runs -/

/-- One operation, by a member of `org` where it names one. -/
inductive Op where
  | create (org : OrganizationId) (withinLimit : Bool) (input : CreatePageInput) (now : Instant)
  | update (org : OrganizationId) (id : Nat) (input : UpdatePageInput) (now : Instant)
  | remove (org : OrganizationId) (id : Nat) (now : Instant)
  | createComponent (org : OrganizationId) (pageId : Nat) (input : CreateComponentInput)
      (now : Instant)
  | updateComponent (org : OrganizationId) (pageId componentId : Nat)
      (input : UpdateComponentInput)
  | deleteComponent (org : OrganizationId) (pageId componentId : Nat)
  | reorderComponents (org : OrganizationId) (pageId : Nat) (orderedIds : List Nat)
  | openIncident (org : OrganizationId) (pageId : Nat) (title body : String)
      (impact : Option IncidentImpact) (now : Instant)
  | addIncidentUpdate (org : OrganizationId) (pageId incidentId : Nat) (status : IncidentStatus)
      (body : String) (now : Instant)
  | createMonitor (org : OrganizationId) (withinLimit : Bool)
  | removeMonitor (org : OrganizationId) (id : Nat) (now : Instant)
  | pauseMonitor (org : OrganizationId) (id : Nat)
  | resumeMonitor (org : OrganizationId) (id : Nat)
  | recordHealth (id : Nat) (health : MonitorHealth)
  | rollup (monitorId : Nat) (region : String) (day : Int) (total up : Nat)
deriving DecidableEq, Repr

def step (db : Db) : Op → Db
  | .create org withinLimit input now => (create db org withinLimit input now).settle db
  | .update org id input now => (update db org id input now).settle db
  | .remove org id now => (remove db org id now).settle db
  | .createComponent org pageId input now => (createComponent db org pageId input now).settle db
  | .updateComponent org pageId componentId input =>
      (updateComponent db org pageId componentId input).settle db
  | .deleteComponent org pageId componentId =>
      (deleteComponent db org pageId componentId).settle db
  | .reorderComponents org pageId orderedIds =>
      (reorderComponents db org pageId orderedIds).settle db
  | .openIncident org pageId title body impact now =>
      (openIncident db org pageId title body impact now).settle db
  | .addIncidentUpdate org pageId incidentId status body now =>
      (addIncidentUpdate db org pageId incidentId status body now).settle db
  | .createMonitor org withinLimit => (createMonitor db org withinLimit).settle db
  | .removeMonitor org id now => (removeMonitor db org id now).settle db
  | .pauseMonitor org id => (pauseMonitor db org id).settle db
  | .resumeMonitor org id => (resumeMonitor db org id).settle db
  | .recordHealth id health => (recordHealth db id health).settle db
  | .rollup monitorId region day total up => (rollup db monitorId region day total up).settle db

/-! ## public reads -/

/-- `STATUS_SEVERITY` -/
def ComponentStatus.severity : ComponentStatus → Nat
  | .operational => 0
  | .underMaintenance => 1
  | .degradedPerformance => 2
  | .partialOutage => 3
  | .majorOutage => 4

/-- `HEALTH_TO_STATUS` -/
def healthToStatus : MonitorHealth → Option ComponentStatus
  | .up => some .operational
  | .down => some .majorOutage
  | .degraded => some .degradedPerformance
  | .recovering => some .degradedPerformance
  | .maintenance => some .underMaintenance
  | .pending | .paused => none

/-- The status of a component: its monitor's, where that has one. -/
def Db.componentStatus (db : Db) (row : ComponentRow) : ComponentStatus :=
  ((row.monitorId.bind db.monitor).bind fun m => healthToStatus m.health).getD row.status

structure PublicComponent where
  id : Nat
  name : String
  description : Option String
  groupName : Option String
  status : ComponentStatus
  showUptime : Bool
deriving DecidableEq, Repr

structure PublicStatusPage where
  name : String
  slug : String
  description : Option String
  branding : Option String
  overallStatus : ComponentStatus
  components : List PublicComponent
  activeIncidents : List IncidentRow
  updatedAt : Instant
deriving DecidableEq, Repr

/-- The worse of two statuses, the first on a tie. -/
def ComponentStatus.worse (worst s : ComponentStatus) : ComponentStatus :=
  if worst.severity < s.severity then s else worst

def Db.toPublicComponent (db : Db) (c : ComponentRow) : PublicComponent :=
  { id := c.id, name := c.name, description := c.description, groupName := c.groupName,
    status := db.componentStatus c, showUptime := c.showUptime }

/-- The unresolved incidents of a page, latest first. -/
def Db.activeIncidents (db : Db) (pageId : Nat) : List IncidentRow :=
  (db.incidents.filter fun i => i.statusPageId = pageId ∧ i.resolvedAt = none).insertionSort
    (fun a b => b.startedAt ≤ a.startedAt)

def Db.toPublicPage (db : Db) (row : PageRow) : PublicStatusPage :=
  let components := (db.pageComponents row.id).map db.toPublicComponent
  { name := row.name, slug := row.slug, description := row.description, branding := row.branding,
    overallStatus := components.foldl (fun worst c => worst.worse c.status) .operational,
    components, activeIncidents := db.activeIncidents row.id, updatedAt := row.updatedAt }

/-- A page the public may read by this slug. -/
def PageRow.readable (slug : String) (row : PageRow) : Bool :=
  row.slug = slug && row.deletedAt = none &&
    (row.visibility = .public || row.visibility = .unlisted)

def Db.publicRow (db : Db) (slug : String) : Option PageRow :=
  db.pages.find? (PageRow.readable slug)

def getPublicPage (db : Db) (slug : String) : Option PublicStatusPage :=
  (db.publicRow slug).map db.toPublicPage

/-! ### uptime history -/

section
-- `round2((up / total) * 100)`, in the numbers of the host
variable {ρ : Type} (percent : Nat → Nat → ρ)

structure HistoryComponent (ρ : Type) where
  id : Nat
  name : String
  uptimePct : Option ρ
  days : List (Int × Option ρ)
deriving DecidableEq, Repr

structure StatusHistory (ρ : Type) where
  windowDays : Nat
  overallUptimePct : Option ρ
  components : List (HistoryComponent ρ)
deriving DecidableEq, Repr

/-- The checks of one monitor on one day: how many were up, of how many. -/
structure DayTotal where
  up : Nat
  total : Nat
deriving DecidableEq, Repr

/-- The totals gathered so far, by monitor and day. -/
abbrev ByMonitor := Nat → Int → Option DayTotal

/-- One row of statistics is added to its monitor's day. -/
def ByMonitor.add (byMonitor : ByMonitor) (s : DailyStat) : ByMonitor := fun m d =>
  if m = s.monitorId ∧ d = s.day then
    let acc := (byMonitor m d).getD ⟨0, 0⟩
    some ⟨acc.up + s.upChecks, acc.total + s.totalChecks⟩
  else byMonitor m d

def gather (stats : List DailyStat) : ByMonitor := stats.foldl ByMonitor.add fun _ _ => none

/-- A share, where there is anything to take it of. -/
def uptimePct (t : DayTotal) : Option ρ := if 0 < t.total then some (percent t.up t.total) else none

def sumTotals (ts : List DayTotal) : DayTotal := ⟨(ts.map (·.up)).sum, (ts.map (·.total)).sum⟩

/-- The days of the window, the earliest first. -/
def windowOf (today : Int) (windowDays : Nat) : List Int :=
  (List.range windowDays).reverse.map fun i => today - i

/-- The series of one component, and what it adds to the overall share. -/
def historyComponent (byMonitor : ByMonitor) (days : List Int) (c : ComponentRow) :
    HistoryComponent ρ × DayTotal :=
  let at_ := fun d => c.monitorId.bind fun m => byMonitor m d
  let sum := sumTotals (days.filterMap at_)
  ({ id := c.id, name := c.name, uptimePct := uptimePct percent sum,
     days := days.map fun d => (d, (at_ d).bind (uptimePct percent)) }, sum)

/-- The components `getHistory` selects. -/
def Db.historyComponents (db : Db) (pageId : Nat) : List ComponentRow :=
  (db.pageComponents pageId).filter fun c => c.showUptime && c.monitorId.isSome

/-- The rows `getHistory` reads: those of the linked monitors, from the first day on. -/
def Db.historyStats (db : Db) (monitorIds : List Nat) (since : Int) : List DailyStat :=
  db.dailyStats.filter fun s => monitorIds.contains s.monitorId && since ≤ s.day

def millisPerDay : Int := 86400000

def getHistory (db : Db) (slug : String) (windowDays : Nat) (now : Instant) :
    Option (StatusHistory ρ) :=
  (db.publicRow slug).map fun row =>
    let components := db.historyComponents row.id
    let today := now / millisPerDay
    let stats := db.historyStats (components.filterMap (·.monitorId)) (today - windowDays)
    let each := components.map (historyComponent percent (gather stats)
      (windowOf today windowDays))
    { windowDays, overallUptimePct := uptimePct percent (sumTotals (each.map (·.2))),
      components := each.map (·.1) }

end

end UptimeFlow.StatusPages
