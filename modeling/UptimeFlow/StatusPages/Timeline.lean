import UptimeFlow.Exclusion
import UptimeFlow.IsoDate
import UptimeFlow.StatusPages.Subscribers

/-!
# UptimeFlow.StatusPages.Timeline

The incidents a status page announces: opening one, updating it, and mailing
the subscribers of the page.

An update is two writes, of the timeline and then of the incident's status, and
the mails follow when both are done.  Between the two the incident contradicts
its timeline; two updates of one incident that overlap can leave it so for good
(`not_settled_overlapping`).  While they do not, every incident nobody is
updating agrees with the latest entry of its timeline (`timeline_settled`).
The mails need no such care: whatever overlaps, each of them tells of an entry
that is on the timeline (`mails_on_timeline`).
-/

namespace UptimeFlow.StatusPages.Timeline

open Tables
open Monitoring (OrganizationId Instant)
open Subscribers

/-! ## requests -/

/-- `status`, as it is written out. -/
def statusName : IncidentStatus → String
  | .investigating => "INVESTIGATING"
  | .identified => "IDENTIFIED"
  | .monitoring => "MONITORING"
  | .resolved => "RESOLVED"

/-- The tables, and the jobs the email queue has been given. -/
structure StatusDb where
  base : SubscriberDb := {}
  emails : List (EmailJob IncidentMail) := []
deriving DecidableEq

abbrev StatusDb.incidents (db : StatusDb) : List IncidentRow := db.base.store.incidents

/-- A job under an id that the queue has seen is dropped. -/
def enqueueEmail (queue : List (EmailJob IncidentMail)) (mail : EmailJob IncidentMail) :
    List (EmailJob IncidentMail) :=
  if queue.any (·.jobId = mail.jobId) then queue else queue ++ [mail]

def StatusDb.enqueue (db : StatusDb) (mails : List (EmailJob IncidentMail)) : StatusDb :=
  { db with emails := mails.foldl enqueueEmail db.emails }

def StatusDb.setIncidents (db : StatusDb) (rows : List IncidentRow) : StatusDb :=
  { db with base := { db.base with store := { db.base.store with incidents := rows } } }

/-- `update({ where: { id } })` on the incidents. -/
def StatusDb.updateIncident (db : StatusDb) (id : Nat) (f : IncidentRow → IncidentRow) : StatusDb :=
  db.setIncidents (updateWhere (·.id = id) f db.incidents)

def StatusDb.findPage (db : StatusDb) (org : OrganizationId) (pageId : Nat) : Option PageRow :=
  db.base.store.pages.find? fun p =>
    p.id = pageId && p.organizationId = org && p.deletedAt.isNone

/-- The page of an incident, if both are the organization's. -/
def StatusDb.findIncidentPage (db : StatusDb) (org : OrganizationId) (pageId incidentId : Nat) :
    Option PageRow :=
  if db.incidents.any fun i => i.id = incidentId && i.statusPageId = pageId then
    db.findPage org pageId
  else none

inductive TimelineError where
  | uniqueConstraint | recordNotFound
deriving DecidableEq, Repr

abbrev Served := Handler StatusDb TimelineError

/-- A write of another part of the API, which leaves the incidents alone. -/
abbrev Elsewhere := { write : SubscriberDb → SubscriberDb //
  ∀ db, (write db).store.incidents = db.store.incidents }

section
-- the origin of the public pages, and the jobs that reach the queue
variable (webUrl : String) (reaches : String → Bool)

/-- Mail the subscribers of the page; what does not reach the queue is lost. -/
def notify (notice : IncidentNotice) : Served Unit := do
  let mails ← .read fun db => notifyIncident webUrl db.base notice
  .write fun db => db.enqueue (mails.filter (reaches ·.jobId))

/-- Open an incident, under an id that must not be in use. -/
def openIncident (org : OrganizationId) (pageId id : Nat) (title body : String)
    (impact : Option IncidentImpact) (now : Instant) : Served (Option IncidentRow) := do
  match ← .read fun db => db.findPage org pageId with
  | none => return none
  | some page => do
      let row : IncidentRow :=
        { id, statusPageId := pageId, title, status := .investigating
          impact := impact.getD .minor, startedAt := now, createdAt := now
          updates := [⟨.investigating, body, now⟩] }
      .statement fun db =>
        if db.incidents.any (·.id = id) then (.error .uniqueConstraint, db)
        else (.ok (), db.setIncidents (db.incidents ++ [row]))
      notify webUrl reaches
        { statusPageId := page.id, pageSlug := page.slug, pageName := page.name
          incidentId := toString id, updateId := String.ofList (IsoDate.toISOString now)
          title, phase := .opened, statusLabel := statusName .investigating, body }
      return some row

/-- The entry on the timeline. -/
def entered (update : IncidentUpdate) (row : IncidentRow) : IncidentRow :=
  { row with updates := update :: row.updates }

/-- The status the entry brings. -/
def moved (status : IncidentStatus) (now : Instant) (row : IncidentRow) : IncidentRow :=
  { row with status, resolvedAt := if status = .resolved then some now else none }

def addIncidentUpdate (org : OrganizationId) (pageId incidentId : Nat) (updateId : String)
    (update : IncidentUpdate) (now : Instant) : Served (Option IncidentRow) := do
  match ← .read fun db => db.findIncidentPage org pageId incidentId with
  | none => return none
  | some page => do
      .write fun db => db.updateIncident incidentId (entered update)
      .write fun db => db.updateIncident incidentId (moved update.status now)
      let fresh ← .query fun db =>
        match db.incidents.find? (·.id = incidentId) with
        | none => .error .recordNotFound
        | some row => .ok row
      notify webUrl reaches
        { statusPageId := page.id, pageSlug := page.slug, pageName := page.name
          incidentId := toString incidentId, updateId, title := fresh.title
          phase := if update.status = .resolved then .resolved else .updated
          statusLabel := statusName update.status, body := update.body }
      return some fresh

inductive Request where
  | openIncident (org : OrganizationId) (pageId id : Nat) (title body : String)
      (impact : Option IncidentImpact) (now : Instant)
  | addIncidentUpdate (org : OrganizationId) (pageId incidentId : Nat) (updateId : String)
      (update : IncidentUpdate) (now : Instant)
  | elsewhere (write : Elsewhere)

def serve : Request → Served (Option IncidentRow)
  | .openIncident org pageId id title body impact now =>
      openIncident webUrl reaches org pageId id title body impact now
  | .addIncidentUpdate org pageId incidentId updateId update now =>
      addIncidentUpdate webUrl reaches org pageId incidentId updateId update now
  | .elsewhere write => do
      .write fun db => { db with base := write.1 db.base }
      return none

/-- The status pages, and the requests they are asked to serve. -/
def statusService {ι : Type} (db : StatusDb) (requests : ι → Request) :
    Pool ι StatusDb TimelineError (Option IncidentRow) where
  store := db
  handlers i := serve webUrl reaches (requests i)

end

/-- The incident a request writes. -/
def Request.incident : Request → Option Nat
  | .openIncident _ _ id _ _ _ _ => some id
  | .addIncidentUpdate _ _ incidentId _ _ _ => some incidentId
  | .elsewhere _ => none

/-! ## an incident and its timeline -/

/-- The incident is as its timeline says. -/
structure Settled (row : IncidentRow) : Prop where
  latest : row.updates.head?.map IncidentUpdate.status = some row.status
  resolved : row.resolvedAt.isSome = true ↔ row.status = .resolved
  opened : row.updates.getLast?.map IncidentUpdate.status = some .investigating

/-- The entry is on the timeline already, and the status is still to follow. -/
structure Entered (update : IncidentUpdate) (row : IncidentRow) : Prop where
  latest : row.updates.head? = some update
  opened : row.updates.getLast?.map IncidentUpdate.status = some .investigating

theorem Settled.entered {row : IncidentRow} (h : Settled row) (update : IncidentUpdate) :
    Entered update (entered update row) where
  latest := rfl
  opened := by
    have hopened := h.opened
    cases hupdates : row.updates with
    | nil => simp [hupdates] at hopened
    | cons first rest =>
        rw [hupdates] at hopened
        simpa [Timeline.entered, hupdates] using hopened

theorem Entered.moved {row : IncidentRow} {update : IncidentUpdate} (h : Entered update row)
    (now : Instant) : Settled (moved update.status now row) where
  latest := congrArg (Option.map IncidentUpdate.status) h.latest
  resolved := by
    simp only [Timeline.moved]
    split <;> simp_all
  opened := h.opened

/-- The rows of an incident. -/
def StatusDb.timeline (id : Option Nat) (db : StatusDb) : List IncidentRow :=
  db.incidents.filter fun row => some row.id = id

/-- The incident is as its timeline says. -/
def StatusDb.SettledAt (id : Option Nat) (db : StatusDb) : Prop :=
  ∀ row ∈ db.timeline id, Settled row

theorem timeline_setIncidents (db : StatusDb) (rows : List IncidentRow) (id : Option Nat) :
    (db.setIncidents rows).timeline id = rows.filter fun row => some row.id = id := rfl

theorem StatusDb.SettledAt.of_view (id : Option Nat) (s t : StatusDb)
    (h : t.timeline id = s.timeline id) (hs : s.SettledAt id) : t.SettledAt id := by
  rw [StatusDb.SettledAt, h]
  exact hs

section
variable {id : Nat} {f : IncidentRow → IncidentRow}

theorem timeline_updateIncident (hf : ∀ row, (f row).id = row.id) (db : StatusDb) :
    (db.updateIncident id f).timeline (some id) = (db.timeline (some id)).map f := by
  rw [StatusDb.updateIncident, timeline_setIncidents,
    updateWhere_filter fun row : IncidentRow => by rw [hf], updateWhere]
  refine List.map_congr_left fun row hrow => ?_
  have hid : row.id = id := by simpa using (List.mem_filter.1 hrow).2
  rw [if_pos (decide_eq_true hid)]

theorem timeline_updateIncident_of_ne (hf : ∀ row, (f row).id = row.id) (db : StatusDb)
    {id' : Option Nat} (hid : id' ≠ some id) :
    (db.updateIncident id f).timeline id' = db.timeline id' := by
  rw [StatusDb.updateIncident, timeline_setIncidents]
  refine filter_updateWhere fun row hrow => ?_
  have hrow : row.id = id := of_decide_eq_true hrow
  simp [hf, hrow, Ne.symm hid]

end

/-! ## one request at a time on each incident -/

/-- The handler has the incident settled when it ends. -/
abbrev Settles {α : Type} (id : Option Nat) (x : Served α) (db : StatusDb) : Prop :=
  x.Restores StatusDb.timeline StatusDb.SettledAt id db

section
variable {webUrl : String} {reaches : String → Bool} {α : Type} {id : Option Nat}

theorem settles_notify {notice : IncidentNotice} {f : Unit → Served α} {db : StatusDb}
    (h : ∀ t : StatusDb, t.timeline id = db.timeline id → Settles id (f ()) t) :
    Settles id (notify webUrl reaches notice >>= f) db := by
  rw [notify, Handler.bind_assoc]
  refine .read_bind fun s hs => .write_bind (fun _ _ _ => rfl) fun t ht => h _ ?_
  exact ht.trans hs

theorem settles_openIncident (org : OrganizationId) (pageId id : Nat) (title body : String)
    (impact : Option IncidentImpact) (now : Instant) {db : StatusDb} (h : db.SettledAt (some id)) :
    Settles (some id) (openIncident webUrl reaches org pageId id title body impact now) db := by
  refine .read_bind fun s hs => ?_
  have hok := StatusDb.SettledAt.of_view _ _ _ hs h
  cases s.findPage org pageId with
  | none => exact .pure hok
  | some page =>
      refine .statement_bind (fun t id' hid' => ?_) fun t ht => ?_
      · split
        · rfl
        · rw [timeline_setIncidents, List.filter_append, StatusDb.timeline]
          simp [Ne.symm hid']
      · have hok := StatusDb.SettledAt.of_view _ _ _ ht hok
        by_cases hused : (t.incidents.any (·.id = id)) = true
        · simp only [if_pos hused]
          exact ⟨fun _ _ => hok, fun _ hne => by cases hne⟩
        · simp only [if_neg hused]
          refine ⟨fun _ hne => (by cases hne), fun _ _ => settles_notify fun u hu => .pure ?_⟩
          refine StatusDb.SettledAt.of_view _ _ _ hu fun row hrow => ?_
          rw [timeline_setIncidents, List.filter_append, List.mem_append] at hrow
          obtain hrow | hrow := hrow
          · exact hok row hrow
          · obtain rfl := List.mem_singleton.1 (List.mem_filter.1 hrow).1
            exact ⟨rfl, by simp, rfl⟩

theorem settles_addIncidentUpdate (org : OrganizationId) (pageId incidentId : Nat)
    (updateId : String) (update : IncidentUpdate) (now : Instant) {db : StatusDb}
    (h : db.SettledAt (some incidentId)) :
    Settles (some incidentId)
      (addIncidentUpdate webUrl reaches org pageId incidentId updateId update now) db := by
  refine .read_bind fun s hs => ?_
  have hok := StatusDb.SettledAt.of_view _ _ _ hs h
  cases s.findIncidentPage org pageId incidentId with
  | none => exact .pure hok
  | some page =>
      have hentered : ∀ row, (entered update row).id = row.id := fun _ => rfl
      have hmoved : ∀ row, (moved update.status now row).id = row.id := fun _ => rfl
      refine .write_bind (fun t _ => timeline_updateIncident_of_ne hentered t) fun t ht => ?_
      refine .write_bind (fun t _ => timeline_updateIncident_of_ne hmoved t) fun u hu => ?_
      have hsettled : (u.updateIncident incidentId (moved update.status now)).SettledAt
          (some incidentId) := by
        intro row hrow
        rw [timeline_updateIncident hmoved, hu, timeline_updateIncident hentered, ht,
          List.map_map] at hrow
        obtain ⟨old, hold, rfl⟩ := List.mem_map.1 hrow
        exact ((hok old hold).entered update).moved now
      refine .query_bind fun v hv => ?_
      have hok := StatusDb.SettledAt.of_view _ _ _ hv hsettled
      exact ⟨fun _ _ => hok, fun _ _ => settles_notify fun w hw =>
        .pure (StatusDb.SettledAt.of_view _ _ _ hw hok)⟩

theorem settles_serve (r : Request) {db : StatusDb} (h : db.SettledAt r.incident) :
    Settles r.incident (serve webUrl reaches r) db := by
  cases r with
  | openIncident org pageId id title body impact now =>
      exact settles_openIncident org pageId id title body impact now h
  | addIncidentUpdate org pageId incidentId updateId update now =>
      exact settles_addIncidentUpdate org pageId incidentId updateId update now h
  | elsewhere write =>
      have hframe : ∀ (t : StatusDb) (id : Option Nat),
          ({ t with base := write.1 t.base } : StatusDb).timeline id = t.timeline id := by
        intro t id
        rw [StatusDb.timeline, StatusDb.incidents, write.2]
        rfl
      refine .write_bind (fun t id' _ => hframe t id') fun t ht => .pure ?_
      exact StatusDb.SettledAt.of_view _ _ _ ((hframe t none).trans ht) h

end

/-- **An incident agrees with its timeline** whenever nobody is updating it, in every interleaving
in which the updates of one incident do not overlap. -/
theorem timeline_settled (webUrl : String) (reaches : String → Bool) {ι : Type} [DecidableEq ι]
    {db : StatusDb} (requests : ι → Request) {turns : List ι}
    (hdb : ∀ row ∈ db.incidents, Settled row)
    (hapart : Runs.Along Pool.turn
      (Pool.Apart fun j i => (requests j).incident = (requests i).incident)
      (statusService webUrl reaches db requests) turns) :
    let p := Runs.run Pool.turn (statusService webUrl reaches db requests) turns
    ∀ row ∈ p.store.incidents,
      (∀ i, p.inFlight i = true → (requests i).incident ≠ some row.id) → Settled row := by
  intro p row hrow hidle
  have hstart : (statusService webUrl reaches db requests).Restored StatusDb.timeline
      StatusDb.SettledAt fun i => (requests i).incident :=
    ⟨fun _ _ row hrow => hdb row (List.mem_filter.1 hrow).1,
      fun i hi => by simp [Pool.inFlight, statusService] at hi,
      fun i _ s hs => settles_serve (requests i) hs⟩
  have hrun := hstart.run StatusDb.SettledAt.of_view hapart
  exact hrun.idle (some row.id) hidle row (List.mem_filter.2 ⟨hrow, by simp⟩)

/-- A page with an incident, and one more. -/
def twoIncidents : StatusDb where
  base :=
    { store :=
        { pages := [{ id := 1, organizationId := "acme", slug := "acme", customDomain := none
                      name := "Acme", description := none, visibility := .public, branding := none
                      createdAt := 0, updatedAt := 0 }]
          incidents := [
            { id := 1, statusPageId := 1, title := "API down", status := .investigating
              impact := .major, startedAt := 0, createdAt := 0
              updates := [⟨.investigating, "Looking into it.", 0⟩] },
            { id := 2, statusPageId := 1, title := "Slow site", status := .investigating
              impact := .minor, startedAt := 0, createdAt := 0
              updates := [⟨.investigating, "Looking into it.", 0⟩] }] }
      subscribers := [{ id := 1, statusPageId := 1, email := ['a'], status := .active
                        verificationToken := none, unsubscribeToken := some "t" }] }

/-- Each incident has an update. -/
def updateEach : Bool → Request
  | false => .addIncidentUpdate "acme" 1 1 "u1" ⟨.resolved, "Fixed.", 1⟩ 1
  | true => .addIncidentUpdate "acme" 1 2 "u2" ⟨.monitoring, "A fix is out.", 2⟩ 2

theorem settled_twoIncidents : ∀ row ∈ twoIncidents.incidents, Settled row := by
  intro row hrow
  obtain rfl | hrow := List.mem_cons.1 hrow
  · exact ⟨rfl, by simp, rfl⟩
  · obtain rfl := List.mem_singleton.1 hrow
    exact ⟨rfl, by simp, rfl⟩

theorem timeline_settled_updateEach :
    let p := Runs.run Pool.turn
      (statusService "https://uptimeflow.in" (fun _ => true) twoIncidents updateEach)
      [false, true, false, true, true, false, false]
    ∀ row ∈ p.store.incidents,
      (∀ i, p.inFlight i = true → (updateEach i).incident ≠ some row.id) → Settled row := by
  refine timeline_settled _ _ updateEach settled_twoIncidents (.of_forall (fun i _ p => ?_) _)
  intro j hji _
  cases i <;> cases j <;> first | exact absurd rfl hji | decide

/-- Two members update one incident. -/
def updateOne : Bool → Request
  | false => .addIncidentUpdate "acme" 1 1 "u1" ⟨.resolved, "Fixed.", 1⟩ 1
  | true => .addIncidentUpdate "acme" 1 1 "u2" ⟨.monitoring, "A fix is out.", 2⟩ 2

/-- The incident stays resolved, and its timeline ends with a fix that is being watched. -/
theorem not_settled_overlapping :
    ¬ ∀ row ∈ (Runs.run Pool.turn
      (statusService "https://uptimeflow.in" (fun _ => true) twoIncidents updateOne)
      [false, true, false, true, true, false, false, true]).store.incidents, Settled row := by
  intro h
  have hlatest := (h
    { id := 1, statusPageId := 1, title := "API down", status := .resolved
      impact := .major, startedAt := 0, createdAt := 0, resolvedAt := some 1
      updates := [⟨.monitoring, "A fix is out.", 2⟩, ⟨.resolved, "Fixed.", 1⟩,
        ⟨.investigating, "Looking into it.", 0⟩] } (List.mem_cons.2 (.inl rfl))).latest
  cases hlatest

/-! ## mails -/

/-- Nothing that was on a timeline is taken back. -/
def StatusDb.Grows (s t : StatusDb) : Prop :=
  ∀ row ∈ s.incidents, ∃ row' ∈ t.incidents, row'.id = row.id ∧ row'.title = row.title ∧
    ∀ update ∈ row.updates, update ∈ row'.updates

theorem StatusDb.Grows.of_incidents {s t : StatusDb} (h : t.incidents = s.incidents) :
    s.Grows t := by
  intro row hrow
  exact ⟨row, h ▸ hrow, rfl, rfl, fun _ hupdate => hupdate⟩

theorem StatusDb.Grows.trans {s t u : StatusDb} (hst : s.Grows t) (htu : t.Grows u) :
    s.Grows u := by
  intro row hrow
  obtain ⟨row', hrow', hid, htitle, hupdates⟩ := hst row hrow
  obtain ⟨row'', hrow'', hid', htitle', hupdates'⟩ := htu row' hrow'
  exact ⟨row'', hrow'', hid'.trans hid, htitle'.trans htitle,
    fun update hupdate => hupdates' update (hupdates update hupdate)⟩

theorem StatusDb.Grows.updateIncident {id : Nat} {f : IncidentRow → IncidentRow}
    (hf : ∀ row, (f row).id = row.id ∧ (f row).title = row.title ∧
      ∀ update ∈ row.updates, update ∈ (f row).updates) (db : StatusDb) :
    db.Grows (db.updateIncident id f) := by
  intro row hrow
  refine ⟨_, List.mem_map_of_mem hrow, ?_⟩
  split
  · exact hf row
  · exact ⟨rfl, rfl, fun _ hupdate => hupdate⟩

/-- The timeline has an entry with this text, under this title. -/
def StatusDb.Tells (db : StatusDb) (title statusLabel body : String) (resolved : Prop) : Prop :=
  ∃ row ∈ db.incidents, row.title = title ∧ ∃ update ∈ row.updates,
    statusName update.status = statusLabel ∧ update.body = body ∧
      (resolved ↔ update.status = .resolved)

theorem StatusDb.Tells.grows {s t : StatusDb} {title statusLabel body : String} {resolved : Prop}
    (h : s.Tells title statusLabel body resolved) (hst : s.Grows t) :
    t.Tells title statusLabel body resolved := by
  obtain ⟨row, hrow, htitle, update, hupdate, htells⟩ := h
  obtain ⟨row', hrow', -, htitle', hupdates⟩ := hst row hrow
  exact ⟨row', hrow', htitle'.trans htitle, update, hupdates update hupdate, htells⟩

/-- The mail tells of an entry on the timeline, and says that it is resolved just if it is. -/
def StatusDb.Backs (db : StatusDb) (mail : IncidentMail) : Prop :=
  db.Tells mail.incidentTitle mail.statusLabel mail.body
    (mail.template = Phase.resolved.template)

/-- The incidents have ids of their own, and every mail tells of one of them. -/
structure StatusDb.Backed (db : StatusDb) : Prop where
  ids : (db.incidents.map (·.id)).Nodup
  mails : ∀ mail ∈ db.emails, db.Backs mail.job

theorem StatusDb.Backed.grows {s t : StatusDb} (h : s.Backed) (hst : s.Grows t)
    (hids : (t.incidents.map (·.id)).Nodup) (hmails : t.emails = s.emails) : t.Backed where
  ids := hids
  mails mail hmail := (h.mails mail (hmails ▸ hmail)).grows hst

theorem mem_enqueue {mails queue : List (EmailJob IncidentMail)} {mail : EmailJob IncidentMail}
    (h : mail ∈ mails.foldl enqueueEmail queue) : mail ∈ queue ∨ mail ∈ mails := by
  induction mails generalizing queue with
  | nil => exact .inl h
  | cons first rest ih =>
      obtain h | h := ih h
      · unfold enqueueEmail at h
        split at h
        · exact .inl h
        · obtain h | h := List.mem_append.1 h
          · exact .inl h
          · exact .inr (List.mem_cons.2 (.inl (List.mem_singleton.1 h)))
      · exact .inr (List.mem_cons_of_mem _ h)

/-- A mail has the title and the text of the notice, and the template of its phase. -/
theorem job_of_mem_notifyIncident {webUrl : String} {db : SubscriberDb} {notice : IncidentNotice}
    {mail : EmailJob IncidentMail} (h : mail ∈ notifyIncident webUrl db notice) :
    mail.job.incidentTitle = notice.title ∧ mail.job.statusLabel = notice.statusLabel ∧
      mail.job.body = notice.body ∧ mail.job.template = notice.phase.template := by
  obtain ⟨row, -, hmail⟩ := List.mem_filterMap.1 h
  split at hmail
  · obtain ⟨token, -, rfl⟩ := Option.map_eq_some_iff.1 hmail
    exact ⟨rfl, rfl, rfl, rfl⟩
  · cases hmail

theorem template_eq_resolved_iff (phase : Phase) :
    phase.template = Phase.resolved.template ↔ phase = .resolved := by
  cases phase <;> decide

/-- The handler mails nothing that is not on a timeline, whatever the others write. -/
abbrev Truthful {α : Type} (x : Served α) (db : StatusDb) : Prop :=
  x.Sound StatusDb.Backed StatusDb.Grows StatusDb.Grows db

theorem StatusDb.Grows.refl (db : StatusDb) : db.Grows db := .of_incidents rfl

section
variable {webUrl : String} {reaches : String → Bool} {α : Type} {db : StatusDb}

theorem truthful_notify {notice : IncidentNotice} {f : Unit → Served α}
    (h : db.Tells notice.title notice.statusLabel notice.body (notice.phase = .resolved))
    (hf : ∀ t, Truthful (f ()) t) : Truthful (notify webUrl reaches notice >>= f) db := by
  rw [notify, Handler.bind_assoc]
  refine .read_bind StatusDb.Grows.refl fun s hs _ => ?_
  refine .write_bind fun t ht hbacked =>
    ⟨⟨hbacked.ids, fun mail hmail => ?_⟩, .of_incidents rfl, hf _⟩
  have htells := (h.grows hs).grows ht
  obtain hmail | hmail := mem_enqueue hmail
  · exact hbacked.mails mail hmail
  · obtain ⟨htitle, hlabel, hbody, htemplate⟩ :=
      job_of_mem_notifyIncident (List.mem_filter.1 hmail).1
    rw [StatusDb.Backs, htitle, hlabel, hbody, htemplate, template_eq_resolved_iff]
    exact htells

theorem truthful_openIncident (org : OrganizationId) (pageId id : Nat) (title body : String)
    (impact : Option IncidentImpact) (now : Instant) :
    Truthful (openIncident webUrl reaches org pageId id title body impact now) db := by
  refine .read_bind StatusDb.Grows.refl fun s _ _ => ?_
  cases s.findPage org pageId with
  | none => exact .pure _
  | some page =>
      refine .statement_bind fun t _ ht => ?_
      by_cases hused : (t.incidents.any (·.id = id)) = true
      · simp only [if_pos hused]
        exact ⟨ht, .refl t, fun _ hne => (by cases hne)⟩
      · simp only [if_neg hused]
        have hgrows : ∀ row, t.Grows (t.setIncidents (t.incidents ++ [row])) := fun row old hold =>
          ⟨old, List.mem_append_left _ hold, rfl, rfl, fun _ hupdate => hupdate⟩
        refine ⟨ht.grows (hgrows _) ?_ rfl, hgrows _,
          fun _ _ => truthful_notify ?_ fun _ => .pure _⟩
        · change ((t.incidents ++ [_]).map IncidentRow.id).Nodup
          rw [List.map_append, List.map_singleton, List.nodup_append]
          refine ⟨ht.ids, List.nodup_singleton _, fun a ha b hb => ?_⟩
          obtain ⟨row, hrow, rfl⟩ := List.mem_map.1 ha
          rw [List.mem_singleton.1 hb]
          exact fun hid => hused (List.any_eq_true.2 ⟨row, hrow, decide_eq_true hid⟩)
        · exact ⟨_, List.mem_append_right _ (List.mem_singleton.2 rfl), rfl, _,
            List.mem_singleton.2 rfl, rfl, rfl, by simp⟩

theorem truthful_addIncidentUpdate (org : OrganizationId) (pageId incidentId : Nat)
    (updateId : String) (update : IncidentUpdate) (now : Instant) :
    Truthful (addIncidentUpdate webUrl reaches org pageId incidentId updateId update now) db := by
  refine .read_bind StatusDb.Grows.refl fun s _ _ => ?_
  cases hpage : s.findIncidentPage org pageId incidentId with
  | none => exact .pure _
  | some page =>
      have hexists : ∃ row ∈ s.incidents, row.id = incidentId := by
        unfold StatusDb.findIncidentPage at hpage
        split at hpage
        · next hany =>
            obtain ⟨row, hrow, hid⟩ := List.any_eq_true.1 hany
            exact ⟨row, hrow, by simpa using (Bool.and_eq_true_iff.1 hid).1⟩
        · cases hpage
      have hkeep : ∀ (f : IncidentRow → IncidentRow), (∀ row, (f row).id = row.id) →
          ∀ t : StatusDb, t.Backed → ((t.updateIncident incidentId f).incidents.map (·.id)).Nodup :=
        fun f hf t ht => (map_id_updateWhere hf).symm ▸ ht.ids
      have hentered : ∀ t : StatusDb, t.Grows (t.updateIncident incidentId (entered update)) :=
        .updateIncident fun row => ⟨rfl, rfl, fun _ hupdate => List.mem_cons_of_mem _ hupdate⟩
      have hmoved : ∀ t : StatusDb,
          t.Grows (t.updateIncident incidentId (moved update.status now)) :=
        .updateIncident fun row => ⟨rfl, rfl, fun _ hupdate => hupdate⟩
      refine .write_bind fun t hst ht =>
        ⟨ht.grows (hentered t) (hkeep (entered update) (fun _ => rfl) t ht) rfl,
        hentered t, ?_⟩
      -- from here on the entry is on the timeline
      have hon : ∃ row ∈ (t.updateIncident incidentId (entered update)).incidents,
          row.id = incidentId ∧ update ∈ row.updates := by
        obtain ⟨row, hrow, hid⟩ := hexists
        obtain ⟨row', hrow', hid', -, -⟩ := hst row hrow
        refine ⟨entered update row', mem_updateWhere.2 (.inl ⟨row', hrow', ?_, rfl⟩), ?_⟩
        · exact decide_eq_true (hid'.trans hid)
        · exact ⟨hid'.trans hid, List.mem_cons_self⟩
      refine .write_bind fun u htu hu =>
        ⟨hu.grows (hmoved u) (hkeep (moved update.status now) (fun _ => rfl) u hu) rfl,
        hmoved u, ?_⟩
      refine .query_bind StatusDb.Grows.refl fun v huv hv fresh hfresh =>
        truthful_notify ?_ fun _ =>
        .pure _
      obtain ⟨row, hrow, hid, hupdate⟩ := hon
      obtain ⟨row', hrow', hid', -, hupdates⟩ := (htu.trans ((hmoved u).trans huv)) row hrow
      have hsame : fresh = row' := by
        cases hfind : v.incidents.find? (·.id = incidentId) with
        | none =>
            rw [hfind] at hfresh
            cases hfresh
        | some found =>
            rw [hfind] at hfresh
            cases hfresh
            have hfound : fresh.id = incidentId := by simpa using List.find?_some hfind
            exact eq_of_id_eq hv.ids (List.mem_of_find?_eq_some hfind) hrow'
              (hfound.trans (hid'.trans hid).symm)
      refine ⟨row', hrow', by rw [hsame], update, hupdates update hupdate, rfl, rfl, ?_⟩
      simp only
      split <;> simp_all

theorem truthful_serve (r : Request) : Truthful (serve webUrl reaches r) db := by
  cases r with
  | openIncident org pageId id title body impact now =>
      exact truthful_openIncident org pageId id title body impact now
  | addIncidentUpdate org pageId incidentId updateId update now =>
      exact truthful_addIncidentUpdate org pageId incidentId updateId update now
  | elsewhere write =>
      refine .write_bind fun t _ ht => ?_
      have hincidents : ({ t with base := write.1 t.base } : StatusDb).incidents = t.incidents :=
        write.2 t.base
      have hgrows : t.Grows { t with base := write.1 t.base } := .of_incidents hincidents
      refine ⟨ht.grows hgrows ?_ rfl, hgrows, .pure _⟩
      rw [hincidents]
      exact ht.ids

end

/-- **Mails tell what the timeline tells**: at every moment of every interleaving, every mail in the
queue has the title of an incident and the status and text of an entry on its timeline, and it is
the mail of a resolution just if that entry resolves. -/
theorem mails_on_timeline (webUrl : String) (reaches : String → Bool) {ι : Type} [DecidableEq ι]
    {db : StatusDb} (requests : ι → Request) (turns : List ι) (hdb : db.Backed) :
    let p := Runs.run Pool.turn (statusService webUrl reaches db requests) turns
    ∀ mail ∈ p.store.emails, ∃ row ∈ p.store.incidents, row.title = mail.job.incidentTitle ∧
      ∃ update ∈ row.updates, statusName update.status = mail.job.statusLabel ∧
        update.body = mail.job.body ∧
        (mail.job.template = Phase.resolved.template ↔ update.status = .resolved) := by
  have hstart : (statusService webUrl reaches db requests).Sound StatusDb.Backed
      (fun _ => StatusDb.Grows) (fun _ => StatusDb.Grows) :=
    ⟨hdb, fun i _ _ _ => truthful_serve (requests i), fun i _ => truthful_serve (requests i)⟩
  have hapart : Runs.Along Pool.turn (Pool.Apart fun _ _ => False)
      (statusService webUrl reaches db requests) turns :=
    .of_forall (fun _ _ _ _ _ _ => not_false) _
  have hrun := hstart.run (fun _ => StatusDb.Grows.refl) (fun _ _ _ _ => StatusDb.Grows.trans)
    (fun _ _ _ _ _ _ h => h) hapart
  exact hrun.store.mails

theorem mails_on_timeline_updateOne :
    let p := Runs.run Pool.turn
      (statusService "https://uptimeflow.in" (fun _ => true) twoIncidents updateOne)
      [false, true, false, true, true, false, false, true, false, true, false, true, false, true]
    ∀ mail ∈ p.store.emails, ∃ row ∈ p.store.incidents, row.title = mail.job.incidentTitle ∧
      ∃ update ∈ row.updates, statusName update.status = mail.job.statusLabel ∧
        update.body = mail.job.body ∧
        (mail.job.template = Phase.resolved.template ↔ update.status = .resolved) :=
  mails_on_timeline _ _ updateOne _ ⟨by decide, by simp [twoIncidents]⟩

end UptimeFlow.StatusPages.Timeline
