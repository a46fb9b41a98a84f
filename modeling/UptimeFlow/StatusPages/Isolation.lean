import UptimeFlow.StatusPages.Store

/-!
# UptimeFlow.StatusPages.Isolation

What keeps one organization's monitors off another organization's pages.

`Db.Owned` says that every linked monitor belongs to the organization of the
component's page.  No write checks it: the foreign key asks only that the
monitor exists.  `owned_step_iff` says exactly which writes keep it, those
that link monitors of the organization they act for, and under it a public
read is a function of the organization's own `slice` of the tables
(`getPublicPage_slice`, `getHistory_slice`).  So runs that link only owned
monitors cannot be told apart through an organization's pages by what the
other organizations do.
-/

namespace UptimeFlow.StatusPages

open Tables Runs
open Monitoring (OrganizationId Instant)

/-! ## the invariants -/

/-- The monitor a component links, if any, belongs to the organization of its page. -/
def Db.Owns (db : Db) (c : ComponentRow) : Prop :=
  ∀ m, c.monitorId = some m →
    ∃ org, db.pageOrg c.statusPageId = some org ∧ db.monitorOrg m = some org

/-- Every link stays within its organization. -/
def Db.Owned (db : Db) : Prop := ∀ c ∈ db.components, db.Owns c

/-- What keys and the roll-up guarantee by themselves. -/
structure Db.Consistent (db : Db) : Prop where
  monitorIds : (db.monitors.map (·.id)).Nodup
  pageIds : (db.pages.map (·.id)).Nodup
  slugs : (db.pages.map (·.slug)).Nodup
  componentIds : (db.components.map (·.id)).Nodup
  statOrgs : ∀ st ∈ db.dailyStats, db.monitorOrg st.monitorId = some st.organizationId

theorem consistent_empty : Db.Consistent {} := by
  constructor <;> simp

theorem owned_empty : Db.Owned {} := by
  intro c hc
  cases hc

/-- The links an accepted write makes, each with the organization it acts for. -/
def Db.links (db : Db) : Op → List (OrganizationId × Nat)
  | .create org withinLimit input _ =>
      let monitorIds := input.components.filterMap (·.monitorId)
      if withinLimit && !db.addressTaken input.slug input.customDomain &&
          monitorIds.all db.monitorExists then monitorIds.map (org, ·) else []
  | .createComponent org pageId input _ =>
      if db.pageInOrg org pageId && input.monitorId.all db.monitorExists then
        input.monitorId.toList.map (org, ·) else []
  | .updateComponent org pageId componentId input =>
      if db.componentInOrg org pageId componentId && input.connects.all db.monitorExists then
        input.connects.toList.map (org, ·) else []
  | _ => []

/-- Every monitor the operation links is one of the acting organization. -/
def LinksOwned (db : Db) (op : Op) : Prop := ∀ l ∈ db.links op, db.monitorOrg l.2 = some l.1

instance (db : Db) (op : Op) : Decidable (LinksOwned db op) :=
  inferInstanceAs (Decidable (∀ l ∈ db.links op, db.monitorOrg l.2 = some l.1))

/-! ## what a write does to the look-ups -/

/-- Pages and monitors stay with their organizations. -/
structure Keeps (db db' : Db) : Prop where
  pageOrg : ∀ {i org}, db.pageOrg i = some org → db'.pageOrg i = some org
  monitorOrg : ∀ {i org}, db.monitorOrg i = some org → db'.monitorOrg i = some org

theorem pageOrg_eq_of_mem {db : Db} (h : (db.pages.map (·.id)).Nodup) {p : PageRow}
    (hp : p ∈ db.pages) : db.pageOrg p.id = some p.organizationId := by
  simp [Db.pageOrg, Db.page, find?_of_nodup h hp]

theorem monitorOrg_eq_of_mem {db : Db} (h : (db.monitors.map (·.id)).Nodup) {m : MonitorRow}
    (hm : m ∈ db.monitors) : db.monitorOrg m.id = some m.organizationId := by
  simp [Db.monitorOrg, Db.monitor, find?_of_nodup h hm]

/-- The tenant guard finds the organization of the page. -/
theorem pageOrg_of_pageInOrg {db : Db} (h : (db.pages.map (·.id)).Nodup) {org : OrganizationId}
    {pageId : Nat} (hin : db.pageInOrg org pageId = true) : db.pageOrg pageId = some org := by
  obtain ⟨p, hp, hcond⟩ := List.any_eq_true.1 hin
  obtain ⟨rfl, rfl, -⟩ := of_decide_eq_true hcond
  exact pageOrg_eq_of_mem h hp

theorem monitorOrg_of_exists {db : Db} {m : Nat} (h : db.monitorExists m = true) :
    ∃ org, db.monitorOrg m = some org := by
  obtain ⟨r, hr, hid⟩ := List.any_eq_true.1 h
  have hsome : (db.monitors.find? (·.id = m)).isSome := List.find?_isSome.2 ⟨r, hr, hid⟩
  obtain ⟨r', hr'⟩ := Option.isSome_iff_exists.1 hsome
  exact ⟨r'.organizationId, by simp [Db.monitorOrg, Db.monitor, hr']⟩

/-- A new page hides no old one. -/
theorem pageOrg_concat {db db' : Db} {row : PageRow} (hpages : db'.pages = db.pages ++ [row])
    {i : Nat} {org : OrganizationId} (h : db.pageOrg i = some org) : db'.pageOrg i = some org := by
  obtain ⟨p, hp, horg⟩ := Option.map_eq_some_iff.1 h
  rw [Db.page] at hp
  simp [Db.pageOrg, Db.page, hpages, List.find?_append, hp, horg]

/-- A new monitor hides no old one. -/
theorem monitorOrg_concat {db db' : Db} {row : MonitorRow}
    (hmonitors : db'.monitors = db.monitors ++ [row]) {i : Nat} {org : OrganizationId}
    (h : db.monitorOrg i = some org) : db'.monitorOrg i = some org := by
  obtain ⟨m, hm, horg⟩ := Option.map_eq_some_iff.1 h
  rw [Db.monitor] at hm
  simp [Db.monitorOrg, Db.monitor, hmonitors, List.find?_append, hm, horg]

theorem pageOrg_updateWhere {db db' : Db} {p : PageRow → Bool} {f : PageRow → PageRow}
    (hpages : db'.pages = updateWhere p f db.pages)
    (hf : ∀ r, (f r).id = r.id ∧ (f r).organizationId = r.organizationId) (i : Nat) :
    db'.pageOrg i = db.pageOrg i := by
  rw [Db.pageOrg, Db.page, hpages, find?_updateWhere fun r => (hf r).1, Option.map_map]
  refine Option.map_congr fun r _ => ?_
  by_cases hp : p r <;> simp [hp, (hf r).2]

theorem monitorOrg_updateWhere {db db' : Db} {p : MonitorRow → Bool} {f : MonitorRow → MonitorRow}
    (hmonitors : db'.monitors = updateWhere p f db.monitors)
    (hf : ∀ r, (f r).id = r.id ∧ (f r).organizationId = r.organizationId) (i : Nat) :
    db'.monitorOrg i = db.monitorOrg i := by
  rw [Db.monitorOrg, Db.monitor, hmonitors, find?_updateWhere fun r => (hf r).1, Option.map_map]
  refine Option.map_congr fun r _ => ?_
  by_cases hp : p r <;> simp [hp, (hf r).2]

/-! ## what a write does to the tables -/

/-- A component of the new tables that carries a link, old or one of `links`. -/
def Db.Explains (db : Db) (links : List (OrganizationId × Nat)) (db' : Db) (c' : ComponentRow) :
    Prop :=
  (∃ c ∈ db.components, c.statusPageId = c'.statusPageId ∧ c.monitorId = c'.monitorId) ∨
    ∀ m, c'.monitorId = some m → ∃ org, (org, m) ∈ links ∧ db'.pageOrg c'.statusPageId = some org

/-- What the invariants need to know of a write: the look-ups stand, the keys stay sound,
and the links it makes are the given ones. -/
structure Change (db : Db) (links : List (OrganizationId × Nat)) (db' : Db) : Prop where
  keeps : Keeps db db'
  consistent : db'.Consistent
  explains : ∀ c' ∈ db'.components, db.Explains links db' c'
  makes : ∀ l ∈ links, ∃ c' ∈ db'.components,
    c'.monitorId = some l.2 ∧ db'.pageOrg c'.statusPageId = some l.1
  known : ∀ l ∈ links, db.monitorExists l.2 = true

section
variable {db : Db}

theorem Change.refl (hc : db.Consistent) : Change db [] db where
  keeps := ⟨id, id⟩
  consistent := hc
  explains c' hc' := .inl ⟨c', hc', rfl, rfl⟩
  makes := by simp
  known := by simp

/-- A write to the pages that keeps their keys. -/
theorem Change.of_pages (hc : db.Consistent) {pages : List PageRow}
    (hids : (pages.map (·.id)).Nodup)
    (hslugs : (pages.map (·.slug)).Nodup)
    (hkeep : ∀ {i org}, db.pageOrg i = some org → { db with pages }.pageOrg i = some org) :
    Change db [] { db with pages } where
  keeps := ⟨hkeep, id⟩
  consistent := { hc with pageIds := hids, slugs := hslugs }
  explains c' hc' := .inl ⟨c', hc', rfl, rfl⟩
  makes := by simp
  known := by simp

/-- A write to the monitors that keeps their keys. -/
theorem Change.of_monitors (hc : db.Consistent) {monitors : List MonitorRow}
    (hids : (monitors.map (·.id)).Nodup)
    (hkeep : ∀ {i org}, db.monitorOrg i = some org → { db with monitors }.monitorOrg i = some org) :
    Change db [] { db with monitors } where
  keeps := ⟨id, hkeep⟩
  consistent := { hc with monitorIds := hids, statOrgs := fun st hst => hkeep (hc.statOrgs st hst) }
  explains c' hc' := .inl ⟨c', hc', rfl, rfl⟩
  makes := by simp
  known := by simp

/-- A write to the components that keeps their key. -/
theorem Change.of_components (hc : db.Consistent) {components : List ComponentRow}
    {links : List (OrganizationId × Nat)} (hids : (components.map (·.id)).Nodup)
    (hexplains : ∀ c' ∈ components, db.Explains links { db with components } c')
    (hmakes : ∀ l ∈ links, ∃ c' ∈ components,
      c'.monitorId = some l.2 ∧ db.pageOrg c'.statusPageId = some l.1)
    (hknown : ∀ l ∈ links, db.monitorExists l.2 = true) :
    Change db links { db with components } where
  keeps := ⟨id, id⟩
  consistent := { hc with componentIds := hids }
  explains := hexplains
  makes := hmakes
  known := hknown

theorem Change.of_incidents (hc : db.Consistent) (incidents : List IncidentRow) :
    Change db [] { db with incidents } where
  keeps := ⟨id, id⟩
  consistent := { hc with }
  explains c' hc' := .inl ⟨c', hc', rfl, rfl⟩
  makes := by simp
  known := by simp

/-! ### pages -/

/-- The slug of an accepted page is in no row. -/
theorem slug_free {db : Db} {slug : String} {domain : Option String}
    (h : db.addressTaken slug domain = false) : ∀ r ∈ db.pages, r.slug ≠ slug := by
  intro r hr heq
  have hany : db.pages.any (·.slug = slug) = true := List.any_eq_true.2 ⟨r, hr, by simp [heq]⟩
  simp [Db.addressTaken, hany] at h

theorem map_id_inlineComponents (pageId first : Nat) (now : Instant) (inputs : List ComponentInput) :
    (inlineComponents pageId first now inputs).map (·.id) =
      (List.range' 0 inputs.length).map (first + ·) := by
  rw [inlineComponents, List.map_map, ← List.zipIdx_map_snd, List.map_map]
  rfl

theorem mem_inlineComponents {pageId first : Nat} {now : Instant} {inputs : List ComponentInput}
    {c : ComponentRow} (h : c ∈ inlineComponents pageId first now inputs) :
    c.statusPageId = pageId ∧ ∃ i ∈ inputs, i.monitorId = c.monitorId := by
  obtain ⟨⟨i, n⟩, hi, rfl⟩ := List.mem_map.1 h
  exact ⟨rfl, i, List.fst_mem_of_mem_zipIdx hi, rfl⟩

theorem inlineComponents_of_mem {inputs : List ComponentInput} {i : ComponentInput}
    (h : i ∈ inputs) (pageId first : Nat) (now : Instant) :
    ∃ c ∈ inlineComponents pageId first now inputs,
      c.monitorId = i.monitorId ∧ c.statusPageId = pageId := by
  rw [← List.zipIdx_map_fst 0 inputs] at h
  obtain ⟨⟨i', n⟩, hi, rfl⟩ := List.mem_map.1 h
  exact ⟨_, List.mem_map_of_mem hi, rfl, rfl⟩

/-- Identifiers numbered from a fresh one on stay distinct. -/
theorem nodup_concat_inline {rows : List ComponentRow} (h : (rows.map (·.id)).Nodup)
    (pageId : Nat) (now : Instant) (inputs : List ComponentInput) :
    ((rows ++ inlineComponents pageId (freshId (·.id) rows) now inputs).map (·.id)).Nodup := by
  rw [List.map_append, List.nodup_append, map_id_inlineComponents]
  refine ⟨h, List.Nodup.map (fun a b hab => by simpa using hab) List.nodup_range', ?_⟩
  intro a ha b hb hab
  obtain ⟨r, hr, rfl⟩ := List.mem_map.1 ha
  obtain ⟨n, -, rfl⟩ := List.mem_map.1 hb
  have := lt_freshId (·.id) hr
  omega

/-- A page creation is refused, or adds the page and its inline components. -/
theorem create_cases (db : Db) (org : OrganizationId) (withinLimit : Bool)
    (input : CreatePageInput) (now : Instant) :
    (step db (.create org withinLimit input now) = db ∧
      db.links (.create org withinLimit input now) = []) ∨
    ∃ row : PageRow, row.id = freshId (·.id) db.pages ∧ row.organizationId = org ∧
      row.slug = input.slug ∧ db.addressTaken row.slug row.customDomain = false ∧
      (input.components.filterMap (·.monitorId)).all db.monitorExists = true ∧
      db.links (.create org withinLimit input now) =
        (input.components.filterMap (·.monitorId)).map (org, ·) ∧
      step db (.create org withinLimit input now) =
        { db with
          pages := db.pages ++ [row]
          components := db.components ++
            inlineComponents row.id (freshId (·.id) db.components) now input.components } := by
  simp only [step, create, Db.links]
  cases withinLimit with
  | false => exact .inl ⟨rfl, rfl⟩
  | true =>
      cases haddr : db.addressTaken input.slug input.customDomain with
      | true => exact .inl ⟨rfl, rfl⟩
      | false =>
          cases hexist : (input.components.filterMap (·.monitorId)).all db.monitorExists with
          | false => exact .inl ⟨rfl, rfl⟩
          | true => exact .inr ⟨_, rfl, rfl, rfl, haddr, rfl, rfl, rfl⟩

theorem create_change (hc : db.Consistent) (org : OrganizationId) (withinLimit : Bool)
    (input : CreatePageInput) (now : Instant) :
    Change db (db.links (.create org withinLimit input now))
      (step db (.create org withinLimit input now)) := by
  obtain ⟨hstep, hlinks⟩ | ⟨row, hid, horg, hslug, haddr, hexist, hlinks, hstep⟩ :=
    create_cases db org withinLimit input now
  · rw [hstep, hlinks]
    exact Change.refl hc
  · rw [hlinks]
    generalize step db (.create org withinLimit input now) = db' at hstep
    have hpages : db'.pages = db.pages ++ [row] := by rw [hstep]
    have hids : (db'.pages.map (·.id)).Nodup := hpages ▸ nodup_concat_freshId hc.pageIds hid
    have hrow : db'.pageOrg row.id = some org :=
      horg ▸ pageOrg_eq_of_mem hids (by simp [hpages])
    have hcomponents : db'.components = db.components ++
        inlineComponents row.id (freshId (·.id) db.components) now input.components := by
      rw [hstep]
    have hmonitorOrg : ∀ i, db'.monitorOrg i = db.monitorOrg i := fun i => by rw [hstep]; rfl
    have hslugs : (db'.pages.map (·.slug)).Nodup := by
      rw [hpages, List.map_append, List.nodup_append]
      refine ⟨hc.slugs, List.nodup_singleton _, ?_⟩
      rintro a ha b hb
      obtain ⟨r, hr, rfl⟩ := List.mem_map.1 ha
      obtain rfl := List.mem_singleton.1 hb
      exact slug_free haddr r hr
    refine ⟨⟨pageOrg_concat hpages, fun h => (hmonitorOrg _).trans h⟩, ?_, ?_, ?_, ?_⟩
    · refine ⟨by rw [hstep]; exact hc.monitorIds, hids, hslugs, ?_, ?_⟩
      · rw [hcomponents]
        exact nodup_concat_inline hc.componentIds _ _ _
      · intro st hst
        rw [hmonitorOrg]
        exact hc.statOrgs st (by rw [hstep] at hst; exact hst)
    · intro c' hc'
      rw [hcomponents, List.mem_append] at hc'
      obtain hold | hnew := hc'
      · exact .inl ⟨c', hold, rfl, rfl⟩
      · obtain ⟨hpage, i, hi, hmonitor⟩ := mem_inlineComponents hnew
        refine .inr fun m hm => ⟨org, List.mem_map_of_mem ?_, hpage ▸ hrow⟩
        exact List.mem_filterMap.2 ⟨i, hi, hmonitor.trans hm⟩
    · intro l hl
      obtain ⟨m, hm, rfl⟩ := List.mem_map.1 hl
      obtain ⟨i, hi, hmonitor⟩ := List.mem_filterMap.1 hm
      obtain ⟨c', hc', hlink, hpage⟩ := inlineComponents_of_mem hi row.id
        (freshId (·.id) db.components) now
      exact ⟨c', by rw [hcomponents]; exact List.mem_append_right _ hc', hlink.trans hmonitor,
        hpage ▸ hrow⟩
    · intro l hl
      obtain ⟨m, hm, rfl⟩ := List.mem_map.1 hl
      exact List.all_eq_true.1 hexist m hm

/-- An edited row takes no slug another row has. -/
theorem nodup_slug_update {rows : List PageRow} (hids : (rows.map (·.id)).Nodup)
    (hslugs : (rows.map (·.slug)).Nodup) {id : Nat} {f : PageRow → PageRow}
    (hfree : ∀ r ∈ rows, r.id = id → ∀ r' ∈ rows, r'.id ≠ id → r'.slug ≠ (f r).slug) :
    ((updateWhere (·.id = id) f rows).map (·.slug)).Nodup := by
  induction rows with
  | nil => simp
  | cons r rows ih =>
      rw [List.map_cons, List.nodup_cons] at hids hslugs
      have ih := ih hids.2 hslugs.2 fun a ha hida b hb =>
        hfree a (List.mem_cons_of_mem _ ha) hida b (List.mem_cons_of_mem _ hb)
      have hother : ∀ x ∈ rows, x.id ≠ r.id := fun x hx heq =>
        hids.1 (heq ▸ List.mem_map_of_mem hx)
      have hdiff : ∀ x ∈ rows, x.slug ≠ r.slug := fun x hx heq =>
        hslugs.1 (heq ▸ List.mem_map_of_mem hx)
      rw [updateWhere, List.map_cons, List.map_cons, List.nodup_cons]
      refine ⟨?_, ih⟩
      intro hmem
      obtain ⟨y, hy, hslug⟩ := List.mem_map.1 hmem
      obtain ⟨x, hx, hyx⟩ := List.mem_map.1 hy
      subst hyx
      by_cases hr : r.id = id <;> by_cases hxid : x.id = id <;>
        simp only [hr, hxid, decide_true, decide_false, if_true, if_false,
          Bool.false_eq_true] at hslug
      · exact hother x hx (hxid.trans hr.symm)
      · exact hfree r (by simp) hr x (by simp [hx]) hxid hslug
      · exact hfree x (by simp [hx]) hxid r (by simp) hr hslug.symm
      · exact hdiff x hx hslug

/-- An edit of one page that keeps its keys. -/
theorem Change.of_page_edit (hc : db.Consistent) {id : Nat} {f : PageRow → PageRow}
    (hf : ∀ r, (f r).id = r.id ∧ (f r).organizationId = r.organizationId)
    (hfree : ∀ r ∈ db.pages, r.id = id → ∀ r' ∈ db.pages, r'.id ≠ id → r'.slug ≠ (f r).slug) :
    Change db [] { db with pages := updateWhere (·.id = id) f db.pages } := by
  refine Change.of_pages hc ?_ (nodup_slug_update hc.pageIds hc.slugs hfree) fun {i org} h => ?_
  · rw [map_id_updateWhere fun r => (hf r).1]
    exact hc.pageIds
  · rw [pageOrg_updateWhere rfl hf]
    exact h

theorem update_change (hc : db.Consistent) (org : OrganizationId) (id : Nat)
    (input : UpdatePageInput) (now : Instant) :
    Change db [] (step db (.update org id input now)) := by
  simp only [step, update]
  split
  · exact Change.refl hc
  · rename_i existing hfind
    split
    · exact Change.refl hc
    · rename_i haddr
      have hexisting := List.mem_of_find?_eq_some hfind
      have hid : existing.id = id := by
        have hcond := List.find?_some hfind
        exact (of_decide_eq_true hcond).1
      refine Change.of_page_edit hc (fun r => ⟨rfl, rfl⟩) fun r hr hrid r' hr' hne => ?_
      obtain rfl := eq_of_id_eq hc.pageIds hr hexisting (hrid.trans hid.symm)
      exact slug_free (Bool.eq_false_iff.2 haddr) r' (List.mem_filter.2 ⟨hr', by simpa using hne⟩)

theorem remove_change (hc : db.Consistent) (org : OrganizationId) (id : Nat) (now : Instant) :
    Change db [] (step db (.remove org id now)) := by
  simp only [step, remove]
  split
  · refine Change.of_page_edit hc (fun r => ⟨rfl, rfl⟩) fun r hr hrid r' hr' hne heq => ?_
    have hslug : r'.slug = r.slug := heq
    obtain rfl := eq_of_id_eq hc.slugs hr' hr hslug
    exact hne hrid
  · exact Change.refl hc

/-! ### components -/

theorem createComponent_change (hc : db.Consistent) (org : OrganizationId) (pageId : Nat)
    (input : CreateComponentInput) (now : Instant) :
    Change db (db.links (.createComponent org pageId input now))
      (step db (.createComponent org pageId input now)) := by
  simp only [step, createComponent, Db.links]
  cases hin : db.pageInOrg org pageId with
  | false => exact Change.refl hc
  | true =>
      cases hexist : input.monitorId.all db.monitorExists with
      | false => exact Change.refl hc
      | true =>
          have hpage := pageOrg_of_pageInOrg hc.pageIds hin
          simp only [Bool.not_true, Bool.false_eq_true, if_false, Bool.and_self, if_true,
            Outcome.settle]
          refine Change.of_components hc (nodup_concat_freshId hc.componentIds rfl) ?_ ?_ ?_
          · intro c' hc'
            obtain hold | hnew := List.mem_append.1 hc'
            · exact .inl ⟨c', hold, rfl, rfl⟩
            · obtain rfl := List.mem_singleton.1 hnew
              exact .inr fun m hm => ⟨org, by simpa using hm, hpage⟩
          · intro l hl
            obtain ⟨m, hm, rfl⟩ := List.mem_map.1 hl
            exact ⟨_, List.mem_append_right _ (List.mem_singleton_self _), by simpa using hm, hpage⟩
          · intro l hl
            obtain ⟨m, hm, rfl⟩ := List.mem_map.1 hl
            exact (Option.all_eq_true ..).1 hexist m (by simpa using hm)

/-- A component update is refused, or edits the component it found on the page. -/
theorem updateComponent_cases (db : Db) (org : OrganizationId) (pageId componentId : Nat)
    (input : UpdateComponentInput) :
    (step db (.updateComponent org pageId componentId input) = db ∧
      db.links (.updateComponent org pageId componentId input) = []) ∨
    ∃ existing ∈ db.components, existing.id = componentId ∧ existing.statusPageId = pageId ∧
      db.pageInOrg org pageId = true ∧ input.connects.all db.monitorExists = true ∧
      db.links (.updateComponent org pageId componentId input) =
        input.connects.toList.map (org, ·) ∧
      step db (.updateComponent org pageId componentId input) =
        { db with components := updateWhere (·.id = componentId) input.apply db.components } := by
  simp only [step, updateComponent, Db.links]
  cases hfind : db.components.find? fun c => c.id = componentId ∧ c.statusPageId = pageId with
  | none =>
      have hnone : db.componentInOrg org pageId componentId = false := by
        rw [Db.componentInOrg, List.any_eq_false.2 (List.find?_eq_none.1 hfind), Bool.and_false]
      rw [hnone]
      exact .inl ⟨rfl, rfl⟩
  | some existing =>
      have hexisting := List.mem_of_find?_eq_some hfind
      have hcond := List.find?_some hfind
      have hguard : db.componentInOrg org pageId componentId = db.pageInOrg org pageId := by
        rw [Db.componentInOrg, List.any_eq_true.2 ⟨existing, hexisting, hcond⟩, Bool.and_true]
      rw [hguard]
      cases hin : db.pageInOrg org pageId with
      | false => exact .inl ⟨rfl, rfl⟩
      | true =>
          cases hexist : input.connects.all db.monitorExists with
          | false => exact .inl ⟨rfl, rfl⟩
          | true =>
              exact .inr ⟨existing, hexisting, (of_decide_eq_true hcond).1,
                (of_decide_eq_true hcond).2, rfl, rfl, rfl, rfl⟩

theorem UpdateComponentInput.monitorId_of_connects {input : UpdateComponentInput} {m : Nat}
    (h : input.connects = some m) (c : ComponentRow) : (input.apply c).monitorId = some m := by
  have hvalue : input.monitorId = some (some m) := Option.join_eq_some_iff.1 h
  simp [UpdateComponentInput.apply, hvalue]

theorem updateComponent_change (hc : db.Consistent) (org : OrganizationId)
    (pageId componentId : Nat) (input : UpdateComponentInput) :
    Change db (db.links (.updateComponent org pageId componentId input))
      (step db (.updateComponent org pageId componentId input)) := by
  obtain ⟨hstep, hlinks⟩ | ⟨existing, hexisting, hid, hon, hin, hexist, hlinks, hstep⟩ :=
    updateComponent_cases db org pageId componentId input
  · rw [hstep, hlinks]
    exact Change.refl hc
  · rw [hstep, hlinks]
    have hpage := pageOrg_of_pageInOrg hc.pageIds hin
    refine Change.of_components hc ?_ ?_ ?_ ?_
    · rw [map_id_updateWhere (f := input.apply) fun _ => rfl]
      exact hc.componentIds
    · intro c' hc'
      obtain ⟨c, hmem, hsel, rfl⟩ | ⟨hmem, -⟩ := mem_updateWhere.1 hc'
      · -- the edited row is the one found, so its page is the guarded one
        have hc_id : c.id = componentId := of_decide_eq_true hsel
        obtain rfl := eq_of_id_eq hc.componentIds hmem hexisting (hc_id.trans hid.symm)
        cases hvalue : input.monitorId with
        | none => exact .inl ⟨c, hmem, rfl, by simp [UpdateComponentInput.apply, hvalue]⟩
        | some value =>
            refine .inr fun m hm => ⟨org, ?_, hon ▸ hpage⟩
            simpa [UpdateComponentInput.apply, UpdateComponentInput.connects, hvalue] using hm
      · exact .inl ⟨c', hmem, rfl, rfl⟩
    · intro l hl
      obtain ⟨m, hm, rfl⟩ := List.mem_map.1 hl
      refine ⟨input.apply existing, mem_updateWhere.2 (.inl ⟨existing, hexisting, by simpa using hid,
        rfl⟩), ?_, hon ▸ hpage⟩
      exact UpdateComponentInput.monitorId_of_connects (by simpa using hm) existing
    · intro l hl
      obtain ⟨m, hm, rfl⟩ := List.mem_map.1 hl
      exact (Option.all_eq_true ..).1 hexist m (by simpa using hm)

theorem deleteComponent_change (hc : db.Consistent) (org : OrganizationId)
    (pageId componentId : Nat) :
    Change db [] (step db (.deleteComponent org pageId componentId)) := by
  simp only [step, deleteComponent]
  split
  · refine Change.of_components hc ?_ ?_ (by simp) (by simp)
    · exact hc.componentIds.sublist (List.filter_sublist.map _)
    · intro c' hc'
      exact .inl ⟨c', (List.mem_filter.1 hc').1, rfl, rfl⟩
  · exact Change.refl hc

/-- Repositioning moves components, and changes neither what they are nor what they link. -/
theorem map_reposition {ι : Type} {key : ComponentRow → ι}
    (hkey : ∀ c i, key { c with position := i } = key c) (moves : List (Nat × Nat))
    (rows : List ComponentRow) :
    (moves.foldl (fun rows (id, i) =>
      updateWhere (·.id = id) (fun c => { c with position := i }) rows) rows).map key =
      rows.map key := by
  induction moves generalizing rows with
  | nil => rfl
  | cons move moves ih =>
      rw [List.foldl_cons, ih, map_id_updateWhere fun c => hkey c move.2]

theorem reorderComponents_change (hc : db.Consistent) (org : OrganizationId) (pageId : Nat)
    (orderedIds : List Nat) :
    Change db [] (step db (.reorderComponents org pageId orderedIds)) := by
  simp only [step, reorderComponents]
  split
  · exact Change.refl hc
  · refine Change.of_components hc ?_ ?_ (by simp) (by simp)
    · rw [map_reposition fun _ _ => rfl]
      exact hc.componentIds
    · intro c' hc'
      have hlink := List.mem_map_of_mem (f := fun c : ComponentRow => (c.statusPageId, c.monitorId)) hc'
      rw [map_reposition fun _ _ => rfl] at hlink
      obtain ⟨c, hmem, heq⟩ := List.mem_map.1 hlink
      exact .inl ⟨c, hmem, (Prod.mk.inj heq).1, (Prod.mk.inj heq).2⟩

/-! ### incidents and monitors -/

theorem openIncident_change (hc : db.Consistent) (org : OrganizationId) (pageId : Nat)
    (title body : String) (impact : Option IncidentImpact) (now : Instant) :
    Change db [] (step db (.openIncident org pageId title body impact now)) := by
  simp only [step, openIncident]
  split
  · exact Change.refl hc
  · exact Change.of_incidents hc _

theorem addIncidentUpdate_change (hc : db.Consistent) (org : OrganizationId)
    (pageId incidentId : Nat) (status : IncidentStatus) (body : String) (now : Instant) :
    Change db [] (step db (.addIncidentUpdate org pageId incidentId status body now)) := by
  simp only [step, addIncidentUpdate]
  split
  · exact Change.refl hc
  · split
    · exact Change.refl hc
    · exact Change.of_incidents hc _

theorem createMonitor_change (hc : db.Consistent) (org : OrganizationId) (withinLimit : Bool) :
    Change db [] (step db (.createMonitor org withinLimit)) := by
  cases withinLimit with
  | false => exact Change.refl hc
  | true =>
      exact Change.of_monitors hc (nodup_concat_freshId hc.monitorIds rfl) (monitorOrg_concat rfl)

/-- An edit of monitors that leaves their organization alone. -/
theorem Change.of_monitor_edit (hc : db.Consistent) {p : MonitorRow → Bool}
    {f : MonitorRow → MonitorRow}
    (hf : ∀ r, (f r).id = r.id ∧ (f r).organizationId = r.organizationId) :
    Change db [] { db with monitors := updateWhere p f db.monitors } := by
  refine Change.of_monitors hc ?_ fun {i org} h => (monitorOrg_updateWhere rfl hf i).trans h
  rw [map_id_updateWhere fun r => (hf r).1]
  exact hc.monitorIds

theorem writeMonitor_change (hc : db.Consistent) (org : OrganizationId) (id : Nat)
    {f : MonitorRow → MonitorRow}
    (hf : ∀ r, (f r).id = r.id ∧ (f r).organizationId = r.organizationId) :
    Change db [] ((db.writeMonitor org id f).settle db) := by
  rw [Db.writeMonitor]
  split
  · exact Change.of_monitor_edit hc hf
  · exact Change.refl hc

theorem rollup_change (hc : db.Consistent) (monitorId : Nat) (region : String) (day : Int)
    (total up : Nat) : Change db [] (step db (.rollup monitorId region day total up)) := by
  have hstats : ∀ rows : List DailyStat,
      (∀ st ∈ rows, db.monitorOrg st.monitorId = some st.organizationId) →
      Change db [] { db with dailyStats := rows } := fun rows hrows =>
    { keeps := ⟨id, id⟩
      consistent := { hc with statOrgs := hrows }
      explains := fun c' hc' => .inl ⟨c', hc', rfl, rfl⟩
      makes := by simp
      known := by simp }
  simp only [step, rollup]
  split
  · exact Change.refl hc
  · rename_i m hm
    split
    · refine hstats _ fun st hst => ?_
      obtain ⟨st₀, hst₀, -, rfl⟩ | ⟨hst₀, -⟩ := mem_updateWhere.1 hst
      · exact hc.statOrgs st₀ hst₀
      · exact hc.statOrgs st hst₀
    · refine hstats _ fun st hst => ?_
      obtain hst | hst := List.mem_append.1 hst
      · exact hc.statOrgs st hst
      · obtain rfl := List.mem_singleton.1 hst
        simp [Db.monitorOrg, hm]

/-- **What one operation does**, in the terms of the invariants. -/
theorem step_change (hc : db.Consistent) (op : Op) : Change db (db.links op) (step db op) := by
  cases op with
  | create org withinLimit input now => exact create_change hc org withinLimit input now
  | update org id input now => exact update_change hc org id input now
  | remove org id now => exact remove_change hc org id now
  | createComponent org pageId input now => exact createComponent_change hc org pageId input now
  | updateComponent org pageId componentId input =>
      exact updateComponent_change hc org pageId componentId input
  | deleteComponent org pageId componentId => exact deleteComponent_change hc org pageId componentId
  | reorderComponents org pageId orderedIds => exact reorderComponents_change hc org pageId orderedIds
  | openIncident org pageId title body impact now =>
      exact openIncident_change hc org pageId title body impact now
  | addIncidentUpdate org pageId incidentId status body now =>
      exact addIncidentUpdate_change hc org pageId incidentId status body now
  | createMonitor org withinLimit => exact createMonitor_change hc org withinLimit
  | removeMonitor org id now => exact writeMonitor_change hc org id fun r => ⟨rfl, rfl⟩
  | pauseMonitor org id =>
      refine writeMonitor_change hc org id fun r => ?_
      split <;> exact ⟨rfl, rfl⟩
  | resumeMonitor org id =>
      refine writeMonitor_change hc org id fun r => ?_
      split <;> exact ⟨rfl, rfl⟩
  | recordHealth id health => exact Change.of_monitor_edit hc fun r => ⟨rfl, rfl⟩
  | rollup monitorId region day total up => exact rollup_change hc monitorId region day total up

/-! ## links within organizations -/

theorem Keeps.owns {db' : Db} (h : Keeps db db') {c c' : ComponentRow} (ho : db.Owns c)
    (hpage : c.statusPageId = c'.statusPageId) (hmonitor : c.monitorId = c'.monitorId) :
    db'.Owns c' := by
  intro m hm
  obtain ⟨org, hp, hmon⟩ := ho m (hmonitor.trans hm)
  exact ⟨org, hpage ▸ h.pageOrg hp, h.monitorOrg hmon⟩

/-- **A write keeps links within organizations exactly when it links owned monitors.** -/
theorem owned_step_iff (hc : db.Consistent) (ho : db.Owned) (op : Op) :
    (step db op).Owned ↔ LinksOwned db op := by
  have hchange := step_change hc op
  constructor
  · intro howned l hl
    obtain ⟨c', hc', hlink, hpage⟩ := hchange.makes l hl
    obtain ⟨org, hpage', hmonitor'⟩ := howned c' hc' l.2 hlink
    obtain ⟨org', hmonitor⟩ := monitorOrg_of_exists (hchange.known l hl)
    rw [hpage] at hpage'
    rw [hchange.keeps.monitorOrg hmonitor] at hmonitor'
    rw [hmonitor, hmonitor', hpage']
  · intro hlinks c' hc'
    obtain ⟨c, hmem, hpage, hmonitor⟩ | hnew := hchange.explains c' hc'
    · exact hchange.keeps.owns (ho c hmem) hpage hmonitor
    · intro m hm
      obtain ⟨org, hl, hpage⟩ := hnew m hm
      exact ⟨org, hpage, hchange.keeps.monitorOrg (hlinks (org, m) hl)⟩

end

theorem consistent_run (ops : List Op) : (run step {} ops).Consistent :=
  inv_run_of_step (I := Db.Consistent) (fun _ op hc => (step_change hc op).consistent)
    consistent_empty ops

/-- A run whose writes link owned monitors only keeps every link within its organization, in
every state it reaches. -/
theorem owned_along_iff (ops : List Op) :
    Along step (fun db op => (step db op).Owned) {} ops ↔ Along step LinksOwned {} ops :=
  along_iff (I := fun db => db.Consistent ∧ db.Owned)
    (fun _ op h hl => ⟨(step_change h.1 op).consistent, (owned_step_iff h.1 h.2 op).2 hl⟩)
    (fun _ op h => owned_step_iff h.1 h.2 op) ⟨consistent_empty, owned_empty⟩

theorem owned_run {ops : List Op} (h : Along step LinksOwned {} ops) : (run step {} ops).Owned :=
  (inv_run (I := fun db : Db => db.Consistent ∧ db.Owned)
    (fun _ op hI hl => ⟨(step_change hI.1 op).consistent, (owned_step_iff hI.1 hI.2 op).2 hl⟩)
    ⟨consistent_empty, owned_empty⟩ h).2

/-! ## an organization's slice -/

/-- The rows that are one organization's data. -/
def Db.slice (db : Db) (org : OrganizationId) : Db where
  monitors := db.monitors.filter (·.organizationId = org)
  dailyStats := db.dailyStats.filter (·.organizationId = org)
  pages := db.pages.filter (·.organizationId = org)
  components := db.components.filter fun c => db.pageOrg c.statusPageId = some org
  incidents := db.incidents.filter fun i => db.pageOrg i.statusPageId = some org

section
variable {db : Db} {org : OrganizationId}

/-- A page is found by its slug in the slice of its organization as in all the tables. -/
theorem publicRow_slice (hc : db.Consistent) {p : PageRow} (hp : p ∈ db.pages)
    (horg : p.organizationId = org) : (db.slice org).publicRow p.slug = db.publicRow p.slug := by
  refine find?_filter_of_imp fun r hr hread => ?_
  have hslug : r.slug = p.slug := by
    simp only [PageRow.readable, Bool.and_eq_true, decide_eq_true_eq] at hread
    exact hread.1.1
  obtain rfl := eq_of_id_eq hc.slugs hr hp hslug
  simpa using horg

/-- A slug leads to the one page that has it. -/
theorem publicRow_some (hc : db.Consistent) {p row : PageRow} (hp : p ∈ db.pages)
    (h : db.publicRow p.slug = some row) : row = p := by
  have hread := List.find?_some h
  simp only [PageRow.readable, Bool.and_eq_true, decide_eq_true_eq] at hread
  exact eq_of_id_eq hc.slugs (List.mem_of_find?_eq_some h) hp hread.1.1

theorem monitor_slice (hc : db.Consistent) {m : Nat} (h : db.monitorOrg m = some org) :
    (db.slice org).monitor m = db.monitor m := by
  refine find?_filter_of_imp fun r hr hid => ?_
  have hrow := monitorOrg_eq_of_mem hc.monitorIds hr
  rw [of_decide_eq_true hid, h] at hrow
  simpa using (Option.some.inj hrow).symm

theorem pageComponents_slice {pageId : Nat} (h : db.pageOrg pageId = some org) :
    (db.slice org).pageComponents pageId = db.pageComponents pageId := by
  rw [Db.pageComponents, Db.slice, filter_filter_of_imp, Db.pageComponents]
  intro c _ hc
  rw [of_decide_eq_true hc]
  exact decide_eq_true h

theorem activeIncidents_slice {pageId : Nat} (h : db.pageOrg pageId = some org) :
    (db.slice org).activeIncidents pageId = db.activeIncidents pageId := by
  rw [Db.activeIncidents, Db.slice, filter_filter_of_imp, Db.activeIncidents]
  intro i _ hi
  rw [(of_decide_eq_true hi).1]
  exact decide_eq_true h

theorem mem_pageComponents {pageId : Nat} {c : ComponentRow} (h : c ∈ db.pageComponents pageId) :
    c ∈ db.components ∧ c.statusPageId = pageId := by
  rw [Db.pageComponents, List.mem_insertionSort, List.mem_filter] at h
  exact ⟨h.1, of_decide_eq_true h.2⟩

/-- A component of the organization shows what its own monitors give. -/
theorem toPublicComponent_slice (hc : db.Consistent) (ho : db.Owned) {c : ComponentRow}
    (hmem : c ∈ db.components) (hpage : db.pageOrg c.statusPageId = some org) :
    (db.slice org).toPublicComponent c = db.toPublicComponent c := by
  have hjoin : c.monitorId.bind (db.slice org).monitor = c.monitorId.bind db.monitor := by
    cases hm : c.monitorId with
    | none => rfl
    | some m =>
        obtain ⟨org', hpage', hmonitor⟩ := ho c hmem m hm
        obtain rfl : org = org' := Option.some.inj (hpage.symm.trans hpage')
        exact monitor_slice hc hmonitor
  simp only [Db.toPublicComponent, Db.componentStatus, hjoin]

/-- **The public page of an organization is a function of its slice.** -/
theorem getPublicPage_slice (hc : db.Consistent) (ho : db.Owned) {p : PageRow} (hp : p ∈ db.pages)
    (horg : p.organizationId = org) : getPublicPage (db.slice org) p.slug = getPublicPage db p.slug := by
  rw [getPublicPage, getPublicPage, publicRow_slice hc hp horg]
  refine Option.map_congr fun row hrow => ?_
  obtain rfl := publicRow_some hc hp hrow
  have hpage : db.pageOrg row.id = some org := horg ▸ pageOrg_eq_of_mem hc.pageIds hp
  have hcomponents : (db.pageComponents row.id).map (db.slice org).toPublicComponent =
      (db.pageComponents row.id).map db.toPublicComponent := by
    refine List.map_congr_left fun c hmem => ?_
    obtain ⟨hmem, hon⟩ := mem_pageComponents hmem
    exact toPublicComponent_slice hc ho hmem (hon ▸ hpage)
  simp only [Db.toPublicPage, pageComponents_slice hpage, hcomponents, activeIncidents_slice hpage]

/-- The history of a page reads the statistics of the organization only. -/
theorem historyStats_slice (hc : db.Consistent) (ho : db.Owned) {pageId : Nat}
    (hpage : db.pageOrg pageId = some org) (since : Int) :
    (db.slice org).historyStats ((db.historyComponents pageId).filterMap (·.monitorId)) since =
      db.historyStats ((db.historyComponents pageId).filterMap (·.monitorId)) since := by
  refine filter_filter_of_imp fun st hst hread => ?_
  simp only [Bool.and_eq_true, List.contains_iff_mem, List.mem_filterMap] at hread
  obtain ⟨c, hmem, hm⟩ := hread.1
  obtain ⟨hmem, hon⟩ := mem_pageComponents (List.mem_filter.1 hmem).1
  obtain ⟨org', hpage', hmonitor⟩ := ho c hmem _ hm
  rw [hon, hpage] at hpage'
  rw [hc.statOrgs st hst, ← hpage'] at hmonitor
  exact decide_eq_true (Option.some.inj hmonitor)

/-- **The uptime history of an organization's page is a function of its slice.** -/
theorem getHistory_slice {ρ : Type} (percent : Nat → Nat → ρ) (hc : db.Consistent) (ho : db.Owned)
    {p : PageRow} (hp : p ∈ db.pages) (horg : p.organizationId = org) (windowDays : Nat)
    (now : Instant) :
    getHistory percent (db.slice org) p.slug windowDays now =
      getHistory percent db p.slug windowDays now := by
  rw [getHistory, getHistory, publicRow_slice hc hp horg]
  refine Option.map_congr fun row hrow => ?_
  obtain rfl := publicRow_some hc hp hrow
  have hpage : db.pageOrg row.id = some org := horg ▸ pageOrg_eq_of_mem hc.pageIds hp
  have hcomponents : (db.slice org).historyComponents row.id = db.historyComponents row.id := by
    rw [Db.historyComponents, pageComponents_slice hpage, Db.historyComponents]
  simp only [hcomponents, historyStats_slice hc ho hpage]

end

/-! ## tenants -/

/-- The two states hold the same data of the organization. -/
def Agree (org : OrganizationId) (db db' : Db) : Prop := db.slice org = db'.slice org

/-- The public sees the same of the organization's pages in both states. -/
def SameReads {ρ : Type} (percent : Nat → Nat → ρ) (org : OrganizationId) (db db' : Db) : Prop :=
  ∀ p ∈ db.pages, p.organizationId = org →
    getPublicPage db p.slug = getPublicPage db' p.slug ∧
      ∀ windowDays now, getHistory percent db p.slug windowDays now =
        getHistory percent db' p.slug windowDays now

theorem sameReads_of_agree {ρ : Type} (percent : Nat → Nat → ρ) {org : OrganizationId} {db db' : Db}
    (hc : db.Consistent) (ho : db.Owned) (hc' : db'.Consistent) (ho' : db'.Owned)
    (hagree : Agree org db db') : SameReads percent org db db' := by
  intro p hp horg
  have hp' : p ∈ db'.pages := by
    have hslice : p ∈ (db.slice org).pages := List.mem_filter.2 ⟨hp, decide_eq_true horg⟩
    rw [hagree] at hslice
    exact (List.mem_filter.1 hslice).1
  constructor
  · rw [← getPublicPage_slice hc ho hp horg, hagree, getPublicPage_slice hc' ho' hp' horg]
  · intro windowDays now
    rw [← getHistory_slice percent hc ho hp horg, hagree, getHistory_slice percent hc' ho' hp' horg]

/-- **Tenant isolation.**  Every link stays within its organization, in every state a run
reaches, if and only if its writes link only monitors of the organization they act for; and
after such runs the public pages and histories of an organization show nothing that depends
on the data of the others. -/
theorem tenantIsolation {ρ : Type} (percent : Nat → Nat → ρ) (ops : List Op) :
    (Along step (fun db op => (step db op).Owned) {} ops ↔ Along step LinksOwned {} ops) ∧
      (Along step LinksOwned {} ops → ∀ ops', Along step LinksOwned {} ops' →
        ∀ org, Agree org (run step {} ops) (run step {} ops') →
          SameReads percent org (run step {} ops) (run step {} ops')) :=
  ⟨owned_along_iff ops, fun h ops' h' _ hagree =>
    sameReads_of_agree percent (consistent_run ops) (owned_run h) (consistent_run ops')
      (owned_run h') hagree⟩

/-- Two organizations, each with a monitor and a page that shows it. -/
def twoTenants : List Op :=
  [.createMonitor "acme" true, .createMonitor "globex" true,
    .create "acme" true
      { name := "Acme", slug := "acme", components := [{ monitorId := some 0, displayName := "API" }] } 0,
    .create "globex" true { name := "Globex", slug := "globex" } 0,
    .createComponent "globex" 1 { monitorId := some 1, name := "Shop" } 0]

/-- An outage of `globex` shows on its own page and not on the page of `acme`. -/
theorem tenantIsolation_twoTenants :
    SameReads (fun up total => (up, total)) "acme" (run step {} twoTenants)
        (run step {} (twoTenants ++ [.recordHealth 1 .down, .rollup 1 "NA_EAST" 0 10 3])) ∧
      getPublicPage (run step {} twoTenants) "globex" ≠
        getPublicPage (run step {} (twoTenants ++ [.recordHealth 1 .down])) "globex" :=
  ⟨(tenantIsolation _ twoTenants).2 (by decide) _ (by decide) "acme" (by rfl), by decide⟩

/-- A page of `globex` shows a monitor of `acme`. -/
def foreignLink : List Op :=
  [.createMonitor "acme" true,
    .create "globex" true
      { name := "Globex", slug := "globex",
        components := [{ monitorId := some 0, displayName := "Theirs" }] } 0]

/-- The link leaves its organization, and the page of `globex` tells two states apart that
hold the same data of `globex`. -/
theorem not_tenantIsolation_foreignLink :
    ¬ (run step {} foreignLink).Owned ∧
      Agree "globex" (run step {} foreignLink)
        (run step {} (foreignLink ++ [.recordHealth 0 .down])) ∧
      getPublicPage (run step {} foreignLink) "globex" ≠
        getPublicPage (run step {} (foreignLink ++ [.recordHealth 0 .down])) "globex" := by
  refine ⟨fun howned => ?_, by rfl, by decide⟩
  obtain ⟨org, hpage, hmonitor⟩ := howned
    { id := 0, statusPageId := 0, monitorId := some 0, name := "Theirs", description := none,
      groupName := none, position := 0, createdAt := 0 } (by decide) 0 rfl
  have hglobex : (run step {} foreignLink).pageOrg 0 = some "globex" := by decide
  have hacme : (run step {} foreignLink).monitorOrg 0 = some "acme" := by decide
  rw [hglobex] at hpage
  rw [hacme] at hmonitor
  exact absurd (hpage.trans hmonitor.symm) (by decide)

end UptimeFlow.StatusPages
