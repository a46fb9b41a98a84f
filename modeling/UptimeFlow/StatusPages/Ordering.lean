import UptimeFlow.StatusPages.Isolation

/-!
# UptimeFlow.StatusPages.Ordering

The order of a page's components.

A reordering gives the requested components the places `0, 1, …` of the request,
and leaves the others where they are.  So old and new places may collide, and
the readers fall back to the time of creation, which no reordering changes.
What a database may answer to that `ORDER BY` is a `Listing`; where the times of
creation differ there is only one.
-/

namespace UptimeFlow.StatusPages

open Tables
open Monitoring (OrganizationId Instant)

variable {db : Db} {pageId : Nat}

/-! ## listings -/

/-- The rows of the components of a page, in the order of the table. -/
def Db.componentsOf (db : Db) (pageId : Nat) : List ComponentRow :=
  db.components.filter (·.statusPageId = pageId)

/-- An answer to `ORDER BY position, createdAt`, with ties in any order. -/
def Db.Listing (db : Db) (pageId : Nat) (rows : List ComponentRow) : Prop :=
  rows.Perm (db.componentsOf pageId) ∧ rows.Pairwise fun a b => a.before b

def Db.DistinctTimes (db : Db) (pageId : Nat) : Prop :=
  ((db.componentsOf pageId).map (·.createdAt)).Nodup

instance (db : Db) (pageId : Nat) : Decidable (db.DistinctTimes pageId) :=
  inferInstanceAs (Decidable (List.Nodup _))

theorem before_iff {a b : ComponentRow} :
    a.before b = true ↔
      a.position < b.position ∨ a.position = b.position ∧ a.createdAt ≤ b.createdAt := by
  simp only [ComponentRow.before, Bool.or_eq_true, Bool.and_eq_true, decide_eq_true_eq]

theorem position_le_of_before {a b : ComponentRow} (h : a.before b = true) :
    a.position ≤ b.position := by
  obtain h | ⟨h, -⟩ := before_iff.1 h
  · exact h.le
  · exact h.le

instance : Std.Total fun a b : ComponentRow => a.before b = true where
  total a b := by
    rw [before_iff, before_iff]
    obtain hlt | heq | hgt := Nat.lt_trichotomy a.position b.position
    · exact .inl (.inl hlt)
    · exact (Int.le_total a.createdAt b.createdAt).imp (fun h => .inr ⟨heq, h⟩)
        fun h => .inr ⟨heq.symm, h⟩
    · exact .inr (.inl hgt)

instance : IsTrans ComponentRow fun a b => a.before b = true where
  trans a b c := by
    rw [before_iff, before_iff, before_iff]
    rintro (hab | ⟨heq, hab⟩) (hbc | ⟨heq', hbc⟩)
    · exact .inl (hab.trans hbc)
    · exact .inl (heq' ▸ hab)
    · exact .inl (heq ▸ hbc)
    · exact .inr ⟨heq.trans heq', Int.le_trans hab hbc⟩

/-- What the model lists is an answer. -/
theorem listing_pageComponents (db : Db) (pageId : Nat) :
    db.Listing pageId (db.pageComponents pageId) :=
  ⟨List.perm_insertionSort _ _, List.pairwise_insertionSort _ _⟩

/-- Rows of one page that come before each other are one row. -/
theorem eq_of_before (htimes : db.DistinctTimes pageId) {a b : ComponentRow}
    (ha : a ∈ db.componentsOf pageId) (hb : b ∈ db.componentsOf pageId)
    (hab : a.before b = true) (hba : b.before a = true) : a = b := by
  refine List.inj_on_of_nodup_map htimes ha hb ?_
  obtain hlt | ⟨-, hle⟩ := before_iff.1 hab
  · exact absurd (position_le_of_before hba) hlt.not_ge
  · obtain hlt | ⟨-, hge⟩ := before_iff.1 hba
    · exact absurd (position_le_of_before hab) hlt.not_ge
    · exact Int.le_antisymm hle hge

/-- Where the times of creation differ, every reader sees the same order. -/
theorem listing_unique (htimes : db.DistinctTimes pageId) {rows rows' : List ComponentRow}
    (h : db.Listing pageId rows) (h' : db.Listing pageId rows') : rows = rows' := by
  refine List.Perm.eq_of_pairwise (fun a b ha hb => ?_) h.2 h'.2 (h.1.trans h'.1.symm)
  exact eq_of_before htimes (h.1.mem_iff.1 ha) (h'.1.mem_iff.1 hb)

/-! ## places -/

/-- The row, at another place. -/
def ComponentRow.placed (i : Nat) (c : ComponentRow) : ComponentRow := { c with position := i }

/-- The place the request gives a component. -/
def ComponentRow.reposition (ids : List Nat) (c : ComponentRow) : ComponentRow :=
  if c.id ∈ ids then c.placed (ids.idxOf c.id) else c

theorem reposition_of_mem {ids : List Nat} {c : ComponentRow} (h : c.id ∈ ids) :
    c.reposition ids = c.placed (ids.idxOf c.id) := if_pos h

theorem reposition_of_notMem {ids : List Nat} {c : ComponentRow} (h : c.id ∉ ids) :
    c.reposition ids = c := if_neg h

/-- A reordering changes the place of a row and nothing else. -/
theorem comp_reposition {κ : Type} (key : ComponentRow → κ) (hkey : ∀ c i, key (c.placed i) = key c)
    (ids : List Nat) : key ∘ ComponentRow.reposition ids = key := by
  funext c
  rw [Function.comp_apply, ComponentRow.reposition]
  split
  · exact hkey c _
  · rfl

/-- The updates of one reordering, counted from `n`, are one pass over the table. -/
theorem foldl_updateWhere_zipIdx {ids : List Nat} (hids : ids.Nodup) (n : Nat)
    (rows : List ComponentRow) :
    (ids.zipIdx n).foldl
        (fun rows (id, i) => updateWhere (·.id = id) (fun c => { c with position := i }) rows) rows =
      rows.map fun c => if c.id ∈ ids then c.placed (n + ids.idxOf c.id) else c := by
  induction ids generalizing n rows with
  | nil => simp
  | cons id ids ih =>
      obtain ⟨hnew, hids⟩ := List.nodup_cons.1 hids
      rw [List.zipIdx_cons, List.foldl_cons, ih hids]
      simp only [updateWhere, List.map_map]
      refine List.map_congr_left fun c _ => ?_
      by_cases hid : c.id = id
      · -- the first update moves this row, and no later one does
        simp [hid, hnew, ComponentRow.placed]
      · have hne : (id == c.id) = false := by simpa using Ne.symm hid
        simp [hid, List.idxOf_cons, hne, Nat.add_assoc, Nat.add_comm 1]

/-- The requested components of the page. -/
def Db.requested (db : Db) (pageId : Nat) (orderedIds : List Nat) : List Nat :=
  orderedIds.filter ((db.componentsOf pageId).map (·.id)).contains

def Db.reordered (db : Db) (pageId : Nat) (orderedIds : List Nat) : Db :=
  { db with components := db.components.map (ComponentRow.reposition (db.requested pageId orderedIds)) }

/-- What a reordering does, and what it answers. -/
theorem reorderComponents_eq {org : OrganizationId} {orderedIds : List Nat}
    (hguard : db.pageInOrg org pageId = true) (hrequest : orderedIds.Nodup) :
    reorderComponents db org pageId orderedIds =
      .ok (some ((db.reordered pageId orderedIds).pageComponents pageId,
        db.reordered pageId orderedIds)) := by
  have hmoved := foldl_updateWhere_zipIdx (hrequest.filter
    ((db.componentsOf pageId).map (·.id)).contains) 0 db.components
  simp only [Nat.zero_add] at hmoved
  simp only [reorderComponents, hguard, Bool.not_true, Bool.false_eq_true, if_false]
  rw [← Db.componentsOf, hmoved]
  rfl

/-! ## what a reordering keeps -/

theorem componentsOf_reordered (db : Db) (pageId : Nat) (orderedIds : List Nat) :
    (db.reordered pageId orderedIds).componentsOf pageId =
      (db.componentsOf pageId).map (ComponentRow.reposition (db.requested pageId orderedIds)) := by
  rw [Db.componentsOf, Db.reordered, List.filter_map, comp_reposition _ fun _ _ => rfl,
    Db.componentsOf]

theorem distinctTimes_reordered (orderedIds : List Nat) (htimes : db.DistinctTimes pageId) :
    (db.reordered pageId orderedIds).DistinctTimes pageId := by
  rwa [Db.DistinctTimes, componentsOf_reordered, List.map_map, comp_reposition _ fun _ _ => rfl]

theorem mem_requested {orderedIds : List Nat} {c : ComponentRow} (hc : c ∈ db.componentsOf pageId) :
    c.id ∈ db.requested pageId orderedIds ↔ c.id ∈ orderedIds := by
  rw [Db.requested, List.mem_filter, and_iff_left]
  exact List.contains_iff_mem.2 (List.mem_map_of_mem hc)

/-- Components of other pages stay where they are. -/
theorem filter_reordered (hids : (db.components.map (·.id)).Nodup) (orderedIds : List Nat) :
    (db.reordered pageId orderedIds).components.filter (·.statusPageId ≠ pageId) =
      db.components.filter (·.statusPageId ≠ pageId) := by
  rw [Db.reordered, List.filter_map, comp_reposition _ fun _ _ => rfl]
  refine List.map_congr_left (fun c hc => ?_) |>.trans (List.map_id _)
  obtain ⟨hmem, hother⟩ := List.mem_filter.1 hc
  refine reposition_of_notMem fun hreq => of_decide_eq_true hother ?_
  -- a requested identifier is one of a row on this page, and no two rows share it
  obtain ⟨c', hc', hid⟩ := List.mem_map.1 (List.contains_iff_mem.1 (List.mem_filter.1 hreq).2)
  obtain ⟨hmem', hon⟩ := List.mem_filter.1 hc'
  obtain rfl := eq_of_id_eq hids hmem' hmem hid
  exact of_decide_eq_true hon

section
variable {orderedIds : List Nat} {rows prior : List ComponentRow}

/-- The components are those that were there, apart from their places. -/
theorem perm_placed (hprior : db.Listing pageId prior)
    (h : (db.reordered pageId orderedIds).Listing pageId rows) :
    (rows.map (·.placed 0)).Perm (prior.map (·.placed 0)) := by
  have hplaced : (rows.map (·.placed 0)).Perm ((db.componentsOf pageId).map (·.placed 0)) := by
    have hrows := h.1.map (ComponentRow.placed 0)
    rwa [componentsOf_reordered, List.map_map, comp_reposition _ fun _ _ => rfl] at hrows
  exact hplaced.trans (hprior.1.map _).symm

theorem mem_reordered {c : ComponentRow}
    (h : (db.reordered pageId orderedIds).Listing pageId rows) (hc : c ∈ rows) :
    ∃ c₀ ∈ db.componentsOf pageId, c₀.reposition (db.requested pageId orderedIds) = c := by
  rw [h.1.mem_iff, componentsOf_reordered] at hc
  exact List.mem_map.1 hc

/-- A requested component has the place the request gives it. -/
theorem position_requested {c : ComponentRow}
    (h : (db.reordered pageId orderedIds).Listing pageId rows) (hc : c ∈ rows)
    (hrequested : c.id ∈ orderedIds) :
    c.position = (db.requested pageId orderedIds).idxOf c.id := by
  obtain ⟨c₀, hc₀, rfl⟩ := mem_reordered h hc
  have hid := congrFun (comp_reposition (·.id) (fun _ _ => rfl) (db.requested pageId orderedIds)) c₀
  rw [Function.comp_apply] at hid
  rw [hid] at hrequested ⊢
  rw [reposition_of_mem ((mem_requested hc₀).2 hrequested)]
  rfl

/-- A component that is not requested is as it was. -/
theorem mem_of_not_requested {c : ComponentRow}
    (h : (db.reordered pageId orderedIds).Listing pageId rows) (hc : c ∈ rows)
    (hother : c.id ∉ orderedIds) : c ∈ db.componentsOf pageId := by
  obtain ⟨c₀, hc₀, rfl⟩ := mem_reordered h hc
  have hid := congrFun (comp_reposition (·.id) (fun _ _ => rfl) (db.requested pageId orderedIds)) c₀
  rw [Function.comp_apply] at hid
  rw [hid] at hother
  rwa [reposition_of_notMem fun hreq => hother ((mem_requested hc₀).1 hreq)]

/-- The requested components stand in the order of the request. -/
theorem filter_requested (hids : (db.components.map (·.id)).Nodup) (hrequest : orderedIds.Nodup)
    (h : (db.reordered pageId orderedIds).Listing pageId rows) :
    (rows.filter fun c => orderedIds.contains c.id).map (·.id) = db.requested pageId orderedIds := by
  let ids := db.requested pageId orderedIds
  have hnodup : ids.Nodup := hrequest.filter _
  have howned : (rows.map (·.id)).Perm ((db.componentsOf pageId).map (·.id)) := by
    have hrows := h.1.map (·.id)
    rwa [componentsOf_reordered, List.map_map, comp_reposition _ fun _ _ => rfl] at hrows
  have hmap : (rows.filter fun c => orderedIds.contains c.id).map (·.id) =
      (rows.map (·.id)).filter orderedIds.contains := by
    rw [List.filter_map]
    rfl
  refine List.Perm.eq_of_pairwise
    (fun a b _ hb (hab : ids.idxOf a ≤ ids.idxOf b) (hba : ids.idxOf b ≤ ids.idxOf a) => ?_) ?_ ?_ ?_
  · exact ((List.idxOf_inj hb).1 (hba.antisymm hab)).symm
  · rw [List.pairwise_map]
    refine (h.2.filter _).imp_of_mem fun {a b} ha hb hbefore => ?_
    obtain ⟨ha, harequested⟩ := List.mem_filter.1 ha
    obtain ⟨hb, hbrequested⟩ := List.mem_filter.1 hb
    rw [← position_requested h ha (List.contains_iff_mem.1 harequested),
      ← position_requested h hb (List.contains_iff_mem.1 hbrequested)]
    exact position_le_of_before hbefore
  · refine List.pairwise_iff_getElem.2 fun i j hi hj hij => ?_
    rw [hnodup.idxOf_getElem, hnodup.idxOf_getElem]
    exact hij.le
  · have hsub : ((db.componentsOf pageId).map (·.id)).Nodup :=
      hids.sublist (List.filter_sublist.map _)
    refine (List.perm_ext_iff_of_nodup ?_ hnodup).2 fun id => ?_
    · rw [hmap]
      exact (howned.nodup_iff.2 hsub).filter _
    · have hrequested : id ∈ ids ↔ id ∈ orderedIds ∧ id ∈ (db.componentsOf pageId).map (·.id) :=
        List.mem_filter.trans (and_congr_right' List.contains_iff_mem)
      rw [hmap, List.mem_filter, howned.mem_iff, List.contains_iff_mem, hrequested, and_comm]

/-- The others stand in the order they stood in. -/
theorem filter_not_requested (htimes : db.DistinctTimes pageId) (hprior : db.Listing pageId prior)
    (h : (db.reordered pageId orderedIds).Listing pageId rows) :
    (rows.filter fun c => !orderedIds.contains c.id) =
      prior.filter fun c => !orderedIds.contains c.id := by
  refine List.Perm.eq_of_pairwise (fun a b ha hb => ?_) (h.2.filter _) (hprior.2.filter _) ?_
  · obtain ⟨ha, hother⟩ := List.mem_filter.1 ha
    refine eq_of_before htimes (mem_of_not_requested h ha ?_)
      (hprior.1.mem_iff.1 (List.mem_filter.1 hb).1)
    simpa using hother
  · refine (h.1.filter _).trans (.trans ?_ (hprior.1.filter _).symm)
    have hother : (fun c : ComponentRow => !orderedIds.contains c.id) ∘
        ComponentRow.reposition (db.requested pageId orderedIds) =
          fun c => !orderedIds.contains c.id := comp_reposition _ (fun _ _ => rfl) _
    rw [componentsOf_reordered, List.filter_map, hother]
    refine .of_eq ((List.map_congr_left fun c hc => ?_).trans (List.map_id _))
    obtain ⟨hc, hother⟩ := List.mem_filter.1 hc
    refine reposition_of_notMem fun hreq => ?_
    simp [(mem_requested hc).1 hreq] at hother

end

/-- **Reordering**: the requested components of the page, in the order of the request, among the
others in the order they had; every reader of the page sees that order, and other pages are left
alone. -/
theorem reorderComponents_order {org : OrganizationId} {orderedIds : List Nat}
    {prior : List ComponentRow} (hids : (db.components.map (·.id)).Nodup)
    (hguard : db.pageInOrg org pageId = true) (hrequest : orderedIds.Nodup)
    (htimes : db.DistinctTimes pageId) (hprior : db.Listing pageId prior) :
    ∃ rows db', reorderComponents db org pageId orderedIds = .ok (some (rows, db')) ∧
      db' = { db with components := db'.components } ∧
      db'.components.filter (·.statusPageId ≠ pageId) =
        db.components.filter (·.statusPageId ≠ pageId) ∧
      (rows.map (·.placed 0)).Perm (prior.map (·.placed 0)) ∧
      (rows.filter fun c => orderedIds.contains c.id).map (·.id) =
        orderedIds.filter (prior.map (·.id)).contains ∧
      (rows.filter fun c => !orderedIds.contains c.id) =
        (prior.filter fun c => !orderedIds.contains c.id) ∧
      (∀ answer, db'.Listing pageId answer → answer = rows) ∧
      ∀ slug row, db'.publicRow slug = some row → row.id = pageId →
        (getPublicPage db' slug).map (fun page => page.components.map (·.id)) =
          some (rows.map (·.id)) := by
  have hlisting := listing_pageComponents (db.reordered pageId orderedIds) pageId
  refine ⟨_, _, reorderComponents_eq hguard hrequest, rfl, filter_reordered hids orderedIds,
    perm_placed hprior hlisting, ?_, filter_not_requested htimes hprior hlisting, ?_, ?_⟩
  · rw [filter_requested hids hrequest hlisting, Db.requested]
    refine List.filter_congr fun id _ => ?_
    rw [Bool.eq_iff_iff, List.contains_iff_mem, List.contains_iff_mem,
      (hprior.1.map (·.id)).mem_iff]
  · exact fun answer hanswer =>
      listing_unique (distinctTimes_reordered orderedIds htimes) hanswer hlisting
  · rintro slug row hrow rfl
    rw [getPublicPage, hrow, Option.map_some, Option.map_some, Db.toPublicPage, List.map_map]
    rfl

/-- A page with three components, two of them at one place, and another page. -/
def threeComponents : Db where
  pages := [page 0 "acme", page 1 "globex"]
  components := [component 0 0 3 10, component 1 0 1 20, component 2 1 0 30, component 3 0 1 40]
where
  page (id : Nat) (slug : String) : PageRow :=
    { id, organizationId := slug, slug, customDomain := none, name := slug, description := none,
      visibility := .public, branding := none, createdAt := 0, updatedAt := 0 }
  component (id statusPageId position : Nat) (createdAt : Instant) : ComponentRow :=
    { id, statusPageId, monitorId := none, name := "API", description := none, groupName := none,
      position, createdAt }

theorem reorderComponents_order_three :
    ∃ rows db', reorderComponents threeComponents "acme" 0 [3, 2, 0] = .ok (some (rows, db')) ∧
      (rows.filter fun c => [3, 2, 0].contains c.id).map (·.id) = [3, 0] ∧
      (rows.filter fun c => !([3, 2, 0].contains c.id)) = [threeComponents.component 1 0 1 20] ∧
      ∀ answer, db'.Listing 0 answer → answer = rows := by
  have hguard : threeComponents.pageInOrg "acme" 0 = true := by decide
  have hrequest : ([3, 2, 0] : List Nat).Nodup := by decide
  obtain ⟨rows, db', heq, -, -, -, hrequested, hothers, hunique, -⟩ :=
    reorderComponents_order (by decide) hguard hrequest (by decide) (listing_pageComponents _ 0)
  exact ⟨rows, db', heq, hrequested.trans (by decide), hothers.trans (by decide), hunique⟩

end UptimeFlow.StatusPages
