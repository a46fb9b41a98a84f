import UptimeFlow.Runs
import UptimeFlow.StatusPages.Ordering

/-!
# UptimeFlow.StatusPages.Editor

The dashboard's editor of a page's components.

A drag or an edit is shown at once: it is written to the cached list, and sent to
the API.  If the request fails the list from before it is put back, and however
it ends the list is fetched anew.  Requests may be under way together, and their
answers come in any order.

Whatever fails in between, once nothing is under way the editor shows what the
database has (`editor_settles`).  A component dropped lands where it is dropped
(`drag_lands`); and as long as requests are carried out in their order, what is
shown is what the API will answer (`optimistic_agrees`).

A change cancels the fetch that is under way, and the fetch after a request
replaces it.  Only this editor writes the page's components, and a request is
carried out before the client hears how it ended, or never.  An edit whose texts
the API refuses is a request that is lost.
-/

namespace UptimeFlow.StatusPages.Editor

open Tables Runs
open Monitoring (OrganizationId)

/-! ## what is shown at once -/

/-- `onDrop`: the dragged component is taken out, and put in at the place of the other one. -/
def onDrop (order : List ComponentRow) (dragId targetId : Nat) : Option (List ComponentRow) :=
  let ids := order.map (·.id)
  if dragId = targetId || !ids.contains dragId || !ids.contains targetId then none
  else order[ids.idxOf dragId]?.map fun moved =>
    (order.eraseIdx (ids.idxOf dragId)).insertIdx (ids.idxOf targetId) moved

/-- `useReorderComponents`, `onMutate`. -/
def reorderCached (previous : List ComponentRow) (orderedIds : List Nat) : List ComponentRow :=
  orderedIds.zipIdx.filterMap fun (id, i) =>
    (previous.find? fun c => c.id = id).map fun c => { c with position := i }

/-- `useUpdateComponent`, `onMutate`. -/
def updateCached (previous : List ComponentRow) (id : Nat) (payload : UpdateComponentInput) :
    List ComponentRow :=
  previous.map fun c => if c.id = id then payload.apply c else c

/-! ## sessions -/

inductive Change where
  | reorder (orderedIds : List Nat)
  | edit (id : Nat) (payload : UpdateComponentInput)
deriving DecidableEq, Repr

def Change.cached : Change → List ComponentRow → List ComponentRow
  | .reorder orderedIds, previous => reorderCached previous orderedIds
  | .edit id payload, previous => updateCached previous id payload

/-- What a request to reorder may list. -/
def reorderSchema (orderedIds : List Nat) : Bool :=
  1 ≤ orderedIds.length && orderedIds.length ≤ 200

/-- The API carries the change out, or refuses it. -/
def Change.serve (db : Db) (org : OrganizationId) (pageId : Nat) : Change → Option Db
  | .reorder orderedIds =>
      if reorderSchema orderedIds then
        match reorderComponents db org pageId orderedIds with
        | .ok (some (_, db')) => some db'
        | _ => none
      else none
  | .edit id payload =>
      match updateComponent db org pageId id payload with
      | .ok (some (_, db')) => some db'
      | _ => none

/-- A request under way, with the list to put back. -/
structure Mutation where
  change : Change
  previous : List ComponentRow
  /-- Whether it was carried out, once the API has seen it. -/
  served : Option Bool := none
deriving DecidableEq, Repr

structure Session where
  db : Db
  /-- The cached list. -/
  items : List ComponentRow
  mutations : List Mutation := []
  /-- The fetch under way, and what the database has answered it. -/
  fetch : Option (Option (List ComponentRow)) := none
  /-- The last fetch failed, and an error is shown instead of the list. -/
  failed : Bool := false
deriving DecidableEq, Repr

/-- `onMutate`: the fetch under way is cancelled. -/
def Session.begin (s : Session) (change : Change) : Session :=
  { s with
    items := change.cached s.items
    mutations := s.mutations ++ [⟨change, s.items, none⟩]
    fetch := none
    failed := false }

/-- `onError`, where it failed, and `onSettled`. -/
def Session.settle (s : Session) (n : Nat) (m : Mutation) (ok : Bool) : Session :=
  { s with
    items := if ok then s.items else m.previous
    mutations := s.mutations.eraseIdx n
    fetch := some none
    failed := s.failed && ok }

inductive EditorOp where
  | drag (dragId targetId : Nat)
  | edit (id : Nat) (payload : UpdateComponentInput)
  /-- The API sees the `n`-th request. -/
  | serve (n : Nat)
  /-- Its answer arrives. -/
  | answer (n : Nat)
  /-- The request, or its answer, is lost. -/
  | lose (n : Nat)
  /-- The tab is opened again, and the list is fetched unless a fetch is under way. -/
  | reopen
  /-- The database answers the fetch, with the rows in any order that its `ORDER BY` allows. -/
  | read (rows : List ComponentRow)
  | receive
  /-- The fetch has failed, and so have its retries. -/
  | giveUp
deriving DecidableEq, Repr

instance (db : Db) (pageId : Nat) (rows : List ComponentRow) : Decidable (db.Listing pageId rows) :=
  inferInstanceAs (Decidable (_ ∧ _))

section
variable (org : OrganizationId) (pageId : Nat)

def editorStep (s : Session) : EditorOp → Session
  | .drag dragId targetId =>
      match onDrop s.items dragId targetId with
      | some next => s.begin (.reorder (next.map (·.id)))
      | none => s
  | .edit id payload => s.begin (.edit id payload)
  | .serve n =>
      match s.mutations[n]? with
      | some m =>
          if m.served.isSome then s
          else
            { s with
              db := (m.change.serve s.db org pageId).getD s.db
              mutations := s.mutations.set n
                { m with served := some (m.change.serve s.db org pageId).isSome } }
      | none => s
  | .answer n =>
      match s.mutations[n]? with
      | some m =>
          match m.served with
          | some ok => s.settle n m ok
          | none => s
      | none => s
  | .lose n =>
      match s.mutations[n]? with
      | some m => s.settle n m false
      | none => s
  | .reopen => if s.fetch.isSome then s else { s with fetch := some none }
  | .read rows =>
      if s.fetch = some none ∧ s.db.Listing pageId rows then { s with fetch := some (some rows) }
      else s
  | .receive =>
      match s.fetch with
      | some (some rows) => { s with items := rows, fetch := none, failed := false }
      | _ => s
  | .giveUp => if s.fetch.isSome then { s with fetch := none, failed := true } else s

end

/-! ## drags -/

theorem insertIdx_eq {α : Type} {l : List α} {n : Nat} (h : n ≤ l.length) (a : α) :
    l.insertIdx n a = l.take n ++ a :: l.drop n := by
  induction l generalizing n with
  | nil =>
      obtain rfl : n = 0 := Nat.le_zero.1 h
      rfl
  | cons b l ih =>
      cases n with
      | zero => rfl
      | succ n => rw [List.insertIdx_succ_cons, ih (Nat.le_of_succ_le_succ h)]; rfl

theorem split_of_getElem? {α : Type} {l : List α} {n : Nat} {a : α} (h : l[n]? = some a) :
    l = l.take n ++ a :: l.drop (n + 1) := by
  obtain ⟨hlt, rfl⟩ := List.getElem?_eq_some_iff.1 h
  rw [List.getElem_cons_drop, List.take_append_drop]

/-- What a drag does: the component is taken out, and put back at the index of the other one. -/
theorem onDrop_cases {order next : List ComponentRow} {dragId targetId : Nat}
    (h : onDrop order dragId targetId = some next) :
    ∃ moved xs ys, order = xs ++ moved :: ys ∧ moved.id = dragId ∧
      (order.map (·.id)).idxOf targetId ≤ (xs ++ ys).length ∧
      next = (xs ++ ys).take ((order.map (·.id)).idxOf targetId) ++
        moved :: (xs ++ ys).drop ((order.map (·.id)).idxOf targetId) := by
  unfold onDrop at h
  dsimp only at h
  split at h
  · cases h
  · next hguard =>
    simp only [Bool.or_eq_true, decide_eq_true_eq, Bool.not_eq_true', not_or, Bool.not_eq_false,
      List.contains_iff_mem] at hguard
    obtain ⟨⟨-, hdrag⟩, htarget⟩ := hguard
    obtain ⟨moved, hmoved, rfl⟩ := Option.map_eq_some_iff.1 h
    have hid : moved.id = dragId := by
      have hmap := List.getElem?_idxOf hdrag
      rw [List.getElem?_map, hmoved] at hmap
      exact Option.some_inj.1 hmap
    have hle : (order.map (·.id)).idxOf targetId ≤
        (order.eraseIdx ((order.map (·.id)).idxOf dragId)).length := by
      have hlength := List.idxOf_lt_length_of_mem htarget
      rw [List.length_map] at hlength
      rw [List.length_eraseIdx_of_lt (List.getElem?_eq_some_iff.1 hmoved).1]
      omega
    rw [insertIdx_eq hle]
    rw [List.eraseIdx_eq_take_drop_succ] at hle ⊢
    exact ⟨moved, _, _, split_of_getElem? hmoved, hid, hle, rfl⟩

/-- The component is where the other one was, and all others are in their order. -/
structure Dragged (order : List ComponentRow) (dragId targetId : Nat) (next : List ComponentRow) :
    Prop where
  perm : next.Perm order
  others : next.filter (·.id ≠ dragId) = order.filter (·.id ≠ dragId)
  place : (next.map (·.id)).idxOf dragId = (order.map (·.id)).idxOf targetId

theorem dragged_onDrop {order next : List ComponentRow} {dragId targetId : Nat}
    (hnodup : (order.map (·.id)).Nodup) (h : onDrop order dragId targetId = some next) :
    Dragged order dragId targetId next := by
  obtain ⟨moved, xs, ys, horder, hid, hle, rfl⟩ := onDrop_cases h
  obtain ⟨target, htarget⟩ : ∃ i, i = (order.map (·.id)).idxOf targetId := ⟨_, rfl⟩
  rw [← htarget] at hle ⊢
  have hothers : ∀ xs ys : List ComponentRow, (xs ++ moved :: ys).filter (·.id ≠ dragId) =
      (xs ++ ys).filter (·.id ≠ dragId) := by
    intro xs ys
    rw [List.filter_append, List.filter_cons_of_neg (by simp [hid]), ← List.filter_append]
  refine ⟨?_, ?_, ?_⟩
  · rw [horder]
    refine List.perm_middle.trans (.trans (.cons moved ?_) List.perm_middle.symm)
    rw [List.take_append_drop]
  · rw [hothers, List.take_append_drop, horder, hothers]
  · have hnew : dragId ∉ ((xs ++ ys).take target).map (·.id) := by
      rw [horder, List.map_append, List.map_cons, List.nodup_middle, hid, ← List.map_append]
        at hnodup
      exact fun hmem => hnodup.notMem (List.map_subset _ (List.take_subset _ _) hmem)
    rw [List.map_append, List.map_cons, List.idxOf_append_of_notMem hnew, hid,
      List.idxOf_cons_self, List.length_map, List.length_take, Nat.add_zero, min_eq_left hle]
    exact htarget

/-! ## the order of places -/

section
variable {db : Db} {org : OrganizationId} {pageId : Nat} {prior next : List ComponentRow}

theorem idxOf_getElem (hnodup : (next.map (·.id)).Nodup) {i : Nat} (hi : i < next.length) :
    (next.map (·.id)).idxOf next[i].id = i := by
  have hmap := hnodup.idxOf_getElem i (by rwa [List.length_map])
  rwa [List.getElem_map] at hmap

/-- Every component gets its place in the new order. -/
theorem reorderCached_eq (hnodup : (prior.map (·.id)).Nodup) (hperm : next.Perm prior) :
    reorderCached prior (next.map (·.id)) =
      next.map (ComponentRow.reposition (next.map (·.id))) := by
  have hfind : ∀ c ∈ next, prior.find? (fun r => r.id = c.id) = some c := fun c hc =>
    find?_of_nodup hnodup (hperm.mem_iff.1 hc)
  have hnext : (next.map (·.id)).Nodup := (hperm.map _).nodup_iff.2 hnodup
  have hplaced : reorderCached prior (next.map (·.id)) =
      next.zipIdx.map fun (c, i) => c.placed i := by
    rw [reorderCached, List.zipIdx_map, List.filterMap_map, ← List.filterMap_eq_map']
    refine List.filterMap_congr fun (c, i) hc => ?_
    simp only [Function.comp_apply, Prod.map_apply, id_eq]
    rw [hfind c (List.fst_mem_of_mem_zipIdx hc)]
    rfl
  rw [hplaced]
  refine List.ext_getElem (by simp) fun i hi hi' => ?_
  rw [List.length_map] at hi'
  rw [List.getElem_map, List.getElem_map, List.getElem_zipIdx, Nat.zero_add,
    reposition_of_mem (List.mem_map_of_mem (List.getElem_mem hi')), idxOf_getElem hnext hi']

theorem pairwise_reposition (hnodup : (next.map (·.id)).Nodup) :
    (next.map (ComponentRow.reposition (next.map (·.id)))).Pairwise fun a b =>
      a.position < b.position := by
  rw [List.pairwise_map, List.pairwise_iff_getElem]
  intro i j hi hj hij
  rw [reposition_of_mem (List.mem_map_of_mem (List.getElem_mem hi)),
    reposition_of_mem (List.mem_map_of_mem (List.getElem_mem hj)), idxOf_getElem hnodup hi,
    idxOf_getElem hnodup hj]
  exact hij

theorem nodup_of_listing (hids : (db.components.map (·.id)).Nodup)
    (hprior : db.Listing pageId prior) : (prior.map (·.id)).Nodup :=
  (hprior.1.map _).nodup_iff.2 (hids.sublist (List.filter_sublist.map _))

/-- After a reordering of all components, only the list that is shown is an answer. -/
theorem listing_reordered_iff (hids : (db.components.map (·.id)).Nodup)
    (hprior : db.Listing pageId prior) (hperm : next.Perm prior) {rows : List ComponentRow} :
    (db.reordered pageId (next.map (·.id))).Listing pageId rows ↔
      rows = reorderCached prior (next.map (·.id)) := by
  have hpriorIds := nodup_of_listing hids hprior
  have hrequested : db.requested pageId (next.map (·.id)) = next.map (·.id) := by
    refine List.filter_eq_self.2 fun id hid => List.contains_iff_mem.2 ?_
    exact ((hperm.trans hprior.1).map (·.id)).mem_iff.1 hid
  rw [reorderCached_eq hpriorIds hperm, Db.Listing, componentsOf_reordered, hrequested]
  have hplaces := pairwise_reposition ((hperm.map _).nodup_iff.2 hpriorIds)
  have hbefore := hplaces.imp fun {a b} h => (before_iff (a := a) (b := b)).2 (.inl h)
  have hshown := (hperm.trans hprior.1).map (ComponentRow.reposition (next.map (·.id)))
  constructor
  · rintro ⟨hrows, hrowsBefore⟩
    refine List.Perm.eq_of_pairwise (fun a b ha hb hab hba => ?_) hrowsBefore hbefore
      (hrows.trans hshown.symm)
    -- no two of the new places are the same
    have hdistinct := List.pairwise_map.2 (hplaces.imp ne_of_lt)
    exact List.inj_on_of_nodup_map hdistinct ((hrows.trans hshown.symm).mem_iff.1 ha) hb
      ((position_le_of_before hab).antisymm (position_le_of_before hba))
  · rintro rfl
    exact ⟨hshown, hbefore⟩

/-! ## edits -/

theorem updateCached_eq (prior : List ComponentRow) (id : Nat) (payload : UpdateComponentInput) :
    updateCached prior id payload = updateWhere (·.id = id) payload.apply prior := by
  simp only [updateCached, updateWhere, decide_eq_true_eq]

theorem before_edited {payload : UpdateComponentInput} (hplace : payload.position = none)
    (id : Nat) (a b : ComponentRow) :
    (if a.id = id then payload.apply a else a).before (if b.id = id then payload.apply b else b) =
      a.before b := by
  have hposition : ∀ c : ComponentRow, (if c.id = id then payload.apply c else c).position =
      c.position := by
    intro c
    split
    · simp [UpdateComponentInput.apply, hplace]
    · rfl
  have hcreated : ∀ c : ComponentRow, (if c.id = id then payload.apply c else c).createdAt =
      c.createdAt := by
    intro c
    split <;> rfl
  rw [ComponentRow.before, hposition, hposition, hcreated, hcreated, ComponentRow.before]

/-- An edit that leaves the place alone leaves the order alone. -/
theorem listing_updateCached {payload : UpdateComponentInput} (hplace : payload.position = none)
    (id : Nat) (hprior : db.Listing pageId prior) :
    Db.Listing { db with components := updateWhere (·.id = id) payload.apply db.components }
      pageId (updateCached prior id payload) := by
  constructor
  · have hpages : (updateWhere (·.id = id) payload.apply db.components).filter
        (·.statusPageId = pageId) =
          updateWhere (·.id = id) payload.apply (db.componentsOf pageId) := by
      rw [updateWhere, List.filter_map, updateWhere, Db.componentsOf]
      congr 2
      funext c
      rw [Function.comp_apply]
      split <;> rfl
    rw [Db.componentsOf, hpages, updateCached_eq]
    exact hprior.1.map _
  · rw [updateCached, List.pairwise_map]
    exact hprior.2.imp fun h => (before_edited hplace id _ _).trans h

/-! ## what is served -/

/-- The reordering is of all that is shown; an edit leaves the place alone. -/
def Change.Fits : Change → List ComponentRow → Prop
  | .reorder orderedIds, items =>
      ∃ next : List ComponentRow, next.Perm items ∧ next.map (·.id) = orderedIds
  | .edit _ payload, _ => payload.position = none

/-- The rows have identifiers of their own, and those shown are those of the page. -/
structure Shown (db : Db) (pageId : Nat) (items : List ComponentRow) : Prop where
  ids : (db.components.map (·.id)).Nodup
  listing : db.Listing pageId items

theorem serve_reorder {orderedIds : List Nat} (hguard : db.pageInOrg org pageId = true)
    (hrequest : orderedIds.Nodup) :
    (Change.reorder orderedIds).serve db org pageId =
      if reorderSchema orderedIds then some (db.reordered pageId orderedIds) else none := by
  rw [Change.serve, reorderComponents_eq hguard hrequest]

theorem db_of_serve_edit {id : Nat} {payload : UpdateComponentInput} {db' : Db}
    (h : (Change.edit id payload).serve db org pageId = some db') :
    db' = { db with components := updateWhere (·.id = id) payload.apply db.components } := by
  rw [Change.serve, updateComponent] at h
  cases hfind : db.components.find? fun c => c.id = id ∧ c.statusPageId = pageId with
  | none =>
      rw [hfind] at h
      cases h
  | some existing =>
      rw [hfind] at h
      cases hguard : db.pageInOrg org pageId with
      | false => simp [hguard] at h
      | true =>
          cases hexist : payload.connects.all db.monitorExists with
          | false => simp [hguard, hexist] at h
          | true =>
              simp only [hguard, hexist, Bool.not_true, Bool.false_eq_true, if_false] at h
              exact (Option.some_inj.1 h).symm

/-- What is shown at once is what the change makes of the database. -/
theorem shown_serve {change : Change} {items : List ComponentRow} {db' : Db}
    (h : Shown db pageId items) (hfits : change.Fits items)
    (hserve : change.serve db org pageId = some db') : Shown db' pageId (change.cached items) := by
  cases change with
  | reorder orderedIds =>
      obtain ⟨next, hperm, rfl⟩ := hfits
      have hrequest : (next.map (·.id)).Nodup :=
        (hperm.map _).nodup_iff.2 (nodup_of_listing h.ids h.listing)
      cases hguard : db.pageInOrg org pageId with
      | false => simp [Change.serve, reorderComponents, hguard] at hserve
      | true =>
          rw [serve_reorder hguard hrequest] at hserve
          obtain ⟨-, hsome⟩ := Option.ite_none_right_eq_some.1 hserve
          obtain rfl := Option.some_inj.1 hsome
          refine ⟨?_, (listing_reordered_iff h.ids h.listing hperm).2 rfl⟩
          rw [Db.reordered, List.map_map, comp_reposition _ fun _ _ => rfl]
          exact h.ids
  | edit id payload =>
      obtain rfl := db_of_serve_edit hserve
      refine ⟨?_, listing_updateCached hfits id h.listing⟩
      rw [map_id_updateWhere (f := payload.apply) fun _ => rfl]
      exact h.ids

end

/-! ## settling -/

/-- Nothing is under way, and the last fetch did not fail. -/
def Session.Settled (s : Session) : Prop := s.mutations = [] ∧ s.fetch = none ∧ s.failed = false

instance (s : Session) : Decidable s.Settled := inferInstanceAs (Decidable (_ ∧ _))

/-- While no request is under way, what is shown and what has been read is what the database has. -/
structure Coherent (pageId : Nat) (s : Session) : Prop where
  shown : s.mutations = [] → s.fetch = none → s.failed = false → s.db.Listing pageId s.items
  read : s.mutations = [] → ∀ rows, s.fetch = some (some rows) → s.db.Listing pageId rows

section
variable {org : OrganizationId} {pageId : Nat} {s : Session}

theorem coherent_of_mutations (h : s.mutations ≠ []) : Coherent pageId s :=
  ⟨fun hnil => absurd hnil h, fun hnil => absurd hnil h⟩

theorem coherent_of_asked (h : s.fetch = some none) : Coherent pageId s := by
  constructor
  · intro _ hnone
    rw [h] at hnone
    cases hnone
  · intro _ rows hrows
    rw [h] at hrows
    cases hrows

theorem coherent_begin (s : Session) (change : Change) : Coherent pageId (s.begin change) :=
  coherent_of_mutations (List.append_ne_nil_of_right_ne_nil _ (List.cons_ne_nil _ _))

theorem coherent_settle (s : Session) (n : Nat) (m : Mutation) (ok : Bool) :
    Coherent pageId (s.settle n m ok) := coherent_of_asked rfl

theorem coherent_step (org : OrganizationId) (s : Session) (op : EditorOp) (h : Coherent pageId s) :
    Coherent pageId (editorStep org pageId s op) := by
  cases op with
  | drag dragId targetId =>
      rw [editorStep]
      split
      · exact coherent_begin s _
      · exact h
  | edit id payload => exact coherent_begin s _
  | serve n =>
      rw [editorStep]
      split
      · next m hm =>
        split
        · exact h
        · -- the database changes only while the request is under way
          refine coherent_of_mutations fun hnil => ?_
          have hnone : s.mutations = [] := (List.set_eq_nil_iff _ _).1 hnil
          rw [hnone] at hm
          cases hm
      · exact h
  | answer n =>
      rw [editorStep]
      split
      · split
        · exact coherent_settle s n _ _
        · exact h
      · exact h
  | lose n =>
      rw [editorStep]
      split
      · exact coherent_settle s n _ false
      · exact h
  | reopen =>
      rw [editorStep]
      split
      · exact h
      · exact coherent_of_asked rfl
  | read rows =>
      rw [editorStep]
      split
      · next hread =>
        refine ⟨fun _ hnone => (nomatch hnone), fun _ rows' hrows => ?_⟩
        obtain rfl : rows = rows' := Option.some_inj.1 (Option.some_inj.1 hrows)
        exact hread.2
      · exact h
  | receive =>
      rw [editorStep]
      split
      · next rows hrows =>
        exact ⟨fun hnil _ _ => h.read hnil rows hrows, fun _ _ hno => nomatch hno⟩
      · exact h
  | giveUp =>
      rw [editorStep]
      split
      · exact ⟨fun _ _ hno => (nomatch hno), fun _ _ hno => nomatch hno⟩
      · exact h

/-- The requests under way can all be lost. -/
theorem exists_mutations_nil (org : OrganizationId) (pageId : Nat) (s : Session) :
    ∃ ops, (run (editorStep org pageId) s ops).mutations = [] := by
  induction hm : s.mutations generalizing s with
  | nil => exact ⟨[], hm⟩
  | cons m rest ih =>
      obtain ⟨ops, hops⟩ := ih (s.settle 0 m false) (by simp [Session.settle, hm])
      refine ⟨.lose 0 :: ops, ?_⟩
      rw [run_cons, editorStep, hm, List.getElem?_cons_zero]
      exact hops

theorem settled_fetched (org : OrganizationId) (hnil : s.mutations = []) :
    (run (editorStep org pageId) s
      [.reopen, .read (s.db.pageComponents pageId), .receive]).Settled := by
  match hfetch : s.fetch with
  | none => simp [editorStep, listing_pageComponents, Session.Settled, hnil, hfetch]
  | some none => simp [editorStep, listing_pageComponents, Session.Settled, hnil, hfetch]
  | some (some rows) => simp [editorStep, Session.Settled, hnil, hfetch]

theorem exists_settled (org : OrganizationId) (pageId : Nat) (s : Session) :
    ∃ ops, (run (editorStep org pageId) s ops).Settled := by
  obtain ⟨ops, hops⟩ := exists_mutations_nil org pageId s
  exact ⟨_, (run_append (editorStep org pageId) s ops _).symm ▸ settled_fetched org hops⟩

/-- **Settling**: whatever is dragged and edited, whatever is lost and in whichever order answers
come, an editor with nothing under way shows what the database has; and every editor can get
there. -/
theorem editor_settles {db : Db} {items : List ComponentRow} (org : OrganizationId)
    (hitems : db.Listing pageId items) (ops : List EditorOp) :
    let s := run (editorStep org pageId) { db, items } ops
    (s.Settled → s.db.Listing pageId s.items) ∧
      ∃ more, (run (editorStep org pageId) s more).Settled := by
  intro s
  have hstart : Coherent pageId { db, items } :=
    ⟨fun _ _ _ => hitems, fun _ _ hno => nomatch hno⟩
  have hcoherent : Coherent pageId s := inv_run_of_step (coherent_step org) hstart ops
  exact ⟨fun ⟨hnil, hfetch, hfailed⟩ => hcoherent.shown hnil hfetch hfailed,
    exists_settled org pageId s⟩

end

/-- Three components, as they are first shown. -/
def opened : Session where
  db := threeComponents
  items := [threeComponents.component 1 0 1 20, threeComponents.component 3 0 1 40,
    threeComponents.component 0 0 3 10]

/-- The drag is answered by an error, and the list from before it is put back. -/
theorem editor_settles_lost :
    let s := run (editorStep "acme" 0) opened
      [.drag 0 1, .edit 3 { name := some "Web" }, .serve 1, .lose 0, .answer 0, .reopen,
        .read [threeComponents.component 1 0 1 20,
          { threeComponents.component 3 0 1 40 with name := "Web" },
          threeComponents.component 0 0 3 10], .receive]
    s.Settled ∧ s.db.Listing 0 s.items := by
  intro s
  have hsettled : s.Settled := by decide
  exact ⟨hsettled, (editor_settles "acme" (by decide) _).1 hsettled⟩

/-! ## what is shown, and what will be answered -/

/-- The changes that the API has yet to see. -/
def Session.pending (s : Session) : List Change :=
  (s.mutations.filter (·.served.isNone)).map (·.change)

/-- The database, once the changes are carried out. -/
def carried (db : Db) (org : OrganizationId) (pageId : Nat) (changes : List Change) : Option Db :=
  changes.foldlM (fun db change => change.serve db org pageId) db

/-- The editor's edits leave the place alone, the API carries requests out in their order, none
fails, and what was read while one was under way is not shown. -/
def Smooth (org : OrganizationId) (pageId : Nat) (s : Session) : EditorOp → Prop
  | .edit _ payload => payload.position = none
  | .serve n =>
      (∀ m ∈ s.mutations.take n, m.served.isSome) ∧
        ∀ m ∈ s.mutations[n]?, m.served = none → (m.change.serve s.db org pageId).isSome
  | .answer n => ∀ m ∈ s.mutations[n]?, m.served ≠ some false
  | .lose _ => False
  | .receive => s.mutations = []
  | _ => True

instance (org : OrganizationId) (pageId : Nat) (s : Session) :
    (op : EditorOp) → Decidable (Smooth org pageId s op)
  | .edit _ payload => inferInstanceAs (Decidable (payload.position = none))
  | .serve n =>
      inferInstanceAs (Decidable ((∀ m ∈ s.mutations.take n, m.served.isSome = true) ∧
        ∀ m ∈ s.mutations[n]?, m.served = none → (m.change.serve s.db org pageId).isSome = true))
  | .answer n => inferInstanceAs (Decidable (∀ m ∈ s.mutations[n]?, m.served ≠ some false))
  | .lose _ => isFalse id
  | .receive => inferInstanceAs (Decidable (s.mutations = []))
  | .drag _ _ | .reopen | .read _ | .giveUp => isTrue trivial

/-- What is shown is what the database will have, once all changes made are carried out. -/
structure Ahead (org : OrganizationId) (pageId : Nat) (s : Session) : Prop where
  coherent : Coherent pageId s
  ids : (s.db.components.map (·.id)).Nodup
  shown : ∀ db', carried s.db org pageId s.pending = some db' → Shown db' pageId s.items

section
variable {org : OrganizationId} {pageId : Nat} {s : Session}

theorem carried_begin (s : Session) (change : Change) :
    carried (s.begin change).db org pageId (s.begin change).pending =
      (carried s.db org pageId s.pending).bind fun db => change.serve db org pageId := by
  have hpending : (s.begin change).pending = s.pending ++ [change] := by
    rw [Session.pending, Session.begin, List.filter_append, List.map_append]
    rfl
  rw [carried, hpending, List.foldlM_append]
  simp only [List.foldlM_cons, List.foldlM_nil, bind_pure]
  rfl

theorem ahead_begin {change : Change} (h : Ahead org pageId s)
    (hfits : (s.items.map (·.id)).Nodup → change.Fits s.items) :
    Ahead org pageId (s.begin change) := by
  refine ⟨coherent_begin s change, h.ids, fun db' hcarried => ?_⟩
  rw [carried_begin] at hcarried
  obtain ⟨db, hdb, hserve⟩ := Option.bind_eq_some_iff.1 hcarried
  have hshown := h.shown db hdb
  exact shown_serve hshown (hfits (nodup_of_listing hshown.ids hshown.listing)) hserve

theorem ids_serve {change : Change} {db db' : Db}
    (h : change.serve db org pageId = some db') :
    db'.components.map (·.id) = db.components.map (·.id) := by
  cases change with
  | reorder orderedIds =>
      obtain ⟨-, h⟩ := Option.ite_none_right_eq_some.1 h
      rw [reorderComponents] at h
      split at h
      · next heq =>
        obtain rfl := Option.some_inj.1 h
        split_ifs at heq
        · cases heq
        · cases heq
          exact map_reposition (fun _ _ => rfl) _ _
      · cases h
  | edit id payload =>
      obtain rfl := db_of_serve_edit h
      exact map_id_updateWhere fun _ => rfl

theorem pending_served {n : Nat} (hserved : ∀ m ∈ s.mutations.take n, m.served.isSome)
    (m : Mutation) (rest : List Mutation) :
    ((s.mutations.take n ++ m :: rest).filter (·.served.isNone)).map (·.change) =
      (if m.served.isNone then [m.change] else []) ++
        (rest.filter (·.served.isNone)).map (·.change) := by
  have hnil : (s.mutations.take n).filter (·.served.isNone) = [] := by
    refine List.filter_eq_nil_iff.2 fun m hm => ?_
    rw [Option.isNone_iff_eq_none]
    exact Option.isSome_iff_ne_none.1 (hserved m hm)
  rw [List.filter_append, hnil, List.nil_append, List.filter_cons]
  split <;> rfl

theorem ahead_serve {n : Nat} {m : Mutation} {db : Db} (h : Ahead org pageId s)
    (hserved : ∀ m ∈ s.mutations.take n, m.served.isSome) (hm : s.mutations[n]? = some m)
    (hunseen : m.served = none) (hdb : m.change.serve s.db org pageId = some db) :
    Ahead org pageId
      { s with db, mutations := s.mutations.set n { m with served := some true } } := by
  have hlt := (List.getElem?_eq_some_iff.1 hm).1
  refine ⟨coherent_of_mutations ?_, (ids_serve hdb).symm ▸ h.ids, fun db' hcarried => ?_⟩
  · rw [Ne, List.set_eq_nil_iff]
    rintro hnil
    rw [hnil] at hlt
    exact absurd hlt (Nat.not_lt_zero n)
  · refine h.shown db' ?_
    rw [Session.pending, split_of_getElem? hm, pending_served hserved, hunseen]
    rw [Session.pending, List.set_eq_take_append_cons_drop, if_pos hlt, pending_served hserved]
      at hcarried
    rw [carried]
    simp only [Option.isNone_none, if_true, List.cons_append, List.nil_append, List.foldlM_cons,
      hdb]
    exact hcarried

theorem ahead_answer {n : Nat} {m : Mutation} (h : Ahead org pageId s)
    (hm : s.mutations[n]? = some m) (hserved : m.served = some true) :
    Ahead org pageId (s.settle n m true) := by
  refine ⟨coherent_settle s n m true, h.ids, fun db' hcarried => h.shown db' ?_⟩
  have hpending : (s.settle n m true).pending = s.pending := by
    rw [Session.pending, Session.settle, Session.pending, List.eraseIdx_eq_take_drop_succ]
    conv_rhs => rw [split_of_getElem? hm]
    rw [List.filter_append, List.filter_append, List.filter_cons_of_neg (by simp [hserved])]
  rw [hpending] at hcarried
  exact hcarried

theorem ahead_step (s : Session) (op : EditorOp) (h : Ahead org pageId s)
    (hsmooth : Smooth org pageId s op) : Ahead org pageId (editorStep org pageId s op) := by
  cases op with
  | drag dragId targetId =>
      rw [editorStep]
      split
      · next order hnext =>
        refine ahead_begin h fun hnodup => ?_
        exact ⟨order, (dragged_onDrop hnodup hnext).perm, rfl⟩
      · exact h
  | edit id payload => exact ahead_begin h fun _ => hsmooth
  | serve n =>
      rw [editorStep]
      split
      · next m hm =>
        split
        · exact h
        · next hunseen =>
          have hnone : m.served = none := Option.not_isSome_iff_eq_none.1 hunseen
          obtain ⟨db, hdb⟩ := Option.isSome_iff_exists.1 (hsmooth.2 m hm hnone)
          rw [hdb]
          exact ahead_serve h hsmooth.1 hm hnone hdb
      · exact h
  | answer n =>
      rw [editorStep]
      split
      · next m hm =>
        split
        · next ok hok =>
          cases ok with
          | true => exact ahead_answer h hm hok
          | false => exact absurd hok (hsmooth m hm)
        · exact h
      · exact h
  | lose n => exact hsmooth.elim
  | receive =>
      have hcoherent := coherent_step org s .receive h.coherent
      rw [editorStep] at hcoherent ⊢
      split at hcoherent
      · next rows hrows =>
        refine ⟨hcoherent, h.ids, fun db' hcarried => ?_⟩
        -- no request is under way, so what was read is what the database has
        have hnil : s.mutations = [] := hsmooth
        rw [Session.pending, hnil] at hcarried
        obtain rfl := Option.some_inj.1 hcarried
        exact ⟨h.ids, h.coherent.read hnil rows hrows⟩
      · exact h
  | reopen =>
      have hcoherent := coherent_step org s .reopen h.coherent
      rw [editorStep] at hcoherent ⊢
      split_ifs at hcoherent ⊢
      · exact h
      · exact ⟨hcoherent, h.ids, h.shown⟩
  | read rows =>
      have hcoherent := coherent_step org s (.read rows) h.coherent
      rw [editorStep] at hcoherent ⊢
      split_ifs at hcoherent ⊢
      · exact ⟨hcoherent, h.ids, h.shown⟩
      · exact h
  | giveUp =>
      have hcoherent := coherent_step org s .giveUp h.coherent
      rw [editorStep] at hcoherent ⊢
      split_ifs at hcoherent ⊢
      · exact ⟨hcoherent, h.ids, h.shown⟩
      · exact h

/-- **Optimism**: while requests are carried out in their order and none fails, what is shown is
what the database has once it has carried out all that were made. -/
theorem optimistic_agrees {db : Db} {items : List ComponentRow} {ops : List EditorOp}
    (hids : (db.components.map (·.id)).Nodup) (hitems : db.Listing pageId items)
    (hsmooth : Along (editorStep org pageId) (Smooth org pageId) { db, items } ops) :
    let s := run (editorStep org pageId) { db, items } ops
    (∀ db', carried s.db org pageId s.pending = some db' → db'.Listing pageId s.items) ∧
      (s.pending = [] → s.db.Listing pageId s.items) := by
  intro s
  have hstart : Ahead org pageId { db, items } := by
    refine ⟨⟨fun _ _ _ => hitems, fun _ _ hno => nomatch hno⟩, hids, fun db' hcarried => ?_⟩
    obtain rfl := Option.some_inj.1 hcarried
    exact ⟨hids, hitems⟩
  have hahead : Ahead org pageId s := inv_run ahead_step hstart hsmooth
  refine ⟨fun db' hcarried => (hahead.shown db' hcarried).listing, fun hnil => ?_⟩
  refine (hahead.shown s.db ?_).listing
  rw [hnil]
  rfl

theorem onDrop_nil (dragId targetId : Nat) : onDrop [] dragId targetId = none := by
  simp [onDrop]

/-- **Dropping**: the component takes the place it is dropped at.  The API carries that out
exactly on a page of at most 200 components, and then the list that is shown is the only one the
database has. -/
theorem drag_lands {dragId targetId : Nat} {next : List ComponentRow}
    (hids : (s.db.components.map (·.id)).Nodup) (hitems : s.db.Listing pageId s.items)
    (hguard : s.db.pageInOrg org pageId = true)
    (hnext : onDrop s.items dragId targetId = some next) :
    let served := (Change.reorder (next.map (·.id))).serve s.db org pageId
    Dragged s.items dragId targetId next ∧ (served.isSome ↔ s.items.length ≤ 200) ∧
      ∀ db', served = some db' → ∀ rows, db'.Listing pageId rows ↔
        rows = (editorStep org pageId s (.drag dragId targetId)).items ∧
          rows.map (·.id) = next.map (·.id) := by
  intro served
  have hnodup := nodup_of_listing hids hitems
  have hdragged := dragged_onDrop hnodup hnext
  have hrequest := (hdragged.perm.map (·.id)).nodup_iff.2 hnodup
  have hserved : served = if reorderSchema (next.map (·.id)) then
      some (s.db.reordered pageId (next.map (·.id))) else none := serve_reorder hguard hrequest
  have hshown : (editorStep org pageId s (.drag dragId targetId)).items =
      reorderCached s.items (next.map (·.id)) := by
    rw [editorStep, hnext]
    rfl
  refine ⟨hdragged, ?_, fun db' hdb' rows => ?_⟩
  · have hne : s.items ≠ [] := by
      intro hnil
      rw [hnil, onDrop_nil] at hnext
      cases hnext
    have hpos := List.length_pos_iff.2 hne
    rw [hserved, Option.isSome_ite, reorderSchema, List.length_map, hdragged.perm.length_eq]
    simp [Nat.one_le_iff_ne_zero, hpos.ne']
  · rw [hserved] at hdb'
    obtain ⟨-, hsome⟩ := Option.ite_none_right_eq_some.1 hdb'
    obtain rfl := Option.some_inj.1 hsome
    rw [hshown, listing_reordered_iff hids hitems hdragged.perm]
    refine (and_iff_left_of_imp ?_).symm
    rintro rfl
    rw [reorderCached_eq hnodup hdragged.perm, List.map_map, comp_reposition _ fun _ _ => rfl]

end

theorem optimistic_agrees_three :
    let s := run (editorStep "acme" 0) opened
      [.drag 0 1, .edit 3 { name := some "Web" }, .serve 0, .answer 0, .reopen, .serve 0]
    s.pending = [] ∧ s.items.map (·.id) = [0, 1, 3] ∧ s.db.Listing 0 s.items := by
  intro s
  have hpending : s.pending = [] := by decide
  have hsmooth : Along (editorStep "acme" 0) (Smooth "acme" 0) opened
      [.drag 0 1, .edit 3 { name := some "Web" }, .serve 0, .answer 0, .reopen, .serve 0] := by
    decide
  exact ⟨hpending, by decide, (optimistic_agrees (by decide) (by decide) hsmooth).2 hpending⟩

theorem drag_lands_three :
    ∃ next, onDrop opened.items 0 1 = some next ∧ Dragged opened.items 0 1 next ∧
      next.map (·.id) = [0, 1, 3] := by
  have hguard : opened.db.pageInOrg "acme" 0 = true := by decide
  exact ⟨_, rfl, (drag_lands (by decide) (by decide) hguard rfl).1, by decide⟩

end UptimeFlow.StatusPages.Editor
