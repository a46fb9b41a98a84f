import Mathlib.Data.List.AList
import UptimeFlow.Runs

/-!
# UptimeFlow.Reconcile

Reconcilers: a keyed store is brought to what is wanted of it by one look at
it and the operations that are missing.

A reconciler owns some of the keys.  `Goal.plan` compares a store with the
wanted entries; `Goal.settle` says where a key ends.  Every operation of a plan
takes its key to where it ends, whichever look at the store the plan comes
from, so applying a plan settles the store (`lookup_reconcile`), and
reconcilers that work from stale looks at shared stores converge
(`Converging.settled`).
-/

namespace UptimeFlow.Reconcile

open Runs

variable {ι κ δ β : Type*} [DecidableEq κ]

/-- Entries under distinct keys. -/
abbrev Store (κ β : Type*) := AList fun _ : κ => β

/-! ## operations -/

inductive Op (κ β : Type*) where
  | upsert (key : κ) (entry : β)
  | remove (key : κ)
deriving DecidableEq, Repr

namespace Op

def key : Op κ β → κ
  | .upsert k _ | .remove k => k

/-- What the operation leaves under its key. -/
def leaves : Op κ β → Option β
  | .upsert _ b => some b
  | .remove _ => none

def apply (s : Store κ β) : Op κ β → Store κ β
  | .upsert k b => s.insert k b
  | .remove k => s.erase k

theorem lookup_apply (s : Store κ β) (op : Op κ β) (k : κ) :
    (op.apply s).lookup k = if k = op.key then op.leaves else s.lookup k := by
  by_cases hk : k = op.key
  · rw [if_pos hk]
    subst hk
    cases op with
    | upsert k b => exact AList.lookup_insert s
    | remove k => exact AList.lookup_erase k s
  · rw [if_neg hk]
    cases op with
    | upsert k' b => exact AList.lookup_insert_ne hk
    | remove k' => exact AList.lookup_erase_ne hk

end Op

/-! ## goals -/

/-- What is wanted of a store: the keys that are owned, the specification wanted under some of
them, when an entry meets one, and the entry made for it. -/
structure Goal (κ δ β : Type*) [DecidableEq κ] where
  owned : κ → Bool
  want : Store κ δ
  meets : δ → β → Bool
  make : δ → β
  owned_want : ∀ k ∈ want, owned k = true
  meets_make : ∀ d, meets d (make d) = true

namespace Goal

variable (g : Goal κ δ β)

/-- The entries that are missing or have drifted. -/
def upserts (s : Store κ β) : List (Op κ β) :=
  g.want.entries.filterMap fun e =>
    if (s.lookup e.1).any (g.meets e.2) then none else some (.upsert e.1 (g.make e.2))

/-- The entries that are not wanted. -/
def removals (s : Store κ β) : List (Op κ β) :=
  (s.keys.filter fun k => g.owned k && (g.want.lookup k).isNone).map .remove

def plan (s : Store κ β) : List (Op κ β) := g.upserts s ++ g.removals s

/-- The store after a plan for it. -/
def reconcile (s : Store κ β) : Store κ β := (g.plan s).foldl Op.apply s

/-- Where a key ends, given the entry it starts with. -/
def settle (k : κ) (old : Option β) : Option β :=
  if g.owned k then
    match g.want.lookup k with
    | none => none
    | some d => if old.any (g.meets d) then old else some (g.make d)
  else old

theorem settle_of_not_owned {k : κ} (h : g.owned k = false) (old : Option β) :
    g.settle k old = old := by
  rw [settle, h, if_neg (by simp)]

theorem settle_of_wanted {k : κ} {d : δ} (h : g.want.lookup k = some d) (old : Option β) :
    g.settle k old = if old.any (g.meets d) then old else some (g.make d) := by
  have howned : g.owned k = true :=
    g.owned_want k (AList.lookup_isSome.1 (by simp [h]))
  rw [settle, if_pos howned, h]

theorem settle_of_unwanted {k : κ} (howned : g.owned k = true) (h : g.want.lookup k = none)
    (old : Option β) : g.settle k old = none := by
  rw [settle, if_pos howned, h]

/-- A key that has ended stays where it is. -/
theorem settle_settle (k : κ) (old : Option β) : g.settle k (g.settle k old) = g.settle k old := by
  by_cases howned : g.owned k = true
  · cases hwant : g.want.lookup k with
    | none => rw [g.settle_of_unwanted howned hwant, g.settle_of_unwanted howned hwant]
    | some d =>
        rw [g.settle_of_wanted hwant old]
        by_cases hmeets : old.any (g.meets d) = true
        · rw [if_pos hmeets, g.settle_of_wanted hwant, if_pos hmeets]
        · rw [if_neg hmeets, g.settle_of_wanted hwant]
          simp [g.meets_make]
  · rw [Bool.not_eq_true] at howned
    rw [g.settle_of_not_owned howned, g.settle_of_not_owned howned]

/-! ## plans -/

/-- The operations of a plan take their keys to where they end. -/
theorem leaves_of_mem_plan {s : Store κ β} {op : Op κ β} (h : op ∈ g.plan s) :
    op.leaves = g.settle op.key (s.lookup op.key) := by
  rw [plan, List.mem_append] at h
  obtain h | h := h
  · rw [upserts, List.mem_filterMap] at h
    obtain ⟨⟨k, d⟩, hentry, hop⟩ := h
    have hwant : g.want.lookup k = some d := AList.mem_lookup_iff.2 hentry
    by_cases hmeets : (s.lookup k).any (g.meets d) = true
    · simp [hmeets] at hop
    · have hop : op = .upsert k (g.make d) := by simpa [hmeets] using hop.symm
      subst hop
      change some (g.make d) = g.settle k (s.lookup k)
      rw [g.settle_of_wanted hwant, if_neg hmeets]
  · rw [removals, List.mem_map] at h
    obtain ⟨k, hk, rfl⟩ := h
    rw [List.mem_filter, Bool.and_eq_true, Option.isNone_iff_eq_none] at hk
    exact (g.settle_of_unwanted hk.2.1 hk.2.2 _).symm

/-- A key without an operation in the plan has ended. -/
theorem settle_of_not_mem_plan {s : Store κ β} {k : κ} (h : k ∉ (g.plan s).map Op.key) :
    g.settle k (s.lookup k) = s.lookup k := by
  have hnone : ∀ op ∈ g.plan s, op.key ≠ k := by simpa using h
  by_cases howned : g.owned k = true
  · cases hwant : g.want.lookup k with
    | none =>
        rw [g.settle_of_unwanted howned hwant]
        by_contra hsome
        have hmem : k ∈ s.keys := by
          rw [← AList.mem_keys, ← AList.lookup_isSome, Option.isSome_iff_ne_none]
          exact fun hlookup => hsome hlookup.symm
        refine hnone (.remove k) ?_ rfl
        rw [plan, removals, List.mem_append, List.mem_map]
        exact .inr ⟨k, by simp [hmem, howned, hwant], rfl⟩
    | some d =>
        rw [g.settle_of_wanted hwant]
        by_cases hmeets : (s.lookup k).any (g.meets d) = true
        · rw [if_pos hmeets]
        · refine absurd rfl (hnone (.upsert k (g.make d)) ?_)
          rw [plan, upserts, List.mem_append, List.mem_filterMap]
          exact .inl ⟨⟨k, d⟩, AList.mem_lookup_iff.1 hwant, by simp [hmeets]⟩
  · rw [Bool.not_eq_true] at howned
    exact g.settle_of_not_owned howned _

/-- A plan for a store whose keys have all ended is empty, and only such a plan. -/
theorem plan_eq_nil_iff {s : Store κ β} :
    g.plan s = [] ↔ ∀ k, g.settle k (s.lookup k) = s.lookup k := by
  constructor
  · intro hnil k
    exact g.settle_of_not_mem_plan (by simp [hnil])
  · intro hsettled
    rw [List.eq_nil_iff_forall_not_mem]
    intro op hop
    have hleaves := g.leaves_of_mem_plan hop
    rw [hsettled] at hleaves
    rw [plan, List.mem_append] at hop
    obtain hop | hop := hop
    · rw [upserts, List.mem_filterMap] at hop
      obtain ⟨⟨k, d⟩, -, hop⟩ := hop
      by_cases hmeets : (s.lookup k).any (g.meets d) = true
      · simp [hmeets] at hop
      · have hop : op = .upsert k (g.make d) := by simpa [hmeets] using hop.symm
        subst hop
        change some (g.make d) = s.lookup k at hleaves
        rw [← hleaves] at hmeets
        simp [g.meets_make] at hmeets
    · rw [removals, List.mem_map] at hop
      obtain ⟨k, hk, rfl⟩ := hop
      have hmem := AList.mem_keys.2 (List.mem_filter.1 hk).1
      exact AList.lookup_eq_none.1 hleaves.symm hmem

/-- Operations that all take their keys to `F` take the store there, where it is not already. -/
theorem lookup_foldl {F : κ → Option β} {ops : List (Op κ β)} (h : ∀ op ∈ ops, op.leaves = F op.key)
    (s : Store κ β) (k : κ) :
    (ops.foldl Op.apply s).lookup k = if k ∈ ops.map Op.key then F k else s.lookup k := by
  induction ops generalizing s with
  | nil => simp
  | cons op ops ih =>
      obtain ⟨hop, hops⟩ := List.forall_mem_cons.1 h
      rw [List.foldl_cons, ih hops, Op.lookup_apply, List.map_cons]
      by_cases hk : k = op.key
      · subst hk
        simp [hop]
      · simp [hk]

/-- **A plan settles its store.** -/
theorem lookup_reconcile (s : Store κ β) (k : κ) :
    (g.reconcile s).lookup k = g.settle k (s.lookup k) := by
  rw [reconcile, lookup_foldl (F := fun k => g.settle k (s.lookup k))
    (fun op hop => g.leaves_of_mem_plan hop)]
  by_cases hk : k ∈ (g.plan s).map Op.key
  · rw [if_pos hk]
  · rw [if_neg hk, g.settle_of_not_mem_plan hk]

end Goal

/-! ## reconcilers side by side -/

/-- A reconciler on its way: the stores it has yet to look at, and the operations it is about to
issue. -/
structure Reconciler (ι κ β : Type*) where
  todo : List ι
  pending : List (ι × Op κ β) := []
deriving DecidableEq

/-- A reconciler that has nothing left to do. -/
def Reconciler.finished (r : Reconciler ι κ β) : Prop := r.todo = [] ∧ r.pending = []

instance [DecidableEq ι] [DecidableEq β] (r : Reconciler ι κ β) : Decidable r.finished :=
  inferInstanceAs (Decidable (_ ∧ _))

/-- Stores, and the reconcilers that work on them. -/
structure World (ι κ β : Type*) where
  stores : ι → Store κ β
  reconcilers : List (Reconciler ι κ β)

section
variable (goals : ι → Goal κ δ β)

/-- Where a key of a store ends. -/
def destination (start : ι → Store κ β) (i : ι) (k : κ) : Option β :=
  (goals i).settle k ((start i).lookup k)

/-- What a reconciler knows of the stores: its operations take their keys where they end, and
what it is done with has ended but for the operations it is about to issue. -/
structure Informed (start stores : ι → Store κ β) (served : List ι) (r : Reconciler ι κ β) :
    Prop where
  serves : ∀ i ∈ r.todo, i ∈ served
  onward : ∀ e ∈ r.pending, e.1 ∈ served ∧ e.2.leaves = destination goals start e.1 e.2.key
  done : ∀ i ∈ served, i ∈ r.todo ∨ ∀ k,
    (stores i).lookup k = destination goals start i k ∨ ∃ op, (i, op) ∈ r.pending ∧ op.key = k

/-- The stores are on their way from `start`: every key is where it started or where it ends. -/
structure Converging (start : ι → Store κ β) (served : List ι) (w : World ι κ β) : Prop where
  near : ∀ i k, (w.stores i).lookup k = (start i).lookup k ∨
    (w.stores i).lookup k = destination goals start i k
  untouched : ∀ i ∉ served, w.stores i = start i
  informed : ∀ r ∈ w.reconcilers, Informed goals start w.stores served r

variable {goals} {start stores stores' : ι → Store κ β} {served : List ι}

/-- A look at a store on its way finds each key to end where it would have from the start. -/
theorem settle_of_look {i : ι} (hnear : ∀ k, (stores i).lookup k = (start i).lookup k ∨
      (stores i).lookup k = destination goals start i k) (k : κ) :
    (goals i).settle k ((stores i).lookup k) = destination goals start i k := by
  obtain hstart | hend := hnear k
  · rw [hstart, destination]
  · rw [hend, destination, Goal.settle_settle]

/-- What has ended stays, and a reconciler stays informed while nothing else changes. -/
theorem Informed.mono {r : Reconciler ι κ β} (h : Informed goals start stores served r)
    (hstays : ∀ i k, (stores i).lookup k = destination goals start i k →
      (stores' i).lookup k = destination goals start i k) :
    Informed goals start stores' served r where
  serves := h.serves
  onward := h.onward
  done := by
    intro i hi
    obtain htodo | hdone := h.done i hi
    · exact .inl htodo
    · refine .inr fun k => ?_
      obtain hend | hpending := hdone k
      · exact .inl (hstays i k hend)
      · exact .inr hpending

/-- After a look at a store, what the plan for it holds is all that is missing there. -/
theorem Informed.look {i : ι} {rest : List ι}
    (h : Informed goals start stores served { todo := i :: rest })
    (hnear : ∀ k, (stores i).lookup k = (start i).lookup k ∨
      (stores i).lookup k = destination goals start i k) :
    Informed goals start stores served
      { todo := rest, pending := ((goals i).plan (stores i)).map (i, ·) } where
  serves j hj := h.serves j (List.mem_cons_of_mem i hj)
  onward := by
    intro e he
    obtain ⟨op, hop, rfl⟩ := List.mem_map.1 he
    refine ⟨h.serves i List.mem_cons_self, ?_⟩
    rw [(goals i).leaves_of_mem_plan hop, settle_of_look hnear]
  done := by
    intro j hj
    by_cases hji : j = i
    · subst hji
      refine .inr fun k => ?_
      by_cases hk : k ∈ ((goals j).plan (stores j)).map Op.key
      · obtain ⟨op, hop, hkey⟩ := List.mem_map.1 hk
        exact .inr ⟨op, List.mem_map_of_mem hop, hkey⟩
      · exact .inl (by rw [← settle_of_look hnear k, (goals j).settle_of_not_mem_plan hk])
    · obtain htodo | hdone := h.done j hj
      · have htodo : j ∈ rest := (List.mem_cons.1 htodo).resolve_left hji
        exact .inl htodo
      · refine .inr fun k => ?_
        obtain hend | ⟨op, hop, -⟩ := hdone k
        · exact .inl hend
        · cases hop

/-- Reconcilers that are about to start, each with the served stores in an order of its own. -/
theorem converging_start {orders : List (List ι)} (horders : ∀ order ∈ orders, ∀ i, i ∈ order ↔
      i ∈ served) (start : ι → Store κ β) :
    Converging goals start served ⟨start, orders.map fun order => { todo := order }⟩ where
  near _ _ := .inl rfl
  untouched _ _ := rfl
  informed := by
    intro r hr
    obtain ⟨order, horder, rfl⟩ := List.mem_map.1 hr
    exact ⟨fun i hi => (horders order horder i).1 hi, by simp,
      fun i hi => .inl ((horders order horder i).2 hi)⟩

variable [DecidableEq ι]

variable (goals) in
/-- The next operation of a reconciler; when there is none, the next look. -/
def Reconciler.act (stores : ι → Store κ β) (r : Reconciler ι κ β) :
    (ι → Store κ β) × Reconciler ι κ β :=
  match r.pending, r.todo with
  | (i, op) :: rest, todo =>
      (Function.update stores i (op.apply (stores i)), { todo, pending := rest })
  | [], i :: rest =>
      (stores, { todo := rest, pending := ((goals i).plan (stores i)).map (i, ·) })
  | [], [] => (stores, r)

variable (goals) in
/-- The `n`-th reconciler acts. -/
def World.step (w : World ι κ β) (n : Nat) : World ι κ β :=
  match w.reconcilers[n]? with
  | none => w
  | some r =>
      let acted := r.act goals w.stores
      { stores := acted.1, reconcilers := w.reconcilers.set n acted.2 }

/-- An operation on its way changes its key alone, and takes it where it ends. -/
theorem lookup_issue {i : ι} {op : Op κ β} (h : op.leaves = destination goals start i op.key)
    (stores : ι → Store κ β) (j : ι) (k : κ) :
    (Function.update stores i (op.apply (stores i)) j).lookup k =
      if j = i ∧ k = op.key then destination goals start j k else (stores j).lookup k := by
  by_cases hj : j = i
  · subst hj
    by_cases hk : k = op.key
    · subst hk
      simp [Op.lookup_apply, h]
    · simp [Op.lookup_apply, hk]
  · simp [hj]

/-- After an operation is issued, what is left is all that is missing. -/
theorem Informed.issue {i : ι} {op : Op κ β} {todo : List ι} {rest : List (ι × Op κ β)}
    (h : Informed goals start stores served { todo, pending := (i, op) :: rest }) :
    Informed goals start (Function.update stores i (op.apply (stores i))) served
      { todo, pending := rest } where
  serves := h.serves
  onward e he := h.onward e (List.mem_cons_of_mem _ he)
  done := by
    have hleaves := (h.onward (i, op) List.mem_cons_self).2
    intro j hj
    obtain htodo | hdone := h.done j hj
    · exact .inl htodo
    · refine .inr fun k => ?_
      rw [lookup_issue hleaves]
      by_cases hjk : j = i ∧ k = op.key
      · exact .inl (if_pos hjk)
      · rw [if_neg hjk]
        obtain hend | ⟨op', hop', hkey⟩ := hdone k
        · exact .inl hend
        · obtain heq | hrest := List.mem_cons.1 hop'
          · rw [Prod.mk.injEq] at heq
            exact absurd ⟨heq.1, by rw [← hkey, heq.2]⟩ hjk
          · exact .inr ⟨op', hrest, hkey⟩

/-- **Step lemma**: whichever reconciler acts, the stores stay on their way. -/
theorem Converging.step {w : World ι κ β} (h : Converging goals start served w) (n : Nat) :
    Converging goals start served (w.step goals n) := by
  cases hr : w.reconcilers[n]? with
  | none => simpa [World.step, hr] using h
  | some r =>
      have hinformed := h.informed r (List.mem_of_getElem? hr)
      match r with
      | ⟨[], []⟩ =>
          have hset : w.reconcilers.set n ⟨[], []⟩ = w.reconcilers := by
            obtain ⟨hn, hget⟩ := List.getElem?_eq_some_iff.1 hr
            rw [← hget, List.set_getElem_self]
          simpa [World.step, hr, Reconciler.act, hset] using h
      | ⟨i :: rest, []⟩ =>
          simp only [World.step, hr, Reconciler.act]
          refine ⟨h.near, h.untouched, fun r' hr' => ?_⟩
          obtain hr' | rfl := List.mem_or_eq_of_mem_set hr'
          · exact h.informed r' hr'
          · exact hinformed.look (h.near i)
      | ⟨todo, (i, op) :: rest⟩ =>
          simp only [World.step, hr, Reconciler.act]
          obtain ⟨hserved, hleaves⟩ := hinformed.onward (i, op) List.mem_cons_self
          have hissue := lookup_issue hleaves w.stores
          refine ⟨fun j k => ?_, fun j hj => ?_, fun r' hr' => ?_⟩
          · rw [hissue]
            by_cases hjk : j = i ∧ k = op.key
            · exact .inr (if_pos hjk)
            · rw [if_neg hjk]
              exact h.near j k
          · have hji : j ≠ i := fun hji => hj (hji ▸ hserved)
            exact (Function.update_of_ne hji _ _).trans (h.untouched j hj)
          · obtain hr' | rfl := List.mem_or_eq_of_mem_set hr'
            · refine (h.informed r' hr').mono fun j k hend => ?_
              rw [hissue, hend, ite_self]
            · exact hinformed.issue

/-- **Whatever the order of their operations, once one of the reconcilers has finished every key
of the served stores is where it ends, and the other stores are as they were.** -/
theorem Converging.settled {w : World ι κ β} (h : Converging goals start served w)
    {r : Reconciler ι κ β} (hr : r ∈ w.reconcilers) (hfinished : r.finished) (i : ι) (k : κ) :
    (w.stores i).lookup k =
      if i ∈ served then destination goals start i k else (start i).lookup k := by
  by_cases hi : i ∈ served
  · rw [if_pos hi]
    obtain htodo | hdone := (h.informed r hr).done i hi
    · simp [hfinished.1] at htodo
    · obtain hend | ⟨op, hop, -⟩ := hdone k
      · exact hend
      · simp [hfinished.2] at hop
  · rw [if_neg hi, h.untouched i hi]

theorem length_reconcilers_run (w : World ι κ β) (steps : List Nat) :
    (run (World.step goals) w steps).reconcilers.length = w.reconcilers.length := by
  refine inv_run_of_step (I := fun w' : World ι κ β => w'.reconcilers.length = w.reconcilers.length)
    (fun w' n h => ?_) rfl steps
  rw [← h, World.step]
  split
  · rfl
  · exact List.length_set

/-- **Run lemma**: reconcilers side by side converge. -/
theorem settled_run {orders : List (List ι)} (horders : ∀ order ∈ orders, ∀ i, i ∈ order ↔
      i ∈ served) (start : ι → Store κ β) (steps : List Nat) {r : Reconciler ι κ β}
    (hr : r ∈ (run (World.step goals)
      ⟨start, orders.map fun order => { todo := order }⟩ steps).reconcilers)
    (hfinished : r.finished) (i : ι) (k : κ) :
    ((run (World.step goals)
        ⟨start, orders.map fun order => { todo := order }⟩ steps).stores i).lookup k =
      if i ∈ served then destination goals start i k else (start i).lookup k := by
  have hconverging : Converging goals start served (run (World.step goals)
      ⟨start, orders.map fun order => { todo := order }⟩ steps) :=
    inv_run_of_step (fun w n h => h.step n) (converging_start horders start) steps
  exact hconverging.settled hr hfinished i k

end

end UptimeFlow.Reconcile
