import Mathlib.Data.List.Sort
import Mathlib.Data.List.TakeDrop

/-!
# UptimeFlow.Keyset

Reading a table in the order of a key, from a position on.

`rest` is what is left of a table after a position: the rows whose key lies
beyond it, in order.  Moving on to the key of the row last read leaves exactly
what was not read yet (`rest_getElem`), and rows that come and go on this side
of the position change nothing of what is left (`rest_congr`).

A walk asks for page after page, each from the cursor of the page before it,
while the table changes.  Where the pages served are those of what is left
(`Serves`), a walk over a steady table is complete (`walk_complete`).
-/

namespace UptimeFlow.Keyset

variable {ρ κ : Type*} [LinearOrder κ] {key : ρ → κ} {rows rows' : List ρ} {c : Option κ}

/-- The row lies beyond the position; from the start every row does. -/
def beyond (key : ρ → κ) (c : Option κ) (r : ρ) : Bool := c.all fun k => k < key r

/-- What is left of the table after a position, in the order of the key. -/
def rest (key : ρ → κ) (c : Option κ) (rows : List ρ) : List ρ :=
  (rows.filter (beyond key c)).insertionSort fun a b => key a ≤ key b

theorem mem_rest {r : ρ} : r ∈ rest key c rows ↔ r ∈ rows ∧ beyond key c r = true := by
  rw [rest, List.mem_insertionSort, List.mem_filter]

theorem rest_perm : (rest key c rows).Perm (rows.filter (beyond key c)) :=
  List.perm_insertionSort _ _

theorem rest_none_perm : (rest key none rows).Perm rows := by
  have hall : rows.filter (beyond key none) = rows := List.filter_eq_self.2 fun _ _ => rfl
  have hperm : (rest key none rows).Perm (rows.filter (beyond key none)) := rest_perm
  rwa [hall] at hperm

/-- Where the keys are distinct, what is left is strictly in order. -/
theorem rest_pairwise (h : (rows.map key).Nodup) :
    (rest key c rows).Pairwise fun a b => key a < key b := by
  have hkeys : ((rest key c rows).map key).Nodup :=
    (rest_perm.map key).nodup_iff.2 (h.sublist (List.filter_sublist.map key))
  have hle : (rest key c rows).Pairwise fun a b => key a ≤ key b := by
    have : Std.Total fun a b : ρ => key a ≤ key b := ⟨fun a b => le_total (key a) (key b)⟩
    have : IsTrans ρ fun a b => key a ≤ key b := ⟨fun _ _ _ => le_trans⟩
    exact List.pairwise_insertionSort _ _
  have hne : (rest key c rows).Pairwise fun a b => key a ≠ key b := List.pairwise_map.1 hkeys
  exact (hle.and hne).imp fun {a b} hab => lt_of_le_of_ne hab.1 hab.2

/-- Two lists in strict order with the same rows are one. -/
theorem eq_of_mem_iff {xs ys : List ρ} (hxs : xs.Pairwise fun a b => key a < key b)
    (hys : ys.Pairwise fun a b => key a < key b) (h : ∀ r, r ∈ xs ↔ r ∈ ys) : xs = ys := by
  have hnodup : ∀ {zs : List ρ}, zs.Pairwise (fun a b => key a < key b) → zs.Nodup :=
    fun hzs => hzs.imp fun {a b} hab => by
      rintro rfl
      exact lt_irrefl _ hab
  exact ((List.perm_ext_iff_of_nodup (hnodup hxs) (hnodup hys)).2 h).eq_of_pairwise
    (fun a b _ _ hab hba => absurd hab (lt_asymm hba)) hxs hys

/-- **What happens on this side of the position does not matter.** -/
theorem rest_congr (h : (rows.map key).Nodup) (h' : (rows'.map key).Nodup)
    (hsame : ∀ r, beyond key c r = true → (r ∈ rows ↔ r ∈ rows')) :
    rest key c rows = rest key c rows' := by
  refine eq_of_mem_iff (rest_pairwise h) (rest_pairwise h') fun r => ?_
  rw [mem_rest, mem_rest]
  exact and_congr_left fun hbeyond => hsame r hbeyond

/-- **Moving on**: from the key of a row of what is left, the rows behind it are left. -/
theorem rest_getElem (h : (rows.map key).Nodup) {n : Nat} {last : ρ}
    (hlast : (rest key c rows)[n]? = some last) :
    rest key (some (key last)) rows = (rest key c rows).drop (n + 1) := by
  have hsorted := rest_pairwise (c := c) h
  obtain ⟨hn, hget⟩ := List.getElem?_eq_some_iff.1 hlast
  have hsplit : rest key c rows = (rest key c rows).take n ++ last :: (rest key c rows).drop (n + 1) := by
    rw [← hget, ← List.drop_eq_getElem_cons hn, List.take_append_drop]
  refine eq_of_mem_iff (rest_pairwise h) (hsorted.sublist (List.drop_sublist _ _)) fun r => ?_
  have hmem : last ∈ rest key c rows := List.mem_of_getElem? hlast
  have hpos := (mem_rest.1 hmem).2
  rw [hsplit, List.pairwise_append, List.pairwise_cons] at hsorted
  rw [mem_rest]
  constructor
  · rintro ⟨hr, hlt⟩
    have hlt : key last < key r := by simpa [beyond] using hlt
    have hrest : r ∈ rest key c rows := by
      refine mem_rest.2 ⟨hr, ?_⟩
      cases c with
      | none => rfl
      | some k =>
          have hk : k < key last := by simpa [beyond] using hpos
          simpa [beyond] using hk.trans hlt
    rw [hsplit, List.mem_append, List.mem_cons] at hrest
    rcases hrest with hbefore | rfl | hbehind
    · exact absurd hlt (lt_asymm (hsorted.2.2 r hbefore last List.mem_cons_self))
    · exact absurd hlt (lt_irrefl _)
    · exact hbehind
  · intro hbehind
    refine ⟨(mem_rest.1 (List.mem_of_mem_drop hbehind)).1, ?_⟩
    simpa [beyond] using hsorted.2.1.1 r hbehind

/-! ## pages -/

structure Page (ρ γ : Type*) where
  items : List ρ
  nextCursor : Option γ
deriving DecidableEq, Repr

variable {τ γ ε : Type*} {cursorOf : ρ → γ} {limit : Nat} {rowsOf : τ → List ρ}
  {fetch : τ → Option γ → Except ε (Page ρ γ)} {before : ρ → ρ → Prop}

/-- The first `limit` rows of what is left, and the cursor of the last of them if there are
more. -/
def pageOf (cursorOf : ρ → γ) (limit : Nat) (left : List ρ) : Page ρ γ :=
  { items := left.take limit
    nextCursor := if limit < left.length then (left.take limit).getLast?.map cursorOf else none }

/-- The pages of a walk; the tables are those the requests meet, one after the other. -/
def walk (fetch : τ → Option γ → Except ε (Page ρ γ)) :
    Option γ → List τ → Except ε (List (Page ρ γ))
  | _, [] => .ok []
  | cursor, table :: later => do
      let page ← fetch table cursor
      match page.nextCursor with
      | none => return [page]
      | some next => return page :: (← walk fetch (some next) later)

theorem walk_last {cursor : Option γ} {table : τ} {later : List τ} {page : Page ρ γ}
    (h : fetch table cursor = .ok page) (hnext : page.nextCursor = none) :
    walk fetch cursor (table :: later) = .ok [page] := by
  simp only [walk, h, hnext, bind, Except.bind, pure, Except.pure]

theorem walk_next {cursor : Option γ} {next : γ} {table : τ} {later : List τ} {page : Page ρ γ}
    {pages : List (Page ρ γ)} (h : fetch table cursor = .ok page)
    (hnext : page.nextCursor = some next) (hlater : walk fetch (some next) later = .ok pages) :
    walk fetch cursor (table :: later) = .ok (page :: pages) := by
  simp only [walk, h, hnext, hlater, bind, Except.bind, pure, Except.pure]

/-- Every request is answered with a page of what is left behind the row of its cursor. -/
def Serves (key : ρ → κ) (cursorOf : ρ → γ) (limit : Nat) (rowsOf : τ → List ρ)
    (fetch : τ → Option γ → Except ε (Page ρ γ)) : Prop :=
  ∀ table last, fetch table (Option.map cursorOf last) =
    .ok (pageOf cursorOf limit (rest key (last.map key) (rowsOf table)))

/-- Between two requests: rows came before some delivered one, and only delivered rows went. -/
structure Behind (before : ρ → ρ → Prop) (delivered rows rows' : List ρ) : Prop where
  came : ∀ r ∈ rows', r ∉ rows → ∃ d ∈ delivered, before r d
  gone : ∀ r ∈ rows, r ∉ rows' → r ∈ delivered

/-- What changes between the requests of a walk lies behind it. -/
def Steady (before : ρ → ρ → Prop) (rowsOf : τ → List ρ)
    (fetch : τ → Option γ → Except ε (Page ρ γ)) : List ρ → Option γ → List τ → Prop
  | delivered, cursor, table :: table' :: later =>
      ∀ page next, fetch table cursor = .ok page → page.nextCursor = some next →
        Behind before (delivered ++ page.items) (rowsOf table) (rowsOf table') ∧
          Steady before rowsOf fetch (delivered ++ page.items) (some next) (table' :: later)
  | _, _, _ => True

/-- A table that does not change is steady. -/
theorem steady_replicate (table : τ) (n : Nat) (delivered : List ρ) (cursor : Option γ) :
    Steady before rowsOf fetch delivered cursor (List.replicate n table) := by
  induction n generalizing delivered cursor with
  | zero => trivial
  | succ n ih =>
      cases n with
      | zero => trivial
      | succ n =>
          intro page next _ _
          exact ⟨⟨fun r hr hnot => absurd hr hnot, fun r hr hnot => absurd hr hnot⟩, ih _ _⟩

/-- The pages have every row once, in order, as many as the rows fill, and the last of them
has no cursor. -/
structure Complete (before : ρ → ρ → Prop) (limit : Nat) (rows : List ρ)
    (pages : List (Page ρ γ)) : Prop where
  once : (pages.flatMap Page.items).Perm rows
  ordered : (pages.flatMap Page.items).Pairwise before
  count : pages.length = max 1 ((rows.length + limit - 1) / limit)
  ended : ∀ page ∈ pages.getLast?, page.nextCursor = none

/-- The pages `n` rows fill. -/
theorem pages_succ {n : Nat} (hlimit : 1 ≤ limit) (hmore : limit < n) :
    max 1 ((n + limit - 1) / limit) = max 1 ((n - limit + limit - 1) / limit) + 1 := by
  have hsub : n - limit + limit - 1 = n - 1 := by omega
  have hadd : n + limit - 1 = n - 1 + limit := by omega
  have hone : 1 ≤ (n - 1) / limit := (Nat.le_div_iff_mul_le hlimit).2 (by omega)
  rw [hsub, hadd, Nat.add_div_right _ hlimit]
  omega

theorem pages_one {n : Nat} (hlimit : 1 ≤ limit) (hlast : ¬ limit < n) :
    max 1 ((n + limit - 1) / limit) = 1 := by
  have hlt : (n + limit - 1) / limit < 2 := (Nat.div_lt_iff_lt_mul hlimit).2 (by omega)
  omega

theorem getLast?_take {left : List ρ} (hlimit : 1 ≤ limit) (hmore : limit < left.length) :
    ∃ last, left[limit - 1]? = some last ∧ (left.take limit).getLast? = some last := by
  have hlt : limit - 1 < left.length := by omega
  refine ⟨left[limit - 1], List.getElem?_eq_getElem hlt, ?_⟩
  rw [List.getLast?_eq_getElem?, List.length_take, Nat.min_eq_left hmore.le,
    List.getElem?_take, if_pos (by omega), List.getElem?_eq_getElem hlt]

/-- Between two requests nothing changes behind a row that no delivered one exceeds. -/
theorem rest_of_behind {delivered : List ρ} {l : ρ} (hbefore : ∀ a b, before a b ↔ key a < key b)
    (h : (rows.map key).Nodup) (h' : (rows'.map key).Nodup)
    (hdelivered : ∀ d ∈ delivered, key d ≤ key l) (hbehind : Behind before delivered rows rows') :
    rest key (some (key l)) rows' = rest key (some (key l)) rows := by
  refine rest_congr h' h fun r hr => ?_
  have hlt : key l < key r := by simpa [beyond] using hr
  constructor
  · intro hmem
    by_contra hnot
    obtain ⟨d, hd, hrd⟩ := hbehind.came r hmem hnot
    exact absurd (((hbefore r d).1 hrd).trans_le (hdelivered d hd)) (lt_asymm hlt)
  · intro hmem
    by_contra hnot
    exact absurd (hdelivered r (hbehind.gone r hmem hnot)) (not_le.2 hlt)

/-- The row last delivered lies behind none of the others. -/
theorem le_of_delivered {delivered : List ρ} {last : Option ρ} {l : ρ}
    (h : (rows.map key).Nodup)
    (hget : (rest key (last.map key) rows)[limit - 1]? = some l)
    (hgetLast : ((rest key (last.map key) rows).take limit).getLast? = some l)
    (hdelivered : ∀ d ∈ delivered, ∃ l ∈ last, key d ≤ key l) :
    ∀ d ∈ delivered ++ (rest key (last.map key) rows).take limit, key d ≤ key l := by
  intro d hd
  rcases List.mem_append.1 hd with hd | hd
  · obtain ⟨l', hl', hle⟩ := hdelivered d hd
    have hbeyond := (mem_rest.1 (List.mem_of_getElem? hget)).2
    rw [Option.mem_def.1 hl'] at hbeyond
    exact hle.trans (le_of_lt (by simpa [beyond] using hbeyond))
  · have hle : ((rest key (last.map key) rows).take limit).Pairwise fun a b => key a ≤ key b :=
      ((rest_pairwise h).sublist (List.take_sublist _ _)).imp fun {a b} hab => hab.le
    obtain ⟨pre, hpre⟩ := List.getLast?_eq_some_iff.1 hgetLast
    rw [hpre] at hd hle
    rcases List.mem_append.1 hd with hd | hd
    · exact (List.pairwise_append.1 hle).2.2 d hd l (by simp)
    · rw [List.mem_singleton.1 hd]

/-- A walk ends with the page that holds all that is left. -/
theorem walk_ends (hserve : Serves key cursorOf limit rowsOf fetch) (hlimit : 1 ≤ limit)
    {table : τ} {last : Option ρ} (later : List τ)
    (hlast : ¬ limit < (rest key (last.map key) (rowsOf table)).length) :
    ∃ pages, walk fetch (last.map cursorOf) (table :: later) = .ok pages ∧
      pages.flatMap Page.items = rest key (last.map key) (rowsOf table) ∧
      pages.length =
        max 1 (((rest key (last.map key) (rowsOf table)).length + limit - 1) / limit) ∧
      ∀ page ∈ pages.getLast?, page.nextCursor = none := by
  refine ⟨_, walk_last (hserve table last) (if_neg hlast), ?_, ?_, ?_⟩
  · simp [pageOf, List.take_of_length_le (not_lt.1 hlast)]
  · rw [pages_one hlimit hlast]
    rfl
  · simp [pageOf, hlast]

/-- **The rest of a walk**: from the row last delivered, the pages are those of what is left. -/
theorem walk_rest (hserve : Serves key cursorOf limit rowsOf fetch)
    (hbefore : ∀ a b, before a b ↔ key a < key b) (hlimit : 1 ≤ limit) (later : List τ) :
    ∀ (table : τ) (delivered : List ρ) (last : Option ρ),
      (∀ d ∈ delivered, ∃ l ∈ last, key d ≤ key l) →
      (∀ t ∈ table :: later, ((rowsOf t).map key).Nodup) →
      Steady before rowsOf fetch delivered (last.map cursorOf) (table :: later) →
      max 1 (((rest key (last.map key) (rowsOf table)).length + limit - 1) / limit) ≤
        later.length + 1 →
      ∃ pages, walk fetch (last.map cursorOf) (table :: later) = .ok pages ∧
        pages.flatMap Page.items = rest key (last.map key) (rowsOf table) ∧
        pages.length =
          max 1 (((rest key (last.map key) (rowsOf table)).length + limit - 1) / limit) ∧
        ∀ page ∈ pages.getLast?, page.nextCursor = none := by
  induction later with
  | nil =>
      intro table delivered last hdelivered hnodup hsteady henough
      by_cases hmore : limit < (rest key (last.map key) (rowsOf table)).length
      · have hone := pages_succ hlimit hmore
        simp only [List.length_nil] at henough
        omega
      · exact walk_ends hserve hlimit [] hmore
  | cons table' later ih =>
      intro table delivered last hdelivered hnodup hsteady henough
      by_cases hmore : limit < (rest key (last.map key) (rowsOf table)).length
      · obtain ⟨l, hget, hgetLast⟩ := getLast?_take hlimit hmore
        have hfetch := hserve table last
        have hnext : (pageOf cursorOf limit (rest key (last.map key) (rowsOf table))).nextCursor =
            some (cursorOf l) := by
          rw [pageOf]
          simp only [hmore, if_true, hgetLast, Option.map_some]
        obtain ⟨hbehind, hsteady'⟩ := hsteady _ _ hfetch hnext
        have hnodup1 := hnodup table (by simp)
        have hdelivered' := le_of_delivered hnodup1 hget hgetLast hdelivered
        have hdrop : rest key (some (key l)) (rowsOf table') =
            (rest key (last.map key) (rowsOf table)).drop limit := by
          have hsucc : limit - 1 + 1 = limit := by omega
          rw [rest_of_behind hbefore hnodup1 (hnodup table' (by simp)) hdelivered' hbehind,
            rest_getElem hnodup1 hget, hsucc]
        have hcount := pages_succ hlimit hmore
        obtain ⟨pages, hwalk, hitems, hlength, hended⟩ := ih table'
          (delivered ++ (rest key (last.map key) (rowsOf table)).take limit) (some l)
          (fun d hd => ⟨l, rfl, hdelivered' d hd⟩) (fun t ht => hnodup t (List.mem_cons_of_mem _ ht))
          hsteady' (by
            rw [Option.map_some, hdrop, List.length_drop]
            simp only [List.length_cons] at henough
            omega)
        rw [Option.map_some, hdrop] at hitems hlength
        refine ⟨_, walk_next hfetch hnext hwalk, ?_, ?_, ?_⟩
        · rw [List.flatMap_cons, hitems]
          exact List.take_append_drop _ _
        · rw [List.length_cons, hlength, List.length_drop, hcount]
        · cases pages with
          | nil =>
              simp only [List.length_nil] at hlength
              omega
          | cons page pages =>
              rw [List.getLast?_cons_cons]
              exact hended
      · exact walk_ends hserve hlimit (table' :: later) hmore

/-- **A walk over a steady table is complete.** -/
theorem walk_complete (hserve : Serves key cursorOf limit rowsOf fetch)
    (hbefore : ∀ a b, before a b ↔ key a < key b) (hlimit : 1 ≤ limit) {table : τ} {later : List τ}
    (hnodup : ∀ t ∈ table :: later, ((rowsOf t).map key).Nodup)
    (hsteady : Steady before rowsOf fetch [] none (table :: later))
    (henough : max 1 (((rowsOf table).length + limit - 1) / limit) ≤ (table :: later).length) :
    ∃ pages, walk fetch none (table :: later) = .ok pages ∧
      Complete before limit (rowsOf table) pages := by
  have hperm : (rest key none (rowsOf table)).Perm (rowsOf table) := rest_none_perm
  have hlen := hperm.length_eq
  obtain ⟨pages, hwalk, hitems, hlength, hended⟩ := walk_rest hserve hbefore hlimit later table []
    none (by simp) hnodup hsteady (by rw [Option.map_none, hlen]; exact henough)
  rw [Option.map_none] at hitems hlength
  rw [hlen] at hlength
  refine ⟨pages, hwalk, ?_, ?_, hlength, hended⟩
  · rw [hitems]
    exact hperm
  · rw [hitems]
    exact (rest_pairwise (hnodup table List.mem_cons_self)).imp fun {a b} hab => (hbefore a b).2 hab

/-- What walks through a listing deliver: all rows of a table that does not change, and of one
that changes behind them the rows it had at the start. -/
structure CompleteWalks (before : ρ → ρ → Prop) (limit : Nat) (distinct : τ → Prop)
    (rowsOf : τ → List ρ) (fetch : τ → Option γ → Except ε (Page ρ γ)) : Prop where
  unchanged : ∀ table requests, distinct table →
    max 1 (((rowsOf table).length + limit - 1) / limit) ≤ requests →
    ∃ pages, walk fetch none (List.replicate requests table) = .ok pages ∧
      Complete before limit (rowsOf table) pages
  steady : ∀ table later, (∀ t ∈ table :: later, distinct t) →
    Steady before rowsOf fetch [] none (table :: later) →
    max 1 (((rowsOf table).length + limit - 1) / limit) ≤ (table :: later).length →
    ∃ pages, walk fetch none (table :: later) = .ok pages ∧
      Complete before limit (rowsOf table) pages

theorem completeWalks_of_serves {distinct : τ → Prop}
    (hserve : Serves key cursorOf limit rowsOf fetch)
    (hbefore : ∀ a b, before a b ↔ key a < key b) (hlimit : 1 ≤ limit)
    (hdistinct : ∀ t, distinct t → ((rowsOf t).map key).Nodup) :
    CompleteWalks before limit distinct rowsOf fetch where
  unchanged table requests htable henough := by
    obtain ⟨n, rfl⟩ : ∃ n, requests = n + 1 := Nat.exists_eq_add_of_le' (by omega)
    refine walk_complete hserve hbefore hlimit ?_ (steady_replicate table (n + 1) [] none) ?_
    · intro t ht
      rw [← List.replicate_succ] at ht
      rw [List.eq_of_mem_replicate ht]
      exact hdistinct table htable
    · rw [← List.replicate_succ, List.length_replicate]
      exact henough
  steady table later htables hsteady henough :=
    walk_complete hserve hbefore hlimit (fun t ht => hdistinct t (htables t ht)) hsteady henough

end UptimeFlow.Keyset
