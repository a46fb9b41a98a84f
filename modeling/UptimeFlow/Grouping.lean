import Mathlib.Algebra.BigOperators.Group.List.Basic
import Mathlib.Data.List.Dedup
import Mathlib.Data.List.Induction

/-!
# UptimeFlow.Grouping

Rows grouped by a key, and sums over the groups.

Summing over all rows is summing over each group and adding the groups up,
whatever list of keys the groups are taken of, as long as it has every key of
the rows once (`sum_groups`).  `firstKeys` lists the keys in order of first
appearance.
-/

namespace UptimeFlow.Grouping

variable {ρ κ M : Type*} [DecidableEq κ] [AddCommMonoid M]

/-- The rows with a key. -/
def group (key : ρ → κ) (rows : List ρ) (k : κ) : List ρ := rows.filter fun r => key r = k

/-- The keys of the rows, each once. -/
def keys (key : ρ → κ) (rows : List ρ) : List κ := (rows.map key).dedup

variable {key : ρ → κ} {rows : List ρ} {ks : List κ}

theorem mem_keys {k : κ} : k ∈ keys key rows ↔ ∃ r ∈ rows, key r = k := by
  rw [keys, List.mem_dedup, List.mem_map]

theorem nodup_keys : (keys key rows).Nodup := List.nodup_dedup _

/-- Rows are those with a key and those without it. -/
theorem sum_group_add (f : ρ → M) (k : κ) :
    ((group key rows k).map f).sum + ((rows.filter fun r => key r ≠ k).map f).sum =
      (rows.map f).sum := by
  induction rows with
  | nil => simp [group]
  | cons r rows ih =>
      rw [List.map_cons, List.sum_cons, ← ih]
      by_cases hr : key r = k
      · rw [group, List.filter_cons_of_pos (by simpa using hr), List.filter_cons_of_neg (by simpa using hr),
          List.map_cons, List.sum_cons, add_assoc]
        rfl
      · rw [group, List.filter_cons_of_neg (by simpa using hr), List.filter_cons_of_pos (by simpa using hr),
          List.map_cons, List.sum_cons, add_left_comm]
        rfl

/-- **Sums over the groups add up to the sum over all rows.** -/
theorem sum_groups (f : ρ → M) (hks : ks.Nodup) (hcover : ∀ r ∈ rows, key r ∈ ks) :
    (ks.map fun k => ((group key rows k).map f).sum).sum = (rows.map f).sum := by
  induction ks generalizing rows with
  | nil =>
      have hnil : rows = [] := List.eq_nil_iff_forall_not_mem.2 fun r hr => by simpa using hcover r hr
      simp [hnil]
  | cons k ks ih =>
      obtain ⟨hk, hks⟩ := List.nodup_cons.1 hks
      have hrest : ∀ r ∈ rows.filter fun r => key r ≠ k, key r ∈ ks := by
        intro r hr
        obtain ⟨hr, hne⟩ := List.mem_filter.1 hr
        exact (List.mem_cons.1 (hcover r hr)).resolve_left (by simpa using hne)
      have hgroups : ∀ l ∈ ks, group key (rows.filter fun r => key r ≠ k) l = group key rows l := by
        intro l hl
        rw [group, group, List.filter_filter]
        refine List.filter_congr fun r _ => ?_
        have hne : l ≠ k := fun he => hk (he ▸ hl)
        by_cases hr : key r = l <;> simp [hr, hne]
      have hsum : (ks.map fun l => ((group key rows l).map f).sum).sum =
          ((rows.filter fun r => key r ≠ k).map f).sum := by
        rw [← ih hks hrest]
        congr 1
        exact List.map_congr_left fun l hl => by rw [hgroups l hl]
      rw [List.map_cons, List.sum_cons, hsum]
      exact sum_group_add f k

/-- The groups of the rows' own keys. -/
theorem sum_keys (f : ρ → M) :
    ((keys key rows).map fun k => ((group key rows k).map f).sum).sum = (rows.map f).sum :=
  sum_groups f nodup_keys fun _ hr => mem_keys.2 ⟨_, hr, rfl⟩

/-! ## in order of first appearance -/

/-- What comes last is new, or it is dropped. -/
theorem eraseDups_concat (l : List κ) (k : κ) :
    (l ++ [k]).eraseDups = if k ∈ l then l.eraseDups else l.eraseDups ++ [k] := by
  rw [List.eraseDups_append]
  split
  · next h => simp [List.removeAll, h]
  · next h => simp [List.removeAll, h, List.eraseDups_cons]

theorem eraseDups_idxOf (l : List κ) : l.eraseDups.Pairwise fun j k => l.idxOf j < l.idxOf k := by
  induction l using List.reverseRecOn with
  | nil => exact List.Pairwise.nil
  | append_singleton l k ih =>
      have hbefore : (l.eraseDups).Pairwise fun i j => (l ++ [k]).idxOf i < (l ++ [k]).idxOf j := by
        refine ih.imp_of_mem fun hi hj hij => ?_
        rwa [List.idxOf_append_of_mem (List.mem_eraseDups.1 hi),
          List.idxOf_append_of_mem (List.mem_eraseDups.1 hj)]
      rw [eraseDups_concat]
      split
      · exact hbefore
      · next hk =>
        refine List.pairwise_append.2 ⟨hbefore, List.pairwise_singleton _ _, fun j hj i hi => ?_⟩
        obtain rfl := List.mem_singleton.1 hi
        rw [List.idxOf_append_of_mem (List.mem_eraseDups.1 hj), List.idxOf_append_of_notMem hk]
        exact Nat.lt_add_right _ (List.idxOf_lt_length_of_mem (List.mem_eraseDups.1 hj))

/-- The keys of the rows, each where it appears first. -/
def firstKeys (key : ρ → κ) (rows : List ρ) : List κ := (rows.map key).eraseDups

/-- These are the keys of the rows, in order of first appearance. -/
def FirstAppearance (key : ρ → κ) (rows : List ρ) (ks : List κ) : Prop :=
  (∀ k, k ∈ ks ↔ ∃ r ∈ rows, key r = k) ∧
    ks.Pairwise fun j k => (rows.map key).idxOf j < (rows.map key).idxOf k

theorem firstAppearance_firstKeys : FirstAppearance key rows (firstKeys key rows) :=
  ⟨fun _ => List.mem_eraseDups.trans List.mem_map, eraseDups_idxOf _⟩

theorem FirstAppearance.nodup (h : FirstAppearance key rows ks) : ks.Nodup :=
  h.2.imp fun hlt heq => Nat.ne_of_lt hlt (congrArg (rows.map key).idxOf heq)

theorem mem_firstKeys {k : κ} : k ∈ firstKeys key rows ↔ k ∈ rows.map key := List.mem_eraseDups

theorem firstKeys_concat (r : ρ) :
    firstKeys key (rows ++ [r]) =
      if key r ∈ rows.map key then firstKeys key rows else firstKeys key rows ++ [key r] := by
  rw [firstKeys, List.map_append, List.map_cons, List.map_nil, eraseDups_concat, firstKeys]

theorem group_concat (r : ρ) (k : κ) :
    group key (rows ++ [r]) k = if key r = k then group key rows k ++ [r] else group key rows k := by
  rw [group, List.filter_append, ← group]
  split
  · next h => rw [List.filter_cons_of_pos (by simpa using h), List.filter_nil]
  · next h => rw [List.filter_cons_of_neg (by simpa using h), List.filter_nil, List.append_nil]

theorem group_eq_nil {k : κ} (h : k ∉ rows.map key) : group key rows k = [] :=
  List.filter_eq_nil_iff.2 fun r hr heq => h (List.mem_map.2 ⟨r, hr, of_decide_eq_true heq⟩)

/-- The groups of the keys in order of first appearance. -/
theorem sum_firstKeys (f : ρ → M) :
    ((firstKeys key rows).map fun k => ((group key rows k).map f).sum).sum = (rows.map f).sum :=
  sum_groups f firstAppearance_firstKeys.nodup fun _ hr =>
    mem_firstKeys.2 (List.mem_map_of_mem hr)

/-! ## a value for each key -/

section
variable {α : Type*} (start : α) (f : α → α) (k : κ) (m : List (κ × α))

/-- `map.set(key, f(map.get(key) ?? start))`; a new key goes to the end. -/
def bump : List (κ × α) :=
  if m.any (·.1 = k) then m.map fun e => if e.1 = k then (e.1, f e.2) else e
  else m ++ [(k, f start)]

end

section
variable {α : Type*} (start : α) (f : α → ρ → α)

/-- The values of the keys, each from the rows that have it. -/
def values (key : ρ → κ) (rows : List ρ) : List (κ × α) :=
  (firstKeys key rows).map fun k => (k, (group key rows k).foldl f start)

/-- The value of a key, after one more row. -/
theorem value_concat (r : ρ) (k : κ) :
    (k, (group key (rows ++ [r]) k).foldl f start) =
      if k = key r then (k, f ((group key rows k).foldl f start) r)
      else (k, (group key rows k).foldl f start) := by
  rw [group_concat]
  by_cases h : key r = k
  · rw [if_pos h, if_pos h.symm, List.foldl_concat]
  · rw [if_neg h, if_neg (Ne.symm h)]

theorem bump_values (r : ρ) :
    bump start (f · r) (key r) (values start f key rows) = values start f key (rows ++ [r]) := by
  have hany : (values start f key rows).any (·.1 = key r) = true ↔ key r ∈ rows.map key := by
    simp [values, mem_firstKeys]
  by_cases hmem : key r ∈ rows.map key
  · rw [bump, if_pos (hany.2 hmem), values, values, firstKeys_concat, if_pos hmem, List.map_map]
    exact List.map_congr_left fun k _ => (value_concat start f r k).symm
  · rw [bump, if_neg (mt hany.1 hmem), values, values, firstKeys_concat, if_neg hmem,
      List.map_append, List.map_cons, List.map_nil, value_concat, if_pos rfl, group_eq_nil hmem]
    refine congrArg (· ++ _) (List.map_congr_left fun k hk => ?_)
    have hne : k ≠ key r := fun heq => hmem (heq ▸ mem_firstKeys.1 hk)
    rw [value_concat, if_neg hne]

/-- **Row by row or key by key**: each key ends with the value of its group. -/
theorem foldl_bump (rows : List ρ) :
    rows.foldl (fun m r => bump start (f · r) (key r) m) [] = values start f key rows := by
  induction rows using List.reverseRecOn with
  | nil => rfl
  | append_singleton rows r ih =>
      rw [List.foldl_concat, ih, bump_values]

end

end UptimeFlow.Grouping
