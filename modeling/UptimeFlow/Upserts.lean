import Mathlib.Data.List.Dedup
import Mathlib.Data.List.Induction
import UptimeFlow.Tables

/-!
# UptimeFlow.Upserts

Inserting rows into a keyed table, where a row with the key already there is
overwritten instead.  Rows without a key are in nobody's way.

What is written under a key depends on the key alone, `fresh k`.  Writing the
keys `ks` then gives the table at once (`refreshed`), and writing more keys
after it the table of all of them, up to row order (`refreshed_refreshed`): so
neither order nor repetition matters (`run_refreshed`).
-/

namespace UptimeFlow.Upserts

open Tables

variable {ρ κ : Type*} [DecidableEq κ] {key : ρ → Option κ} {set : ρ → ρ → ρ} {fresh : κ → ρ}
  {rows rows' : List ρ} {ks ks' : List κ} {k : κ} {r : ρ}

/-- Insert a row, or overwrite the one with its key. -/
def upsert (key : ρ → Option κ) (set : ρ → ρ → ρ) (rows : List ρ) (p : ρ) : List ρ :=
  if rows.any fun r => (key p).isSome && key r = key p then
    updateWhere (fun r => (key p).isSome && key r = key p) (fun r => set r p) rows
  else rows ++ [p]

/-- A row after the keys `ks` were written. -/
def refresh (key : ρ → Option κ) (set : ρ → ρ → ρ) (fresh : κ → ρ) (ks : List κ) (r : ρ) : ρ :=
  match key r with
  | none => r
  | some k => if k ∈ ks then set r (fresh k) else r

/-- The table after the keys `ks` were written to it. -/
def refreshed (key : ρ → Option κ) (set : ρ → ρ → ρ) (fresh : κ → ρ) (ks : List κ)
    (rows : List ρ) : List ρ :=
  rows.map (refresh key set fresh ks) ++ (ks.filter fun k => some k ∉ rows.map key).map fresh

/-- Overwriting keeps the key, and overwriting again changes nothing. -/
structure Overwrites (key : ρ → Option κ) (set : ρ → ρ → ρ) (fresh : κ → ρ) : Prop where
  key_set : ∀ r p, key (set r p) = key r
  key_fresh : ∀ k, key (fresh k) = some k
  set_set : ∀ r p, set (set r p) p = set r p
  set_fresh : ∀ k, set (fresh k) (fresh k) = fresh k

/-! ## one row -/

theorem refresh_of_mem (hr : key r = some k) (hk : k ∈ ks) :
    refresh key set fresh ks r = set r (fresh k) := by
  simp only [refresh, hr, hk, if_true]

theorem refresh_of_not_mem (hk : ∀ k ∈ ks, key r ≠ some k) : refresh key set fresh ks r = r := by
  unfold refresh
  split
  · rfl
  · next k hr => rw [if_neg fun hmem => hk k hmem hr]

theorem key_refresh (h : Overwrites key set fresh) (ks : List κ) (r : ρ) :
    key (refresh key set fresh ks r) = key r := by
  unfold refresh
  split
  · rfl
  · split
    · exact h.key_set _ _
    · rfl

theorem refresh_fresh (h : Overwrites key set fresh) (ks : List κ) (k : κ) :
    refresh key set fresh ks (fresh k) = fresh k := by
  unfold refresh
  rw [h.key_fresh]
  dsimp only
  split
  · exact h.set_fresh k
  · rfl

theorem refresh_refresh (h : Overwrites key set fresh) {all : List κ}
    (hall : ∀ k, k ∈ all ↔ k ∈ ks ∨ k ∈ ks') (r : ρ) :
    refresh key set fresh ks' (refresh key set fresh ks r) = refresh key set fresh all r := by
  cases hr : key r with
  | none =>
      have hnone : ∀ ls, refresh key set fresh ls r = r := fun ls =>
        refresh_of_not_mem fun k _ => by simp [hr]
      rw [hnone, hnone, hnone]
  | some k =>
      by_cases hk : k ∈ ks
      · rw [refresh_of_mem hr hk, refresh_of_mem hr ((hall k).2 (.inl hk))]
        have hkey : key (set r (fresh k)) = some k := by rw [h.key_set, hr]
        by_cases hk' : k ∈ ks'
        · rw [refresh_of_mem hkey hk', h.set_set]
        · exact refresh_of_not_mem fun l hl => by
            rw [hkey]
            rintro ⟨⟩
            exact hk' hl
      · have hsame : refresh key set fresh ks r = r := refresh_of_not_mem fun l hl => by
          rw [hr]
          rintro ⟨⟩
          exact hk hl
        rw [hsame]
        simp only [refresh, hr, hall, hk, false_or]

theorem map_key_refresh (h : Overwrites key set fresh) (ks : List κ) (rows : List ρ) :
    (rows.map (refresh key set fresh ks)).map key = rows.map key := by
  rw [List.map_map]
  exact List.map_congr_left fun r _ => key_refresh h ks r

theorem mem_map_key_refreshed (h : Overwrites key set fresh) :
    some k ∈ (refreshed key set fresh ks rows).map key ↔ some k ∈ rows.map key ∨ k ∈ ks := by
  have hkeys : ((ks.filter fun k => some k ∉ rows.map key).map fresh).map key =
      (ks.filter fun k => some k ∉ rows.map key).map some := by
    rw [List.map_map]
    exact List.map_congr_left fun k _ => h.key_fresh k
  rw [refreshed, List.map_append, map_key_refresh h, List.mem_append, hkeys]
  by_cases hk : some k ∈ rows.map key
  · simp only [hk, true_or]
  · rw [or_iff_right hk, or_iff_right hk, List.mem_map]
    simp only [List.mem_filter, Option.some.injEq, exists_eq_right, hk, not_false_eq_true,
      decide_true, and_true]

/-! ## a run of writes -/

/-- **Upserts under distinct keys** write the table at once. -/
theorem foldl_upsert (h : Overwrites key set fresh) (hks : ks.Nodup) (rows : List ρ) :
    (ks.map fresh).foldl (upsert key set) rows = refreshed key set fresh ks rows := by
  induction ks generalizing rows with
  | nil =>
      have hsame : rows.map (refresh key set fresh []) = rows :=
        (List.map_congr_left fun r _ => refresh_of_not_mem (by simp)).trans (List.map_id _)
      simp [refreshed, hsame]
  | cons k ks ih =>
      obtain ⟨hk, hks⟩ := List.nodup_cons.1 hks
      have hnot : ∀ l ∈ ks, (some k : Option κ) ≠ some l := by
        rintro l hl ⟨⟩
        exact hk hl
      rw [List.map_cons, List.foldl_cons, ih hks, upsert]
      simp only [h.key_fresh, Option.isSome_some, Bool.true_and]
      by_cases hin : some k ∈ rows.map key
      · have hany : (rows.any fun r => key r = some k) = true := by simpa using hin
        have hmap : (updateWhere (fun r => key r = some k) (fun r => set r (fresh k)) rows).map
            (refresh key set fresh ks) = rows.map (refresh key set fresh (k :: ks)) := by
          rw [updateWhere, List.map_map]
          refine List.map_congr_left fun r _ => ?_
          by_cases hr : key r = some k
          · have hkey : key (set r (fresh k)) = some k := by rw [h.key_set, hr]
            simp only [Function.comp_apply, hr, decide_true, if_true]
            rw [refresh_of_mem hr List.mem_cons_self]
            exact refresh_of_not_mem fun l hl => hkey ▸ hnot l hl
          · simp only [Function.comp_apply, hr, decide_false, Bool.false_eq_true, if_false]
            unfold refresh
            split
            · rfl
            · next l hl =>
                have hne : l ≠ k := fun he => hr (he ▸ hl)
                simp [hne]
        have hkeys : (updateWhere (fun r => key r = some k) (fun r => set r (fresh k)) rows).map key =
            rows.map key := map_id_updateWhere fun r => h.key_set r _
        rw [if_pos hany, refreshed, refreshed, hmap, hkeys,
          List.filter_cons_of_neg (by simpa using hin)]
      · have hany : ¬ (rows.any fun r => key r = some k) = true := by simpa using hin
        have hmap : rows.map (refresh key set fresh ks) =
            rows.map (refresh key set fresh (k :: ks)) := by
          refine List.map_congr_left fun r hr => ?_
          unfold refresh
          split
          · rfl
          · next l hl =>
              have hne : l ≠ k := fun he => hin (he ▸ hl ▸ List.mem_map_of_mem hr)
              simp [hne]
        have hfilter : (ks.filter fun l => some l ∉ (rows ++ [fresh k]).map key) =
            ks.filter fun l => some l ∉ rows.map key := by
          refine List.filter_congr fun l hl => ?_
          have hne : l ≠ k := fun he => hk (he ▸ hl)
          simp [h.key_fresh, hne]
        rw [if_neg hany, refreshed, refreshed, List.filter_cons_of_pos (by simpa using hin),
          List.map_cons, List.map_append, List.append_assoc, hmap, hfilter, List.map_singleton,
          refresh_fresh h, List.singleton_append]

/-- Only which keys are written counts. -/
theorem refreshed_congr (hks : ks.Nodup) (hks' : ks'.Nodup) (hmem : ∀ k, k ∈ ks ↔ k ∈ ks')
    (rows : List ρ) :
    (refreshed key set fresh ks rows).Perm (refreshed key set fresh ks' rows) := by
  have hmap : rows.map (refresh key set fresh ks) = rows.map (refresh key set fresh ks') := by
    refine List.map_congr_left fun r _ => ?_
    simp only [refresh, hmem]
  rw [refreshed, refreshed, hmap]
  exact (((List.perm_ext_iff_of_nodup hks hks').2 hmem).filter _ |>.map fresh).append_left _

/-- The order of the rows does not matter. -/
theorem refreshed_perm (hrows : rows.Perm rows') :
    (refreshed key set fresh ks rows).Perm (refreshed key set fresh ks rows') := by
  have hfilter : (ks.filter fun k => some k ∉ rows.map key) =
      ks.filter fun k => some k ∉ rows'.map key := by
    refine List.filter_congr fun k _ => ?_
    simp only [(hrows.map key).mem_iff]
  rw [refreshed, refreshed, hfilter]
  exact (hrows.map _).append_right _

/-- **Writing more keys** is writing all of them. -/
theorem refreshed_refreshed (h : Overwrites key set fresh) (rows : List ρ) :
    (refreshed key set fresh ks' (refreshed key set fresh ks rows)).Perm
      (refreshed key set fresh (ks ++ ks'.filter fun k => k ∉ ks) rows) := by
  have hmem : ∀ k, k ∈ ks ++ ks'.filter (fun k => k ∉ ks) ↔ k ∈ ks ∨ k ∈ ks' := by
    intro k
    by_cases hk : k ∈ ks <;> simp [hk]
  have hmap : (rows.map (refresh key set fresh ks)).map (refresh key set fresh ks') =
      rows.map (refresh key set fresh (ks ++ ks'.filter fun k => k ∉ ks)) := by
    rw [List.map_map]
    exact List.map_congr_left fun r _ => refresh_refresh h hmem r
  have hfresh : ∀ ls : List κ, (ls.map fresh).map (refresh key set fresh ks') = ls.map fresh := by
    intro ls
    rw [List.map_map]
    exact List.map_congr_left fun k _ => refresh_fresh h ks' k
  have hmissing : (ks'.filter fun k => some k ∉ (refreshed key set fresh ks rows).map key) =
      (ks'.filter fun k => k ∉ ks).filter fun k => some k ∉ rows.map key := by
    rw [List.filter_filter]
    refine List.filter_congr fun k _ => ?_
    simp only [mem_map_key_refreshed h, not_or, Bool.decide_and]
  rw [refreshed, hmissing, refreshed, refreshed, List.map_append, hmap, hfresh, List.append_assoc,
    List.filter_append, List.map_append]

/-- **A run of writes** is one write of all the keys. -/
theorem run_refreshed (h : Overwrites key set fresh) (kss : List (List κ))
    (hkss : ∀ ks ∈ kss, ks.Nodup) {all : List κ} (hall : all.Nodup)
    (hmem : ∀ k, k ∈ all ↔ ∃ ks ∈ kss, k ∈ ks) (rows : List ρ) :
    (kss.foldl (fun rows ks => refreshed key set fresh ks rows) rows).Perm
      (refreshed key set fresh all rows) := by
  induction kss using List.reverseRecOn generalizing all with
  | nil =>
      have hnil : all = [] := List.eq_nil_iff_forall_not_mem.2 fun k hk => by simpa using (hmem k).1 hk
      have hone := foldl_upsert h List.nodup_nil rows
      rw [hnil, ← hone]
      rfl
  | append_singleton kss ks ih =>
      have hks := hkss ks (by simp)
      -- the keys of the run before the last write
      have hbefore := ih (fun ks' hks' => hkss ks' (List.mem_append_left _ hks'))
        (List.nodup_dedup kss.flatten) (fun k => by simp [List.mem_flatten])
      rw [List.foldl_append, List.foldl_cons, List.foldl_nil]
      refine (refreshed_perm hbefore).trans ((refreshed_refreshed h rows).trans ?_)
      refine refreshed_congr ?_ hall (fun k => ?_) rows
      · refine List.Nodup.append (List.nodup_dedup _) (hks.filter _) fun k hk hk' => ?_
        simp only [List.mem_filter, decide_eq_true_eq] at hk'
        exact hk'.2 hk
      · rw [hmem k]
        by_cases hk : k ∈ kss.flatten <;> simp_all [List.mem_flatten]

/-- An empty table has the rows written, and no others. -/
theorem refreshed_nil (ks : List κ) : refreshed key set fresh ks [] = ks.map fresh := by
  simp [refreshed]

/-! ## reading the table -/

/-- A key written has one row, written for it, where it had one at most before. -/
theorem filter_refreshed (h : Overwrites key set fresh) (hks : ks.Nodup) (hk : k ∈ ks)
    (hone : (rows.filter fun r => key r = some k).length ≤ 1) :
    ∃ row, (refreshed key set fresh ks rows).filter (fun r => key r = some k) = [row] ∧
      (row = fresh k ∨ ∃ old, row = set old (fresh k)) := by
  have hmap : (rows.map (refresh key set fresh ks)).filter (fun r => key r = some k) =
      (rows.filter fun r => key r = some k).map fun r => set r (fresh k) := by
    rw [List.filter_map]
    have hp : rows.filter ((fun r => decide (key r = some k)) ∘ refresh key set fresh ks) =
        rows.filter fun r => key r = some k := by
      refine List.filter_congr fun r _ => ?_
      rw [Function.comp_apply, key_refresh h]
    rw [hp]
    refine List.map_congr_left fun r hr => ?_
    have hr : key r = some k := by simpa using (List.mem_filter.1 hr).2
    exact refresh_of_mem hr hk
  have hfresh : ((ks.filter fun l => some l ∉ rows.map key).map fresh).filter
      (fun r => key r = some k) = if some k ∈ rows.map key then [] else [fresh k] := by
    rw [List.filter_map]
    have hp : ((ks.filter fun l => some l ∉ rows.map key).filter
        ((fun r => decide (key r = some k)) ∘ fresh)) =
        (ks.filter fun l => l = k).filter fun l => some l ∉ rows.map key := by
      rw [List.filter_filter, List.filter_filter]
      refine List.filter_congr fun l _ => ?_
      rw [Function.comp_apply, h.key_fresh, Bool.and_comm]
      simp only [Option.some.injEq]
    have hids : (ks.map id).Nodup := by rwa [List.map_id]
    have honly : (ks.filter fun l => l = k) = [k] := filter_eq_singleton hids hk
    rw [hp, honly]
    by_cases hin : some k ∈ rows.map key
    · rw [if_pos hin, List.filter_cons_of_neg (by simpa using hin)]
      rfl
    · rw [if_neg hin, List.filter_cons_of_pos (by simpa using hin)]
      rfl
  rw [refreshed, List.filter_append, hmap, hfresh]
  cases hold : rows.filter fun r => key r = some k with
  | nil =>
      have hin : some k ∉ rows.map key := by
        intro hin
        obtain ⟨r, hr, hkey⟩ := List.mem_map.1 hin
        have : r ∈ rows.filter fun r => key r = some k := List.mem_filter.2 ⟨hr, by simpa using hkey⟩
        rw [hold] at this
        simp at this
      rw [if_neg hin]
      exact ⟨fresh k, rfl, .inl rfl⟩
  | cons old rest =>
      have hrest : rest = [] := by
        rw [hold, List.length_cons] at hone
        exact List.length_eq_zero_iff.1 (by omega)
      have hmem : old ∈ rows.filter fun r => key r = some k := by simp [hold]
      have hin : some k ∈ rows.map key := by
        have hkey : key old = some k := by simpa using (List.mem_filter.1 hmem).2
        exact hkey ▸ List.mem_map_of_mem (List.mem_filter.1 hmem).1
      rw [if_pos hin, hrest]
      exact ⟨set old (fresh k), rfl, .inr ⟨old, rfl⟩⟩

/-- Rows whose keys are not written stay as they are. -/
theorem filter_refreshed_of_not_mem {p : ρ → Bool}
    (hold : ∀ r k, key r = some k → k ∈ ks → p r = false ∧ p (set r (fresh k)) = false)
    (hnew : ∀ k ∈ ks, p (fresh k) = false) :
    (refreshed key set fresh ks rows).filter p = rows.filter p := by
  have hfresh : ((ks.filter fun l => some l ∉ rows.map key).map fresh).filter p = [] := by
    rw [List.filter_eq_nil_iff]
    intro r hr
    obtain ⟨k, hk, rfl⟩ := List.mem_map.1 hr
    rw [hnew k (List.mem_filter.1 hk).1]
    simp
  rw [refreshed, List.filter_append, hfresh, List.append_nil]
  clear hfresh
  induction rows with
  | nil => rfl
  | cons r rows ih =>
      rw [List.map_cons, List.filter_cons, List.filter_cons, ih]
      by_cases hr : ∃ k ∈ ks, key r = some k
      · obtain ⟨k, hk, hkey⟩ := hr
        rw [refresh_of_mem hkey hk, (hold r k hkey hk).1, (hold r k hkey hk).2]
        rfl
      · rw [refresh_of_not_mem fun k hk hkey => hr ⟨k, hk, hkey⟩]

end UptimeFlow.Upserts
