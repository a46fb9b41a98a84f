import Mathlib.Data.List.Nodup
import UptimeFlow.Effects

/-!
# UptimeFlow.Writes

Writes issued one after the other outside a transaction.

Each write stands at a site, and the first site that fails ends the sequence;
what was written before stays.  So the stores a failure can leave behind are
those after some of the writes but not the last, and a failure leaves a part of
the store as it was, wherever it happens, just if all of these do (`unchanged_iff`).
-/

namespace UptimeFlow.Writes

variable {σ ε ι τ : Type}

/-- A write and the site it is issued at. -/
structure Write (σ ι : Type) where
  site : ι
  op : σ → σ

/-- The store after some writes that all went through. -/
def applied (ws : List (Write σ ι)) (s : σ) : σ := ws.foldl (fun s w => w.op s) s

@[simp] theorem applied_nil (s : σ) : applied ([] : List (Write σ ι)) s = s := rfl

@[simp] theorem applied_cons (w : Write σ ι) (ws : List (Write σ ι)) (s : σ) :
    applied (w :: ws) s = applied ws (w.op s) := rfl

theorem applied_append (ws ws' : List (Write σ ι)) (s : σ) :
    applied (ws ++ ws') s = applied ws' (applied ws s) := by
  simp [applied, List.foldl_append]

/-- The writes in turn, up to the first that fails. -/
def issue (fails : ι → Bool) (e : ε) : List (Write σ ι) → Eff σ ε Unit
  | [] => pure ()
  | w :: ws => do
      Eff.write (fails w.site) e w.op
      issue fails e ws

variable {fails : ι → Bool} {e : ε}

@[simp] theorem issue_singleton (w : Write σ ι) :
    issue fails e [w] = Eff.write (fails w.site) e w.op := Eff.bind_pure _

theorem issue_append (ws ws' : List (Write σ ι)) :
    issue fails e (ws ++ ws') = (do issue fails e ws; issue fails e ws') := by
  induction ws with
  | nil => rfl
  | cons w ws ih =>
      rw [List.cons_append, issue, issue, ih]
      exact (Eff.bind_assoc _ _ _).symm

/-- Writes that all go through. -/
theorem issue_run_of_ok {ws : List (Write σ ι)} (h : ∀ w ∈ ws, fails w.site = false) (s : σ) :
    (issue fails e ws).run s = (.ok (), applied ws s) := by
  induction ws generalizing s with
  | nil => rfl
  | cons w ws ih =>
      obtain ⟨hw, hws⟩ := List.forall_mem_cons.1 h
      rw [issue, Eff.bind_run, Eff.write_run, hw]
      exact ih hws (w.op s)

/-- **The first failure** keeps what was written before it. -/
theorem issue_run_of_fails {before after : List (Write σ ι)} {w : Write σ ι}
    (h : ∀ w ∈ before, fails w.site = false) (hw : fails w.site = true) (s : σ) :
    (issue fails e (before ++ w :: after)).run s = (.error e, applied before s) := by
  rw [issue_append, Eff.bind_run_of_ok (issue_run_of_ok h s), issue, Eff.bind_run, Eff.write_run, hw]
  rfl

/-- What no write touches, the sequence leaves alone. -/
theorem issue_frames {view : σ → τ} {ws : List (Write σ ι)}
    (h : ∀ w ∈ ws, ∀ s, view (w.op s) = view s) : Eff.Frames view (issue fails e ws) := by
  induction ws with
  | nil => exact Eff.Frames.pure ()
  | cons w ws ih =>
      obtain ⟨hw, hws⟩ := List.forall_mem_cons.1 h
      exact (Eff.Frames.write hw).bind fun _ => ih hws

/-- A sequence that raises has a first write that failed. -/
theorem exists_first_failure {ws : List (Write σ ι)} {s t : σ} {e' : ε}
    (h : (issue fails e ws).run s = (.error e', t)) :
    ∃ before w after, ws = before ++ w :: after ∧ (∀ w ∈ before, fails w.site = false) ∧
      fails w.site = true ∧ t = applied before s := by
  induction ws generalizing s with
  | nil => cases h
  | cons w ws ih =>
      cases hw : fails w.site with
      | true =>
          have hrun : (issue fails e (w :: ws)).run s = (.error e, s) :=
            issue_run_of_fails (fun _ h => absurd h List.not_mem_nil) hw s
          rw [hrun] at h
          exact ⟨[], w, ws, rfl, by simp, hw, (Prod.mk.inj h).2.symm⟩
      | false =>
          rw [issue, Eff.bind_run, Eff.write_run, hw] at h
          obtain ⟨before, w', after, rfl, hbefore, hw', ht⟩ := ih h
          exact ⟨w :: before, w', after, rfl, List.forall_mem_cons.2 ⟨hw, hbefore⟩, hw', ht⟩

/-- **All or nothing**: no failure changes what the view reads just if no prefix of the writes
before the last one does. -/
theorem unchanged_iff [DecidableEq ι] (view : σ → τ) (e : ε) {ws : List (Write σ ι)}
    {last : Write σ ι} (hsites : ((ws ++ [last]).map Write.site).Nodup) (s : σ) :
    (∀ fails e' t, (issue fails e (ws ++ [last])).run s = (.error e', t) → view t = view s) ↔
      ∀ before, before <+: ws → view (applied before s) = view s := by
  constructor
  · rintro h before ⟨rest, rfl⟩
    obtain ⟨w, after, hrest⟩ : ∃ w after, rest ++ [last] = w :: after :=
      List.exists_cons_of_ne_nil (by simp)
    rw [List.append_assoc, hrest] at h hsites
    -- the write after the prefix fails, and it alone
    refine h (fun site => site = w.site) e _ (issue_run_of_fails (fun w' hw' => ?_) (by simp) s)
    rw [List.map_append, List.nodup_append] at hsites
    exact decide_eq_false
      (hsites.2.2 _ (List.mem_map_of_mem hw') _ (List.mem_map_of_mem List.mem_cons_self))
  · intro h fails e' t hrun
    obtain ⟨before, w, after, hws, -, -, rfl⟩ := exists_first_failure hrun
    refine h before ?_
    obtain rfl | ⟨after, w', rfl⟩ := List.eq_nil_or_concat' after
    · exact ⟨[], by rw [List.append_nil]; exact (List.append_inj' hws.symm rfl).1⟩
    · rw [← List.cons_append, ← List.append_assoc] at hws
      exact ⟨w :: after, (List.append_inj' hws.symm rfl).1⟩

/-- Writes that each leave a store as it is. -/
theorem applied_of_fixed {ws : List (Write σ ι)} {s : σ} (h : ∀ w ∈ ws, w.op s = s) :
    applied ws s = s := by
  induction ws with
  | nil => rfl
  | cons w ws ih =>
      obtain ⟨hw, hws⟩ := List.forall_mem_cons.1 h
      rw [applied_cons, hw, ih hws]

end UptimeFlow.Writes
