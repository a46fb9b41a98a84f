import UptimeFlow.Handlers

/-!
# UptimeFlow.Exclusion

Handlers that have what they work on to themselves.

A handler may leave its key in disarray from its first statement to its last.
As long as no two handlers of one key are in flight at once, and none touches
the view of another key, nobody sees it: every key that no handler is working
on is in order (`Restored.run`), whatever the handlers of other keys do in
between.
-/

namespace UptimeFlow

/-- From the store `s` on: as long as the others leave the view of `k` alone, the handler leaves
theirs alone, and has `k` in order when it ends. -/
def Handler.Restores {σ ε α κ τ : Type} (view : κ → σ → τ) (ok : κ → σ → Prop) (k : κ) :
    Handler σ ε α → σ → Prop
  | .done _, s => ok k s
  | .act w next, s => ∀ t, view k t = view k s →
      (∀ k', k' ≠ k → view k' (w t) = view k' t) ∧ Restores view ok k (next t) (w t)

namespace Handler

section
variable {σ ε α β κ τ : Type} {view : κ → σ → τ} {ok : κ → σ → Prop} {k : κ} {s : σ}

theorem Restores.pure {a : α} (h : ok k s) :
    (Pure.pure a : Handler σ ε α).Restores view ok k s := h

theorem Restores.statement_bind {op : σ → Except ε α × σ} {f : α → Handler σ ε β}
    (hframe : ∀ t k', k' ≠ k → view k' (op t).2 = view k' t)
    (h : ∀ t, view k t = view k s →
      (∀ e, (op t).1 = .error e → ok k (op t).2) ∧
        ∀ a, (op t).1 = .ok a → (f a).Restores view ok k (op t).2) :
    (statement op >>= f).Restores view ok k s := by
  intro t hst
  refine ⟨hframe t, ?_⟩
  change ((done (op t).1 : Handler σ ε α) >>= f).Restores view ok k (op t).2
  obtain ⟨herror, hok⟩ := h t hst
  cases hop : (op t).1 with
  | error e => exact herror e hop
  | ok a => exact hok a hop

theorem Restores.read_bind {g : σ → α} {f : α → Handler σ ε β}
    (h : ∀ t, view k t = view k s → (f (g t)).Restores view ok k t) :
    (read g >>= f).Restores view ok k s := fun t hst => ⟨fun _ _ => rfl, h t hst⟩

theorem Restores.write_bind {op : σ → σ} {f : Unit → Handler σ ε β}
    (hframe : ∀ t k', k' ≠ k → view k' (op t) = view k' t)
    (h : ∀ t, view k t = view k s → (f ()).Restores view ok k (op t)) :
    (write op >>= f).Restores view ok k s := fun t hst => ⟨hframe t, h t hst⟩

theorem Restores.query_bind {g : σ → Except ε α} {f : α → Handler σ ε β}
    (h : ∀ t, view k t = view k s →
      (∀ e, g t = .error e → ok k t) ∧ ∀ a, g t = .ok a → (f a).Restores view ok k t) :
    (query g >>= f).Restores view ok k s := by
  intro t hst
  refine ⟨fun _ _ => rfl, ?_⟩
  change ((done (g t) : Handler σ ε α) >>= f).Restores view ok k t
  obtain ⟨herror, hok⟩ := h t hst
  cases hg : g t with
  | error e => exact herror e hg
  | ok a => exact hok a hg

/-- A handler goes by its own view of the store. -/
theorem Restores.of_view (hview : ∀ k s t, view k t = view k s → ok k s → ok k t)
    {x : Handler σ ε α} {t : σ} (h : x.Restores view ok k s) (hst : view k t = view k s) :
    x.Restores view ok k t := by
  cases x with
  | done r => exact hview k s t hst h
  | act w next => exact fun u hu => h u (hu.trans hst)

end

end Handler

namespace Pool

section
variable {ι σ ε α κ τ : Type} {view : κ → σ → τ} {ok : κ → σ → Prop} {key : ι → κ}
  {p : Pool ι σ ε α} {i : ι}

/-- Every key is in order that no handler is working on, and the handlers put theirs in order. -/
structure Restored (view : κ → σ → τ) (ok : κ → σ → Prop) (key : ι → κ) (p : Pool ι σ ε α) :
    Prop where
  idle : ∀ k, (∀ i, p.inFlight i = true → key i ≠ k) → ok k p.store
  begun : ∀ i, p.inFlight i = true → (p.handlers i).Restores view ok (key i) p.store
  fresh : ∀ i, p.begun i = false → ∀ s, ok (key i) s → (p.handlers i).Restores view ok (key i) s

variable [DecidableEq ι]

theorem turn_inFlight_of_ne {i j : ι} (h : j ≠ i) : (p.turn i).inFlight j = p.inFlight j := by
  unfold inFlight answer? turn
  split
  · rfl
  · simp only [Function.update_of_ne h]

/-- A turn while no other handler of the key is in flight. -/
theorem Restored.turn (hview : ∀ k s t, view k t = view k s → ok k s → ok k t)
    (h : p.Restored view ok key) (hapart : Apart (fun j i => key j = key i) p i) :
    (p.turn i).Restored view ok key := by
  cases hi : p.handlers i with
  | done r => rwa [turn_of_done hi]
  | act w next =>
      have hmore : p.answer? i = none := by rw [answer?, hi, Handler.answer?]
      have hrestores : (p.handlers i).Restores view ok (key i) p.store := by
        cases hbegun : p.begun i with
        | true => exact h.begun i (by simp [inFlight, hbegun, hmore])
        | false =>
            refine h.fresh i hbegun p.store (h.idle (key i) fun j hj hkey => ?_)
            have hji : j ≠ i := by
              rintro rfl
              simp [inFlight, hbegun] at hj
            exact hapart j hji hj hkey
      rw [hi] at hrestores
      obtain ⟨hframe, hnext⟩ := hrestores p.store rfl
      have hstore : (p.turn i).store = w p.store := by rw [turn_of_act hi]
      have hhandler : (p.turn i).handlers i = next p.store := by rw [turn_of_act hi]; simp
      have hbegun : (p.turn i).begun i = true := by rw [turn_of_act hi]; simp
      refine ⟨fun k hk => ?_, fun j hj => ?_, fun j hj => ?_⟩
      · rw [hstore]
        by_cases hkey : key i = k
        · subst hkey
          -- the handler of the key has ended
          cases hend : next p.store with
          | done r =>
              rw [hend] at hnext
              exact hnext
          | act w' next' =>
              have hflight : (p.turn i).inFlight i = true := by
                simp [inFlight, hbegun, answer?, hhandler, hend, Handler.answer?]
              exact absurd rfl (hk i hflight)
        · refine hview k p.store _ (hframe k (Ne.symm hkey)) (h.idle k fun j hj => ?_)
          by_cases hji : j = i
          · exact hji ▸ hkey
          · exact hk j (by rwa [turn_inFlight_of_ne hji])
      · rw [hstore]
        by_cases hji : j = i
        · subst hji
          rwa [hhandler]
        · rw [turn_inFlight_of_ne hji] at hj
          rw [turn_handlers_of_ne hji]
          exact (h.begun j hj).of_view hview (hframe _ (hapart j hji hj))
      · have hji : j ≠ i := by
          rintro rfl
          rw [hbegun] at hj
          cases hj
        rw [turn_handlers_of_ne hji]
        refine h.fresh j ?_
        rw [turn_of_act hi] at hj
        simpa only [Function.update_of_ne hji] using hj

/-- **Exclusion.**  Along a schedule that gives no turn to a handler while another one of its key is
in flight, every key that none is working on is in order. -/
theorem Restored.run (hview : ∀ k s t, view k t = view k s → ok k s → ok k t)
    (h : p.Restored view ok key) {turns : List ι}
    (hapart : Runs.Along Pool.turn (Apart fun j i => key j = key i) p turns) :
    (Runs.run Pool.turn p turns).Restored view ok key :=
  Runs.inv_run (fun _ _ h hapart => Restored.turn hview h hapart) h hapart

end

end Pool

end UptimeFlow
