import UptimeFlow.Handlers

/-!
# UptimeFlow.Commits

Handlers that write at most once, and with their last statement.

Such a handler reads, decides, and then commits: the write and the answer are
one statement.  However many of them are interleaved, the store ends as if they
had come one after the other, in the order of their answers
(`Committed.run`).  What a handler read before it commits may be out of date by
then, so its answer speaks of the store it commits to (`R`), and of what it
read only as far as the others let it stand (`rely`).
-/

namespace UptimeFlow

/-- From the store `s` on, the handler writes with its last statement at most, and `R` relates its
answer to that write; one that has ended has written nothing since `s`. -/
def Handler.Commits {σ ε α : Type} (rely : σ → σ → Prop) (R : Except ε α → σ → σ → Prop) :
    Handler σ ε α → σ → Prop
  | .done r, s => R r s s
  | .act w next, s => ∀ t, rely s t →
      (∃ r, next t = .done r ∧ R r t (w t)) ∨ w t = t ∧ Commits rely R (next t) t

namespace Handler

section
variable {σ ε α β : Type} {rely : σ → σ → Prop} {R : Except ε β → σ → σ → Prop} {s : σ}

theorem Commits.raise {e : ε} (h : R (.error e) s s) :
    (raise e : Handler σ ε β).Commits rely R s := h

theorem Commits.ofExcept_bind {r : Except ε α} {f : α → Handler σ ε β}
    (herror : ∀ e, R (.error e) s s) (h : ∀ a, r = .ok a → (f a).Commits rely R s) :
    (ofExcept r >>= f).Commits rely R s := by
  cases r with
  | error e => exact herror e
  | ok a => exact h a rfl

theorem Commits.read_bind {g : σ → α} {f : α → Handler σ ε β}
    (h : ∀ t, rely s t → (f (g t)).Commits rely R t) : (read g >>= f).Commits rely R s :=
  fun t hst => .inr ⟨rfl, h t hst⟩

theorem Commits.query_bind {g : σ → Except ε α} {f : α → Handler σ ε β}
    (herror : ∀ e t, R (.error e) t t)
    (h : ∀ t, rely s t → ∀ a, g t = .ok a → (f a).Commits rely R t) :
    (query g >>= f).Commits rely R s :=
  fun t hst => .inr ⟨rfl, .ofExcept_bind (herror · t) (h t hst)⟩

/-- The statement that commits. -/
theorem Commits.statement_bind {op : σ → Except ε α × σ} {f : α → β}
    (h : ∀ t, rely s t → R ((op t).1.map f) t (op t).2) :
    (statement op >>= fun a => Pure.pure (f a)).Commits rely R s := by
  refine fun t hst => .inl ⟨(op t).1.map f, ?_, h t hst⟩
  change ((done (op t).1 : Handler σ ε α) >>= fun a => Pure.pure (f a)) = _
  cases (op t).1 <;> rfl

theorem Commits.write_bind {op : σ → σ} {b : β} (h : ∀ t, rely s t → R (.ok b) t (op t)) :
    (write op >>= fun _ => Pure.pure b).Commits rely R s := fun t hst => .inl ⟨_, rfl, h t hst⟩

/-- The next statement commits, or it leaves the store alone and more is to come. -/
theorem Commits.step {w : σ → σ} {next : σ → Handler σ ε β} (hrefl : rely s s)
    (h : (Handler.act w next).Commits rely R s) :
    (∃ r, next s = .done r ∧ R r s (w s)) ∨
      w s = s ∧ (next s).answer? = none ∧ (next s).Commits rely R s := by
  obtain hcommit | ⟨hsame, hnext⟩ := h s hrefl
  · exact .inl hcommit
  · cases hs : next s with
    | done r =>
        rw [hs] at hnext
        exact .inl ⟨r, rfl, by rwa [hsame]⟩
    | act w' next' =>
        rw [hs] at hnext
        exact .inr ⟨hsame, rfl, hnext⟩

theorem Commits.of_rely {x : Handler σ ε β} {t : σ} (hx : x.answer? = none)
    (htrans : ∀ u, rely t u → rely s u) (h : x.Commits rely R s) : x.Commits rely R t := by
  cases x with
  | done r => cases hx
  | act w next => exact fun u htu => h u (htrans u htu)

end

end Handler

/-- From `s` to `t` by the answers of the log, newest first. -/
def Replays {ι σ ε α : Type} (R : ι → Except ε α → σ → σ → Prop) (s : σ) :
    List (ι × Except ε α) → σ → Prop
  | [], t => t = s
  | (i, r) :: log, t => ∃ u, Replays R s log u ∧ R i r u t

/-- What every commit keeps holds of the log and of the store it leads to. -/
theorem Replays.inv {ι σ ε α : Type} {R : ι → Except ε α → σ → σ → Prop} {s t : σ}
    {I : List (ι × Except ε α) → σ → Prop} (hstart : I [] s)
    (hstep : ∀ i r log u v, I log u → R i r u v → I ((i, r) :: log) v)
    {log : List (ι × Except ε α)} (h : Replays R s log t) : I log t := by
  induction log generalizing t with
  | nil => exact h ▸ hstart
  | cons entry log ih =>
      obtain ⟨u, hlog, hR⟩ := h
      exact hstep _ _ log u t (ih hlog) hR

namespace Pool

variable {ι σ ε α : Type} {rely : ι → σ → σ → Prop} {R : ι → Except ε α → σ → σ → Prop} {s : σ}
  {p : Pool ι σ ε α} {log : List (ι × Except ε α)}

/-- The log has the answers given since the store was `s`, and replays to the store. -/
structure Committed (rely : ι → σ → σ → Prop) (R : ι → Except ε α → σ → σ → Prop) (s : σ)
    (log : List (ι × Except ε α)) (p : Pool ι σ ε α) : Prop where
  answers : ∀ i r, p.answer? i = some r ↔ (i, r) ∈ log
  store : Replays R s log p.store
  rest : ∀ i, p.answer? i = none → (p.handlers i).Commits (rely i) (R i) p.store

variable [DecidableEq ι]

theorem turn_answer?_of_ne {i j : ι} (h : j ≠ i) : (p.turn i).answer? j = p.answer? j := by
  rw [answer?, answer?, turn_handlers_of_ne h]

/-- A turn commits, or it changes nothing the log speaks of. -/
theorem Committed.turn (hrefl : ∀ i s, rely i s s)
    (htrans : ∀ i s t u, rely i s t → rely i t u → rely i s u)
    (hfit : ∀ i j r s t, R j r s t → rely i s t) (h : p.Committed rely R s log) (i : ι) :
    ∃ log', (p.turn i).Committed rely R s log' := by
  cases hi : p.handlers i with
  | done r =>
      rw [turn_of_done hi]
      exact ⟨log, h⟩
  | act w next =>
      have hnone : p.answer? i = none := by rw [answer?, hi, Handler.answer?]
      have hrest := h.rest i hnone
      rw [hi] at hrest
      have hturn := turn_of_act hi
      obtain ⟨r, hdone, hR⟩ | ⟨hsame, hmore, hnext⟩ := hrest.step (hrefl i p.store)
      · have hanswer : (p.turn i).answer? i = some r := by
          simp [answer?, hturn, hdone, Handler.answer?]
        have hstore : (p.turn i).store = w p.store := by rw [hturn]
        refine ⟨(i, r) :: log, ⟨fun j r' => ?_, ?_, fun j hj => ?_⟩⟩
        · by_cases hji : j = i
          · subst hji
            have hfresh : (j, r') ∉ log := by
              rw [← h.answers, hnone]
              exact Option.some_ne_none r' ∘ Eq.symm
            simp [hanswer, hfresh, eq_comm]
          · simp [turn_answer?_of_ne hji, h.answers, hji]
        · exact ⟨p.store, h.store, by rwa [hstore]⟩
        · have hji : j ≠ i := by
            rintro rfl
            rw [hanswer] at hj
            cases hj
          rw [turn_answer?_of_ne hji] at hj
          rw [turn_handlers_of_ne hji, hstore]
          exact (h.rest j hj).of_rely hj fun u hu => htrans j _ _ u (hfit j i r _ _ hR) hu
      · have hstore : (p.turn i).store = p.store := by rw [hturn, hsame]
        have hhandler : (p.turn i).handlers i = next p.store := by simp [hturn]
        refine ⟨log, ⟨fun j r' => ?_, by rw [hstore]; exact h.store, fun j hj => ?_⟩⟩
        · by_cases hji : j = i
          · subst hji
            rw [← h.answers, answer?, hhandler, hmore, hnone]
          · rw [turn_answer?_of_ne hji, h.answers]
        · rw [hstore]
          by_cases hji : j = i
          · subst hji
            rwa [hhandler]
          · rw [turn_answer?_of_ne hji] at hj
            rw [turn_handlers_of_ne hji]
            exact h.rest j hj

/-- **Commits come one after the other**, whatever the interleaving: the answers given replay, in
the order they were given, to the store that is reached. -/
theorem Committed.run (hrefl : ∀ i s, rely i s s)
    (htrans : ∀ i s t u, rely i s t → rely i t u → rely i s u)
    (hfit : ∀ i j r s t, R j r s t → rely i s t) (hfresh : ∀ i, p.answer? i = none)
    (h : ∀ i, (p.handlers i).Commits (rely i) (R i) p.store) (turns : List ι) :
    ∃ log, (Runs.run Pool.turn p turns).Committed rely R p.store log := by
  have hstart : ∃ log, p.Committed rely R p.store log :=
    ⟨[], fun i r => by simp [hfresh], rfl, fun i _ => h i⟩
  exact Runs.inv_run_of_step (I := fun q : Pool ι σ ε α => ∃ log, q.Committed rely R p.store log)
    (fun q i ⟨_, hq⟩ => hq.turn hrefl htrans hfit i) hstart turns

end Pool

end UptimeFlow
