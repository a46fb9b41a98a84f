import Mathlib.Logic.Function.Basic
import UptimeFlow.Effects
import UptimeFlow.Runs

/-!
# UptimeFlow.Handlers

Request handlers that share a store and may be interrupted between any two of
their statements.

A `Handler` is one statement after the other and an answer at the end; what a
statement reads is the store as the other handlers have left it.  A `Pool` is
a store with the handlers that work on it, one for each request, and a
schedule says whose statement comes next, so a result about every schedule is
one about every interleaving.

Three rules carry a property of a handler over to the pool.  `Sound.run` is
rely and guarantee: a handler keeps the invariant as long as the others do to
the store only what it relies on, and the schedule lets no two handlers clash.
`separated` is isolation: where the handlers of each party confine themselves
to the party's slice of the store, a party gets the answers it would get if
the others had never been there.  `Matched.run` is secrecy: handlers that do
the same on stores alike get the same answers.
-/

namespace UptimeFlow

/-- One statement on a store after the other, and an answer. -/
inductive Handler (σ ε α : Type) where
  | done (answer : Except ε α)
  | act (write : σ → σ) (next : σ → Handler σ ε α)

namespace Handler

variable {σ ε α β : Type}

/-- The second handler goes on where the first one ends, unless that raises. -/
def andThen (f : α → Handler σ ε β) : Handler σ ε α → Handler σ ε β
  | .done (.ok a) => f a
  | .done (.error e) => .done (.error e)
  | .act write next => .act write fun s => andThen f (next s)

instance : Monad (Handler σ ε) where
  pure a := .done (.ok a)
  bind x f := andThen f x

/-- Raise an error. -/
def raise (e : ε) : Handler σ ε α := .done (.error e)

/-- Raise the error of a computation that reads no store, or go on with its value. -/
def ofExcept (r : Except ε α) : Handler σ ε α := .done r

/-- A statement that reads. -/
def read (f : σ → α) : Handler σ ε α := .act id fun s => .done (.ok (f s))

/-- A statement that reads and may raise. -/
def query (f : σ → Except ε α) : Handler σ ε α := .act id fun s => .done (f s)

/-- A statement that writes. -/
def write (op : σ → σ) : Handler σ ε Unit := .act op fun _ => .done (.ok ())

/-- A statement that reads, writes and may raise. -/
def statement (op : σ → Except ε α × σ) : Handler σ ε α :=
  .act (fun s => (op s).2) fun s => .done (op s).1

/-- The statements of `x` where the condition holds, and none where it does not. -/
def onlyIf (condition : Bool) (x : Handler σ ε Unit) : Handler σ ε Unit :=
  if condition then x else pure ()

theorem read_eq (f : σ → α) : (read f : Handler σ ε α) = statement fun s => (.ok (f s), s) := rfl

theorem write_eq (op : σ → σ) : (write op : Handler σ ε Unit) = statement fun s => (.ok (), op s) :=
  rfl

@[simp] theorem pure_bind (a : α) (f : α → Handler σ ε β) :
    (Pure.pure a : Handler σ ε α) >>= f = f a := rfl

@[simp] theorem done_ok_bind (a : α) (f : α → Handler σ ε β) :
    (.done (.ok a) : Handler σ ε α) >>= f = f a := rfl

@[simp] theorem done_error_bind (e : ε) (f : α → Handler σ ε β) :
    (.done (.error e) : Handler σ ε α) >>= f = .done (.error e) := rfl

@[simp] theorem act_bind (w : σ → σ) (next : σ → Handler σ ε α) (f : α → Handler σ ε β) :
    (.act w next : Handler σ ε α) >>= f = .act w fun s => next s >>= f := rfl

/-- Handlers in sequence, however they are grouped. -/
theorem bind_assoc {γ : Type} (x : Handler σ ε α) (f : α → Handler σ ε β) (g : β → Handler σ ε γ) :
    x >>= f >>= g = x >>= fun a => f a >>= g := by
  induction x with
  | done r => cases r <;> rfl
  | act w next ih => exact congrArg (act w) (funext ih)

theorem onlyIf_bind (condition : Bool) (x : Handler σ ε Unit) (f : Unit → Handler σ ε β) :
    onlyIf condition x >>= f = if condition then x >>= f else f () := by
  cases condition <;> rfl

/-- The answer of a handler that has ended. -/
def answer? : Handler σ ε α → Option (Except ε α)
  | .done r => some r
  | .act _ _ => none

end Handler

/-! ## pools -/

/-- A store, and where the handler of each request stands. -/
structure Pool (ι σ ε α : Type) where
  store : σ
  handlers : ι → Handler σ ε α
  /-- The requests that have had a turn. -/
  begun : ι → Bool := fun _ => false

namespace Pool

variable {ι σ ε α κ τ : Type} [DecidableEq ι]

/-- The next statement of one request. -/
def turn (p : Pool ι σ ε α) (i : ι) : Pool ι σ ε α :=
  match p.handlers i with
  | .done _ => p
  | .act w next =>
      { store := w p.store
        handlers := Function.update p.handlers i (next p.store)
        begun := Function.update p.begun i true }

/-- The answer a request has got. -/
def answer? (p : Pool ι σ ε α) (i : ι) : Option (Except ε α) := (p.handlers i).answer?

/-- The request is between its first and its last statement. -/
def inFlight (p : Pool ι σ ε α) (i : ι) : Bool := p.begun i && (p.answer? i).isNone

theorem turn_of_done {p : Pool ι σ ε α} {i : ι} {r : Except ε α} (h : p.handlers i = .done r) :
    p.turn i = p := by
  simp only [turn, h]

theorem turn_of_act {p : Pool ι σ ε α} {i : ι} {w : σ → σ} {next : σ → Handler σ ε α}
    (h : p.handlers i = .act w next) :
    p.turn i =
      { store := w p.store
        handlers := Function.update p.handlers i (next p.store)
        begun := Function.update p.begun i true } := by
  simp only [turn, h]

theorem turn_handlers_of_ne {p : Pool ι σ ε α} {i j : ι} (h : j ≠ i) :
    (p.turn i).handlers j = p.handlers j := by
  unfold turn
  split
  · rfl
  · exact Function.update_of_ne h _ _

end Pool

/-! ## rely and guarantee -/

/-- From the store `s` on: as long as the others do only what `rely` allows, every statement
keeps `inv` and does only what `guar` allows. -/
def Handler.Sound {σ ε α : Type} (inv : σ → Prop) (rely guar : σ → σ → Prop) :
    Handler σ ε α → σ → Prop
  | .done _, _ => True
  | .act w next, s => ∀ t, rely s t → inv t →
      inv (w t) ∧ guar t (w t) ∧ Sound inv rely guar (next t) (w t)

/-- What the handler relies on may have happened already. -/
theorem Handler.Sound.of_rely {σ ε α : Type} {inv : σ → Prop} {rely guar : σ → σ → Prop}
    (htrans : ∀ s t u, rely s t → rely t u → rely s u) {x : Handler σ ε α} {s t : σ}
    (h : x.Sound inv rely guar s) (hst : rely s t) : x.Sound inv rely guar t := by
  cases x with
  | done r => exact trivial
  | act w next => exact fun u htu hu => h u (htrans s t u hst htu) hu

namespace Handler

section
variable {σ ε α β : Type} {inv : σ → Prop} {rely guar : σ → σ → Prop} {s : σ}

theorem Sound.pure (a : α) : (Pure.pure a : Handler σ ε α).Sound inv rely guar s := trivial

theorem Sound.raise (e : ε) : (raise e : Handler σ ε α).Sound inv rely guar s := trivial

theorem Sound.statement_bind {op : σ → Except ε α × σ} {f : α → Handler σ ε β}
    (h : ∀ t, rely s t → inv t → inv (op t).2 ∧ guar t (op t).2 ∧
      ∀ a, (op t).1 = .ok a → (f a).Sound inv rely guar (op t).2) :
    (statement op >>= f).Sound inv rely guar s := by
  intro t hst ht
  obtain ⟨hinv, hguar, hnext⟩ := h t hst ht
  refine ⟨hinv, hguar, ?_⟩
  change ((done (op t).1 : Handler σ ε α) >>= f).Sound inv rely guar (op t).2
  cases hop : (op t).1 with
  | error e => exact trivial
  | ok a => exact hnext a hop

theorem Sound.ofExcept_bind {r : Except ε α} {f : α → Handler σ ε β}
    (h : ∀ a, r = .ok a → (f a).Sound inv rely guar s) :
    (ofExcept r >>= f).Sound inv rely guar s := by
  cases r with
  | error e => exact trivial
  | ok a => exact h a rfl

theorem Sound.read_bind {g : σ → α} {f : α → Handler σ ε β} (hguar : ∀ t, guar t t)
    (h : ∀ t, rely s t → inv t → (f (g t)).Sound inv rely guar t) :
    (read g >>= f).Sound inv rely guar s := by
  rw [read_eq]
  refine Sound.statement_bind fun t hst ht => ⟨ht, hguar t, fun a ha => ?_⟩
  cases ha
  exact h t hst ht

theorem Sound.query_bind {g : σ → Except ε α} {f : α → Handler σ ε β} (hguar : ∀ t, guar t t)
    (h : ∀ t, rely s t → inv t → ∀ a, g t = .ok a → (f a).Sound inv rely guar t) :
    (query g >>= f).Sound inv rely guar s :=
  fun t hst ht => ⟨ht, hguar t, .ofExcept_bind (h t hst ht)⟩

theorem Sound.write_bind {op : σ → σ} {f : Unit → Handler σ ε β}
    (h : ∀ t, rely s t → inv t → inv (op t) ∧ guar t (op t) ∧
      (f ()).Sound inv rely guar (op t)) :
    (write op >>= f).Sound inv rely guar s := by
  rw [write_eq]
  refine Sound.statement_bind fun t hst ht => ?_
  obtain ⟨hinv, hguar, hnext⟩ := h t hst ht
  exact ⟨hinv, hguar, fun _ _ => hnext⟩

end

end Handler

namespace Pool

section
variable {ι σ ε α : Type} {inv : σ → Prop} {rely guar : ι → σ → σ → Prop} {clash : ι → ι → Prop}
  {p : Pool ι σ ε α} {i : ι}

/-- The invariant holds, and every handler keeps it from where it stands; one that has not
begun may begin in any store that meets it. -/
structure Sound (inv : σ → Prop) (rely guar : ι → σ → σ → Prop) (p : Pool ι σ ε α) : Prop where
  store : inv p.store
  fresh : ∀ i, p.begun i = false → ∀ s, inv s → (p.handlers i).Sound inv (rely i) (guar i) s
  begun : ∀ i, p.begun i = true → (p.handlers i).Sound inv (rely i) (guar i) p.store

/-- No request in flight clashes with the one whose turn it is. -/
def Apart (clash : ι → ι → Prop) (p : Pool ι σ ε α) (i : ι) : Prop :=
  ∀ j, j ≠ i → p.inFlight j = true → ¬ clash j i

theorem Sound.here (h : p.Sound inv rely guar) (i : ι) :
    (p.handlers i).Sound inv (rely i) (guar i) p.store := by
  cases hbegun : p.begun i with
  | false => exact h.fresh i hbegun p.store h.store
  | true => exact h.begun i hbegun

variable [DecidableEq ι]

/-- A turn that clashes with nobody keeps everything. -/
theorem Sound.turn (hrefl : ∀ i s, rely i s s)
    (htrans : ∀ i s t u, rely i s t → rely i t u → rely i s u)
    (hfit : ∀ j i s t, j ≠ i → ¬ clash j i → guar i s t → rely j s t)
    (h : p.Sound inv rely guar) (hapart : Apart clash p i) : (p.turn i).Sound inv rely guar := by
  cases hi : p.handlers i with
  | done r => rwa [turn_of_done hi]
  | act w next =>
      have hhere := h.here i
      rw [hi] at hhere
      obtain ⟨hinv, hguar, hnext⟩ := hhere p.store (hrefl i _) h.store
      rw [turn_of_act hi]
      refine ⟨hinv, fun j hj s hs => ?_, fun j hj => ?_⟩
      · have hne : j ≠ i := by
          rintro rfl
          simp at hj
        simp only [Function.update_of_ne hne] at hj ⊢
        exact h.fresh j hj s hs
      · by_cases hne : j = i
        · subst hne
          simpa using hnext
        · simp only [Function.update_of_ne hne] at hj ⊢
          cases hanswer : p.answer? j with
          | some r =>
              -- it has ended, and nothing of it is left to go wrong
              have hdone : p.handlers j = .done r := by
                revert hanswer
                unfold answer? Handler.answer?
                split <;> simp_all
              rw [hdone]
              exact trivial
          | none =>
              have hflight : p.inFlight j = true := by simp [inFlight, hj, hanswer]
              have hstep := hfit j i _ _ hne (hapart j hne hflight) hguar
              exact (h.begun j hj).of_rely (htrans j) hstep

/-- **Rely and guarantee.**  Along a schedule in which no two handlers clash, a pool of sound
handlers keeps the invariant. -/
theorem Sound.run (hrefl : ∀ i s, rely i s s)
    (htrans : ∀ i s t u, rely i s t → rely i t u → rely i s u)
    (hfit : ∀ j i s t, j ≠ i → ¬ clash j i → guar i s t → rely j s t)
    (h : p.Sound inv rely guar) {turns : List ι}
    (hapart : Runs.Along Pool.turn (Apart clash) p turns) :
    (Runs.run Pool.turn p turns).Sound inv rely guar :=
  Runs.inv_run (fun _ _ h hapart => Sound.turn hrefl htrans hfit h hapart) h hapart

end

end Pool

/-! ## separation -/

/-- The handler's statements act on the slice of its own party, and on nothing else. -/
def Handler.Confined {σ ε α κ τ : Type} (inv : σ → Prop) (slice : κ → σ → τ) (k : κ) :
    Handler σ ε α → Prop
  | .done _ => True
  | .act w next => ∀ s, inv s →
      inv (w s) ∧ (∀ k', k' ≠ k → slice k' (w s) = slice k' s) ∧
        (∀ t, inv t → slice k s = slice k t → slice k (w s) = slice k (w t) ∧ next s = next t) ∧
        Confined inv slice k (next s)

namespace Handler

section
variable {σ ε α β κ τ : Type} {inv : σ → Prop} {slice : κ → σ → τ} {k : κ}

theorem Confined.pure (a : α) : (Pure.pure a : Handler σ ε α).Confined inv slice k := trivial

theorem Confined.raise (e : ε) : (raise e : Handler σ ε α).Confined inv slice k := trivial

theorem Confined.bind {x : Handler σ ε α} {f : α → Handler σ ε β} (hx : x.Confined inv slice k)
    (hf : ∀ a, (f a).Confined inv slice k) : (x >>= f).Confined inv slice k := by
  induction x with
  | done r =>
      cases r with
      | error e => exact trivial
      | ok a => exact hf a
  | act w next ih =>
      intro s hs
      obtain ⟨hinv, hframe, hlocal, hnext⟩ := hx s hs
      refine ⟨hinv, hframe, fun t ht hst => ?_, ih s hnext⟩
      obtain ⟨hslice, hsame⟩ := hlocal t ht hst
      exact ⟨hslice, congrArg (· >>= f) hsame⟩

theorem Confined.onlyIf {condition : Bool} {x : Handler σ ε Unit}
    (h : condition = true → x.Confined inv slice k) :
    (Handler.onlyIf condition x).Confined inv slice k := by
  unfold Handler.onlyIf
  split
  · next hcondition => exact h hcondition
  · exact trivial

/-- A statement that writes the party's slice, and answers by it. -/
theorem Confined.statement_bind {op : σ → Except ε α × σ} {f : α → Handler σ ε β}
    (hinv : ∀ s, inv s → inv (op s).2)
    (hframe : ∀ s, inv s → ∀ k', k' ≠ k → slice k' (op s).2 = slice k' s)
    (hlocal : ∀ s t, inv s → inv t → slice k s = slice k t →
      slice k (op s).2 = slice k (op t).2 ∧ (op s).1 = (op t).1)
    (hf : ∀ s a, inv s → (op s).1 = .ok a → (f a).Confined inv slice k) :
    (statement op >>= f).Confined inv slice k := by
  intro s hs
  refine ⟨hinv s hs, hframe s hs, fun t ht hst => ?_, ?_⟩
  · obtain ⟨hslice, hsame⟩ := hlocal s t hs ht hst
    exact ⟨hslice, congrArg (fun r => (done r : Handler σ ε α) >>= f) hsame⟩
  · change ((done (op s).1 : Handler σ ε α) >>= f).Confined inv slice k
    cases h : (op s).1 with
    | error e => exact trivial
    | ok a => exact hf s a hs h

/-- A statement that reads the party's slice. -/
theorem Confined.read_bind {g : σ → α} {f : α → Handler σ ε β}
    (hlocal : ∀ s t, inv s → inv t → slice k s = slice k t → g s = g t)
    (hf : ∀ s, inv s → (f (g s)).Confined inv slice k) : (read g >>= f).Confined inv slice k := by
  rw [read_eq]
  refine Confined.statement_bind (fun _ hs => hs) (fun _ _ _ _ => rfl)
    (fun s t hs ht hst => ⟨hst, by rw [hlocal s t hs ht hst]⟩) fun s a hs ha => ?_
  cases ha
  exact hf s hs

/-- A statement that writes the party's slice. -/
theorem Confined.write_bind {op : σ → σ} {f : Unit → Handler σ ε β}
    (hinv : ∀ s, inv s → inv (op s))
    (hframe : ∀ s, inv s → ∀ k', k' ≠ k → slice k' (op s) = slice k' s)
    (hlocal : ∀ s t, inv s → inv t → slice k s = slice k t → slice k (op s) = slice k (op t))
    (hf : (f ()).Confined inv slice k) : (write op >>= f).Confined inv slice k := by
  rw [write_eq]
  exact Confined.statement_bind hinv hframe
    (fun s t hs ht hst => ⟨hlocal s t hs ht hst, rfl⟩) fun _ _ _ _ => hf

end

end Handler

namespace Pool

section
variable {ι σ ε α κ τ : Type} [DecidableEq ι] {inv : σ → Prop} {slice : κ → σ → τ} {owner : ι → κ}
  {k : κ} {p q : Pool ι σ ε α} {i : ι}

/-- Every handler is confined to the party its request is from. -/
structure Confined (inv : σ → Prop) (slice : κ → σ → τ) (owner : ι → κ) (p : Pool ι σ ε α) :
    Prop where
  store : inv p.store
  handlers : ∀ i, (p.handlers i).Confined inv slice (owner i)

theorem Confined.turn (h : p.Confined inv slice owner) (i : ι) :
    (p.turn i).Confined inv slice owner := by
  have hi := h.handlers i
  cases hhandler : p.handlers i with
  | done r => rwa [turn_of_done hhandler]
  | act w next =>
      rw [hhandler] at hi
      obtain ⟨hinv, -, -, hnext⟩ := hi p.store h.store
      rw [turn_of_act hhandler]
      refine ⟨hinv, fun j => ?_⟩
      by_cases hne : j = i
      · subst hne
        simpa using hnext
      · simpa only [Function.update_of_ne hne] using h.handlers j

/-- What the party sees of two pools. -/
structure Alike (slice : κ → σ → τ) (owner : ι → κ) (k : κ) (p q : Pool ι σ ε α) : Prop where
  store : slice k p.store = slice k q.store
  handlers : ∀ i, owner i = k → p.handlers i = q.handlers i

/-- A turn of another party. -/
theorem Alike.turn_left (halike : Alike slice owner k p q) (h : p.Confined inv slice owner)
    (hne : owner i ≠ k) : Alike slice owner k (p.turn i) q := by
  have hi := h.handlers i
  cases hhandler : p.handlers i with
  | done r => rwa [turn_of_done hhandler]
  | act w next =>
      rw [hhandler] at hi
      obtain ⟨-, hframe, -, -⟩ := hi p.store h.store
      rw [turn_of_act hhandler]
      refine ⟨(hframe k (Ne.symm hne)).trans halike.store, fun j hj => ?_⟩
      have hji : j ≠ i := fun hji => hne (hji ▸ hj)
      simpa only [Function.update_of_ne hji] using halike.handlers j hj

/-- A turn of the party's own. -/
theorem Alike.turn (halike : Alike slice owner k p q) (hp : p.Confined inv slice owner)
    (hq : q.Confined inv slice owner) (hown : owner i = k) :
    Alike slice owner k (p.turn i) (q.turn i) := by
  have hi := hp.handlers i
  have hsame := halike.handlers i hown
  cases hhandler : p.handlers i with
  | done r =>
      rw [hhandler] at hsame
      rwa [turn_of_done hhandler, turn_of_done hsame.symm]
  | act w next =>
      rw [hhandler] at hi hsame
      obtain ⟨-, -, hlocal, -⟩ := hi p.store hp.store
      obtain ⟨hslice, hnext⟩ := hlocal q.store hq.store (by rw [hown]; exact halike.store)
      rw [hown] at hslice
      rw [turn_of_act hhandler, turn_of_act hsame.symm]
      refine ⟨hslice, fun j hj => ?_⟩
      by_cases hji : j = i
      · subst hji
        simp [hnext]
      · simpa only [Function.update_of_ne hji] using halike.handlers j hj

/-- **Separation.**  A party's slice and its handlers end where they would have ended without
the turns of the others. -/
theorem Confined.separated [DecidableEq κ] (h : p.Confined inv slice owner) (k : κ)
    (turns : List ι) :
    Alike slice owner k (Runs.run Pool.turn p turns)
      (Runs.run Pool.turn p (turns.filter fun i => owner i = k)) := by
  have hall : ∀ {p q : Pool ι σ ε α}, p.Confined inv slice owner → q.Confined inv slice owner →
      Alike slice owner k p q → Alike slice owner k (Runs.run Pool.turn p turns)
        (Runs.run Pool.turn q (turns.filter fun i => owner i = k)) := by
    induction turns with
    | nil => exact fun _ _ halike => halike
    | cons i turns ih =>
        intro p q hp hq halike
        by_cases hown : owner i = k
        · rw [List.filter_cons_of_pos (by simpa using hown)]
          exact ih (hp.turn i) (hq.turn i) (halike.turn hp hq hown)
        · rw [List.filter_cons_of_neg (by simpa using hown)]
          exact ih (hp.turn i) hq (halike.turn_left hp hown)
  exact hall h h ⟨rfl, fun _ _ => rfl⟩

end

end Pool

/-! ## secrecy -/

/-- Two handlers that take stores alike to stores alike, and end with one answer. -/
def Handler.Matched {σ ε α : Type} (alike : σ → σ → Prop) : Handler σ ε α → Handler σ ε α → Prop
  | .done r, .done r' => r = r'
  | .act w next, .act w' next' => ∀ s t, alike s t →
      alike (w s) (w' t) ∧ Matched alike (next s) (next' t)
  | .done _, .act _ _ => False
  | .act _ _, .done _ => False

namespace Handler

section
variable {σ ε α β γ : Type} {alike : σ → σ → Prop}

theorem Matched.pure (a : α) :
    (Pure.pure a : Handler σ ε α).Matched alike (Pure.pure a) := rfl

theorem Matched.raise (e : ε) : (raise e : Handler σ ε α).Matched alike (raise e) := rfl

theorem Matched.ofExcept (r : Except ε α) :
    (ofExcept r : Handler σ ε α).Matched alike (ofExcept r) := rfl

theorem Matched.bind {x y : Handler σ ε α} {f g : α → Handler σ ε β} (hxy : x.Matched alike y)
    (hfg : ∀ a, (f a).Matched alike (g a)) : (x >>= f).Matched alike (y >>= g) := by
  induction x generalizing y with
  | done r =>
      cases y with
      | act w next => exact hxy.elim
      | done r' =>
          obtain rfl : r = r' := hxy
          cases r with
          | error e => exact rfl
          | ok a => exact hfg a
  | act w next ih =>
      cases y with
      | done r' => exact hxy.elim
      | act w' next' =>
          intro s t hst
          obtain ⟨halike, hnext⟩ := hxy s t hst
          exact ⟨halike, ih s hnext⟩

theorem Matched.onlyIf {condition : Bool} {x y : Handler σ ε Unit} (h : x.Matched alike y) :
    (Handler.onlyIf condition x).Matched alike (Handler.onlyIf condition y) := by
  unfold Handler.onlyIf
  split
  · exact h
  · exact rfl

/-- Statements whose results may differ, as long as what follows does not tell them apart. -/
theorem Matched.statement_bind {op op' : σ → Except ε γ × σ} {f g : γ → Handler σ ε β}
    (h : ∀ s t, alike s t → alike (op s).2 (op' t).2 ∧
      (Handler.ofExcept (op s).1 >>= f).Matched alike (Handler.ofExcept (op' t).1 >>= g)) :
    (statement op >>= f).Matched alike (statement op' >>= g) := h

theorem Matched.read_bind {r r' : σ → γ} {f g : γ → Handler σ ε β}
    (h : ∀ s t, alike s t → (f (r s)).Matched alike (g (r' t))) :
    (read r >>= f).Matched alike (read r' >>= g) := fun s t hst => ⟨hst, h s t hst⟩

theorem Matched.write_bind {op op' : σ → σ} {f g : Unit → Handler σ ε β}
    (hop : ∀ s t, alike s t → alike (op s) (op' t)) (h : (f ()).Matched alike (g ())) :
    (write op >>= f).Matched alike (write op' >>= g) := fun s t hst => ⟨hop s t hst, h⟩

theorem Matched.write {op op' : σ → σ} (hop : ∀ s t, alike s t → alike (op s) (op' t)) :
    (write op : Handler σ ε Unit).Matched alike (write op') := fun s t hst => ⟨hop s t hst, rfl⟩

theorem Matched.answer? {x y : Handler σ ε α} (h : x.Matched alike y) :
    x.answer? = y.answer? := by
  cases x with
  | done r =>
      cases y with
      | done r' => exact congrArg some h
      | act w' next' => exact h.elim
  | act w next =>
      cases y with
      | done r' => exact h.elim
      | act w' next' => rfl

end

end Handler

namespace Pool

section
variable {ι σ ε α : Type} {alike : σ → σ → Prop} {p q : Pool ι σ ε α}

/-- Two pools with stores alike, and handlers that match one by one. -/
structure Matched (alike : σ → σ → Prop) (p q : Pool ι σ ε α) : Prop where
  store : alike p.store q.store
  handlers : ∀ i, (p.handlers i).Matched alike (q.handlers i)

theorem Matched.answer? (h : p.Matched alike q) (i : ι) : p.answer? i = q.answer? i :=
  (h.handlers i).answer?

variable [DecidableEq ι]

theorem Matched.turn (h : p.Matched alike q) (i : ι) : (p.turn i).Matched alike (q.turn i) := by
  have hi := h.handlers i
  cases hp : p.handlers i with
  | done r =>
      cases hq : q.handlers i with
      | done r' => rwa [turn_of_done hp, turn_of_done hq]
      | act w' next' =>
          rw [hp, hq] at hi
          exact hi.elim
  | act w next =>
      cases hq : q.handlers i with
      | done r' =>
          rw [hp, hq] at hi
          exact hi.elim
      | act w' next' =>
          rw [hp, hq] at hi
          obtain ⟨halike, hnext⟩ := hi p.store q.store h.store
          rw [turn_of_act hp, turn_of_act hq]
          refine ⟨halike, fun j => ?_⟩
          by_cases hji : j = i
          · subst hji
            simpa using hnext
          · simpa only [Function.update_of_ne hji] using h.handlers j

/-- **Secrecy.**  Matched pools stay matched, so no answer tells one from the other. -/
theorem Matched.run (h : p.Matched alike q) (turns : List ι) :
    (Runs.run Pool.turn p turns).Matched alike (Runs.run Pool.turn q turns) := by
  induction turns generalizing p q with
  | nil => exact h
  | cons i turns ih => exact ih (h.turn i)

end

end Pool

end UptimeFlow
