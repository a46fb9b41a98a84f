/-!
# UptimeFlow.Effects

Computations over a store that may raise: `Eff σ ε α` reads and writes a store
`σ` and ends with a value or an error.  A store written before the error stays
written — there is no rollback — which is what code that issues one statement
after another against a database does.

Three kinds of rules are proved once here: the `*_run` equations, which evaluate
a computation on a store, the frame rules, which show that the part of the
store a `view` reads is left alone without evaluating anything, and the rules
of `Appends` for a store that is a log.
-/

namespace UptimeFlow

structure Eff (σ ε α : Type) where
  run : σ → Except ε α × σ

namespace Eff

variable {σ ε α β τ : Type}

instance : Monad (Eff σ ε) where
  pure a := ⟨fun s => (.ok a, s)⟩
  bind x f := ⟨fun s =>
    match x.run s with
    | (.ok a, s) => (f a).run s
    | (.error e, s) => (.error e, s)⟩

/-- Raise an error. -/
def raise (e : ε) : Eff σ ε α := ⟨fun s => (.error e, s)⟩

/-- Raise the error of a computation that reads no store, or go on with its value. -/
def ofExcept (r : Except ε α) : Eff σ ε α := ⟨fun s => (r, s)⟩

/-- Read the store. -/
def read (f : σ → α) : Eff σ ε α := ⟨fun s => (.ok (f s), s)⟩

/-- Run `x`; if it raises, go on with the handler in the store `x` left behind. -/
def rescue (x : Eff σ ε α) (handler : ε → Eff σ ε α) : Eff σ ε α := ⟨fun s =>
  match x.run s with
  | (.ok a, s) => (.ok a, s)
  | (.error e, s) => (handler e).run s⟩

/-- One statement: it raises `e` and writes nothing when `fails`, and otherwise does
what `op` does. -/
def statement (fails : Bool) (e : ε) (op : σ → Except ε α × σ) : Eff σ ε α :=
  if fails then raise e else ⟨op⟩

/-- One statement that only writes. -/
def write (fails : Bool) (e : ε) (op : σ → σ) : Eff σ ε Unit :=
  statement fails e fun s => (.ok (), op s)

/-! ## evaluation -/

@[simp] theorem pure_run (a : α) (s : σ) : (pure a : Eff σ ε α).run s = (.ok a, s) := rfl

theorem bind_run (x : Eff σ ε α) (f : α → Eff σ ε β) (s : σ) :
    (x >>= f).run s = match x.run s with
      | (.ok a, s) => (f a).run s
      | (.error e, s) => (.error e, s) := rfl

theorem map_run (x : Eff σ ε α) (f : α → β) (s : σ) :
    (f <$> x).run s = match x.run s with
      | (.ok a, s) => (.ok (f a), s)
      | (.error e, s) => (.error e, s) := rfl

@[simp] theorem map_run_snd (x : Eff σ ε α) (f : α → β) (s : σ) :
    ((f <$> x).run s).2 = (x.run s).2 := by
  rw [map_run]
  split <;> simp_all

@[simp] theorem read_run (f : σ → α) (s : σ) : (read f : Eff σ ε α).run s = (.ok (f s), s) := rfl

theorem rescue_run (x : Eff σ ε α) (handler : ε → Eff σ ε α) (s : σ) :
    (rescue x handler).run s = match x.run s with
      | (.ok a, s) => (.ok a, s)
      | (.error e, s) => (handler e).run s := rfl

@[simp] theorem statement_run (fails : Bool) (e : ε) (op : σ → Except ε α × σ) (s : σ) :
    (statement fails e op).run s = if fails then (.error e, s) else op s := by
  cases fails <;> rfl

@[simp] theorem write_run (fails : Bool) (e : ε) (op : σ → σ) (s : σ) :
    (write fails e op).run s = if fails then (.error e, s) else (.ok (), op s) := by
  cases fails <;> rfl

theorem bind_run_of_ok {x : Eff σ ε α} {s t : σ} {a : α} (h : x.run s = (.ok a, t))
    (f : α → Eff σ ε β) : (x >>= f).run s = (f a).run t := by
  rw [bind_run, h]

/-- Statements in sequence, however they are grouped. -/
theorem bind_assoc {γ : Type} (x : Eff σ ε α) (f : α → Eff σ ε β) (g : β → Eff σ ε γ) :
    x >>= f >>= g = x >>= fun a => f a >>= g := by
  refine congrArg Eff.mk (funext fun s => ?_)
  rw [bind_run]
  cases x.run s with
  | mk r t => cases r <;> rfl

theorem map_bind {γ : Type} (x : Eff σ ε α) (f : α → β) (g : β → Eff σ ε γ) :
    f <$> x >>= g = x >>= fun a => g (f a) := bind_assoc x (fun a => pure (f a)) g

theorem bind_pure (x : Eff σ ε α) : x >>= pure = x := by
  refine congrArg Eff.mk (funext fun s => ?_)
  cases x.run s with
  | mk r t => cases r <;> rfl

/-! ## frames -/

/-- `x` leaves what `view` reads of the store as it was, whether or not it raises. -/
def Frames (view : σ → τ) (x : Eff σ ε α) : Prop := ∀ s, view (x.run s).2 = view s

section
variable {view : σ → τ}

theorem Frames.pure (a : α) : Frames view (Pure.pure a : Eff σ ε α) := fun _ => rfl

theorem Frames.read (f : σ → α) : Frames view (Eff.read f : Eff σ ε α) := fun _ => rfl

theorem Frames.bind {x : Eff σ ε α} {f : α → Eff σ ε β} (hx : Frames view x)
    (hf : ∀ a, Frames view (f a)) : Frames view (x >>= f) := by
  intro s
  rw [bind_run]
  have hs := hx s
  split
  · next a t h => rw [hf a t, ← hs, h]
  · next e t h => rw [← hs, h]

theorem Frames.rescue {x : Eff σ ε α} {handler : ε → Eff σ ε α} (hx : Frames view x)
    (hh : ∀ e, Frames view (handler e)) : Frames view (Eff.rescue x handler) := by
  intro s
  rw [rescue_run]
  have hs := hx s
  split
  · next a t h => rw [← hs, h]
  · next e t h => rw [hh e t, ← hs, h]

theorem Frames.statement {fails : Bool} {e : ε} {op : σ → Except ε α × σ}
    (hop : ∀ s, view (op s).2 = view s) : Frames view (Eff.statement fails e op) := by
  intro s
  rw [statement_run]
  split
  · rfl
  · exact hop s

theorem Frames.write {fails : Bool} {e : ε} {op : σ → σ} (hop : ∀ s, view (op s) = view s) :
    Frames view (Eff.write fails e op : Eff σ ε Unit) := Frames.statement hop

/-- Framed code first: the rest starts from a store the view cannot tell apart. -/
theorem view_bind (view : σ → τ) {x : Eff σ ε α} {f : α → Eff σ ε β} (hf : ∀ a, Frames view (f a)) (s : σ) :
    view ((x >>= f).run s).2 = view (x.run s).2 := by
  rw [bind_run]
  split
  · next a t h => rw [hf a t, h]
  · next e t h => rw [h]

/-- A handler that is framed adds nothing to what the view sees. -/
theorem view_rescue (view : σ → τ) {x : Eff σ ε α} {handler : ε → Eff σ ε α}
    (hh : ∀ e, Frames view (handler e)) (s : σ) : view ((Eff.rescue x handler).run s).2 = view (x.run s).2 := by
  rw [rescue_run]
  split
  · next a t h => rw [h]
  · next e t h => rw [hh e t, h]

end

/-! ## logs -/

/-- `x` adds at most `n` entries to the log, all of which meet `P`. -/
def Appends (P : τ → Prop) (n : Nat) (x : Eff (List τ) ε α) : Prop :=
  ∀ log, ∃ added, (x.run log).2 = log ++ added ∧ added.length ≤ n ∧ ∀ a ∈ added, P a

section
variable {P : τ → Prop} {n m : Nat}

theorem Appends.mono {x : Eff (List τ) ε α} (h : Appends P n x) (hle : n ≤ m) : Appends P m x := by
  intro log
  obtain ⟨added, hrun, hlength, hall⟩ := h log
  exact ⟨added, hrun, Nat.le_trans hlength hle, hall⟩

theorem Appends.pure (a : α) : Appends P 0 (Pure.pure a : Eff (List τ) ε α) :=
  fun _ => ⟨[], by simp, Nat.le_refl _, by simp⟩

theorem Appends.raise (e : ε) : Appends P 0 (Eff.raise e : Eff (List τ) ε α) :=
  fun _ => ⟨[], by simp [Eff.raise], Nat.le_refl _, by simp⟩

theorem Appends.ofExcept (r : Except ε α) : Appends P 0 (Eff.ofExcept r : Eff (List τ) ε α) :=
  fun _ => ⟨[], by simp [Eff.ofExcept], Nat.le_refl _, by simp⟩

theorem Appends.ofExcept_bind {r : Except ε α} {f : α → Eff (List τ) ε β}
    (h : ∀ a, r = .ok a → Appends P n (f a)) : Appends P n (Eff.ofExcept r >>= f) := by
  intro log
  rw [bind_run]
  cases r with
  | error e => exact ⟨[], by simp [Eff.ofExcept], Nat.zero_le n, by simp⟩
  | ok a => exact h a rfl log

theorem appends_trans {log middle added : List τ} {final : List τ} (hmiddle : middle.length ≤ n)
    (hall : ∀ a ∈ middle, P a) (hrest : final = log ++ middle ++ added) (hadded : added.length ≤ m)
    (hall' : ∀ a ∈ added, P a) :
    ∃ more, final = log ++ more ∧ more.length ≤ n + m ∧ ∀ a ∈ more, P a := by
  refine ⟨middle ++ added, by rw [hrest, List.append_assoc], ?_, ?_⟩
  · rw [List.length_append]
    omega
  · exact List.forall_mem_append.2 ⟨hall, hall'⟩

/-- One after the other: the entries add up. -/
theorem Appends.bind {x : Eff (List τ) ε α} {f : α → Eff (List τ) ε β} (hx : Appends P n x)
    (hf : ∀ a, Appends P m (f a)) : Appends P (n + m) (x >>= f) := by
  intro log
  rw [bind_run]
  obtain ⟨added, hrun, hlength, hall⟩ := hx log
  split
  · next a t h =>
    rw [h] at hrun
    dsimp only at hrun
    subst hrun
    obtain ⟨more, hrun', hlength', hall'⟩ := hf a (log ++ added)
    exact appends_trans hlength hall hrun' hlength' hall'
  · next e t h =>
    rw [h] at hrun
    exact ⟨added, hrun, by omega, hall⟩

theorem Appends.rescue {x : Eff (List τ) ε α} {handler : ε → Eff (List τ) ε α}
    (hx : Appends P n x) (hh : ∀ e, Appends P m (handler e)) :
    Appends P (n + m) (Eff.rescue x handler) := by
  intro log
  rw [rescue_run]
  obtain ⟨added, hrun, hlength, hall⟩ := hx log
  split
  · next a t h =>
    rw [h] at hrun
    exact ⟨added, hrun, by omega, hall⟩
  · next e t h =>
    rw [h] at hrun
    dsimp only at hrun
    subst hrun
    obtain ⟨more, hrun', hlength', hall'⟩ := hh e (log ++ added)
    exact appends_trans hlength hall hrun' hlength' hall'

end

end Eff

end UptimeFlow
