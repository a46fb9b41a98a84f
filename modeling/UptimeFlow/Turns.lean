import Mathlib.Tactic

/-!
# UptimeFlow.Turns

Turns of equal length on a clock, and seats that take them in a ring.

The boundaries of the turns are a fixed length apart (`Turns.start`), and the
turn at a reading of the clock is the number of the last boundary it has reached
(`start_le_iff`).  A clock that is set back over a boundary gives a turn back;
where none is, the turns follow one another (`monotone_turn_iff`) and each is one
stretch of time (`ordConnected_turn`).  Of as many consecutive turns as there are
seats, each seat takes one (`exists_turn_of_seat`).
-/

namespace UptimeFlow

/-- Turns of one length, the turn with number zero from `origin` on. -/
structure Turns where
  origin : Int
  length : Int
  length_pos : 0 < length

namespace Turns

variable (turns : Turns) {k t t' : Int}

/-- Where a turn starts. -/
def start (k : Int) : Int := turns.origin + k * turns.length

/-- The turn at a reading of the clock. -/
def turn (t : Int) : Int := (t - turns.origin) / turns.length

/-! ## boundaries -/

/-- The boundaries reached are those of the turns up to the current one. -/
theorem start_le_iff : turns.start k ≤ t ↔ k ≤ turns.turn t := by
  unfold start turn
  rw [Int.le_ediv_iff_mul_le turns.length_pos]
  omega

theorem lt_start_iff : t < turns.start k ↔ turns.turn t < k := by
  have h := turns.start_le_iff (k := k) (t := t)
  omega

theorem turn_eq_iff : turns.turn t = k ↔ turns.start k ≤ t ∧ t < turns.start (k + 1) := by
  rw [start_le_iff, lt_start_iff]
  omega

theorem start_add (k m : Int) : turns.start (k + m) = turns.start k + m * turns.length := by
  unfold start
  rw [Int.add_mul]
  omega

/-- The clock moves on by whole turns. -/
theorem turn_add (t m : Int) : turns.turn (t + m * turns.length) = turns.turn t + m := by
  have h := (turns.turn_eq_iff (t := t)).1 rfl
  rw [turn_eq_iff, Int.add_right_comm, start_add, start_add _ (_ + 1)]
  omega

/-- A turn that starts at a reading starts exactly there. -/
theorem start_turn_of_ne (h : turns.turn t ≠ turns.turn (t - 1)) :
    turns.start (turns.turn t) = t := by
  have hnow := (turns.turn_eq_iff (t := t)).1 rfl
  have hbefore : ¬ turns.start (turns.turn t) ≤ t - 1 := fun hle =>
    h ((turns.turn_eq_iff (t := t - 1)).2 ⟨hle, by omega⟩).symm
  omega

/-- A clock that is read to a unit shows the turn, where turns start on whole units. -/
theorem turn_eq_of_ediv_eq {unit : Int} (hunit : 0 < unit) (horigin : unit ∣ turns.origin)
    (hlength : unit ∣ turns.length) (h : t / unit = t' / unit) : turns.turn t = turns.turn t' := by
  have hreached : ∀ k, turns.start k ≤ t ↔ turns.start k ≤ t' := fun k => by
    obtain ⟨units, hk⟩ : unit ∣ turns.start k := Int.dvd_add horigin (hlength.mul_left k)
    rw [hk, Int.mul_comm, ← Int.le_ediv_iff_mul_le hunit, ← Int.le_ediv_iff_mul_le hunit, h]
  rw [turn_eq_iff, hreached, ← Int.not_le, hreached, Int.not_le, ← turn_eq_iff]

/-! ## clocks -/

section Clock

variable {α : Type*} [Preorder α]

/-- The clock has reached a boundary, and later reads earlier than that. -/
def SetBackOver (clock : α → Int) (boundary : Int) : Prop :=
  ∃ now later, now ≤ later ∧ boundary ≤ clock now ∧ clock later < boundary

/-- **Turns never go back** exactly when the clock is never set back over a boundary. -/
theorem monotone_turn_iff {clock : α → Int} :
    (Monotone fun now => turns.turn (clock now)) ↔
      ∀ k, ¬ SetBackOver clock (turns.start k) := by
  constructor
  · rintro hmono k ⟨now, later, hle, hreached, hback⟩
    have hturn := hmono hle
    rw [start_le_iff] at hreached
    rw [lt_start_iff] at hback
    simp only at hturn
    omega
  · intro hback now later hle
    have hreached : turns.start (turns.turn (clock now)) ≤ clock now := turns.start_le_iff.2 le_rfl
    by_contra hlt
    exact hback _ ⟨now, later, hle, hreached, turns.lt_start_iff.2 (not_le.1 hlt)⟩

/-- Where turns never go back, each turn is one stretch of time. -/
theorem ordConnected_turn {clock : α → Int} (h : Monotone fun now => turns.turn (clock now))
    (k : Int) : Set.OrdConnected {now | turns.turn (clock now) = k} :=
  Set.ordConnected_singleton.preimage_mono h

/-- A clock that changes its offset once, at `change`, is set back over the boundaries that it
reaches under the old offset and not yet under the new one. -/
theorem setBackOver_change {change before after boundary : Int} :
    SetBackOver (fun now : Int => now + if now < change then before else after) boundary ↔
      change + after < boundary ∧ boundary < change + before := by
  constructor
  · rintro ⟨now, later, hle, hreached, hback⟩
    simp only at hreached hback
    split at hreached <;> split at hback <;> omega
  · rintro ⟨hafter, hbefore⟩
    refine ⟨change - 1, change, by omega, ?_, ?_⟩ <;>
      simp only <;> split <;> omega

end Clock

/-! ## seats -/

section Seats

variable {n : Int}

/-- A truncating remainder made non-negative is the remainder that rounds down. -/
theorem tmod_add_tmod (hn : 0 < n) (k : Int) : (k.tmod n + n).tmod n = k % n := by
  have hlow := Int.lt_tmod_of_pos k hn
  rw [Int.tmod_eq_emod_of_nonneg (by omega), Int.add_emod_right, Int.tmod_def,
    Int.sub_mul_emod_self_left]

/-- The next seat is another one, where there is another one. -/
theorem succ_emod_ne (hn : 1 < n) {i : Int} (hi : 0 ≤ i) (hin : i < n) : (i + 1) % n ≠ i := by
  by_cases hlast : i + 1 = n
  · rw [hlast, Int.emod_self]
    omega
  · rw [Int.emod_eq_of_lt (by omega) (by omega)]
    omega

/-- Of `n` consecutive turns, each of `n` seats takes exactly one. -/
theorem exists_turn_of_seat {i : Int} (hi : 0 ≤ i) (hin : i < n) (first : Int) :
    ∃ k, (first ≤ k ∧ k < first + n) ∧
      ∀ j, first ≤ j → j < first + n → (j % n = i ↔ j = k) := by
  have hlow := Int.emod_nonneg (i - first) (b := n) (by omega)
  have hhigh := Int.emod_lt_of_pos (i - first) (b := n) (by omega)
  refine ⟨first + (i - first) % n, by omega, fun j hfirst hlast => ?_⟩
  have hseat : i % n = i := Int.emod_eq_of_lt hi hin
  have hturn : (j - first) % n = j - first := Int.emod_eq_of_lt (by omega) (by omega)
  calc j % n = i ↔ j % n = i % n := by rw [hseat]
    _ ↔ j - first = (i - first) % n := by rw [← Int.emod_sub_cancel_right first, hturn]
    _ ↔ j = first + (i - first) % n := by omega

end Seats

end Turns

end UptimeFlow
