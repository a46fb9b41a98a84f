import Mathlib.Data.List.Basic

/-!
# UptimeFlow.Latest

The latest of a list of events, by the instants they happened at.

An instant that is kept beside the events is the latest one just if it answers, for
every instant, whether some event happened no earlier (`isLatest_iff`).  Events need
not come in order: one more is the latest if none is later (`isLatest_concat`).
-/

namespace UptimeFlow.Latest

variable {α : Type*} [LE α] {events : List α}

/-- The instant is that of the latest event, and there is none if nothing happened. -/
def IsLatest (events : List α) : Option α → Prop
  | none => events = []
  | some last => last ∈ events ∧ ∀ e ∈ events, e ≤ last

instance [DecidableEq α] [DecidableLE α] (events : List α) :
    (last : Option α) → Decidable (IsLatest events last)
  | none => inferInstanceAs (Decidable (events = []))
  | some last => inferInstanceAs (Decidable (last ∈ events ∧ ∀ e ∈ events, e ≤ last))

theorem isLatest_concat [Std.IsPreorder α] (e : α) :
    IsLatest (events ++ [e]) (some e) ↔ ∀ e' ∈ events, e' ≤ e := by
  constructor
  · intro h e' he'
    exact h.2 e' (List.mem_append_left _ he')
  · intro h
    refine ⟨by simp, fun e' he' => ?_⟩
    rcases List.mem_append.1 he' with hold | hnew
    · exact h e' hold
    · rw [List.mem_singleton.1 hnew]
      exact Std.le_refl e

/-- **The latest event** tells for every instant whether something happened since. -/
theorem isLatest_iff [Std.IsPartialOrder α] {last : Option α} :
    IsLatest events last ↔ ∀ t, (∃ l ∈ last, t ≤ l) ↔ ∃ e ∈ events, t ≤ e := by
  cases last with
  | none =>
      constructor
      · rintro rfl t
        simp
      · intro h
        rw [IsLatest, List.eq_nil_iff_forall_not_mem]
        intro e he
        obtain ⟨l, hl, -⟩ := (h e).2 ⟨e, he, Std.le_refl e⟩
        cases hl
  | some last =>
      constructor
      · rintro ⟨hmem, hle⟩ t
        constructor
        · rintro ⟨l, hl, ht⟩
          cases hl
          exact ⟨last, hmem, ht⟩
        · rintro ⟨e, he, ht⟩
          exact ⟨last, rfl, Std.le_trans ht (hle e he)⟩
      · intro h
        have hle : ∀ e ∈ events, e ≤ last := by
          intro e he
          obtain ⟨l, hl, hel⟩ := (h e).2 ⟨e, he, Std.le_refl e⟩
          cases hl
          exact hel
        obtain ⟨e, he, hlast⟩ := (h last).1 ⟨last, rfl, Std.le_refl last⟩
        rw [Std.le_antisymm hlast (hle e he)]
        exact ⟨he, by rwa [Std.le_antisymm (hle e he) hlast]⟩

end UptimeFlow.Latest
