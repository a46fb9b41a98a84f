import UptimeFlow.Runs

/-!
# UptimeFlow.Overwrites

Writes that set some columns of a record and leave the others as they are.

A record is a family of columns, a write says for each column whether it sets
it and to what, and a run of writes leaves in every column what the last write
to it said.  So the order of a set of writes is immaterial exactly where no two
of them set one column to different values (`perm_run_iff`).
-/

namespace UptimeFlow.Overwrites

open Runs

variable {ι α : Type*} {V : ι → Type*}

/-- The columns a write sets, and their values. -/
abbrev Write (V : ι → Type*) := (i : ι) → Option (V i)

/-- The record after a write. -/
def Write.apply (w : Write V) (r : (i : ι) → V i) : (i : ι) → V i := fun i => (w i).getD (r i)

theorem Write.apply_some {w : Write V} {i : ι} {v : V i} (h : w i = some v) (r : (i : ι) → V i) :
    w.apply r i = v := by
  rw [Write.apply, h, Option.getD_some]

theorem Write.apply_none {w : Write V} {i : ι} (h : w i = none) (r : (i : ι) → V i) :
    w.apply r i = r i := by
  rw [Write.apply, h, Option.getD_none]

/-- One message overwrites the record. -/
def overwrite (f : α → Write V) (r : (i : ι) → V i) (a : α) : (i : ι) → V i := (f a).apply r

/-- No two of the messages set one column to different values. -/
def Agree (f : α → Write V) (as : List α) : Prop :=
  ∀ a ∈ as, ∀ b ∈ as, ∀ i, f a i = none ∨ f b i = none ∨ f a i = f b i

variable {f : α → Write V}

/-- A column nobody sets keeps its value. -/
theorem run_of_silent {as : List α} {i : ι} (h : ∀ a ∈ as, f a i = none) (r : (i : ι) → V i) :
    run (overwrite f) r as i = r i := by
  induction as generalizing r with
  | nil => rfl
  | cons a as ih =>
      rw [run_cons, ih (fun b hb => h b (List.mem_cons_of_mem a hb)), overwrite,
        Write.apply_none (h a List.mem_cons_self)]

/-- The last message has the last word. -/
theorem run_concat {as : List α} {a : α} {i : ι} {v : V i} (h : f a i = some v)
    (r : (i : ι) → V i) : run (overwrite f) r (as ++ [a]) i = v := by
  rw [run_append, run_cons, run_nil, overwrite, Write.apply_some h]

/-- Where all who set a column agree on it, it ends with their value. -/
theorem run_of_agree {as : List α} {i : ι} {v : V i}
    (h : ∀ a ∈ as, f a i = none ∨ f a i = some v) (hset : ∃ a ∈ as, f a i = some v)
    (r : (i : ι) → V i) : run (overwrite f) r as i = v := by
  induction as generalizing r with
  | nil => simp at hset
  | cons a as ih =>
      have htail : ∀ b ∈ as, f b i = none ∨ f b i = some v :=
        fun b hb => h b (List.mem_cons_of_mem a hb)
      rw [run_cons]
      by_cases hlater : ∃ b ∈ as, f b i = some v
      · exact ih htail hlater _
      · have hsilent : ∀ b ∈ as, f b i = none := by
          intro b hb
          obtain hnone | hsome := htail b hb
          · exact hnone
          · exact absurd ⟨b, hb, hsome⟩ hlater
        have hfirst : f a i = some v := by
          obtain ⟨b, hb, hsome⟩ := hset
          obtain rfl | hb := List.mem_cons.1 hb
          · exact hsome
          · exact absurd ⟨b, hb, hsome⟩ hlater
        rw [run_of_silent hsilent, overwrite, Write.apply_some hfirst]

/-- Any of the messages can be the last. -/
theorem exists_perm_concat {as : List α} {a : α} (h : a ∈ as) : ∃ bs, (bs ++ [a]).Perm as := by
  obtain ⟨s, t, rfl⟩ := List.append_of_mem h
  refine ⟨s ++ t, ?_⟩
  have hmiddle : (s ++ a :: t).Perm (a :: (s ++ t)) := List.perm_middle
  exact (List.perm_append_singleton a (s ++ t)).trans hmiddle.symm

/-- **All orders of a set of overwrites leave the same record if and only if no two of them
disagree on a column.** -/
theorem perm_run_iff {as : List α} (r : (i : ι) → V i) :
    (∀ bs, bs.Perm as → run (overwrite f) r bs = run (overwrite f) r as) ↔ Agree f as := by
  constructor
  · intro h a ha b hb i
    cases hva : f a i with
    | none => exact .inl rfl
    | some v =>
        cases hvb : f b i with
        | none => exact .inr (.inl rfl)
        | some w =>
            obtain ⟨s, hs⟩ := exists_perm_concat ha
            obtain ⟨t, ht⟩ := exists_perm_concat hb
            have hv : run (overwrite f) r as i = v := by
              rw [← h _ hs, run_concat hva]
            have hw : run (overwrite f) r as i = w := by
              rw [← h _ ht, run_concat hvb]
            exact .inr (.inr (by rw [← hv, hw]))
  · intro h bs hperm
    funext i
    by_cases hset : ∃ a ∈ as, ∃ v, f a i = some v
    · obtain ⟨a, ha, v, hv⟩ := hset
      have hall : ∀ b ∈ as, f b i = none ∨ f b i = some v := by
        intro b hb
        have hab := h a ha b hb i
        rw [hv] at hab
        obtain hnone | hnone | hsome := hab
        · cases hnone
        · exact .inl hnone
        · exact .inr hsome.symm
      have hbs : ∀ b ∈ bs, f b i = none ∨ f b i = some v := fun b hb => hall b (hperm.mem_iff.1 hb)
      rw [run_of_agree hall ⟨a, ha, hv⟩, run_of_agree hbs ⟨a, hperm.mem_iff.2 ha, hv⟩]
    · have hsilent : ∀ b ∈ as, f b i = none := by
        intro b hb
        cases hv : f b i with
        | none => rfl
        | some v => exact absurd ⟨b, hb, v, hv⟩ hset
      rw [run_of_silent hsilent, run_of_silent fun b hb => hsilent b (hperm.mem_iff.1 hb)]

end UptimeFlow.Overwrites
