import Mathlib.Data.List.DropRight

/-!
# UptimeFlow.Trimming

Lists without the elements of a kind at their ends, and the lines of a text.

`trim p` drops what satisfies `p` from both ends; a list is `Trimmed` when there
is nothing to drop.  A text is the lines it is joined from, as long as no line
holds the separator; trimming the text trims its last line (`trim_join`).
-/

namespace UptimeFlow.Trimming

variable {α : Type*} {p : α → Bool} {x : α} {xs ys : List α}

/-- Without what satisfies `p` at the ends. -/
def trim (p : α → Bool) (xs : List α) : List α := (xs.dropWhile p).rdropWhile p

def Trimmed (p : α → Bool) (xs : List α) : Prop := trim p xs = xs

@[simp] theorem trim_nil : trim p [] = [] := rfl

theorem trim_cons_pos (h : p x = true) : trim p (x :: xs) = trim p xs := by
  simp [trim, h]

theorem trim_cons_neg (h : p x = false) : trim p (x :: xs) = (x :: xs).rdropWhile p := by
  simp [trim, h]

/-! ## from the right -/

theorem rdropWhile_append (xs : List α) (h : ys.rdropWhile p ≠ []) :
    (xs ++ ys).rdropWhile p = xs ++ ys.rdropWhile p := by
  induction ys using List.reverseRecOn with
  | nil => exact absurd (List.rdropWhile_nil p) h
  | append_singleton ys y ih =>
      rw [← List.append_assoc]
      by_cases hy : p y = true
      · rw [List.rdropWhile_concat_pos _ _ _ hy] at h ⊢
        rw [List.rdropWhile_concat_pos _ _ _ hy]
        exact ih h
      · rw [List.rdropWhile_concat_neg _ _ _ hy, List.rdropWhile_concat_neg _ _ _ hy,
          List.append_assoc]

theorem rdropWhile_cons (x : α) (h : xs.rdropWhile p ≠ []) :
    (x :: xs).rdropWhile p = x :: xs.rdropWhile p := rdropWhile_append [x] h

theorem rdropWhile_append_of_nil (xs : List α) (h : ys.rdropWhile p = []) :
    (xs ++ ys).rdropWhile p = xs.rdropWhile p := by
  rw [List.rdropWhile_eq_nil_iff] at h
  induction ys using List.reverseRecOn with
  | nil => rw [List.append_nil]
  | append_singleton ys y ih =>
      rw [← List.append_assoc, List.rdropWhile_concat_pos _ _ _ (h y (by simp))]
      exact ih fun z hz => h z (by simp [hz])

/-- Behind an element that stays, the right end is trimmed. -/
theorem rdropWhile_cons_neg (h : p x = false) :
    (x :: xs).rdropWhile p = x :: xs.rdropWhile p := by
  have hsingle : [x].rdropWhile p = [x] := by simp [List.rdropWhile_singleton, h]
  by_cases hxs : xs.rdropWhile p = []
  · have happend := rdropWhile_append_of_nil [x] hxs
    rw [List.singleton_append, hsingle] at happend
    rw [happend, hxs]
  · exact rdropWhile_cons x hxs

/-- The order in which the ends are trimmed does not matter. -/
theorem trim_rdropWhile (xs : List α) : trim p (xs.rdropWhile p) = trim p xs := by
  induction xs with
  | nil => rfl
  | cons x xs ih =>
      cases hx : p x with
      | false =>
          rw [rdropWhile_cons_neg hx, trim_cons_neg hx, trim_cons_neg hx, ← rdropWhile_cons_neg hx]
          exact List.rdropWhile_idempotent _ _
      | true =>
          rw [trim_cons_pos hx, ← ih]
          by_cases hxs : xs.rdropWhile p = []
          · have hall : ∀ y ∈ x :: xs, p y = true :=
              List.forall_mem_cons.2 ⟨hx, List.rdropWhile_eq_nil_iff.1 hxs⟩
            rw [List.rdropWhile_eq_nil_iff.2 hall, hxs]
          · rw [rdropWhile_cons x hxs, trim_cons_pos hx]

theorem rdropWhile_trim (xs : List α) : (trim p xs).rdropWhile p = trim p xs :=
  List.rdropWhile_idempotent _ _

/-! ## trimmed lists -/

theorem dropWhile_trim (xs : List α) : (trim p xs).dropWhile p = trim p xs := by
  induction xs with
  | nil => rfl
  | cons x xs ih =>
      cases hx : p x with
      | false =>
          rw [trim_cons_neg hx, rdropWhile_cons_neg hx, List.dropWhile_cons_of_neg (by simp [hx])]
      | true => rw [trim_cons_pos hx, ih]

theorem trimmed_trim (xs : List α) : Trimmed p (trim p xs) := by
  rw [Trimmed, trim, dropWhile_trim, rdropWhile_trim]

theorem mem_of_mem_trim (h : x ∈ trim p xs) : x ∈ xs :=
  (List.dropWhile_sublist p).subset ((List.rdropWhile_prefix p _).subset h)

theorem trim_eq_nil_iff : trim p xs = [] ↔ ∀ x ∈ xs, p x = true := by
  induction xs with
  | nil => simp
  | cons x xs ih =>
      cases hx : p x with
      | false =>
          rw [trim_cons_neg hx, rdropWhile_cons_neg hx]
          simp [hx]
      | true => simp [trim_cons_pos hx, ih, hx]

/-- The first element of a trimmed list stays. -/
theorem Trimmed.head (h : Trimmed p (x :: xs)) : p x = false := by
  cases hx : p x with
  | false => rfl
  | true =>
      rw [Trimmed, trim_cons_pos hx] at h
      have hlength := congrArg List.length h
      have hle : (trim p xs).length ≤ xs.length :=
        ((List.rdropWhile_prefix p _).sublist.trans (List.dropWhile_sublist p)).length_le
      rw [List.length_cons] at hlength
      omega

/-- Only the right end of a text with a trimmed start is trimmed. -/
theorem Trimmed.trim_append (h : Trimmed p xs) (hne : xs ≠ []) (ys : List α) :
    trim p (xs ++ ys) = (xs ++ ys).rdropWhile p := by
  cases xs with
  | nil => contradiction
  | cons x xs => rw [List.cons_append, trim_cons_neg h.head]

theorem Trimmed.rdropWhile (h : Trimmed p xs) : xs.rdropWhile p = xs := by
  rw [← h]
  exact rdropWhile_trim xs

/-- Around a list that stays, the left end is trimmed away and the right end of what follows. -/
theorem trim_append_append {zs : List α} (hxs : ∀ x ∈ xs, p x = true) (hne : ys ≠ [])
    (hys : ∀ y ∈ ys, p y = false) : trim p (xs ++ (ys ++ zs)) = ys ++ zs.rdropWhile p := by
  obtain ⟨y, ys', rfl⟩ := List.exists_cons_of_ne_nil hne
  rw [trim, List.dropWhile_append_of_pos hxs, List.cons_append,
    List.dropWhile_cons_of_neg (by simp [hys y List.mem_cons_self]), ← List.cons_append]
  by_cases hzs : zs.rdropWhile p = []
  · rw [rdropWhile_append_of_nil _ hzs, hzs, List.append_nil, List.rdropWhile_eq_self_iff]
    intro hl
    simp [hys _ (List.getLast_mem hl)]
  · exact rdropWhile_append _ hzs

/-! ## lines -/

/-- The text of some lines. -/
def join (sep : α) (ls : List (List α)) : List α := [sep].intercalate ls

theorem join_concat (sep : α) {ls : List (List α)} (h : ls ≠ []) (l : List α) :
    join sep (ls ++ [l]) = join sep ls ++ sep :: l := by
  induction ls with
  | nil => contradiction
  | cons l' ls ih =>
      by_cases hls : ls = []
      · subst hls
        simp [join]
      · have hne : ls ++ [l] ≠ [] := by simp
        rw [join, List.cons_append, List.intercalate_cons_of_ne_nil hne, join,
          List.intercalate_cons_of_ne_nil hls]
        have := ih hls
        rw [join, join] at this
        rw [this]
        simp

/-- **Trimming a text** trims its last line, if the first starts with an element that stays and
the last is not blank. -/
theorem trim_join (sep : α) {ls : List (List α)} {l : List α} (hl : l.rdropWhile p ≠ [])
    (hfirst : ∀ l' ∈ ls ++ [l], ∃ x xs, l' = x :: xs ∧ p x = false) :
    trim p (join sep (ls ++ [l])) = join sep (ls ++ [l.rdropWhile p]) := by
  cases ls with
  | nil =>
      obtain ⟨x, xs, rfl, hx⟩ := hfirst l (by simp)
      simp [join, trim_cons_neg hx]
  | cons l' ls =>
      obtain ⟨x, xs, rfl, hx⟩ := hfirst l' (by simp)
      rw [join_concat sep (by simp), join_concat sep (by simp)]
      have hhead : ∃ rest, join sep ((x :: xs) :: ls) = x :: rest := by
        cases ls with
        | nil => exact ⟨xs, by simp [join]⟩
        | cons l'' ls => exact ⟨_, by rw [join, List.intercalate_cons_cons]; rfl⟩
      obtain ⟨rest, hrest⟩ := hhead
      rw [hrest, List.cons_append, trim_cons_neg hx, ← List.cons_append, rdropWhile_append]
      · rw [rdropWhile_cons sep hl]
      · rw [rdropWhile_cons sep hl]
        simp

/-- The lines a text is split into do not hold the separator. -/
theorem not_mem_of_mem_splitOn [DecidableEq α] {sep : α} {l : List α} (h : l ∈ xs.splitOn sep) :
    sep ∉ l := by
  induction xs generalizing l with
  | nil => simp_all
  | cons x xs ih =>
      rw [List.splitOn_cons_eq_if_modifyHead] at h
      split at h
      · rcases List.mem_cons.1 h with rfl | h
        · simp
        · exact ih h
      · next hx =>
        cases hsplit : xs.splitOn sep with
        | nil => exact absurd hsplit (List.splitOn_ne_nil _ _)
        | cons l' ls =>
            rw [hsplit] at h ih
            rcases List.mem_cons.1 h with rfl | h
            · have hl' := ih List.mem_cons_self
              simp only [List.mem_cons, not_or]
              exact ⟨fun he => hx (by simp [he]), hl'⟩
            · exact ih (List.mem_cons_of_mem _ h)

end UptimeFlow.Trimming
