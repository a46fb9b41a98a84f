import Mathlib.Data.List.Infix
import UptimeFlow.Js
import UptimeFlow.Trimming

/-!
# UptimeFlow.Splitting

The pieces `split` takes a text into.

Joined by the separator the pieces are the text again (`intercalate_split`), and
a text without the separator is one piece.  With a separator of one character
`split` is the `splitOn` of lists; a longer one can overlap the text before it,
which is all `split_append` excludes.
-/

namespace UptimeFlow.Js

variable {sep piece cs xs ys : List Char}

/-! ## one character -/

theorem splitFrom_singleton (x : Char) (piece cs : List Char) :
    splitFrom [x] 0 piece cs = List.splitOnPPrepend (· == x) cs piece := by
  induction cs generalizing piece with
  | nil => rfl
  | cons c cs ih =>
      rw [splitFrom, List.splitOnPPrepend_cons_eq_if]
      by_cases hc : c = x
      · subst hc
        rw [if_pos (by simp), if_pos (by simp), ← List.splitOnPPrepend_nil_right, ← ih]
        rfl
      · rw [if_neg (by simp [Ne.symm hc]), if_neg (by simp [hc]), ih]

theorem split_singleton (x : Char) (cs : List Char) : split [x] cs = cs.splitOn x := by
  rw [split, splitFrom_singleton, List.splitOnPPrepend_nil_right, List.splitOn_eq_splitOnP]

/-- The pieces of a text are the texts without the separator that it joins. -/
theorem split_singleton_eq_iff {x : Char} {cs : List Char} {pieces : List (List Char)}
    (hne : pieces ≠ []) :
    split [x] cs = pieces ↔ cs = [x].intercalate pieces ∧ ∀ piece ∈ pieces, x ∉ piece := by
  rw [split_singleton]
  constructor
  · rintro rfl
    exact ⟨(List.intercalate_splitOn x).symm, fun piece => Trimming.not_mem_of_mem_splitOn⟩
  · rintro ⟨rfl, hpieces⟩
    exact List.splitOn_intercalate x hpieces hne

/-! ## any separator -/

theorem splitFrom_skip (sep : List Char) (k : Nat) (piece cs : List Char) :
    splitFrom sep k piece cs = splitFrom sep 0 piece (cs.drop k) := by
  induction cs generalizing k with
  | nil => cases k <;> simp [splitFrom]
  | cons c cs ih =>
      cases k with
      | zero => rfl
      | succ k => rw [splitFrom, ih, List.drop_succ_cons]

theorem splitFrom_ne_nil (sep : List Char) (k : Nat) (piece cs : List Char) :
    splitFrom sep k piece cs ≠ [] := by
  induction cs generalizing k piece with
  | nil => cases k <;> simp [splitFrom]
  | cons c cs ih =>
      cases k with
      | zero =>
          rw [splitFrom]
          split
          · simp
          · exact ih _ _
      | succ k => exact ih _ _

theorem split_ne_nil (sep cs : List Char) : split sep cs ≠ [] := splitFrom_ne_nil sep 0 [] cs

/-- At a separator a piece ends. -/
theorem splitFrom_append (hsep : sep ≠ []) (piece cs : List Char) :
    splitFrom sep 0 piece (sep ++ cs) = piece.reverse :: split sep cs := by
  cases sep with
  | nil => contradiction
  | cons x sep =>
      rw [List.cons_append, splitFrom, if_pos (by simp), splitFrom_skip]
      simp [split]

theorem intercalate_splitFrom (hsep : sep ≠ []) (piece cs : List Char) :
    sep.intercalate (splitFrom sep 0 piece cs) = piece.reverse ++ cs := by
  induction hlength : cs.length using Nat.strong_induction_on generalizing piece cs with
  | _ n ih =>
      cases cs with
      | nil => simp [splitFrom]
      | cons c cs =>
          by_cases hprefix : sep <+: c :: cs
          · obtain ⟨rest, hrest⟩ := hprefix
            have hshort : rest.length < n := by
              rw [← hlength, ← hrest, List.length_append]
              have := List.length_pos_iff.2 hsep
              omega
            rw [← hrest, splitFrom_append hsep, split,
              List.intercalate_cons_of_ne_nil (splitFrom_ne_nil _ _ _ _), ih _ hshort [] rest rfl]
            simp
          · rw [splitFrom, if_neg (by simpa using hprefix),
              ih cs.length (by simp [← hlength]) (c :: piece) cs rfl]
            simp

/-- **The pieces, joined**, are the text. -/
theorem intercalate_split (hsep : sep ≠ []) (cs : List Char) :
    sep.intercalate (split sep cs) = cs :=
  intercalate_splitFrom hsep [] cs

theorem splitFrom_of_not_infix (piece : List Char) (h : ¬ sep <:+: cs) :
    splitFrom sep 0 piece cs = [piece.reverse ++ cs] := by
  induction cs generalizing piece with
  | nil => simp [splitFrom]
  | cons c cs ih =>
      rw [List.infix_cons_iff, not_or] at h
      rw [splitFrom, if_neg (by simpa using h.1), ih _ h.2]
      simp

theorem split_of_not_infix (h : ¬ sep <:+: cs) : split sep cs = [cs] :=
  splitFrom_of_not_infix [] h

theorem splitFrom_append_append (hsep : sep ≠ []) (piece : List Char)
    (h : ∀ s, s ≠ [] → s <:+ xs → ¬ sep <+: s ++ (sep ++ ys)) :
    splitFrom sep 0 piece (xs ++ (sep ++ ys)) = (piece.reverse ++ xs) :: split sep ys := by
  induction xs generalizing piece with
  | nil => rw [List.nil_append, splitFrom_append hsep, List.append_nil]
  | cons x xs ih =>
      have hhere := h (x :: xs) (by simp) (List.suffix_refl _)
      rw [List.cons_append] at hhere ⊢
      rw [splitFrom, if_neg (by simpa using hhere),
        ih _ fun s hs hsuffix => h s hs (hsuffix.trans (List.suffix_cons x xs))]
      simp

/-- The first piece ends at the first separator, if none starts before. -/
theorem split_append (hsep : sep ≠ [])
    (h : ∀ s, s ≠ [] → s <:+ xs → ¬ sep <+: s ++ (sep ++ ys)) :
    split sep (xs ++ (sep ++ ys)) = xs :: split sep ys :=
  splitFrom_append_append hsep [] h

/-! ## characters -/

theorem mem_intercalate {ls : List (List Char)} {c : Char} (h : c ∈ sep.intercalate ls) :
    c ∈ sep ∨ ∃ l ∈ ls, c ∈ l := by
  induction ls with
  | nil => cases h
  | cons l ls ih =>
      by_cases hls : ls = []
      · subst hls
        exact .inr ⟨l, List.mem_cons_self, by simpa using h⟩
      · rw [List.intercalate_cons_of_ne_nil hls, List.mem_append, List.mem_append] at h
        grind

/-- A character of the text is one of the separator, or of a piece. -/
theorem mem_split (hsep : sep ≠ []) {c : Char} (h : c ∈ cs) :
    c ∈ sep ∨ ∃ l ∈ split sep cs, c ∈ l := by
  rw [← intercalate_split hsep cs] at h
  exact mem_intercalate h

end UptimeFlow.Js
