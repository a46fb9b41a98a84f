import Mathlib.Data.List.Infix

/-!
# UptimeFlow.Joining

Where a part of a joined text lies.

Texts are joined with a separator between each two.  What occurs in the joined text
occurs in one of the texts or takes up some of a separator (`infix_join_iff`), and
the joined text is itself one of the texts only if there is no other
(`join_mem_iff`).
-/

namespace UptimeFlow.Joining

section
variable {α : Type*} {sep part text : List α} {texts : List (List α)}

/-- Some occurrence of the part in the joined text shares elements with a separator, or lies
within one if it is empty. -/
def Straddles (sep : List α) (texts : List (List α)) (part : List α) : Prop :=
  ∃ before after front back, before ≠ [] ∧ after ≠ [] ∧ texts = before ++ after ∧
    front ++ part ++ back = sep.intercalate before ++ sep ++ sep.intercalate after ∧
    front.length < (sep.intercalate before ++ sep).length ∧
    (sep.intercalate before).length < (front ++ part).length

theorem join_append {before after : List (List α)} (hbefore : before ≠ []) (hafter : after ≠ []) :
    sep.intercalate (before ++ after) =
      sep.intercalate before ++ sep ++ sep.intercalate after := by
  induction before with
  | nil => contradiction
  | cons t ts ih =>
      by_cases hts : ts = []
      · subst hts
        simp [List.intercalate_cons_of_ne_nil hafter]
      · rw [List.cons_append, List.intercalate_cons_of_ne_nil (by simp [hts]), List.intercalate_cons_of_ne_nil hts, ih hts]
        simp

/-- Each text occurs in the joined one. -/
theorem infix_join (h : text ∈ texts) : text <:+: sep.intercalate texts := by
  induction texts with
  | nil => simp at h
  | cons t ts ih =>
      by_cases hts : ts = []
      · subst hts
        simp at h
        simp [h]
      · rw [List.intercalate_cons_of_ne_nil hts]
        rcases List.mem_cons.1 h with rfl | hmem
        · exact ⟨[], sep ++ sep.intercalate ts, by simp⟩
        · exact (ih hmem).trans (List.suffix_append _ _).isInfix

theorem Straddles.infix (h : Straddles sep texts part) : part <:+: sep.intercalate texts := by
  obtain ⟨before, after, front, back, hbefore, hafter, rfl, hjoin, -, -⟩ := h
  rw [join_append hbefore hafter, ← hjoin]
  exact List.infix_append front part back

theorem Straddles.cons (h : Straddles sep texts part) (t : List α) :
    Straddles sep (t :: texts) part := by
  obtain ⟨before, after, front, back, hbefore, hafter, rfl, hjoin, hfront, hpart⟩ := h
  refine ⟨t :: before, after, t ++ sep ++ front, back, by simp, hafter, rfl, ?_, ?_, ?_⟩
  · rw [List.intercalate_cons_of_ne_nil hbefore]
    simp only [List.append_assoc] at hjoin ⊢
    rw [hjoin]
  · rw [List.intercalate_cons_of_ne_nil hbefore]
    simp only [List.length_append] at hfront ⊢
    omega
  · rw [List.intercalate_cons_of_ne_nil hbefore]
    simp only [List.length_append] at hpart ⊢
    omega

theorem Straddles.join_ne_nil (h : Straddles sep texts part) : sep.intercalate texts ≠ [] := by
  obtain ⟨before, after, front, back, hbefore, hafter, rfl, -, hfront, -⟩ := h
  rw [join_append hbefore hafter]
  apply List.ne_nil_of_length_pos
  simp only [List.length_append] at hfront ⊢
  omega

/-- The empty part lies within a separator of two elements or more. -/
theorem straddles_nil (hsep : 2 ≤ sep.length) (h : texts ≠ []) (t : List α) :
    Straddles sep (t :: texts) [] := by
  refine ⟨[t], texts, t ++ sep.take 1, sep.drop 1 ++ sep.intercalate texts, by simp, h, rfl,
    ?_, ?_, ?_⟩
  · have hcut := List.take_append_drop 1 sep
    rw [List.intercalate_singleton, List.append_nil, List.append_assoc, ← List.append_assoc _ _
      (sep.intercalate texts), hcut, List.append_assoc]
  · simp only [List.intercalate_singleton, List.length_append, List.length_take]
    omega
  · simp only [List.intercalate_singleton, List.append_nil, List.length_append, List.length_take]
    omega

/-- An occurrence ends before a cut, starts after it, or shares elements with it. -/
theorem infix_of_append_eq {front back left right : List α}
    (h : front ++ part ++ back = left ++ sep ++ right) :
    part <:+: left ∨ (∃ front', front' ++ part ++ back = right) ∨
      (front.length < (left ++ sep).length ∧ left.length < (front ++ part).length) := by
  by_cases hleft : (front ++ part).length ≤ left.length
  · left
    have hprefix : front ++ part <+: left := by
      refine List.prefix_of_prefix_length_le (List.prefix_append _ back) ?_ hleft
      rw [h, List.append_assoc]
      exact List.prefix_append _ _
    exact (List.suffix_append front part).isInfix.trans hprefix.isInfix
  · by_cases hright : (left ++ sep).length ≤ front.length
    · right
      left
      have hprefix : left ++ sep <+: front := by
        refine List.prefix_of_prefix_length_le (List.prefix_append _ right) ?_ hright
        rw [← h, List.append_assoc]
        exact List.prefix_append _ _
      obtain ⟨front', rfl⟩ := hprefix
      refine ⟨front', ?_⟩
      have hcut : (left ++ sep) ++ (front' ++ part ++ back) = (left ++ sep) ++ right := by
        rw [← h]
        simp
      exact List.append_cancel_left hcut
    · right
      right
      omega

/-- **A part of the joined text** is a part of one of the texts or straddles a separator. -/
theorem infix_join_iff (h : texts ≠ []) :
    part <:+: sep.intercalate texts ↔
      (∃ text ∈ texts, part <:+: text) ∨ Straddles sep texts part := by
  constructor
  · intro hpart
    induction texts with
    | nil => contradiction
    | cons t ts ih =>
        by_cases hts : ts = []
        · subst hts
          exact .inl ⟨t, by simp, by simpa using hpart⟩
        · rw [List.intercalate_cons_of_ne_nil hts] at hpart
          obtain ⟨front, back, hjoin⟩ := hpart
          rcases infix_of_append_eq hjoin with hleft | ⟨front', hright⟩ | ⟨hfront, hend⟩
          · exact .inl ⟨t, by simp, hleft⟩
          · rcases ih hts ⟨front', back, hright⟩ with ⟨text, htext, hin⟩ | hstraddles
            · exact .inl ⟨text, by simp [htext], hin⟩
            · exact .inr (hstraddles.cons t)
          · exact .inr ⟨[t], ts, front, back, by simp, hts, rfl, by simpa using hjoin,
              by simpa using hfront, by simpa using hend⟩
  · rintro (⟨text, htext, hin⟩ | hstraddles)
    · exact hin.trans (infix_join htext)
    · exact hstraddles.infix

/-- The joined text is one of two texts or more only if the separator is empty. -/
theorem join_mem_iff (hsep : sep ≠ []) : sep.intercalate texts ∈ texts ↔ ∃ text, texts = [text] := by
  constructor
  · intro hmem
    cases texts with
    | nil => simp at hmem
    | cons t ts =>
        by_cases hts : ts = []
        · exact ⟨t, by rw [hts]⟩
        · exfalso
          rw [List.intercalate_cons_of_ne_nil hts] at hmem
          have hpos := List.length_pos_iff.2 hsep
          rcases List.mem_cons.1 hmem with heq | hmem
          · have hlength := congrArg List.length heq
            simp only [List.length_append] at hlength
            omega
          · have hin : _ <:+: sep.intercalate ts := infix_join hmem
            have hlength := hin.length_le
            simp only [List.length_append] at hlength
            omega
  · rintro ⟨text, rfl⟩
    simp

end

end UptimeFlow.Joining
