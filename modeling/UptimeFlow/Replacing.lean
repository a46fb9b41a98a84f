import Mathlib.Data.List.Basic

/-!
# UptimeFlow.Replacing

Texts with some of their characters replaced, one kind after the other.

Each pass goes over the whole text, so a later one would also replace inside
what an earlier one put in.  Where no character that is replaced occurs in a
text put in before, the passes are one: each character is looked up
(`replaceEach_eq_flatMap`).
-/

namespace UptimeFlow.Js

variable {c d : Char} {text cs : List Char} {rs : List (Char × List Char)}

/-- `cs.replaceAll(c, text)`. -/
def replaceAll (c : Char) (text cs : List Char) : List Char :=
  cs.flatMap fun d => if d = c then text else [d]

/-- The replacements in turn, each over the whole text. -/
def replaceEach (rs : List (Char × List Char)) (cs : List Char) : List Char :=
  rs.foldl (fun cs r => replaceAll r.1 r.2 cs) cs

/-- A character, or what is put in its place. -/
def replaced (rs : List (Char × List Char)) (c : Char) : List Char := (rs.lookup c).getD [c]

theorem not_mem_replaceAll (htext : c ∉ text) : c ∉ replaceAll c text cs := by
  intro hmem
  obtain ⟨d, -, hd⟩ := List.mem_flatMap.1 hmem
  split at hd
  · exact htext hd
  · next hne => exact hne (List.mem_singleton.1 hd).symm

theorem not_mem_replaceAll_of_not_mem (htext : d ∉ text) (h : d ∉ cs) :
    d ∉ replaceAll c text cs := by
  intro hmem
  obtain ⟨e, he, hd⟩ := List.mem_flatMap.1 hmem
  split at hd
  · exact htext hd
  · rw [List.mem_singleton.1 hd] at h
    exact h he

theorem replaceEach_cons (r : Char × List Char) (rs : List (Char × List Char)) (cs : List Char) :
    replaceEach (r :: rs) cs = replaceEach rs (replaceAll r.1 r.2 cs) := rfl

/-- A character that no text brings in stays out. -/
theorem not_mem_replaceEach_of_not_mem (htexts : ∀ r ∈ rs, d ∉ r.2) (h : d ∉ cs) :
    d ∉ replaceEach rs cs := by
  induction rs generalizing cs with
  | nil => exact h
  | cons r rs ih =>
      obtain ⟨hr, hrs⟩ := List.forall_mem_cons.1 htexts
      exact ih hrs (not_mem_replaceAll_of_not_mem hr h)

/-- **What is replaced is gone**, if no text brings it back. -/
theorem not_mem_replaceEach (htexts : ∀ r ∈ rs, d ∉ r.2) (h : d ∈ rs.map Prod.fst) :
    d ∉ replaceEach rs cs := by
  induction rs generalizing cs with
  | nil => simp at h
  | cons r rs ih =>
      obtain ⟨hr, hrs⟩ := List.forall_mem_cons.1 htexts
      rw [replaceEach_cons]
      rcases List.mem_cons.1 h with rfl | h
      · exact not_mem_replaceEach_of_not_mem hrs (not_mem_replaceAll hr)
      · exact ih hrs h

theorem replaced_of_not_mem (h : c ∉ rs.map Prod.fst) : replaced rs c = [c] := by
  have hlookup : rs.lookup c = none := by
    rw [List.lookup_eq_none_iff]
    intro r hr
    simp only [bne_iff_ne, ne_eq]
    rintro rfl
    exact h (List.mem_map_of_mem hr)
  rw [replaced, hlookup]
  rfl

theorem exists_of_replaced (h : c ∈ rs.map Prod.fst) :
    ∃ text, (c, text) ∈ rs ∧ replaced rs c = text := by
  induction rs with
  | nil => simp at h
  | cons r rs ih =>
      by_cases hr : c = r.1
      · subst hr
        refine ⟨r.2, List.mem_cons_self, ?_⟩
        rw [replaced, List.lookup_cons_self]
        rfl
      · have hne : (c == r.1) = false := by simpa using hr
        obtain ⟨text, hmem, htext⟩ := ih ((List.mem_cons.1 h).resolve_left hr)
        refine ⟨text, List.mem_cons_of_mem _ hmem, ?_⟩
        rw [← htext, replaced, replaced, List.lookup_cons, hne]

theorem flatMap_replaced_of_not_mem (h : ∀ r ∈ rs, r.1 ∉ cs) :
    cs.flatMap (replaced rs) = cs := by
  induction cs with
  | nil => rfl
  | cons c cs ih =>
      have hc : c ∉ rs.map Prod.fst := by
        intro hmem
        obtain ⟨r, hr, rfl⟩ := List.mem_map.1 hmem
        exact h r hr List.mem_cons_self
      rw [List.flatMap_cons, replaced_of_not_mem hc,
        ih fun r hr hmem => h r hr (List.mem_cons_of_mem _ hmem)]
      rfl

/-- **The passes are one** where none replaces in what an earlier one put in. -/
theorem replaceEach_eq_flatMap (hrs : rs.Pairwise fun r later => later.1 ∉ r.2) (cs : List Char) :
    replaceEach rs cs = cs.flatMap (replaced rs) := by
  induction rs generalizing cs with
  | nil => exact (List.flatMap_singleton' cs).symm
  | cons r rs ih =>
      obtain ⟨hr, hrs⟩ := List.pairwise_cons.1 hrs
      rw [replaceEach_cons, ih hrs, replaceAll, List.flatMap_assoc]
      refine List.flatMap_congr fun d _ => ?_
      by_cases hd : d = r.1
      · subst hd
        rw [if_pos rfl, flatMap_replaced_of_not_mem hr, replaced, List.lookup_cons_self]
        rfl
      · have hne : (d == r.1) = false := by simpa using hd
        rw [if_neg hd, List.flatMap_singleton, replaced, replaced, List.lookup_cons, hne]

end UptimeFlow.Js
