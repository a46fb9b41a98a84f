import UptimeFlow.Access.Roles
import UptimeFlow.Splitting

/-!
# UptimeFlow.Access.Scopes

Which texts are scopes.

A text is one if it is `*`, or a declared resource and `*` or one of its actions
with a colon between (`Declared`).  `isValidScope` looks the resource up in an
object, and finds there what every object inherits as well: a text that names
such a property is accepted with `*`, and with anything else ends in a
`TypeError`.  On all other texts it decides what is declared (`validates_iff`).
-/

namespace UptimeFlow.Access

/-- The text of a scope. -/
def Declared (s : String) : Prop := ∃ sc : Scope, s = sc.text

/-- A property every object inherits, in the place of the resource. -/
def Inherited (s : String) : Prop :=
  ∃ name ∈ objectPrototype, ∃ action : List Char, action ≠ [] ∧ ':' ∉ action ∧
    s.toList = name.toList ++ ':' :: action

/-- The scope check ends, and decides whether the text is a scope. -/
def Validates (s : String) : Prop :=
  ∃ valid, isValidScope s = .ok valid ∧ (valid = true ↔ Declared s)

/-! ## two parts with a colon between -/

theorem intercalate_pair (x : Char) (a b : List Char) :
    [x].intercalate [a, b] = a ++ x :: b := by
  simp [List.intercalate, List.intersperse]

theorem split_pair_iff {s a b : List Char} :
    Js.split [':'] s = [a, b] ↔ s = a ++ ':' :: b ∧ ':' ∉ a ∧ ':' ∉ b := by
  rw [Js.split_singleton_eq_iff (by simp), intercalate_pair]
  simp

theorem not_mem_resource (r : Resource) : ':' ∉ r.name.toList := by cases r <;> decide

theorem not_mem_action (a : Action) : ':' ∉ a.name.toList := by cases a <;> decide

theorem resource_ne (r : Resource) : r.name ≠ "" := by cases r <;> decide

theorem action_ne (a : Action) : a.name ≠ "" := by cases a <;> decide

theorem not_mem_objectPrototype : ∀ name ∈ objectPrototype, ':' ∉ name.toList ∧ name ≠ "" := by
  decide

/-- No object inherits a property of the name of a resource. -/
theorem resource_not_inherited (r : Resource) : r.name ∉ objectPrototype := by
  cases r <;> decide

/-- A scope but `*` has two parts. -/
theorem declared_iff {s : String} (hne : s ≠ "*") :
    Declared s ↔ ∃ (r : Resource) (action : List Char),
      Js.split [':'] s.toList = [r.name.toList, action] ∧
        (action = ['*'] ∨ ∃ a ∈ permissionStatements r, a.name.toList = action) := by
  constructor
  · rintro ⟨sc, rfl⟩
    cases sc with
    | all => contradiction
    | every r =>
        refine ⟨r, ['*'], ?_, .inl rfl⟩
        rw [split_pair_iff]
        exact ⟨by simp [Scope.text], not_mem_resource r, by decide⟩
    | one p =>
        refine ⟨p.resource, p.action.name.toList, ?_, .inr ⟨p.action, p.supported, rfl⟩⟩
        rw [split_pair_iff]
        exact ⟨by simp [Scope.text], not_mem_resource _, not_mem_action _⟩
  · rintro ⟨r, action, hsplit, haction⟩
    have hs := (split_pair_iff.1 hsplit).1
    rcases haction with rfl | ⟨a, ha, rfl⟩
    · refine ⟨.every r, String.toList_inj.1 ?_⟩
      rw [hs]
      simp [Scope.text]
    · refine ⟨.one ⟨r, a, ha⟩, String.toList_inj.1 ?_⟩
      rw [hs]
      simp [Scope.text]

theorem inherited_iff {s : String} :
    Inherited s ↔ ∃ name ∈ objectPrototype, ∃ action, action ≠ [] ∧
      Js.split [':'] s.toList = [name.toList, action] := by
  refine exists_congr fun name => and_congr_right fun hname =>
    exists_congr fun action => and_congr_right fun _ => ?_
  rw [split_pair_iff]
  have hcolon := (not_mem_objectPrototype name hname).1
  exact ⟨fun h => ⟨h.2, hcolon, h.1⟩, fun h => ⟨h.2.2, h.1⟩⟩

/-! ## the check -/

/-- A text that has not two parts is no scope. -/
theorem isValidScope_other {s : String} (hne : s ≠ "*")
    (h : ∀ a b, Js.split [':'] s.toList = [a, b] → a = [] ∨ b = []) :
    isValidScope s = .ok false := by
  rw [isValidScope, if_neg (by simpa using hne)]
  cases hpieces : Js.split [':'] s.toList with
  | nil => rfl
  | cons a rest =>
      cases rest with
      | nil => rfl
      | cons b rest =>
          cases rest with
          | nil => rcases h a b hpieces with rfl | rfl <;> simp
          | cons c rest => simp

/-- A declared resource has the declared actions. -/
theorem isValidScope_resource {s : String} (hne : s ≠ "*") {r : Resource} {action : List Char}
    (hsplit : Js.split [':'] s.toList = [r.name.toList, action]) (haction : action ≠ []) :
    isValidScope s =
      .ok (action == ['*'] || (permissionStatements r).any (·.name.toList == action)) := by
  have hfind : (resources.find? fun q => q.name.toList == r.name.toList) = some r := by
    cases r <;> decide
  rw [isValidScope, if_neg (by simpa using hne), hsplit]
  simp [resource_ne, haction, hfind]

/-- Of what is no resource, only what objects inherit is taken for one. -/
theorem isValidScope_unknown {s : String} (hne : s ≠ "*") {a b : List Char}
    (hsplit : Js.split [':'] s.toList = [a, b]) (ha : a ≠ []) (hb : b ≠ [])
    (hunknown : ∀ r : Resource, r.name.toList ≠ a) :
    isValidScope s =
      if !objectPrototype.any (·.toList == a) then .ok false
      else if b == ['*'] then .ok true
      else .error .notAFunction := by
  have hfind : (resources.find? fun q => q.name.toList == a) = none := by
    rw [List.find?_eq_none]
    intro r _
    simpa using hunknown r
  rw [isValidScope, if_neg (by simpa using hne), hsplit]
  simp [ha, hb, hfind]

/-- What objects inherit is not handled: it is accepted, or fails. -/
theorem not_validates_of_inherited {s : String} (h : Inherited s) : ¬ Validates s := by
  obtain ⟨name, hname, action, haction, hsplit⟩ := inherited_iff.1 h
  have hne : s ≠ "*" := by
    rintro rfl
    have hstar : Js.split [':'] "*".toList = [['*']] := by decide
    rw [hstar] at hsplit
    cases (List.cons.inj hsplit).2
  have hunknown : ∀ r : Resource, r.name.toList ≠ name.toList := by
    intro r hr
    rw [String.toList_inj] at hr
    exact resource_not_inherited r (hr ▸ hname)
  have hname_ne : name.toList ≠ [] := by
    simpa using (not_mem_objectPrototype name hname).2
  have hany : objectPrototype.any (·.toList == name.toList) = true := by
    rw [List.any_eq_true]
    exact ⟨name, hname, by simp⟩
  rintro ⟨valid, hvalid, hiff⟩
  rw [isValidScope_unknown hne hsplit hname_ne haction hunknown, hany] at hvalid
  have hundeclared : ¬ Declared s := by
    rw [declared_iff hne]
    rintro ⟨r, action', hsplit', -⟩
    rw [hsplit] at hsplit'
    exact hunknown r (List.cons.inj hsplit').1.symm
  by_cases hstar : action = ['*']
  · subst hstar
    cases hvalid
    exact hundeclared (hiff.1 rfl)
  · simp [hstar] at hvalid

theorem validates_of_not_inherited {s : String} (h : ¬ Inherited s) : Validates s := by
  by_cases hne : s = "*"
  · subst hne
    exact ⟨true, rfl, fun _ => ⟨.all, rfl⟩, fun _ => rfl⟩
  by_cases hpair : ∃ a b, Js.split [':'] s.toList = [a, b] ∧ a ≠ [] ∧ b ≠ []
  · obtain ⟨a, b, hsplit, ha, hb⟩ := hpair
    by_cases hknown : ∃ r : Resource, r.name.toList = a
    · obtain ⟨r, rfl⟩ := hknown
      refine ⟨_, isValidScope_resource hne hsplit hb, ?_⟩
      rw [declared_iff hne, Bool.or_eq_true, beq_iff_eq, List.any_eq_true]
      constructor
      · rintro (rfl | ⟨action, haction, hname⟩)
        · exact ⟨r, _, hsplit, .inl rfl⟩
        · exact ⟨r, _, hsplit, .inr ⟨action, haction, beq_iff_eq.1 hname⟩⟩
      · rintro ⟨r', action, hsplit', haction⟩
        rw [hsplit] at hsplit'
        obtain ⟨hr, htail⟩ := List.cons.inj hsplit'
        obtain ⟨rfl, -⟩ := List.cons.inj htail
        obtain rfl : r = r' := by
          revert hr
          cases r <;> cases r' <;> decide
        exact haction.imp_right fun ⟨x, hx, hname⟩ => ⟨x, hx, beq_iff_eq.2 hname⟩
    · have hunknown : ∀ r : Resource, r.name.toList ≠ a := fun r hr => hknown ⟨r, hr⟩
      have hany : objectPrototype.any (·.toList == a) = false := by
        rw [List.any_eq_false]
        intro name hname hsame
        obtain rfl := beq_iff_eq.1 hsame
        exact h (inherited_iff.2 ⟨name, hname, b, hb, hsplit⟩)
      refine ⟨false, ?_, iff_of_false (by simp) ?_⟩
      · rw [isValidScope_unknown hne hsplit ha hb hunknown, hany]
        rfl
      · rw [declared_iff hne]
        rintro ⟨r, action, hsplit', -⟩
        rw [hsplit] at hsplit'
        exact absurd (List.cons.inj hsplit').1.symm (hunknown r)
  · have hother : ∀ a b, Js.split [':'] s.toList = [a, b] → a = [] ∨ b = [] := by
      intro a b hsplit
      by_contra hnot
      rw [not_or] at hnot
      exact hpair ⟨a, b, hsplit, hnot⟩
    refine ⟨false, isValidScope_other hne hother, iff_of_false (by simp) ?_⟩
    rw [declared_iff hne]
    rintro ⟨r, action, hsplit, haction⟩
    rcases hother _ _ hsplit with hempty | rfl
    · exact absurd (String.toList_eq_nil_iff.1 hempty) (resource_ne r)
    · rcases haction with hempty | ⟨a, -, hempty⟩
      · cases hempty
      · exact absurd (String.toList_eq_nil_iff.1 hempty) (action_ne a)

end UptimeFlow.Access
