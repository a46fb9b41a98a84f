import UptimeFlow.Js
import Mathlib.Data.List.Basic

/-!
# UptimeFlow.Access.Roles

The role matrix and the scope strings, the two ways a caller is authorized.

A `Permission` is an action with the proof that its resource supports it, so
only what `permissionStatements` declares can be asked about.  A scope text
is compared with `resource:action` texts built at the check; `Scope` is what
such a text stands for, and `scopeAllows_iff` relates the two.
-/

namespace UptimeFlow.Access

/-! ## resources and actions -/

inductive Resource where
  | organization | member | invitation | billing | auditLog | apiKey
  | monitor | statusPage | alertChannel | escalationPolicy | onCallSchedule
deriving DecidableEq, Repr

def Resource.name : Resource → String
  | .organization => "organization"
  | .member => "member"
  | .invitation => "invitation"
  | .billing => "billing"
  | .auditLog => "auditLog"
  | .apiKey => "apiKey"
  | .monitor => "monitor"
  | .statusPage => "statusPage"
  | .alertChannel => "alertChannel"
  | .escalationPolicy => "escalationPolicy"
  | .onCallSchedule => "onCallSchedule"

/-- Every resource, in the order of `permissionStatements`. -/
def resources : List Resource :=
  [.organization, .member, .invitation, .billing, .auditLog, .apiKey, .monitor, .statusPage,
    .alertChannel, .escalationPolicy, .onCallSchedule]

@[simp] theorem mem_resources (r : Resource) : r ∈ resources := by cases r <;> decide

inductive Action where
  | read | create | update | delete | cancel | manage | revoke
deriving DecidableEq, Repr

def Action.name : Action → String
  | .read => "read"
  | .create => "create"
  | .update => "update"
  | .delete => "delete"
  | .cancel => "cancel"
  | .manage => "manage"
  | .revoke => "revoke"

/-- Every protectable resource and the actions it supports. -/
def permissionStatements : Resource → List Action
  | .organization => [.read, .update, .delete]
  | .member => [.read, .create, .update, .delete]
  | .invitation => [.read, .create, .cancel]
  | .billing => [.read, .manage]
  | .auditLog => [.read]
  | .apiKey => [.read, .create, .revoke]
  | .monitor | .statusPage | .alertChannel | .escalationPolicy | .onCallSchedule =>
      [.read, .create, .update, .delete]

/-- An action on a resource that supports it. -/
structure Permission where
  resource : Resource
  action : Action
  supported : action ∈ permissionStatements resource
deriving DecidableEq, Repr

/-- Every permission there is. -/
def permissions : List Permission :=
  resources.flatMap fun r => (permissionStatements r).attach.map fun a => ⟨r, a.1, a.2⟩

@[simp] theorem mem_permissions (p : Permission) : p ∈ permissions := by
  simp only [permissions, List.mem_flatMap, List.mem_map]
  exact ⟨p.resource, mem_resources _, ⟨p.action, p.supported⟩, List.mem_attach _ _, rfl⟩

/-! ## the role matrix -/

/-- The granted actions, on the resources that are there. -/
abbrev PermissionSet := Resource → Option (List Action)

/-- `ALL` -/
def allPermissions : PermissionSet := fun r => some (permissionStatements r)

/-- `READ_EVERYTHING` -/
def readEverything : PermissionSet := fun r =>
  if (permissionStatements r).contains .read then some [.read] else none

/-- `OPERATE`: full CRUD on every operational resource. -/
def operate : PermissionSet
  | .monitor | .statusPage | .alertChannel | .escalationPolicy | .onCallSchedule =>
      some [.read, .create, .update, .delete]
  | _ => none

inductive OrgRole where
  | owner | admin | manager | developer | viewer
deriving DecidableEq, Repr

def OrgRole.name : OrgRole → String
  | .owner => "owner"
  | .admin => "admin"
  | .manager => "manager"
  | .developer => "developer"
  | .viewer => "viewer"

/-- `ORG_ROLES` -/
def orgRoles : List OrgRole := [.owner, .admin, .manager, .developer, .viewer]

/-- The role a text names; `isOrgRole` asks whether there is one. -/
def isOrgRole (value : String) : Option OrgRole := orgRoles.find? fun r => r.name == value

@[simp] theorem mem_orgRoles (role : OrgRole) : role ∈ orgRoles := by cases role <;> decide

theorem isOrgRole_name (role : OrgRole) : isOrgRole role.name = some role := by
  cases role <;> decide

/-- The role → permission matrix. -/
def rolePermissions : OrgRole → PermissionSet
  | .owner => allPermissions
  | .admin => fun
      | .organization => some [.read, .update]
      | .billing => some [.read]
      | r => allPermissions r
  | .manager => fun
      | .organization => some [.read]
      | .member => some [.read, .create, .update]
      | .invitation => some [.read, .create, .cancel]
      | .billing => some [.read]
      | .auditLog => some [.read]
      | .apiKey => some [.read, .create, .revoke]
      | r => operate r
  | .developer => fun
      | .organization => some [.read]
      | .apiKey => some [.read, .create, .revoke]
      | r => operate r
  | .viewer => readEverything

/-- Whether `role` may perform every action in `actions` on `resource`. -/
def hasPermission (role : String) (resource : Resource) (actions : List Action) : Bool :=
  match isOrgRole role with
  | none => false
  | some r =>
      match rolePermissions r resource with
      | none => false
      | some granted => actions.all granted.contains

/-- Which roles a given role may assign to others. -/
def assignableRoles (actorRole : String) : List OrgRole :=
  if actorRole == "owner" then orgRoles
  else if actorRole == "admin" then [.admin, .manager, .developer, .viewer]
  else if actorRole == "manager" then [.developer, .viewer]
  else []

/-- A role delegates no permission it does not have itself. -/
theorem assignableRoles_confined (actor assigned : OrgRole) (p : Permission)
    (hassign : assigned ∈ assignableRoles actor.name)
    (hallow : hasPermission assigned.name p.resource [p.action] = true) :
    hasPermission actor.name p.resource [p.action] = true := by
  have h : ∀ a ∈ orgRoles, ∀ b ∈ assignableRoles a.name,
      ∀ q ∈ permissions, hasPermission b.name q.resource [q.action] = true →
        hasPermission a.name q.resource [q.action] = true := by decide +kernel
  exact h actor (mem_orgRoles actor) assigned hassign p (mem_permissions p) hallow

/-! ## API key scopes -/

/-- Whether `scopes` grant a single action on a resource. -/
def scopeAllows (scopes : List String) (resource action : String) : Bool :=
  scopes.any fun s => s == "*" || s == resource ++ ":*" || s == resource ++ ":" ++ action

/-- Whether `scopes` grant every action in `actions` on `resource`. -/
def hasScopePermission (scopes : List String) (resource : Resource) (actions : List Action) :
    Bool :=
  actions.all fun action => scopeAllows scopes resource.name action.name

/-- What every object inherits, and `in` therefore finds. -/
def objectPrototype : List String :=
  ["__proto__", "constructor", "__defineGetter__", "__defineSetter__", "__lookupGetter__",
    "__lookupSetter__", "hasOwnProperty", "isPrototypeOf", "propertyIsEnumerable",
    "toLocaleString", "toString", "valueOf"]

/-- A `TypeError`: a method called on a value that does not have it. -/
inductive TypeError where
  | notAFunction
deriving DecidableEq, Repr

/-- Validate a scope string against the permission matrix. -/
def isValidScope (scope : String) : Except TypeError Bool :=
  if scope == "*" then .ok true
  else
    match Js.split [':'] scope.toList with
    | resource :: action :: rest =>
        if !rest.isEmpty || resource.isEmpty || action.isEmpty then .ok false
        else
          match resources.find? fun r => r.name.toList == resource with
          | some r =>
              .ok (action == ['*'] || (permissionStatements r).any (·.name.toList == action))
          | none =>
              -- an inherited name passes `in`, but what it holds has no `includes`
              if !objectPrototype.any (·.toList == resource) then .ok false
              else if action == ['*'] then .ok true
              else .error .notAFunction
    | _ => .ok false

example : ["*", "monitor:*", "monitor:read", "monitor:teleport", "nonsense:read", "monitor",
      "monitor:read:extra", "toString:*"].map isValidScope =
    [.ok true, .ok true, .ok true, .ok false, .ok false, .ok false, .ok false, .ok true] := by
  decide

/-! ## what a scope text stands for -/

inductive Scope where
  | all
  | every (resource : Resource)
  | one (permission : Permission)
deriving DecidableEq, Repr

def Scope.text : Scope → String
  | .all => "*"
  | .every r => r.name ++ ":*"
  | .one p => p.resource.name ++ ":" ++ p.action.name

/-- Every scope there is. -/
def scopeList : List Scope := .all :: resources.map .every ++ permissions.map .one

@[simp] theorem mem_scopeList (sc : Scope) : sc ∈ scopeList := by
  cases sc <;> simp [scopeList]

/-- The scope a text stands for, if any. -/
def Scope.ofText (s : String) : Option Scope := scopeList.find? fun sc => sc.text == s

theorem Scope.ofText_text (sc : Scope) : Scope.ofText sc.text = some sc := by
  have h : ∀ sc ∈ scopeList, Scope.ofText sc.text = some sc := by decide +kernel
  exact h sc (mem_scopeList sc)

theorem Scope.ofText_eq_some_iff {s : String} {sc : Scope} :
    Scope.ofText s = some sc ↔ s = sc.text := by
  constructor
  · intro h
    have hfound := List.find?_some h
    exact (beq_iff_eq.1 hfound).symm
  · rintro rfl
    exact Scope.ofText_text sc

/-- The permissions a scope grants. -/
def Scope.Grants : Scope → Permission → Prop
  | .all, _ => True
  | .every r, p => p.resource = r
  | .one q, p => p = q

/-- A list of scopes allows what the scopes its texts stand for grant. -/
theorem scopeAllows_iff (scopes : List String) (p : Permission) :
    scopeAllows scopes p.resource.name p.action.name = true ↔
      ∃ s ∈ scopes, ∃ sc, Scope.ofText s = some sc ∧ sc.Grants p := by
  simp only [scopeAllows, List.any_eq_true, Bool.or_eq_true, beq_iff_eq, Scope.ofText_eq_some_iff]
  refine exists_congr fun s => and_congr_right fun _ => ?_
  constructor
  · rintro ((h | h) | h)
    · exact ⟨.all, h, trivial⟩
    · exact ⟨.every p.resource, h, rfl⟩
    · exact ⟨.one p, h, rfl⟩
  · rintro ⟨sc, hs, hgrants⟩
    cases sc with
    | all => exact .inl (.inl hs)
    | every r =>
        obtain rfl : p.resource = r := hgrants
        exact .inl (.inr hs)
    | one q =>
        obtain rfl : p = q := hgrants
        exact .inr hs

end UptimeFlow.Access
