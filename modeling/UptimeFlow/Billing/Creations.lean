import UptimeFlow.Readings
import UptimeFlow.Runs
import UptimeFlow.Billing.Plans

/-!
# UptimeFlow.Billing.Creations

Creating monitors and status pages under the plan's limit.

A creation counts the live rows of its organization, and inserts its own row
some statements later; other creations run in between.  The limit holds along a
run exactly where what came since the count still fits under it
(`withinLimits_along_iff`).
-/

namespace UptimeFlow.Billing

open Runs
open Monitoring (OrganizationId Instant)

/-! ## the gate -/

/-- Countable resources whose creation is capped by the plan. -/
inductive LimitedResource where
  | monitor | seat | statusPage
deriving DecidableEq, Repr

/-- `RESOURCE_LABEL` -/
def LimitedResource.label : LimitedResource → String
  | .monitor => "monitors"
  | .seat => "seats"
  | .statusPage => "status pages"

/-- The columns of a counted row. -/
structure OwnedRow where
  organizationId : OrganizationId
  deletedAt : Option Instant := none
deriving DecidableEq, Repr

/-- The counted tables. -/
abbrev Resources := LimitedResource → List OwnedRow

def countUsage (tables : Resources) (org : OrganizationId) : LimitedResource → Nat
  | .monitor => (tables .monitor).countP fun r => r.organizationId = org && r.deletedAt.isNone
  | .seat => (tables .seat).countP fun r => r.organizationId = org
  | .statusPage => (tables .statusPage).countP fun r => r.organizationId = org && r.deletedAt.isNone

def limitFor (limits : EffectiveLimits) : LimitedResource → Option Int
  | .monitor => limits.monitorLimit
  | .seat => limits.seatLimit
  | .statusPage => limits.statusPageLimit

/-- `AppError.paymentRequired` of the gate, with its details. -/
structure PaymentRequired where
  message : String
  resource : LimitedResource
  limit : Int
  used : Nat
  tier : PlanTier
deriving DecidableEq, Repr

/-- Refuse where one more row than those in use would exceed the plan. -/
def assertWithinLimit (limits : EffectiveLimits) (resource : LimitedResource) (used : Nat) :
    Except PaymentRequired Unit :=
  match limitFor limits resource with
  | none => .ok ()
  | some limit =>
      if used ≥ limit then
        .error {
          message := "Your " ++ limits.planName ++ " plan allows " ++ toString limit ++ " " ++
            resource.label ++ ". Upgrade your plan to add more."
          resource, limit, used, tier := limits.tier }
      else .ok ()

/-! ## creations -/

/-- What a request creates under the gate. -/
inductive Creatable where
  | monitor | statusPage
deriving DecidableEq, Repr

def Creatable.resource : Creatable → LimitedResource
  | .monitor => .monitor
  | .statusPage => .statusPage

/-- The live rows of an organization. -/
def live (tables : Resources) (org : OrganizationId) (kind : Creatable) : Nat :=
  countUsage tables org kind.resource

/-- A creation that has passed the gate and not inserted its row: the count the gate found, and
what has come and gone since, which the code does not look at again. -/
structure Creation where
  organizationId : OrganizationId
  kind : Creatable
  used : Reading
deriving DecidableEq, Repr

structure Requests where
  tables : Resources
  creations : List Creation := []

inductive RequestOp where
  /-- A request for a new row passes the gate, or is refused. -/
  | check (organizationId : OrganizationId) (kind : Creatable)
  /-- The creation `k` inserts its row. -/
  | insert (k : Nat)
  /-- The creation `k` fails a later guard. -/
  | abandon (k : Nat)
  /-- The row `i` is soft-deleted. -/
  | remove (kind : Creatable) (i : Nat) (now : Instant)
deriving DecidableEq, Repr

/-- Change the table of one resource. -/
def Resources.modify (tables : Resources) (kind : Creatable) (f : List OwnedRow → List OwnedRow) :
    Resources :=
  fun resource => if resource = kind.resource then f (tables resource) else tables resource

/-- The creations of the organization have missed a change. -/
def missed (org : OrganizationId) (kind : Creatable) (change : Reading → Reading)
    (creations : List Creation) : List Creation :=
  creations.map fun c =>
    if c.organizationId = org ∧ c.kind = kind then { c with used := change c.used } else c

def Requests.step (limits : OrganizationId → EffectiveLimits) (s : Requests) : RequestOp → Requests
  | .check org kind =>
      match assertWithinLimit (limits org) kind.resource (live s.tables org kind) with
      | .error _ => s
      | .ok () =>
          { s with creations := s.creations ++ [⟨org, kind, { value := live s.tables org kind }⟩] }
  | .insert k =>
      match s.creations[k]? with
      | none => s
      | some c => {
          tables := s.tables.modify c.kind (· ++ [{ organizationId := c.organizationId }])
          creations := missed c.organizationId c.kind (·.gain 1) (s.creations.eraseIdx k) }
  | .abandon k => { s with creations := s.creations.eraseIdx k }
  | .remove kind i now =>
      match (s.tables kind.resource)[i]? with
      | none => s
      | some row =>
          if row.deletedAt.isNone then {
            tables := s.tables.modify kind (·.set i { row with deletedAt := some now })
            creations := missed row.organizationId kind (·.lose 1) s.creations }
          else s

/-! ## the law -/

/-- The organization has no more live rows than its plan allows. -/
def WithinLimit (limits : EffectiveLimits) (tables : Resources) (org : OrganizationId)
    (kind : Creatable) : Prop :=
  ∀ limit ∈ limitFor limits kind.resource, (live tables org kind : Int) ≤ limit

/-- A creation that inserts has missed fewer new rows than the gate found room for. -/
def StillFits (limits : EffectiveLimits) (org : OrganizationId) (kind : Creatable) (s : Requests) :
    RequestOp → Prop
  | .insert k =>
      ∀ c ∈ s.creations[k]?, c.organizationId = org → c.kind = kind →
        ∀ limit ∈ limitFor limits kind.resource, c.used.Fits limit
  | _ => True

instance (limits : EffectiveLimits) (org : OrganizationId) (kind : Creatable) (s : Requests) :
    (op : RequestOp) → Decidable (StillFits limits org kind s op)
  | .insert k =>
      inferInstanceAs (Decidable (∀ c ∈ s.creations[k]?, c.organizationId = org → c.kind = kind →
        ∀ limit ∈ limitFor limits kind.resource, c.used.Fits limit))
  | .check .. | .abandon _ | .remove .. => inferInstanceAs (Decidable True)

/-- Every creation accounts for the live rows. -/
def Accounted (s : Requests) : Prop :=
  ∀ c ∈ s.creations, c.used.Accounts (live s.tables c.organizationId c.kind)

/-! ## counting -/

section
variable {tables : Resources} {org : OrganizationId} {kind : Creatable}

@[simp] theorem resource_inj {a b : Creatable} : a.resource = b.resource ↔ a = b := by
  cases a <;> cases b <;> decide

theorem live_eq (tables : Resources) (org : OrganizationId) (kind : Creatable) :
    live tables org kind = (tables kind.resource).countP fun r =>
      r.organizationId = org && r.deletedAt.isNone := by
  cases kind <;> rfl

theorem live_modify_of_ne {f : List OwnedRow → List OwnedRow} {kind' : Creatable}
    (hne : kind' ≠ kind) : live (tables.modify kind f) org kind' = live tables org kind' := by
  simp [live_eq, Resources.modify, hne]

/-- One row more. -/
theorem live_insert (org' : OrganizationId) (kind' : Creatable) :
    live (tables.modify kind (· ++ [{ organizationId := org }])) org' kind' =
      live tables org' kind' + if org = org' ∧ kind = kind' then 1 else 0 := by
  by_cases hkind : kind' = kind
  · subst hkind
    by_cases horg : org = org'
    · simp [live_eq, Resources.modify, horg]
    · simp [live_eq, Resources.modify, horg]
  · simp [live_modify_of_ne hkind, Ne.symm hkind]

/-- One row less. -/
theorem live_remove {i : Nat} {row : OwnedRow} (hrow : (tables kind.resource)[i]? = some row)
    (hlive : row.deletedAt.isNone = true) (now : Instant) (org' : OrganizationId)
    (kind' : Creatable) :
    live (tables.modify kind (·.set i { row with deletedAt := some now })) org' kind' +
        (if row.organizationId = org' ∧ kind = kind' then 1 else 0) = live tables org' kind' := by
  obtain ⟨hlt, hget⟩ := List.getElem?_eq_some_iff.1 hrow
  by_cases hkind : kind' = kind
  · subst hkind
    rw [live_eq, live_eq, Resources.modify, if_pos rfl, List.countP_set hlt, hget]
    by_cases horg : row.organizationId = org'
    · have hpos : 0 < (tables kind'.resource).countP fun r =>
          r.organizationId = org' && r.deletedAt.isNone :=
        List.countP_pos_iff.2 ⟨row, List.mem_of_getElem? hrow, by simp [horg, hlive]⟩
      simp only [horg, hlive, decide_true, Bool.and_self, if_true, Option.isNone_some,
        Bool.and_false, Bool.false_eq_true, if_false, and_self]
      omega
    · simp [horg]
  · simp [live_modify_of_ne hkind, Ne.symm hkind]

/-- A change that each reading of the changed rows takes note of leaves all readings right. -/
theorem missed_accounts {tables' : Resources} {change : Reading → Reading}
    {creations : List Creation}
    (h : Accounted ⟨tables, creations⟩)
    (hothers : ∀ org' kind', ¬(org = org' ∧ kind = kind') →
      live tables' org' kind' = live tables org' kind')
    (hchange : ∀ r : Reading, r.Accounts (live tables org kind) →
      (change r).Accounts (live tables' org kind)) :
    Accounted ⟨tables', missed org kind change creations⟩ := by
  intro c hc
  obtain ⟨c₀, hc₀, rfl⟩ := List.mem_map.1 hc
  by_cases hown : c₀.organizationId = org ∧ c₀.kind = kind
  · have haccounts := h c₀ hc₀
    simp only [if_pos hown]
    obtain ⟨rfl, rfl⟩ := hown
    exact hchange _ haccounts
  · simp only [if_neg hown]
    rw [hothers _ _ fun hsame => hown ⟨hsame.1.symm, hsame.2.symm⟩]
    exact h c₀ hc₀

end

section
variable {limits : OrganizationId → EffectiveLimits} {s : Requests} {org : OrganizationId}
  {kind : Creatable}

/-- **Step lemma**: an operation leaves the limit kept if and only if a creation that inserts
still fits. -/
theorem withinLimit_iff (hwithin : WithinLimit (limits org) s.tables org kind)
    (haccounted : Accounted s) (op : RequestOp) :
    WithinLimit (limits org) (s.step limits op).tables org kind ↔
      StillFits (limits org) org kind s op := by
  cases op with
  | check org' kind' =>
      have hsame : (s.step limits (.check org' kind')).tables = s.tables := by
        simp only [Requests.step]
        split <;> rfl
      exact iff_of_true (hsame ▸ hwithin) trivial
  | abandon k => exact iff_of_true hwithin trivial
  | insert k =>
      cases hk : s.creations[k]? with
      | none =>
          have hsame : s.step limits (.insert k) = s := by simp [Requests.step, hk]
          refine iff_of_true (by rw [hsame]; exact hwithin) fun c hc => ?_
          simp [hk] at hc
      | some c =>
          have hfits : ∀ limit, c.used.Fits limit ↔
              (live s.tables c.organizationId c.kind : Int) < limit :=
            fun _ => (haccounted c (List.mem_of_getElem? hk)).fits_iff
          simp only [WithinLimit, Requests.step, hk, live_insert]
          by_cases hown : c.organizationId = org ∧ c.kind = kind
          · rw [if_pos hown]
            obtain ⟨rfl, rfl⟩ := hown
            constructor
            · intro hafter c' hc' _ _ limit hlimit
              obtain rfl : c = c' := by simpa [hk] using hc'
              have hle := hafter limit hlimit
              exact (hfits limit).2 (by omega)
            · intro hstill limit hlimit
              have hlt := (hfits limit).1 (hstill c hk rfl rfl limit hlimit)
              omega
          · rw [if_neg hown]
            refine iff_of_true hwithin ?_
            intro c' hc' horg hkind
            obtain rfl : c = c' := by simpa [hk] using hc'
            exact absurd ⟨horg, hkind⟩ hown
  | remove kind' i now =>
      refine iff_of_true ?_ trivial
      simp only [Requests.step]
      cases hrow : (s.tables kind'.resource)[i]? with
      | none => exact hwithin
      | some row =>
          by_cases hlive : row.deletedAt.isNone = true
          · intro limit hlimit
            have hremove := live_remove hrow hlive now org kind
            have hle := hwithin limit hlimit
            simp only [hlive, if_true]
            omega
          · simp only [hlive, if_false, Bool.false_eq_true]
            exact hwithin

/-- The creations go on accounting for the live rows. -/
theorem Accounted.step (h : Accounted s) (op : RequestOp) : Accounted (s.step limits op) := by
  cases op with
  | check org kind =>
      simp only [Requests.step]
      split
      · exact h
      · intro c hc
        obtain hc | hc := List.mem_append.1 hc
        · exact h c hc
        · obtain rfl := List.mem_singleton.1 hc
          exact .read _
  | abandon k =>
      intro c hc
      exact h c (List.mem_of_mem_eraseIdx hc)
  | insert k =>
      cases hk : s.creations[k]? with
      | none => simpa [Requests.step, hk] using h
      | some c =>
          simp only [Requests.step, hk]
          refine missed_accounts (fun c' hc' => h c' (List.mem_of_mem_eraseIdx hc')) ?_ ?_
          · intro org kind hne
            rw [live_insert, if_neg hne]
            rfl
          · intro r hr
            rw [live_insert, if_pos ⟨rfl, rfl⟩]
            exact hr.gain 1
  | remove kind i now =>
      simp only [Requests.step]
      cases hrow : (s.tables kind.resource)[i]? with
      | none => exact h
      | some row =>
          by_cases hlive : row.deletedAt.isNone = true
          · simp only [hlive, if_true]
            refine missed_accounts h ?_ ?_
            · intro org kind' hne
              have hremove := live_remove hrow hlive now org kind'
              rwa [if_neg hne] at hremove
            · intro r hr
              have hremove := live_remove hrow hlive now row.organizationId kind
              rw [if_pos ⟨rfl, rfl⟩] at hremove
              rw [← hremove] at hr
              exact hr.lose
          · simp only [hlive, if_false, Bool.false_eq_true]
            exact h

end

/-! ## two requests for one page -/

/-- Nobody has a subscription, and the catalog is empty. -/
def freeLimitsOf : OrganizationId → EffectiveLimits := fun _ => freeFallback

def noRows : Requests := { tables := fun _ => [] }

/-- Two organizations create a page each, and one of them removes and creates it again. -/
def apart : List RequestOp :=
  [.check "acme" .statusPage, .check "globex" .statusPage, .insert 1, .insert 0,
    .remove .statusPage 1 100, .check "acme" .statusPage, .insert 0]

end UptimeFlow.Billing
