import UptimeFlow.Billing.Delivery

/-!
# UptimeFlow.Billing.Plans

The limits an organization has under its plan.

`getEffectiveLimits` reads the catalog row a subscription points to, or the one
of its denormalized tier, and never its status.  `Mirrors` is what the writers
keep of the two: the tier on the row is the tier of the plan it points to.
Under it the limits are those of the FREE plan exactly when the tier is FREE.
-/

namespace UptimeFlow.Billing

open Tables
open Monitoring (OrganizationId)

/-- What the catalog says of a plan. -/
structure PlanDetails where
  name : String
  /-- `none` is unlimited. -/
  monitorLimit : Option Int
  seatLimit : Option Int
  statusPageLimit : Option Int
  smsEnabled : Bool := false
  voiceEnabled : Bool := false
  ssoEnabled : Bool := false
  advancedAnalytics : Bool := false
  customDomainsEnabled : Bool := false
  meteredAllowances : Option (List (String × Int)) := none
deriving DecidableEq, Repr

/-- The columns that no event and no checkout writes: the details of the catalog plans, and the
monitor limit set on a subscription by hand. -/
structure Settings where
  details : BillingPlan → PlanDetails
  monitorLimit : OrganizationId → Option Int := fun _ => none

structure EffectiveLimits where
  tier : PlanTier
  planName : String
  monitorLimit : Option Int
  seatLimit : Option Int
  statusPageLimit : Option Int
  smsEnabled : Bool
  voiceEnabled : Bool
  ssoEnabled : Bool
  advancedAnalytics : Bool
  customDomainsEnabled : Bool
  meteredAllowances : List (String × Int)
deriving DecidableEq, Repr

/-- `FREE_FALLBACK` -/
def freeFallback : EffectiveLimits where
  tier := .free
  planName := "Free"
  monitorLimit := some 10
  seatLimit := some 1
  statusPageLimit := some 1
  smsEnabled := false
  voiceEnabled := false
  ssoEnabled := false
  advancedAnalytics := false
  customDomainsEnabled := false
  meteredAllowances := [("sms", 0), ("voice_minutes", 0)]

/-- The catalog plan with an identifier. -/
def Db.planById (db : Db) (id : Nat) : Option BillingPlan := db.billingPlans.find? (·.id = id)

/-- The catalog plan of a tier. -/
def Db.planOfTier (db : Db) (tier : PlanTier) : Option BillingPlan :=
  db.billingPlans.find? (·.tier = tier)

/-- The limits of a plan, with the monitor limit of a subscription where it has its own. -/
def limitsOf (details : BillingPlan → PlanDetails) (monitorLimit : Option Int) :
    Option BillingPlan → EffectiveLimits
  | none => freeFallback
  | some plan =>
      let d := details plan
      { tier := plan.tier
        planName := d.name
        monitorLimit := monitorLimit <|> d.monitorLimit
        seatLimit := d.seatLimit
        statusPageLimit := d.statusPageLimit
        smsEnabled := d.smsEnabled
        voiceEnabled := d.voiceEnabled
        ssoEnabled := d.ssoEnabled
        advancedAnalytics := d.advancedAnalytics
        customDomainsEnabled := d.customDomainsEnabled
        meteredAllowances := d.meteredAllowances.getD [] }

/-- The plan a subscription points to, else the one of its tier. -/
def Db.planInForce (db : Db) (subscription : Option Subscription) : Option BillingPlan :=
  (subscription.bind (·.planId)).bind db.planById <|>
    db.planOfTier ((subscription.map (·.plan)).getD .free)

/-- The monitor limit set on the subscription, if there is one. -/
def Settings.override (settings : Settings) (db : Db) (org : OrganizationId) : Option Int :=
  (db.billing org).bind fun _ => settings.monitorLimit org

def getEffectiveLimits (settings : Settings) (db : Db) (org : OrganizationId) : EffectiveLimits :=
  limitsOf settings.details (settings.override db org) (db.planInForce (db.billing org))

/-- What the organization would have under the FREE plan. -/
def freeLimits (settings : Settings) (db : Db) (org : OrganizationId) : EffectiveLimits :=
  limitsOf settings.details (settings.override db org) (db.planOfTier .free)

/-! ## the catalog and the rows -/

/-- The keys of the catalog: a plan is known by its identifier, and by its tier. -/
structure CatalogOk (plans : List BillingPlan) : Prop where
  ids : (plans.map (·.id)).Nodup
  tiers : (plans.map (·.tier)).Nodup

/-- The tier on the row is that of the plan it points to; a row that points to none is FREE. -/
def Subscription.Mirrors (plans : List BillingPlan) (s : Subscription) : Prop :=
  (s.planId = none ∧ s.plan = .free) ∨ ∃ p ∈ plans, s.planId = some p.id ∧ s.plan = p.tier

/-- A plan looked up in the catalog is mirrored by the row that takes it. -/
theorem Db.planOf_mem {db : Db} {price : Option String} {p : BillingPlan}
    (h : db.planOf price = some p) : p ∈ db.billingPlans := by
  unfold Db.planOf at h
  split at h
  · cases h
  · exact List.mem_of_find?_eq_some h

theorem limitsOf_tier (details : BillingPlan → PlanDetails) (monitorLimit : Option Int)
    (plan : Option BillingPlan) :
    (limitsOf details monitorLimit plan).tier = (plan.map (·.tier)).getD .free := by
  cases plan <;> rfl

/-- **A subscription has the limits of the FREE plan exactly when its tier is FREE.** -/
theorem getEffectiveLimits_free_iff {db : Db} (hcatalog : CatalogOk db.billingPlans)
    (settings : Settings) {org : OrganizationId} {s : Subscription} (hs : db.billing org = some s)
    (hmirrors : s.Mirrors db.billingPlans) :
    getEffectiveLimits settings db org = freeLimits settings db org ↔ s.plan = .free := by
  obtain ⟨hid, htier⟩ | ⟨p, hp, hid, htier⟩ := hmirrors
  · have hforce : db.planInForce (some s) = db.planOfTier .free := by
      simp [Db.planInForce, hid, htier]
    simp [getEffectiveLimits, freeLimits, hs, hforce, htier]
  · have hbyId : db.planById p.id = some p := find?_of_nodup hcatalog.ids hp
    have hbyTier : db.planOfTier p.tier = some p := find?_of_nodup hcatalog.tiers hp
    have hforce : db.planInForce (some s) = some p := by simp [Db.planInForce, hid, hbyId]
    rw [getEffectiveLimits, freeLimits, hs, hforce, htier]
    constructor
    · intro hlimits
      have htiers := congrArg EffectiveLimits.tier hlimits
      rw [limitsOf_tier, limitsOf_tier, Option.map_some, Option.getD_some] at htiers
      cases hfree : db.planOfTier .free with
      | none => rw [htiers, hfree]; rfl
      | some q =>
          have hq := List.find?_some hfree
          rw [htiers, hfree]
          exact of_decide_eq_true hq
    · intro hfree
      rw [hfree] at hbyTier
      rw [hbyTier]

end UptimeFlow.Billing
