import UptimeFlow.Billing.Checkout
import UptimeFlow.Billing.Supersession

/-!
# UptimeFlow.Billing.Entitlements

Paid limits and the status of the subscription that pays for them.

The limits follow the plan on the row, the status is written beside it.  A
deletion drops both, and a row is created FREE and `INCOMPLETE`; but a
subscription event writes the plan of its price whatever status it carries.
The law that only a paying status has paid limits (`Entitled`) holds along a
run exactly where no such event leaves a paid plan behind (`Db.leavesPaid`).
-/

namespace UptimeFlow.Billing

open Tables Runs
open Monitoring (OrganizationId Instant)

/-- TRIALING, ACTIVE or PAST_DUE. -/
def SubscriptionStatus.paying : SubscriptionStatus → Bool
  | .trialing | .active | .pastDue => true
  | .incomplete | .unpaid | .canceled => false

/-- In a status that does not pay, an organization has the limits of the FREE plan. -/
def Entitled (settings : Settings) (db : Db) (org : OrganizationId) : Prop :=
  ∀ s, db.billing org = some s → s.status.paying = false →
    getEffectiveLimits settings db org = freeLimits settings db org

/-! ## runs -/

inductive BillingOp where
  | webhook (d : Delivery)
  | checkout (r : CheckoutRequest)
deriving DecidableEq, Repr

def billingStep (settings : Settings) (db : Db) : BillingOp → Db
  | .webhook d => deliver db d
  | .checkout r => (startCheckout settings db r).2

/-- The tier an applied subscription event leaves on the row. -/
def tierLeft (db : Db) (event : StripeEvent) (s : Option Subscription) : PlanTier :=
  ((db.planOf (firstItem event.object).priceId).map (·.tier)).getD ((s.map (·.plan)).getD .free)

/-- The event is a subscription event about to be applied, its status does not pay, and the
tier it leaves is a paid one. -/
def Db.leavesPaid (db : Db) (event : StripeEvent) : Bool :=
  match db.accepts event with
  | some (.subscriptionCreated, org) | some (.subscriptionUpdated, org) =>
      !(mapStatus (str (event.object.get "status"))).paying &&
        tierLeft db event (db.billing org) ≠ .free
  | _ => false

def BillingOp.leavesPaid (db : Db) : BillingOp → Bool
  | .webhook d => db.leavesPaid d.event
  | .checkout _ => false

/-! ## rows -/

/-- A paying status, or the FREE tier. -/
def Subscription.Lawful (s : Subscription) : Prop := s.status.paying = true ∨ s.plan = .free

/-- Every row mirrors its plan, and pays for it. -/
structure BillingOk (db : Db) : Prop where
  catalog : CatalogOk db.billingPlans
  mirrors : ∀ org s, db.billing org = some s → s.Mirrors db.billingPlans
  lawful : ∀ org s, db.billing org = some s → s.Lawful

/-- Under a row that mirrors its plan, the law is about the row. -/
theorem entitled_iff {db : Db} (hcatalog : CatalogOk db.billingPlans) (settings : Settings)
    {org : OrganizationId} {s : Subscription} (hs : db.billing org = some s)
    (hmirrors : s.Mirrors db.billingPlans) : Entitled settings db org ↔ s.Lawful := by
  have hfree := getEffectiveLimits_free_iff hcatalog settings hs hmirrors
  have hlaw : Entitled settings db org ↔ (s.status.paying = false →
      getEffectiveLimits settings db org = freeLimits settings db org) := by
    constructor
    · exact fun h => h s hs
    · intro h t ht
      rw [hs, Option.some.injEq] at ht
      exact ht ▸ h
  rw [hlaw, hfree, Subscription.Lawful]
  cases s.status.paying <;> simp

/-- A row that takes a plan of the catalog, or keeps its own, mirrors it. -/
theorem Subscription.Mirrors.common {db : Db} {s : Subscription}
    (h : s.Mirrors db.billingPlans) (object : Json) (price : Option String) :
    (s.common object (db.planOf price)).Mirrors db.billingPlans := by
  cases hplan : db.planOf price with
  | none => exact h
  | some p => exact .inr ⟨p, Db.planOf_mem hplan, rfl, rfl⟩

/-- The row of the FREE plan. -/
theorem mirrors_free {plans : List BillingPlan} {s : Subscription} (hid : s.planId = none)
    (hplan : s.plan = .free) : s.Mirrors plans := .inl ⟨hid, hplan⟩

section
variable {db : Db} {event : StripeEvent} {now : Instant} {old : Option Subscription}
  {s' : Subscription}

/-- **What an event writes mirrors its plan.** -/
theorem effect_mirrors {type : InvoiceEventType}
    (hold : ∀ s, old = some s → s.Mirrors db.billingPlans)
    (h : effect db event type now old = some s') : s'.Mirrors db.billingPlans := by
  have hdefault : ∀ status, (old.getD { plan := .free, status }).Mirrors db.billingPlans := by
    intro status
    cases old with
    | none => exact mirrors_free rfl rfl
    | some s => exact hold s rfl
  cases type with
  | checkoutCompleted =>
      cases h
      exact hdefault .incomplete
  | subscriptionCreated | subscriptionUpdated =>
      cases h
      exact (hdefault .trialing).common _ _
  | subscriptionDeleted =>
      obtain ⟨s, -, rfl⟩ := Option.map_eq_some_iff.1 h
      cases hfree : db.freePlan with
      | none => exact mirrors_free rfl rfl
      | some p =>
          have htier : p.tier = .free := by
            have hfound := List.find?_some hfree
            exact of_decide_eq_true hfound
          exact .inr ⟨p, List.mem_of_find?_eq_some hfree, rfl, htier.symm⟩
  | paymentSucceeded | paymentFailed =>
      obtain ⟨s, hs, rfl⟩ := Option.map_eq_some_iff.1 h
      exact hold s hs

/-- A subscription event writes the status it carries and the tier of its price. -/
theorem effect_subscription {type : InvoiceEventType}
    (htype : type = .subscriptionCreated ∨ type = .subscriptionUpdated)
    (h : effect db event type now old = some s') :
    s'.status = mapStatus (str (event.object.get "status")) ∧ s'.plan = tierLeft db event old := by
  obtain rfl | rfl := htype
  all_goals
    cases h
    refine ⟨rfl, ?_⟩
    cases old <;> cases hplan : db.planOf (firstItem event.object).priceId <;>
      simp [Subscription.common, tierLeft, hplan]

/-- Every other event leaves a paying status or the FREE tier. -/
theorem effect_lawful {type : InvoiceEventType}
    (htype : ¬ (type = .subscriptionCreated ∨ type = .subscriptionUpdated))
    (hold : ∀ s, old = some s → s.Lawful) (h : effect db event type now old = some s') :
    s'.Lawful := by
  cases type with
  | checkoutCompleted =>
      cases h
      cases old with
      | none => exact .inr rfl
      | some s => exact hold s rfl
  | subscriptionCreated => exact absurd (.inl rfl) htype
  | subscriptionUpdated => exact absurd (.inr rfl) htype
  | subscriptionDeleted =>
      obtain ⟨s, -, rfl⟩ := Option.map_eq_some_iff.1 h
      exact .inr rfl
  | paymentSucceeded | paymentFailed =>
      obtain ⟨s, -, rfl⟩ := Option.map_eq_some_iff.1 h
      exact .inl rfl

end

/-! ## the law along a run -/

section
variable {settings : Settings} {db : Db}

/-- What one operation leaves on a row: the row as it was, an effect of an accepted event, or a
customer recorded by a checkout. -/
theorem billingStep_cases (settings : Settings) (db : Db) (op : BillingOp) (org : OrganizationId) :
    (billingStep settings db op).billing org = db.billing org ∨
      (∃ d type, op = .webhook d ∧ db.accepts d.event = some (type, org) ∧
        (billingStep settings db op).billing org =
          effect db d.event type d.now (db.billing org)) ∨
      ∃ customerId, (billingStep settings db op).billing org =
        checkoutEffect customerId (db.billing org) := by
  cases op with
  | webhook d =>
      obtain hsame | ⟨type, haccepts, heffect⟩ := deliver_billing db d org
      · exact .inl hsame
      · exact .inr (.inl ⟨d, type, rfl, haccepts, heffect⟩)
  | checkout r =>
      have hstep : (billingStep settings db (.checkout r)).billing =
          ((startCheckout settings db r).2).billing := rfl
      rw [hstep]
      obtain hsame | hensure := startCheckout_snd settings db r
      · exact .inl (by rw [hsame])
      · obtain hsame | ⟨customerId, hwritten, -⟩ := ensureCustomer_cases db r
        · exact .inl (by rw [hensure, hsame])
        · rw [hensure, hwritten.billing]
          by_cases ho : org = r.organizationId
          · subst ho
            exact .inr (.inr ⟨customerId, by rw [Function.update_self]⟩)
          · exact .inl (by rw [Function.update_of_ne ho])

theorem billingStep_billingPlans (settings : Settings) (db : Db) (op : BillingOp) :
    (billingStep settings db op).billingPlans = db.billingPlans := by
  cases op with
  | webhook d => exact deliver_billingPlans db d
  | checkout r =>
      have hstep : billingStep settings db (.checkout r) = (startCheckout settings db r).2 := rfl
      rw [hstep]
      obtain hsame | hensure := startCheckout_snd settings db r
      · rw [hsame]
      · obtain hsame | ⟨_, -, hplans⟩ := ensureCustomer_cases db r
        · rw [hensure, hsame]
        · rw [hensure, hplans]

/-- A checkout keeps plan and status. -/
theorem checkoutEffect_row {customerId : String} {old : Option Subscription} {s' : Subscription}
    (h : checkoutEffect customerId old = some s') :
    (old = none ∧ s'.planId = none ∧ s'.plan = .free) ∨
      ∃ s, old = some s ∧ s'.planId = s.planId ∧ s'.plan = s.plan ∧ s'.status = s.status := by
  cases h
  cases old with
  | none => exact .inl ⟨rfl, rfl, rfl⟩
  | some s => exact .inr ⟨s, rfl, rfl, rfl, rfl⟩

theorem BillingOk.mirrors_step (h : BillingOk db) (op : BillingOp) {org : OrganizationId}
    {s' : Subscription} (hs' : (billingStep settings db op).billing org = some s') :
    s'.Mirrors db.billingPlans := by
  obtain hsame | ⟨d, type, -, -, heffect⟩ | ⟨customerId, hcheckout⟩ :=
    billingStep_cases settings db op org
  · exact h.mirrors org s' (hsame ▸ hs')
  · exact effect_mirrors (fun s hs => h.mirrors org s hs) (heffect ▸ hs')
  · obtain ⟨-, hid, hplan⟩ | ⟨s, hs, hid, hplan, -⟩ := checkoutEffect_row (hcheckout ▸ hs')
    · exact mirrors_free hid hplan
    · have hmirrors := h.mirrors org s hs
      rwa [Subscription.Mirrors, hid, hplan]

/-- After an operation every row pays for its plan, exactly where no paid plan is left. -/
theorem BillingOk.lawful_step_iff (h : BillingOk db) (op : BillingOp) :
    (∀ org s', (billingStep settings db op).billing org = some s' → s'.Lawful) ↔
      op.leavesPaid db = false := by
  constructor
  · intro hlawful
    cases op with
    | checkout r => rfl
    | webhook d =>
        rw [BillingOp.leavesPaid, Db.leavesPaid]
        have hsubscription : ∀ type org, db.accepts d.event = some (type, org) →
            (type = .subscriptionCreated ∨ type = .subscriptionUpdated) →
            (!(mapStatus (str (d.event.object.get "status"))).paying &&
              decide (tierLeft db d.event (db.billing org) ≠ .free)) = false := by
          intro type org haccepts htype
          obtain ⟨s', heffect⟩ : ∃ s', effect db d.event type d.now (db.billing org) = some s' := by
            obtain rfl | rfl := htype <;> exact ⟨_, rfl⟩
          have hafter : (billingStep settings db (.webhook d)).billing org = some s' := by
            have hbilling := (deliver_accepted haccepts).1
            rw [billingStep, hbilling, Function.update_self, heffect]
          obtain ⟨hstatus, hplan⟩ := effect_subscription htype heffect
          have hrow := hlawful org s' hafter
          rw [Subscription.Lawful, hstatus, hplan] at hrow
          obtain hpaying | hfree := hrow
          · simp [hpaying]
          · simp [hfree]
        split
        · rename_i org haccepts
          exact hsubscription _ org haccepts (.inl rfl)
        · rename_i org haccepts
          exact hsubscription _ org haccepts (.inr rfl)
        · rfl
  · intro hspared org s' hs'
    obtain hsame | ⟨d, type, rfl, haccepts, heffect⟩ | ⟨customerId, hcheckout⟩ :=
      billingStep_cases settings db op org
    · exact h.lawful org s' (hsame ▸ hs')
    · rw [heffect] at hs'
      by_cases htype : type = .subscriptionCreated ∨ type = .subscriptionUpdated
      · obtain ⟨hstatus, hplan⟩ := effect_subscription htype hs'
        have hcondition : (!(mapStatus (str (d.event.object.get "status"))).paying &&
            decide (tierLeft db d.event (db.billing org) ≠ .free)) = false := by
          unfold BillingOp.leavesPaid Db.leavesPaid at hspared
          obtain rfl | rfl := htype <;> simpa [haccepts] using hspared
        rw [Subscription.Lawful, hstatus, hplan]
        cases hpaying : (mapStatus (str (d.event.object.get "status"))).paying with
        | true => exact .inl rfl
        | false =>
            rw [hpaying] at hcondition
            exact .inr (by simpa using hcondition)
      · exact effect_lawful htype (fun s hs => h.lawful org s hs) hs'
    · obtain ⟨-, -, hplan⟩ | ⟨s, hs, -, hplan, hstatus⟩ := checkoutEffect_row (hcheckout ▸ hs')
      · exact .inr hplan
      · have hrow := h.lawful org s hs
        rwa [Subscription.Lawful, hplan, hstatus]

/-- **Along every run of events and checkouts, paid limits come with a paying status if and only
if no subscription event in a status that does not pay leaves a paid plan.** -/
theorem entitled_along_iff (settings : Settings) {db : Db} (hcatalog : CatalogOk db.billingPlans)
    (hempty : db.subscriptions = []) (ops : List BillingOp) :
    Along (billingStep settings)
        (fun db op => ∀ org, Entitled settings (billingStep settings db op) org) db ops ↔
      Along (billingStep settings) (fun db op => op.leavesPaid db = false) db ops := by
  have hnone : ∀ org, db.billing org = none := by
    intro org
    rw [Db.billing, Db.subscriptionOf, hempty]
    rfl
  have hok : BillingOk db := ⟨hcatalog, fun org s hs => by simp [hnone] at hs,
    fun org s hs => by simp [hnone] at hs⟩
  refine along_iff (I := BillingOk) ?_ ?_ hok
  · intro db op h hspared
    have hplans := billingStep_billingPlans settings db op
    refine ⟨by rw [hplans]; exact h.catalog, fun org s' hs' => ?_, ?_⟩
    · rw [hplans]
      exact h.mirrors_step op hs'
    · exact (h.lawful_step_iff op).2 hspared
  · intro db op h
    have hplans := billingStep_billingPlans settings db op
    have hlawful : (∀ org s', (billingStep settings db op).billing org = some s' → s'.Lawful) ↔
        op.leavesPaid db = false := h.lawful_step_iff op
    rw [← hlawful]
    have hrow : ∀ org s', (billingStep settings db op).billing org = some s' →
        (Entitled settings (billingStep settings db op) org ↔ s'.Lawful) := by
      intro org s' hs'
      refine entitled_iff (hplans ▸ h.catalog) settings hs' ?_
      rw [hplans]
      exact h.mirrors_step op hs'
    constructor
    · exact fun hentitled org s' hs' => (hrow org s' hs').1 (hentitled org)
    · intro hlawful org s' hs'
      exact (hrow org s' hs').2 (hlawful org s' hs') s' hs'

end

/-! ## a paid plan that is not paid for -/

/-- The seeded limits of the catalog of `checkedOut`. -/
def seeded : Settings where
  details p := match p.tier with
    | .free => { name := "Free", monitorLimit := some 10, seatLimit := some 1,
                 statusPageLimit := some 1 }
    | .growth => { name := "Growth", monitorLimit := some 250, seatLimit := some 20,
                   statusPageLimit := some 10, smsEnabled := true, customDomainsEnabled := true }
    | _ => { name := "Business", monitorLimit := none, seatLimit := none, statusPageLimit := none,
             smsEnabled := true, voiceEnabled := true, ssoEnabled := true,
             advancedAnalytics := true, customDomainsEnabled := true }

/-- The organization and the catalog, before any checkout. -/
def unsubscribed : Db := { checkedOut with subscriptions := [] }

/-- `acme` starts a checkout. -/
def acmeCheckout : CheckoutRequest where
  organizationId := "acme"
  tier := .growth
  email := some "billing@acme.test"
  createdCustomer := some "cus_1"
  sessionUrl := some (some "https://checkout.test/s")

/-- A subscription of `acme` to the growth plan, in a status. -/
def acmeStatus (eventId status : String) : Delivery where
  event := {
    id := eventId
    type := "customer.subscription.created"
    object := .obj [("id", .str "sub_a"), ("customer", .str "cus_1"), ("status", .str status),
      ("metadata", .obj [("organizationId", .str "acme")]),
      ("items", .obj [("data", .arr [.obj [("price", .obj [("id", .str "price_growth")])]])])] }
  now := 0

theorem entitled_along_activated :
    Along (billingStep seeded)
      (fun db op => ∀ org, Entitled seeded (billingStep seeded db op) org) unsubscribed
      [.checkout acmeCheckout, .webhook (acmeStatus "evt_1" "active")] :=
  (entitled_along_iff seeded ⟨by decide, by decide⟩ rfl _).2 (by decide)

/-- A subscription whose first payment is still open, or failed for good, has the limits of its
plan. -/
theorem not_entitled_incomplete :
    (run (billingStep seeded) unsubscribed
        [.checkout acmeCheckout, .webhook (acmeStatus "evt_1" "incomplete")]).standing "acme" =
      some (.growth, .incomplete) ∧
    (getEffectiveLimits seeded (run (billingStep seeded) unsubscribed
        [.checkout acmeCheckout, .webhook (acmeStatus "evt_1" "incomplete")]) "acme").monitorLimit =
      some 250 ∧
    ¬ Along (billingStep seeded)
      (fun db op => ∀ org, Entitled seeded (billingStep seeded db op) org) unsubscribed
      [.checkout acmeCheckout, .webhook (acmeStatus "evt_1" "incomplete")] := by
  refine ⟨by rfl, by rfl, fun hlaw => ?_⟩
  have hentitled := hlaw.2.1 "acme" _ (by rfl) (by rfl)
  have hlimits := congrArg EffectiveLimits.monitorLimit hentitled
  revert hlimits
  decide

end UptimeFlow.Billing
