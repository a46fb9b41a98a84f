import UptimeFlow.Billing.Delivery

/-!
# UptimeFlow.Billing.Supersession

Whose events move an organization's plan and status.

An organization has one row, and the row names one Stripe subscription.  A
deletion or an invoice is about a subscription of its own (`about`), which need
not be the one on record once the organization has moved on to another.  The
handlers of both update the organization's row without comparing the two; the
law that only the subscription on record moves the standing (`OwnStanding`)
therefore holds exactly where no event of another one strikes (`Db.strikes`).
-/

namespace UptimeFlow.Billing

open Runs
open Monitoring (OrganizationId Instant)

/-! ## standing -/

/-- The Stripe subscription of an invoice object, where its API version puts it. -/
def invoiceSubscription (object : Json) : Option String :=
  str (object.get "subscription") <|>
    str (((object.get "parent").get "subscription_details").get "subscription")

/-- The Stripe subscription a deletion or an invoice is about.  No handler reads it. -/
def StripeEvent.about (event : StripeEvent) : Option String :=
  match eventType event.type with
  | some .subscriptionDeleted => str (event.object.get "id")
  | some .paymentSucceeded | some .paymentFailed => invoiceSubscription event.object
  | _ => none

/-- The plan and the status in force. -/
def Subscription.standing (s : Subscription) : PlanTier × SubscriptionStatus := (s.plan, s.status)

def Db.standing (db : Db) (org : OrganizationId) : Option (PlanTier × SubscriptionStatus) :=
  (db.billing org).map (·.standing)

/-- The Stripe subscription on record for an organization. -/
def Db.onRecord (db : Db) (org : OrganizationId) : Option String :=
  (db.billing org).bind (·.stripeSubscriptionId)

/-- The row already stands where a deletion or an invoice event would put it. -/
def Subscription.standsAt (s : Subscription) : InvoiceEventType → Bool
  | .subscriptionDeleted => s.plan = .free && s.status = .canceled
  | .paymentSucceeded => s.status = .active
  | .paymentFailed => s.status = .pastDue
  | _ => false

/-- A deletion or an invoice event keeps the standing exactly where it is in place
already. -/
theorem standing_effect (db : Db) (event : StripeEvent) {type : InvoiceEventType}
    (now : Instant) (s : Subscription)
    (htype : type = .subscriptionDeleted ∨ type = .paymentSucceeded ∨ type = .paymentFailed) :
    (effect db event type now (some s)).map (·.standing) = some s.standing ↔
      s.standsAt type = true := by
  obtain rfl | rfl | rfl := htype
  · simp only [effect, Option.map_some, Subscription.cancel, Subscription.standing,
      Subscription.standsAt, Option.some.injEq, Prod.mk.injEq, Bool.and_eq_true, decide_eq_true_eq]
    exact and_congr eq_comm eq_comm
  · simp [effect, Subscription.standing, Subscription.standsAt, eq_comm]
  · simp [effect, Subscription.standing, Subscription.standsAt, eq_comm]

theorem StripeEvent.about_type {event : StripeEvent} {s : String} {type : InvoiceEventType}
    (hs : event.about = some s) (htype : eventType event.type = some type) :
    type = .subscriptionDeleted ∨ type = .paymentSucceeded ∨ type = .paymentFailed := by
  unfold StripeEvent.about at hs
  rw [htype] at hs
  cases type <;> simp at hs ⊢

/-! ## the law -/

/-- A deletion or an invoice changes a standing only where its subscription is on record. -/
def OwnStanding (db : Db) (d : Delivery) : Prop :=
  ∀ s, d.event.about = some s → ∀ org, (deliver db d).standing org ≠ db.standing org →
    db.onRecord org = some s

/-- The event would be applied to a row that records another subscription and does not
stand where the event puts it. -/
def Db.strikes (db : Db) (event : StripeEvent) : Bool :=
  match event.about, db.accepts event with
  | some s, some (type, org) =>
      match db.billing org with
      | some row => row.stripeSubscriptionId ≠ some s && !row.standsAt type
      | none => false
  | _, _ => false

/-- **Only the subscription on record moves the standing, unless the event of another one
strikes.** -/
theorem ownStanding_iff (db : Db) (d : Delivery) :
    OwnStanding db d ↔ db.strikes d.event = false := by
  cases habout : d.event.about with
  | none => simp [OwnStanding, Db.strikes, habout]
  | some s =>
      cases haccepts : db.accepts d.event with
      | none => simp [OwnStanding, Db.strikes, habout, haccepts, deliver_rejected haccepts]
      | some accepted =>
          obtain ⟨type, org⟩ := accepted
          have htype := d.event.about_type habout (Db.accepts_eq_some.1 haccepts).1
          have hbilling := (deliver_accepted haccepts).1
          -- the other organizations keep their rows
          have hother : ∀ o, o ≠ org → (deliver db d).standing o = db.standing o := by
            intro o ho
            rw [Db.standing, Db.standing, hbilling, Function.update_of_ne ho]
          have hown : (deliver db d).standing org =
              (effect db d.event type d.now (db.billing org)).map (·.standing) := by
            rw [Db.standing, hbilling, Function.update_self]
          have hlaw : OwnStanding db d ↔
              ((deliver db d).standing org ≠ db.standing org → db.onRecord org = some s) := by
            constructor
            · exact fun h => h s habout org
            · intro h s' hs' o hne
              rw [habout, Option.some.injEq] at hs'
              subst hs'
              by_cases ho : o = org
              · subst ho
                exact h hne
              · exact absurd (hother o ho) hne
          rw [hlaw, hown]
          cases hrow : db.billing org with
          | none =>
              have hnone : effect db d.event type d.now none = none := by
                obtain rfl | rfl | rfl := htype <;> rfl
              simp [Db.strikes, Db.standing, habout, haccepts, hrow, hnone]
          | some row =>
              have heffect := standing_effect db d.event d.now row htype
              simp only [Db.strikes, Db.standing, Db.onRecord, habout, haccepts, hrow,
                Option.map_some, Option.bind_some, ne_eq, heffect]
              cases row.standsAt type <;> simp

/-- **Only the subscription on record moves an organization's plan and status**, at one event
and along a history, if and only if no event of another subscription strikes. -/
theorem ownStanding_along_iff (db : Db) (ds : List Delivery) :
    Along deliver OwnStanding db ds ↔
      Along deliver (fun db d => db.strikes d.event = false) db ds :=
  along_iff (I := fun _ => True) (fun _ _ _ _ => trivial) (fun db d _ => ownStanding_iff db d)
    trivial

/-! ## a late deletion -/

/-- A Stripe subscription event of the organization `acme`. -/
def acmeEvent (eventId type subscription price : String) : StripeEvent where
  id := eventId
  type
  object := .obj [("id", .str subscription), ("customer", .str "cus_1"), ("status", .str "active"),
    ("metadata", .obj [("organizationId", .str "acme")]),
    ("items", .obj [("data", .arr [.obj [("price", .obj [("id", .str price)])]])])]

/-- An organization whose checkout has been recorded, and the catalog. -/
def checkedOut : Db where
  organizations := ["acme"]
  billingPlans := [⟨0, .free, none⟩, ⟨1, .growth, some "price_growth"⟩,
    ⟨2, .business, some "price_business"⟩]
  subscriptions := [{ id := 0, organizationId := "acme", plan := .free, status := .incomplete,
                      stripeCustomerId := some "cus_1" }]
  invoiceEvents := []

/-- It subscribes as `sub_a`, and moves to `sub_b`. -/
def moved : List Delivery :=
  [⟨acmeEvent "evt_1" "customer.subscription.created" "sub_a" "price_growth", 0⟩,
    ⟨acmeEvent "evt_2" "customer.subscription.created" "sub_b" "price_business", 10⟩]

/-- The deletion of `sub_a` comes late. -/
def lateDeletion : Delivery :=
  ⟨acmeEvent "evt_3" "customer.subscription.deleted" "sub_a" "price_growth", 20⟩

/-- The late deletion of `sub_a` cancels the plan the organization has under `sub_b`. -/
theorem not_ownStanding_lateDeletion :
    (run deliver checkedOut moved).onRecord "acme" = some "sub_b" ∧
      (run deliver checkedOut moved).standing "acme" = some (.business, .active) ∧
      (deliver (run deliver checkedOut moved) lateDeletion).standing "acme" =
        some (.free, .canceled) ∧
      ¬ Along deliver OwnStanding checkedOut (moved ++ [lateDeletion]) := by
  have hrecord : (run deliver checkedOut moved).onRecord "acme" = some "sub_b" := by rfl
  have hbefore : (run deliver checkedOut moved).standing "acme" = some (.business, .active) := by rfl
  have hafter : (deliver (run deliver checkedOut moved) lateDeletion).standing "acme" =
      some (.free, .canceled) := by rfl
  refine ⟨hrecord, hbefore, hafter, fun hlaw => ?_⟩
  rw [along_append] at hlaw
  have hchange : (deliver (run deliver checkedOut moved) lateDeletion).standing "acme" ≠
      (run deliver checkedOut moved).standing "acme" := by
    rw [hbefore, hafter]
    decide
  have hown := hlaw.2.1 "sub_a" (by rfl) "acme" hchange
  rw [hrecord] at hown
  revert hown
  decide

end UptimeFlow.Billing
