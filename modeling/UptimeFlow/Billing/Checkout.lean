import UptimeFlow.Billing.Plans

/-!
# UptimeFlow.Billing.Checkout

Starting a checkout: the only other writer of subscriptions.

A checkout records the Stripe customer of an organization that has none yet,
and creates the row for it where there is no row.  It touches neither the plan
nor the status of a row that exists.
-/

namespace UptimeFlow.Billing

open Tables
open Monitoring (OrganizationId)

inductive CheckoutError where
  | notFound (message : String)
  | badRequest (message : String)
  | serviceUnavailable (message : String)
  | database (e : PrismaError)
  | provider
deriving DecidableEq, Repr

def PlanTier.label : PlanTier → String
  | .free => "FREE"
  | .starter => "STARTER"
  | .growth => "GROWTH"
  | .business => "BUSINESS"
  | .enterprise => "ENTERPRISE"

/-- One call of `startCheckout`, with what the provider answers: the customer it creates if it
is asked to, and the url of the session. -/
structure CheckoutRequest where
  organizationId : OrganizationId
  tier : PlanTier
  email : Option String
  createdCustomer : Option String
  sessionUrl : Option (Option String)
deriving DecidableEq, Repr

/-- A string that is there and not empty. -/
def truthy (s : Option String) : Option String := s.filter (!·.isEmpty)

/-- Reuse the org's Stripe customer or create one and persist the id. -/
def ensureCustomer (db : Db) (r : CheckoutRequest) : Except CheckoutError String × Db :=
  match truthy ((db.billing r.organizationId).bind (·.stripeCustomerId)) with
  | some customerId => (.ok customerId, db)
  | none =>
      if (truthy r.email).isNone then
        (.error (.badRequest "A billing email is required to start checkout."), db)
      else
        match r.createdCustomer with
        | none => (.error .provider, db)
        | some customerId =>
            let upsert := upsertSubscription r.organizationId (some customerId) none
              (fun s => { s with stripeCustomerId := some customerId })
              { plan := .free, status := .incomplete, stripeCustomerId := some customerId }
            match upsert db with
            | .ok ((), db') => (.ok customerId, db')
            | .error e => (.error (.database e), db)

/-- Open a checkout session for a plan; the url it ends with is the session's. -/
def startCheckout (settings : Settings) (db : Db) (r : CheckoutRequest) :
    Except CheckoutError String × Db :=
  match db.planOfTier r.tier with
  | none => (.error (.notFound ("Plan " ++ r.tier.label ++ " does not exist.")), db)
  | some plan =>
      if (truthy plan.stripePriceId).isNone then
        (.error (.badRequest ("The " ++ (settings.details plan).name ++
          " plan is not available for self-serve checkout.")), db)
      else
        match ensureCustomer db r with
        | (.error e, db') => (.error e, db')
        | (.ok _, db') =>
            match r.sessionUrl with
            | none => (.error .provider, db')
            | some url =>
                match truthy url with
                | none =>
                    (.error (.serviceUnavailable "Stripe did not return a checkout url."), db')
                | some url => (.ok url, db')

/-- What a checkout makes of the subscription of its organization. -/
def checkoutEffect (customerId : String) (s : Option Subscription) : Option Subscription :=
  some { s.getD { plan := .free, status := .incomplete } with stripeCustomerId := some customerId }

/-- A checkout changes nothing, or records a customer for its organization. -/
theorem ensureCustomer_cases (db : Db) (r : CheckoutRequest) :
    (ensureCustomer db r).2 = db ∨
      ∃ customerId, Written db r.organizationId (checkoutEffect customerId) (ensureCustomer db r).2 ∧
        (ensureCustomer db r).2.billingPlans = db.billingPlans := by
  unfold ensureCustomer
  split
  · exact .inl rfl
  · split
    · exact .inl rfl
    · split
      · exact .inl rfl
      · rename_i customerId _
        obtain ⟨-, t, hrun⟩ | ⟨-, db', hrun, hwritten⟩ := upsertSubscription_run db
          r.organizationId (some customerId) none
          (fun s => { s with stripeCustomerId := some customerId })
          { plan := .free, status := .incomplete, stripeCustomerId := some customerId }
        · simp [hrun]
        · refine .inr ⟨customerId, ?_⟩
          simp only [hrun]
          refine ⟨hwritten.congr ?_, (upsertSubscription_frame hrun).2⟩
          cases db.billing r.organizationId <;> rfl

theorem startCheckout_snd (settings : Settings) (db : Db) (r : CheckoutRequest) :
    (startCheckout settings db r).2 = db ∨
      (startCheckout settings db r).2 = (ensureCustomer db r).2 := by
  unfold startCheckout
  repeat' split
  all_goals simp_all

end UptimeFlow.Billing
