import UptimeFlow.Json
import UptimeFlow.Monitoring.Schema

/-!
# UptimeFlow.Billing.Webhook

The billing webhook: from a verified Stripe event to the subscription of an
organization and one row of the ledger.

All of an event's writes happen in one transaction, a `Tx`: it runs on the
tables and either gives them back changed or throws, in which case
`handleEvent` goes on with the tables it started from.  Which error a throw
carries is all that is left to tell a replayed event from any other failure.

Numbers are taken to fit their columns, and the audit entry written after the
transaction to succeed.
-/

namespace UptimeFlow.Billing

open Tables
open Monitoring (OrganizationId Instant)

/-! ## rows -/

inductive PlanTier where
  | free | starter | growth | business | enterprise
deriving DecidableEq, Repr

inductive SubscriptionStatus where
  | trialing | active | pastDue | canceled | unpaid | incomplete
deriving DecidableEq, Repr

inductive InvoiceEventType where
  | checkoutCompleted | subscriptionCreated | subscriptionUpdated | subscriptionDeleted
  | paymentSucceeded | paymentFailed
deriving DecidableEq, Repr

structure BillingPlan where
  id : Nat
  tier : PlanTier
  stripePriceId : Option String
deriving DecidableEq, Repr

/-- What a row of `subscriptions` says, its keys `id` and `organizationId` apart. -/
structure Subscription where
  planId : Option Nat := none
  plan : PlanTier
  status : SubscriptionStatus
  stripeCustomerId : Option String := none
  stripeSubscriptionId : Option String := none
  stripePriceId : Option String := none
  seats : Int := 1
  currentPeriodEnd : Option Instant := none
  cancelAtPeriodEnd : Bool := false
  canceledAt : Option Instant := none
deriving DecidableEq, Repr

structure SubscriptionRow extends Subscription where
  id : Nat
  organizationId : OrganizationId
deriving DecidableEq, Repr

/-- One verified Stripe event. -/
structure StripeEvent where
  id : String
  type : String
  object : Json
deriving DecidableEq, Repr

/-- A row of the ledger of processed events. -/
structure InvoiceEvent where
  organizationId : OrganizationId
  subscriptionId : Option Nat
  stripeEventId : String
  type : InvoiceEventType
  stripeInvoiceId : Option String
  amountCents : Option Int
  currency : Option String
  status : Option String
  hostedInvoiceUrl : Option String
  invoicePdfUrl : Option String
  periodStart : Option Instant
  periodEnd : Option Instant
  payload : StripeEvent
deriving DecidableEq, Repr

structure Db where
  organizations : List OrganizationId
  billingPlans : List BillingPlan
  subscriptions : List SubscriptionRow
  invoiceEvents : List InvoiceEvent
deriving DecidableEq, Repr

/-! ## events -/

/-- `HANDLED_STRIPE_EVENTS` -/
def handledStripeEvents : List String :=
  ["checkout.session.completed", "customer.subscription.created", "customer.subscription.updated",
    "customer.subscription.deleted", "invoice.payment_succeeded", "invoice.payment_failed"]

def isHandledStripeEvent (type : String) : Bool := handledStripeEvents.contains type

/-- `EVENT_TYPE_MAP` -/
def eventTypeMap : List (String × InvoiceEventType) :=
  [("checkout.session.completed", .checkoutCompleted),
    ("customer.subscription.created", .subscriptionCreated),
    ("customer.subscription.updated", .subscriptionUpdated),
    ("customer.subscription.deleted", .subscriptionDeleted),
    ("invoice.payment_succeeded", .paymentSucceeded),
    ("invoice.payment_failed", .paymentFailed)]

/-- The ledger's type of an event type. -/
def eventType (type : String) : Option InvoiceEventType := eventTypeMap.lookup type

/-- Every handled event has a type in the ledger, and no other has. -/
theorem eventType_isSome (type : String) :
    (eventType type).isSome = isHandledStripeEvent type := by
  simp only [eventType, eventTypeMap, isHandledStripeEvent, handledStripeEvents, List.lookup_cons,
    List.lookup_nil, List.contains_cons, List.contains_nil]
  split <;> simp_all
  repeat' split <;> simp_all

def mapStatus (stripeStatus : Option String) : SubscriptionStatus :=
  match stripeStatus with
  | some "trialing" => .trialing
  | some "active" => .active
  | some "past_due" | some "paused" => .pastDue
  | some "canceled" => .canceled
  | some "unpaid" => .unpaid
  | _ => .incomplete

/-! ### field extractors -/

def str : Json → Option String
  | .str s => if s.isEmpty then none else some s
  | _ => none

def num : Json → Option Int
  | .num n => some n
  | _ => none

/-- Unix seconds, as milliseconds. -/
def unixToDate (v : Json) : Option Instant := (num v).map (· * 1000)

def metaOrg (object : Json) : Option String := str ((object.get "metadata").get "organizationId")

structure SubItem where
  priceId : Option String
  quantity : Option Int
  periodEnd : Option Instant
deriving DecidableEq, Repr

def firstItem (object : Json) : SubItem :=
  let first := ((object.get "items").get "data").first
  { priceId := str ((first.get "price").get "id"), quantity := num (first.get "quantity"),
    periodEnd := unixToDate (first.get "current_period_end") }

def StripeEvent.customerId (event : StripeEvent) : Option String := str (event.object.get "customer")

def StripeEvent.isInvoice (event : StripeEvent) : Bool :=
  "invoice.".toList.isPrefixOf event.type.toList

/-! ## transactions -/

inductive PrismaError where
  /-- P2002 -/
  | uniqueViolation (target : String)
  /-- P2003 -/
  | foreignKey (target : String)
  | validation
deriving DecidableEq, Repr

/-- Statements of one transaction, run on the tables it sees. -/
abbrev Tx := StateT Db (Except PrismaError)

def Db.subscriptionOf (db : Db) (org : OrganizationId) : Option SubscriptionRow :=
  db.subscriptions.find? (·.organizationId = org)

/-- A Stripe identifier about to be written for `org` is in another organization's row. -/
def Db.claimedElsewhere (db : Db) (org : OrganizationId) (customerId subscriptionId : Option String) :
    Bool :=
  let others := db.subscriptions.filter (·.organizationId ≠ org)
  taken (·.stripeCustomerId) customerId others ||
    taken (·.stripeSubscriptionId) subscriptionId others

/-- The tenant: the event's metadata, else the customer map. -/
def resolveOrgId (db : Db) (object : Json) (customerId : Option String) : Option OrganizationId :=
  match metaOrg object with
  | some org => some org
  | none =>
      match customerId with
      | none => none
      | some customer =>
          (db.subscriptions.find? (·.stripeCustomerId = some customer)).map (·.organizationId)

/-- The event is in the ledger. -/
def Db.recorded (db : Db) (eventId : String) : Bool :=
  db.invoiceEvents.any (·.stripeEventId = eventId)

/-- `invoiceEvent.create`; the database looks at the unique key before the foreign key. -/
def createInvoiceEvent (row : InvoiceEvent) : Tx Unit := fun db =>
  if db.recorded row.stripeEventId then
    .error (.uniqueViolation "stripeEventId")
  else if !db.organizations.contains row.organizationId then .error (.foreignKey "organizationId")
  else .ok ((), { db with invoiceEvents := db.invoiceEvents ++ [row] })

section
variable {db : Db} {row : InvoiceEvent}

theorem createInvoiceEvent_recorded (h : db.recorded row.stripeEventId = true) :
    createInvoiceEvent row db = .error (.uniqueViolation "stripeEventId") := if_pos h

theorem createInvoiceEvent_unknown (h : db.recorded row.stripeEventId = false)
    (horg : row.organizationId ∉ db.organizations) :
    createInvoiceEvent row db = .error (.foreignKey "organizationId") := by
  simp [createInvoiceEvent, h, horg]

theorem createInvoiceEvent_known (h : db.recorded row.stripeEventId = false)
    (horg : row.organizationId ∈ db.organizations) :
    createInvoiceEvent row db =
      .ok ((), { db with invoiceEvents := db.invoiceEvents ++ [row] }) := by
  simp [createInvoiceEvent, h, horg]

end

/-- Write to the subscription of one organization, where it has one. -/
def Db.writeSubscription (db : Db) (org : OrganizationId) (write : Subscription → Subscription) :
    Db :=
  let rows := updateWhere (·.organizationId = org)
    (fun r => { r with toSubscription := write r.toSubscription }) db.subscriptions
  { db with subscriptions := rows }

/-- `subscription.upsert`, writing the given Stripe identifiers where they are given. -/
def upsertSubscription (org : OrganizationId) (customerId subscriptionId : Option String)
    (update : Subscription → Subscription) (create : Subscription) : Tx Unit := fun db =>
  if db.claimedElsewhere org customerId subscriptionId then
    .error (.uniqueViolation "stripeCustomerId, stripeSubscriptionId")
  else
    match db.subscriptionOf org with
    | some _ => .ok ((), db.writeSubscription org update)
    | none =>
        let row : SubscriptionRow :=
          { toSubscription := create, id := freshId (·.id) db.subscriptions, organizationId := org }
        .ok ((), { db with subscriptions := db.subscriptions ++ [row] })

/-- `subscription.updateMany` of one organization, writing no Stripe identifier. -/
def updateSubscriptions (org : OrganizationId) (data : Subscription → Subscription) : Tx Unit :=
  fun db => .ok ((), db.writeSubscription org data)

/-! ## effects -/

/-- The identifiers, where the event carries them; other fields are kept. -/
def Subscription.link (customerId subscriptionId : Option String) (s : Subscription) :
    Subscription :=
  { s with
    stripeCustomerId := customerId <|> s.stripeCustomerId
    stripeSubscriptionId := subscriptionId <|> s.stripeSubscriptionId }

/-- The catalog plan of a price. -/
def Db.planOf (db : Db) (priceId : Option String) : Option BillingPlan :=
  match priceId with
  | none => none
  | some price => db.billingPlans.find? (·.stripePriceId = some price)

/-- The `common` fields of a Stripe subscription object, over a row. -/
def Subscription.common (object : Json) (plan : Option BillingPlan) (s : Subscription) :
    Subscription :=
  let item := firstItem object
  { s with
    status := mapStatus (str (object.get "status"))
    cancelAtPeriodEnd := object.get "cancel_at_period_end" = .bool true
    canceledAt := unixToDate (object.get "canceled_at")
    stripeCustomerId := str (object.get "customer") <|> s.stripeCustomerId
    stripeSubscriptionId := str (object.get "id") <|> s.stripeSubscriptionId
    stripePriceId := item.priceId <|> s.stripePriceId
    planId := plan.map (·.id) <|> s.planId
    plan := (plan.map (·.tier)).getD s.plan
    seats := item.quantity.getD s.seats
    currentPeriodEnd :=
      (unixToDate (object.get "current_period_end") <|> item.periodEnd) <|> s.currentPeriodEnd }

/-- The organization dropped back to the FREE catalog plan. -/
def Subscription.cancel (free : Option BillingPlan) (now : Instant) (s : Subscription) :
    Subscription :=
  { s with
    status := .canceled, plan := .free, planId := free.map (·.id), stripeSubscriptionId := none,
    stripePriceId := none, cancelAtPeriodEnd := false, canceledAt := some now }

def applySubscription (org : OrganizationId) (sub : Json) : Tx Unit := do
  let plan := (← get).planOf (firstItem sub).priceId
  upsertSubscription org (str (sub.get "customer")) (str (sub.get "id"))
    (Subscription.common sub plan)
    (Subscription.common sub plan
      { plan := (plan.map (·.tier)).getD .free, status := .trialing })

def Db.freePlan (db : Db) : Option BillingPlan := db.billingPlans.find? (·.tier = .free)

def applyCancellation (org : OrganizationId) (now : Instant) : Tx Unit := do
  let free := (← get).freePlan
  updateSubscriptions org (Subscription.cancel free now)

/-- Apply the state effect. -/
def applyEffect (event : StripeEvent) (type : InvoiceEventType) (org : OrganizationId)
    (now : Instant) : Tx Unit :=
  match type with
  | .checkoutCompleted =>
      let subscriptionId := str (event.object.get "subscription")
      upsertSubscription org event.customerId subscriptionId
        (Subscription.link event.customerId subscriptionId)
        (Subscription.link event.customerId subscriptionId { plan := .free, status := .incomplete })
  | .subscriptionCreated | .subscriptionUpdated => applySubscription org event.object
  | .subscriptionDeleted => applyCancellation org now
  | .paymentSucceeded => updateSubscriptions org fun s => { s with status := .active }
  | .paymentFailed => updateSubscriptions org fun s => { s with status := .pastDue }

/-! ## handling an event -/

inductive WebhookOutcome where
  | applied | duplicate | ignored
deriving DecidableEq, Repr

def onInvoice {α : Type} (event : StripeEvent) (value : Option α) : Option α :=
  if event.isInvoice then value else none

/-- The ledger row of an event. -/
def ledgerRow (event : StripeEvent) (type : InvoiceEventType) (org : OrganizationId)
    (sub : Option SubscriptionRow) : InvoiceEvent :=
  let object := event.object
  { organizationId := org
    subscriptionId := sub.map (·.id)
    stripeEventId := event.id
    type
    stripeInvoiceId := onInvoice event (str (object.get "id"))
    amountCents := onInvoice event (num (object.get "amount_paid") <|> num (object.get "amount_due"))
    currency := onInvoice event (str (object.get "currency"))
    status := str (object.get "status")
    hostedInvoiceUrl := onInvoice event (str (object.get "hosted_invoice_url"))
    invoicePdfUrl := onInvoice event (str (object.get "invoice_pdf"))
    periodStart := onInvoice event (unixToDate (object.get "period_start"))
    periodEnd := onInvoice event (unixToDate (object.get "period_end"))
    payload := event }

/-- The body of the transaction. -/
def processEvent (event : StripeEvent) (now : Instant) : Tx WebhookOutcome := do
  let db ← get
  match resolveOrgId db event.object event.customerId with
  | none => return .ignored
  | some org =>
      match eventType event.type with
      | none => throw .validation
      | some type =>
          createInvoiceEvent (ledgerRow event type org (db.subscriptionOf org))
          applyEffect event type org now
          return .applied

/-- An event of no organization writes nothing. -/
theorem processEvent_unresolved {db : Db} {event : StripeEvent} (now : Instant)
    (h : resolveOrgId db event.object event.customerId = none) :
    (processEvent event now).run db = .ok (.ignored, db) := by
  simp [processEvent, StateT.run_bind, StateT.run_get, h]
  rfl

/-- Any other is entered in the ledger, and then takes effect. -/
theorem processEvent_resolved {db : Db} {event : StripeEvent} {type : InvoiceEventType}
    {org : OrganizationId} (now : Instant) (htype : eventType event.type = some type)
    (horg : resolveOrgId db event.object event.customerId = some org) :
    (processEvent event now).run db =
      (createInvoiceEvent (ledgerRow event type org (db.subscriptionOf org)) db >>= fun r =>
        (applyEffect event type org now r.2) >>= fun r => .ok (.applied, r.2)) := by
  simp [processEvent, StateT.run_bind, StateT.run_get, htype, horg]
  rfl

/-- One delivery: the event and the clock. -/
structure Delivery where
  event : StripeEvent
  now : Instant
deriving DecidableEq, Repr

def handleEvent (db : Db) (d : Delivery) : Except PrismaError WebhookOutcome × Db :=
  if !isHandledStripeEvent d.event.type then (.ok .ignored, db)
  else
    match (processEvent d.event d.now).run db with
    | .ok (outcome, db') => (.ok outcome, db')
    | .error (.uniqueViolation _) => (.ok .duplicate, db)
    | .error e => (.error e, db)

end UptimeFlow.Billing
