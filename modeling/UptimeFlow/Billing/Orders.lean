import UptimeFlow.Billing.Supersession
import UptimeFlow.Overwrites

/-!
# UptimeFlow.Billing.Orders

The events of one Stripe subscription, delivered in different orders.

Nothing in an event or a row says which of two events is the later one, so
each event overwrites its columns with what it carries (`writes`).  For an
organization whose row records the customer, every event of the subscription
is applied whatever came before it, and the row after a sequence of deliveries
is the run of their writes (`run_deliver_columns`).  Which orders agree is then
a question about overwrites, answered in `Overwrites`.
-/

namespace UptimeFlow.Billing

open Tables Runs Overwrites
open Monitoring (OrganizationId Instant)

/-! ## a row as columns -/

inductive Column where
  | planId | plan | status | stripeCustomerId | stripeSubscriptionId | stripePriceId | seats
  | currentPeriodEnd | cancelAtPeriodEnd | canceledAt
deriving DecidableEq, Repr

abbrev Column.Value : Column → Type
  | .planId => Option Nat
  | .plan => PlanTier
  | .status => SubscriptionStatus
  | .stripeCustomerId | .stripeSubscriptionId | .stripePriceId => Option String
  | .seats => Int
  | .currentPeriodEnd | .canceledAt => Option Instant
  | .cancelAtPeriodEnd => Bool

def Subscription.column (s : Subscription) : (c : Column) → c.Value
  | .planId => s.planId
  | .plan => s.plan
  | .status => s.status
  | .stripeCustomerId => s.stripeCustomerId
  | .stripeSubscriptionId => s.stripeSubscriptionId
  | .stripePriceId => s.stripePriceId
  | .seats => s.seats
  | .currentPeriodEnd => s.currentPeriodEnd
  | .cancelAtPeriodEnd => s.cancelAtPeriodEnd
  | .canceledAt => s.canceledAt

/-- A row is its columns. -/
theorem column_injective : Function.Injective Subscription.column := by
  intro s t h
  have hcolumn : ∀ c, s.column c = t.column c := fun c => congrFun h c
  obtain ⟨⟩ := s
  obtain ⟨⟩ := t
  simp only [Subscription.mk.injEq]
  exact ⟨hcolumn .planId, hcolumn .plan, hcolumn .status, hcolumn .stripeCustomerId,
    hcolumn .stripeSubscriptionId, hcolumn .stripePriceId, hcolumn .seats,
    hcolumn .currentPeriodEnd, hcolumn .cancelAtPeriodEnd, hcolumn .canceledAt⟩

/-! ## an event as a write -/

/-- The columns an event of a type sets. -/
def columnsOf (db : Db) (event : StripeEvent) (now : Instant) :
    InvoiceEventType → Write Column.Value
  | .checkoutCompleted => fun
      | .stripeCustomerId => event.customerId.map some
      | .stripeSubscriptionId => (str (event.object.get "subscription")).map some
      | _ => none
  | .subscriptionCreated | .subscriptionUpdated =>
      let item := firstItem event.object
      let plan := db.planOf item.priceId
      fun
      | .planId => plan.map fun p => some p.id
      | .plan => plan.map (·.tier)
      | .status => some (mapStatus (str (event.object.get "status")))
      | .stripeCustomerId => event.customerId.map some
      | .stripeSubscriptionId => (str (event.object.get "id")).map some
      | .stripePriceId => item.priceId.map some
      | .seats => item.quantity
      | .currentPeriodEnd =>
          (unixToDate (event.object.get "current_period_end") <|> item.periodEnd).map some
      | .cancelAtPeriodEnd => some (event.object.get "cancel_at_period_end" = .bool true)
      | .canceledAt => some (unixToDate (event.object.get "canceled_at"))
  | .subscriptionDeleted => fun
      | .planId => some (db.freePlan.map (·.id))
      | .plan => some .free
      | .status => some .canceled
      | .stripeSubscriptionId => some none
      | .stripePriceId => some none
      | .cancelAtPeriodEnd => some false
      | .canceledAt => some (some now)
      | _ => none
  | .paymentSucceeded => fun
      | .status => some .active
      | _ => none
  | .paymentFailed => fun
      | .status => some .pastDue
      | _ => none

/-- The columns a delivery sets in a row that exists. -/
def writes (db : Db) (d : Delivery) : Write Column.Value :=
  match eventType d.event.type with
  | some type => columnsOf db d.event d.now type
  | none => fun _ => none

/-- A kept option is an overwritten one. -/
theorem getD_map_some {α : Type} (new old : Option α) : (new.map some).getD old = (new <|> old) := by
  cases new <;> rfl

/-- **An effect overwrites the columns of its event.** -/
theorem effect_columns (db : Db) (event : StripeEvent) (type : InvoiceEventType) (now : Instant)
    (s : Subscription) : ∃ s', effect db event type now (some s) = some s' ∧
      s'.column = (columnsOf db event now type).apply s.column := by
  cases type with
  | checkoutCompleted =>
      refine ⟨_, rfl, funext fun c => ?_⟩
      cases c <;>
        simp [Write.apply, columnsOf, Subscription.column, Subscription.link, getD_map_some]
  | subscriptionCreated | subscriptionUpdated =>
      refine ⟨_, rfl, funext fun c => ?_⟩
      cases c <;>
        simp [Write.apply, columnsOf, Subscription.column, Subscription.common, getD_map_some,
          StripeEvent.customerId]
      cases db.planOf (firstItem event.object).priceId <;> rfl
  | subscriptionDeleted =>
      refine ⟨_, rfl, funext fun c => ?_⟩
      cases c <;> rfl
  | paymentSucceeded | paymentFailed =>
      refine ⟨_, rfl, funext fun c => ?_⟩
      cases c <;> rfl

/-- What an event sets depends on the catalog only. -/
theorem writes_congr {db db' : Db} (h : db'.billingPlans = db.billingPlans) :
    writes db' = writes db := by
  have hcolumns : columnsOf db' = columnsOf db := by
    funext event now type
    cases type <;> simp only [columnsOf, Db.planOf, Db.freePlan, h]
  funext d
  rw [writes, writes, hcolumns]

/-! ## one Stripe subscription -/

/-- The organization exists, its row records the customer, and no other row holds the customer
or the subscription. -/
structure Db.Serves (db : Db) (org : OrganizationId) (customer subscription : String) : Prop where
  known : org ∈ db.organizations
  linked : ∃ s, db.billing org = some s ∧ s.stripeCustomerId = some customer
  alone : ∀ r ∈ db.others org,
    r.stripeCustomerId ≠ some customer ∧ r.stripeSubscriptionId ≠ some subscription

/-- A handled event of a subscription of a customer of the organization. -/
structure StripeEvent.Of (event : StripeEvent) (org : OrganizationId)
    (customer subscription : String) : Prop where
  handled : isHandledStripeEvent event.type = true
  tenant : metaOrg event.object = some org ∨
    (metaOrg event.object = none ∧ event.customerId = some customer)
  customer : event.customerId = none ∨ event.customerId = some customer
  subscription : ∀ type, eventType event.type = some type →
    (event.identifiers type).2 = none ∨ (event.identifiers type).2 = some subscription

section
variable {db : Db} {org : OrganizationId} {customer subscription : String} {d : Delivery}

theorem Db.Serves.resolves (h : db.Serves org customer subscription) {event : StripeEvent}
    (hof : event.Of org customer subscription) :
    resolveOrgId db event.object event.customerId = some org := by
  obtain hmeta | ⟨hmeta, hcustomer⟩ := hof.tenant
  · simp only [resolveOrgId, hmeta]
  · simp only [resolveOrgId, hmeta, hcustomer]
    -- the row found by the customer is the organization's: no other holds it
    obtain ⟨s, hs, hlinked⟩ := h.linked
    obtain ⟨row, hrow, rfl⟩ := Option.map_eq_some_iff.1 hs
    have hmem : row ∈ db.subscriptions := List.mem_of_find?_eq_some hrow
    cases hfind : db.subscriptions.find? (·.stripeCustomerId = some customer) with
    | none =>
        have hnot := List.find?_eq_none.1 hfind row hmem
        simp [hlinked] at hnot
    | some found =>
        have hholds : found.stripeCustomerId = some customer := by
          have hfound := List.find?_some hfind
          exact of_decide_eq_true hfound
        by_cases hown : found.organizationId = org
        · simp [hown]
        · have hother : found ∈ db.others org := by
            simp [Db.others, List.mem_of_find?_eq_some hfind, hown]
          exact absurd hholds (h.alone found hother).1

theorem Db.Serves.unclaimed (h : db.Serves org customer subscription) {event : StripeEvent}
    (hof : event.Of org customer subscription) {type : InvoiceEventType}
    (htype : eventType event.type = some type) :
    db.claimedElsewhere org (event.identifiers type).1 (event.identifiers type).2 = false := by
  have hcustomer : (event.identifiers type).1 = none ∨
      (event.identifiers type).1 = some customer := by
    have hown := hof.customer
    cases type <;> simp [StripeEvent.identifiers, hown]
  have hnot (key : SubscriptionRow → Option String) (value : String) (k : Option String)
      (hk : k = none ∨ k = some value) (hrows : ∀ r ∈ db.others org, key r ≠ some value) :
      taken key k (db.others org) = false := by
    obtain rfl | rfl := hk
    · rfl
    · simpa [taken] using hrows
  have hfirst := hnot (·.stripeCustomerId) customer _ hcustomer fun r hr => (h.alone r hr).1
  have hsecond := hnot (·.stripeSubscriptionId) subscription _ (hof.subscription type htype)
    fun r hr => (h.alone r hr).2
  rw [Db.others] at hfirst hsecond
  simp only [Db.claimedElsewhere, hfirst, hsecond, Bool.or_false]

/-- A new event of the subscription is applied. -/
theorem Db.Serves.accepts (h : db.Serves org customer subscription)
    (hof : d.event.Of org customer subscription) (hnew : db.recorded d.event.id = false) :
    ∃ type, eventType d.event.type = some type ∧ db.accepts d.event = some (type, org) := by
  have hresolves := h.resolves hof
  have hattributed : Attributed db d.event := ⟨hof.handled, by rw [hresolves]; rfl⟩
  obtain ⟨type, o, htype, -⟩ := hattributed.cases
  refine ⟨type, htype, Db.accepts_eq_some.2 ⟨htype, hresolves, hnew, h.known, ?_⟩⟩
  simp [Db.misreads, htype, hresolves, h.unclaimed hof htype]

/-- **Step lemma**: a new event of the subscription overwrites its columns in the row of the
organization, and leaves the tables ready for the next. -/
theorem Db.Serves.deliver (h : db.Serves org customer subscription)
    (hof : d.event.Of org customer subscription) (hnew : db.recorded d.event.id = false)
    {s : Subscription} (hs : db.billing org = some s) :
    (∃ s', (deliver db d).billing org = some s' ∧ s'.column = overwrite (writes db) s.column d) ∧
      (Billing.deliver db d).Serves org customer subscription ∧
      ∀ id, (Billing.deliver db d).recorded id = true → id = d.event.id ∨ db.recorded id = true := by
  obtain ⟨type, htype, haccepts⟩ := h.accepts hof hnew
  obtain ⟨hbilling, row, hledger, hid⟩ := deliver_accepted haccepts
  obtain ⟨s', heffect, hcolumns⟩ := effect_columns db d.event type d.now s
  have hafter : (Billing.deliver db d).billing org = some s' := by
    rw [hbilling, Function.update_self, hs, heffect]
  have hwrites : s'.column = overwrite (writes db) s.column d := by
    rw [hcolumns, overwrite, writes, htype]
  refine ⟨⟨s', hafter, hwrites⟩, ⟨?_, ?_, ?_⟩, ?_⟩
  · rw [deliver_organizations]
    exact h.known
  · refine ⟨s', hafter, ?_⟩
    have hcolumn := congrFun hwrites .stripeCustomerId
    obtain ⟨t, ht, hlinked⟩ := h.linked
    rw [hs, Option.some.injEq] at ht
    subst ht
    have hset : writes db d .stripeCustomerId = none ∨
        writes db d .stripeCustomerId = some (some customer) := by
      rw [writes, htype]
      cases type <;> obtain hc | hc := hof.customer <;> simp [columnsOf, hc]
    obtain hset | hset := hset
    · rw [overwrite, Write.apply_none hset] at hcolumn
      exact hcolumn.trans hlinked
    · rw [overwrite, Write.apply_some hset] at hcolumn
      exact hcolumn
  · rw [deliver_others haccepts]
    exact h.alone
  · intro id hrecorded
    rw [Db.recorded, hledger, List.any_append, Bool.or_eq_true] at hrecorded
    obtain hold | hlast := hrecorded
    · exact .inr hold
    · have hrow : row.stripeEventId = id := by simpa using hlast
      exact .inl (hrow ▸ hid)

/-- **Run lemma**: the columns of the row after new events of the subscription are the run of
their writes. -/
theorem run_deliver_columns {ds : List Delivery} (h : db.Serves org customer subscription)
    (hof : ∀ d ∈ ds, d.event.Of org customer subscription)
    (hnew : ∀ d ∈ ds, db.recorded d.event.id = false) (honce : (ds.map (·.event.id)).Nodup)
    {s : Subscription} (hs : db.billing org = some s) :
    ∃ s', (run deliver db ds).billing org = some s' ∧
      s'.column = run (overwrite (writes db)) s.column ds := by
  induction ds generalizing db s with
  | nil => exact ⟨s, hs, rfl⟩
  | cons d ds ih =>
      rw [List.map_cons, List.nodup_cons] at honce
      obtain ⟨⟨t, ht, hcolumn⟩, hserves, hledger⟩ :=
        h.deliver (hof d List.mem_cons_self) (hnew d List.mem_cons_self) hs
      have hrest : ∀ e ∈ ds, (Billing.deliver db d).recorded e.event.id = false := by
        intro e he
        by_contra hrecorded
        rw [Bool.not_eq_false] at hrecorded
        obtain hsame | hold := hledger _ hrecorded
        · exact honce.1 (hsame ▸ List.mem_map_of_mem he)
        · rw [hnew e (List.mem_cons_of_mem d he)] at hold
          cases hold
      obtain ⟨s', hs', hrun⟩ := ih hserves (fun e he => hof e (List.mem_cons_of_mem d he)) hrest
        honce.2 ht
      refine ⟨s', hs', ?_⟩
      rw [hrun, writes_congr (deliver_billingPlans db d), run_cons, hcolumn]

/-- **Any two orders of the events of one subscription leave the same row if and only if no two
of them set one column to different values.** -/
theorem deliver_orders_iff {ds : List Delivery} (h : db.Serves org customer subscription)
    (hof : ∀ d ∈ ds, d.event.Of org customer subscription)
    (hnew : ∀ d ∈ ds, db.recorded d.event.id = false) (honce : (ds.map (·.event.id)).Nodup) :
    (∀ ds', ds'.Perm ds → (run deliver db ds').billing org = (run deliver db ds).billing org) ↔
      Agree (writes db) ds := by
  obtain ⟨s, hs, -⟩ := h.linked
  have hcolumns : ∀ ds', ds'.Perm ds → ∃ s', (run deliver db ds').billing org = some s' ∧
      s'.column = run (overwrite (writes db)) s.column ds' := by
    intro ds' hperm
    refine run_deliver_columns h (fun d hd => hof d (hperm.mem_iff.1 hd))
      (fun d hd => hnew d (hperm.mem_iff.1 hd)) ?_ hs
    exact (hperm.map _).nodup_iff.2 honce
  obtain ⟨t, ht, hrun⟩ := hcolumns ds (List.Perm.refl ds)
  rw [← perm_run_iff s.column]
  refine forall_congr' fun ds' => forall_congr' fun hperm => ?_
  obtain ⟨t', ht', hrun'⟩ := hcolumns ds' hperm
  rw [ht, ht', Option.some.injEq, ← hrun, ← hrun', column_injective.eq_iff]

end

/-! ## orders that agree, and orders that do not -/

/-- An invoice event of a subscription of `acme`; it names the customer only. -/
def acmeInvoice (eventId type subscription : String) : StripeEvent where
  id := eventId
  type
  object := .obj [("id", .str "in_1"), ("customer", .str "cus_1"),
    ("subscription", .str subscription)]

/-- The subscription becomes active, and its first invoice is paid. -/
def activated : List Delivery :=
  [⟨acmeEvent "evt_1" "customer.subscription.created" "sub_a" "price_growth", 0⟩,
    ⟨acmeInvoice "evt_2" "invoice.payment_succeeded" "sub_a", 5⟩]

/-- A checkout of `acme`, and the payment of its invoice. -/
def checkoutPaid : List Delivery :=
  [⟨{ id := "evt_1", type := "checkout.session.completed", object := .obj
        [("customer", .str "cus_1"), ("subscription", .str "sub_a"),
          ("metadata", .obj [("organizationId", .str "acme")])] }, 0⟩,
    ⟨acmeInvoice "evt_2" "invoice.payment_succeeded" "sub_a", 5⟩]

/-- An update of the subscription, and its deletion. -/
def updatedDeleted : List Delivery :=
  [⟨acmeEvent "evt_1" "customer.subscription.updated" "sub_a" "price_growth", 0⟩,
    ⟨acmeEvent "evt_2" "customer.subscription.deleted" "sub_a" "price_growth", 5⟩]

theorem serves_checkedOut : checkedOut.Serves "acme" "cus_1" "sub_a" where
  known := by decide
  linked := ⟨_, rfl, rfl⟩
  alone := by decide

theorem of_acmeEvent {eventId type price : String}
    (hhandled : isHandledStripeEvent type = true)
    (hsubscription : eventType type ≠ some .checkoutCompleted) :
    (acmeEvent eventId type "sub_a" price).Of "acme" "cus_1" "sub_a" where
  handled := hhandled
  tenant := .inl (by rfl)
  customer := .inr (by rfl)
  subscription t ht := by
    cases t with
    | checkoutCompleted => exact absurd ht hsubscription
    | subscriptionCreated | subscriptionUpdated => exact .inr (by rfl)
    | subscriptionDeleted | paymentSucceeded | paymentFailed => exact .inl rfl

theorem of_acmeInvoice_paid (eventId : String) :
    (acmeInvoice eventId "invoice.payment_succeeded" "sub_a").Of "acme" "cus_1" "sub_a" where
  handled := by rfl
  tenant := .inr ⟨by rfl, by rfl⟩
  customer := .inr (by rfl)
  subscription t ht := by
    have htype : t = .paymentSucceeded := (Option.some.inj ht).symm
    subst htype
    exact .inl rfl

/-- The creation and the payment of an active subscription may come in either order. -/
theorem deliver_orders_activated :
    (run deliver checkedOut activated.reverse).billing "acme" =
      (run deliver checkedOut activated).billing "acme" := by
  refine (deliver_orders_iff serves_checkedOut ?_ (by decide) (by decide)).2 ?_ _
    (List.reverse_perm activated)
  · intro d hd
    simp only [activated, List.mem_cons, List.not_mem_nil, or_false] at hd
    obtain rfl | rfl := hd
    · exact of_acmeEvent (by decide) (by decide)
    · exact of_acmeInvoice_paid "evt_2"
  · intro a ha b hb c
    simp only [activated, List.mem_cons, List.not_mem_nil, or_false] at ha hb
    obtain rfl | rfl := ha <;> obtain rfl | rfl := hb <;> cases c <;> decide

/-- A late update undoes a deletion; and where no row records the customer, a payment that
comes before the checkout is lost. -/
theorem deliver_orders_differ :
    ((run deliver checkedOut updatedDeleted).standing "acme" = some (.free, .canceled) ∧
      (run deliver checkedOut updatedDeleted.reverse).standing "acme" = some (.growth, .active)) ∧
    ((run deliver { checkedOut with subscriptions := [] } checkoutPaid).standing "acme" =
        some (.free, .active) ∧
      (run deliver { checkedOut with subscriptions := [] } checkoutPaid.reverse).standing "acme" =
        some (.free, .incomplete)) ∧
    ¬ ∀ ds', ds'.Perm updatedDeleted → (run deliver checkedOut ds').billing "acme" =
        (run deliver checkedOut updatedDeleted).billing "acme" := by
  have hdeleted : (run deliver checkedOut updatedDeleted).standing "acme" =
      some (.free, .canceled) := by rfl
  have hupdated : (run deliver checkedOut updatedDeleted.reverse).standing "acme" =
      some (.growth, .active) := by rfl
  refine ⟨⟨hdeleted, hupdated⟩, ⟨by rfl, by rfl⟩, fun hsame => ?_⟩
  have hrows := hsame updatedDeleted.reverse (List.reverse_perm updatedDeleted)
  rw [Db.standing, hrows, ← Db.standing, hdeleted] at hupdated
  revert hupdated
  decide

end UptimeFlow.Billing
