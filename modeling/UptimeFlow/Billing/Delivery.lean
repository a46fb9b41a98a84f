import Mathlib.Logic.Function.Basic
import UptimeFlow.Billing.Webhook
import UptimeFlow.Redelivery

/-!
# UptimeFlow.Billing.Delivery

What one delivery of an event does, and what redeliveries add to it.

Abstractly billing is a map from organizations to subscriptions, `Db.billing`,
and an event changes it at its own organization (`effect`).  The transaction
of an accepted delivery is exactly that change and one ledger row (`Applied`).

A unique violation is taken for a replay.  The ledger's own key is one source
of it; the Stripe identifiers of another organization's subscription are the
other (`Db.misreads`), and there an event is dropped that was never applied.
Without the second, `Redelivery.run_firsts` makes every repetition harmless.
-/

namespace UptimeFlow.Billing

open Tables Runs Redelivery
open Monitoring (OrganizationId Instant)

/-! ## billing by organization -/

/-- What is recorded of an organization's subscription, if it has one. -/
def Db.billing (db : Db) (org : OrganizationId) : Option Subscription :=
  (db.subscriptionOf org).map (·.toSubscription)

/-- What an event makes of the subscription of its organization. -/
def effect (db : Db) (event : StripeEvent) (type : InvoiceEventType) (now : Instant)
    (s : Option Subscription) : Option Subscription :=
  match type with
  | .checkoutCompleted =>
      some ((s.getD { plan := .free, status := .incomplete }).link event.customerId
        (str (event.object.get "subscription")))
  | .subscriptionCreated | .subscriptionUpdated =>
      some ((s.getD { plan := .free, status := .trialing }).common event.object
        (db.planOf (firstItem event.object).priceId))
  | .subscriptionDeleted => s.map (Subscription.cancel db.freePlan now)
  | .paymentSucceeded => s.map fun s => { s with status := .active }
  | .paymentFailed => s.map fun s => { s with status := .pastDue }

/-- The Stripe identifiers an event writes. -/
def StripeEvent.identifiers (event : StripeEvent) : InvoiceEventType → Option String × Option String
  | .checkoutCompleted => (event.customerId, str (event.object.get "subscription"))
  | .subscriptionCreated | .subscriptionUpdated => (event.customerId, str (event.object.get "id"))
  | _ => (none, none)

/-- A write to the subscription of one organization, and to nothing else. -/
structure Written (db : Db) (org : OrganizationId)
    (write : Option Subscription → Option Subscription) (db' : Db) : Prop where
  billing : db'.billing = Function.update db.billing org (write (db.billing org))
  invoiceEvents : db'.invoiceEvents = db.invoiceEvents
  organizations : db'.organizations = db.organizations
  owners : ∀ r' ∈ db'.subscriptions,
    r'.organizationId = org ∨ ∃ r ∈ db.subscriptions, r.organizationId = r'.organizationId

/-! ## statements -/

theorem subscriptionOf_org {db : Db} {org : OrganizationId} {row : SubscriptionRow}
    (h : db.subscriptionOf org = some row) : row.organizationId = org := by
  have hfound := List.find?_some h
  exact of_decide_eq_true hfound

theorem written_writeSubscription (db : Db) (org : OrganizationId)
    (f : Subscription → Subscription) : Written db org (Option.map f) (db.writeSubscription org f) where
  billing := by
    have hkey (r : SubscriptionRow) :
        ({ r with toSubscription := f r.toSubscription } : SubscriptionRow).organizationId =
          r.organizationId := rfl
    funext o
    rw [Db.billing, Db.subscriptionOf, Db.writeSubscription, find?_updateWhere hkey]
    by_cases ho : o = org
    · subst ho
      rw [Function.update_self, Db.billing, Option.map_map, Option.map_map]
      refine Option.map_congr fun r hr => ?_
      simp [subscriptionOf_org hr]
    · rw [Function.update_of_ne ho, Db.billing, Option.map_map]
      refine Option.map_congr fun r hr => ?_
      have hr : r.organizationId = o := subscriptionOf_org hr
      simp [hr, ho]
  invoiceEvents := rfl
  organizations := rfl
  owners r' hr' := by
    obtain ⟨r, hr, -, rfl⟩ | ⟨hr, -⟩ := mem_updateWhere.1 hr'
    · exact .inr ⟨r, hr, rfl⟩
    · exact .inr ⟨r', hr, rfl⟩

/-- A row added for an organization that has none. -/
theorem written_concat {db : Db} {org : OrganizationId} (hnone : db.subscriptionOf org = none)
    {row : SubscriptionRow} (horg : row.organizationId = org) :
    Written db org (fun _ => some row.toSubscription)
      { db with subscriptions := db.subscriptions ++ [row] } where
  billing := by
    funext o
    rw [Db.billing, Db.subscriptionOf, List.find?_append]
    by_cases ho : o = org
    · subst ho
      rw [Function.update_self, ← Db.subscriptionOf, hnone]
      simp [horg]
    · have hrow : ([row].find? fun r => r.organizationId = o) = none := by
        simp [horg, Ne.symm ho]
      rw [Function.update_of_ne ho, hrow, Option.or_none]
      rfl
  invoiceEvents := rfl
  organizations := rfl
  owners r' hr' := by
    obtain hr' | hr' := List.mem_append.1 hr'
    · exact .inr ⟨r', hr', rfl⟩
    · rw [List.mem_singleton.1 hr']
      exact .inl horg

/-- A write is known by what it makes of the subscription it finds. -/
theorem Written.congr {db db' : Db} {org : OrganizationId}
    {write write' : Option Subscription → Option Subscription} (h : Written db org write db')
    (heq : write (db.billing org) = write' (db.billing org)) : Written db org write' db' :=
  { h with billing := heq ▸ h.billing }

/-- An upsert fails on an identifier another organization holds, and otherwise writes. -/
theorem upsertSubscription_run (db : Db) (org : OrganizationId) (c s : Option String)
    (update : Subscription → Subscription) (create : Subscription) :
    (db.claimedElsewhere org c s = true ∧
      ∃ t, upsertSubscription org c s update create db = .error (.uniqueViolation t)) ∨
    (db.claimedElsewhere org c s = false ∧
      ∃ db', upsertSubscription org c s update create db = .ok ((), db') ∧
        Written db org (fun old => some ((old.map update).getD create)) db') := by
  rw [upsertSubscription]
  cases db.claimedElsewhere org c s with
  | true => exact .inl ⟨rfl, _, rfl⟩
  | false =>
      refine .inr ⟨rfl, ?_⟩
      cases hsub : db.subscriptionOf org with
      | some row =>
          refine ⟨_, rfl, (written_writeSubscription db org update).congr ?_⟩
          simp [Db.billing, hsub]
      | none =>
          refine ⟨_, rfl, (written_concat hsub rfl).congr ?_⟩
          simp [Db.billing, hsub]

/-- The plan a new subscription is created with is the one its fields then set. -/
theorem common_create (plan : Option BillingPlan) (sub : Json) :
    Subscription.common sub plan { plan := (plan.map (·.tier)).getD .free, status := .trialing } =
      Subscription.common sub plan { plan := .free, status := .trialing } := by
  cases plan <;> rfl

/-- **An effect is the abstract one**, unless an identifier it writes is held elsewhere. -/
theorem applyEffect_run (db : Db) (event : StripeEvent) (type : InvoiceEventType)
    (org : OrganizationId) (now : Instant) :
    (db.claimedElsewhere org (event.identifiers type).1 (event.identifiers type).2 = true ∧
      ∃ t, applyEffect event type org now db = .error (.uniqueViolation t)) ∨
    (db.claimedElsewhere org (event.identifiers type).1 (event.identifiers type).2 = false ∧
      ∃ db', applyEffect event type org now db = .ok ((), db') ∧
        Written db org (effect db event type now) db') := by
  have hnone : db.claimedElsewhere org none none = false := by simp [Db.claimedElsewhere, taken]
  cases type with
  | checkoutCompleted =>
      obtain h | ⟨hfree, db', hrun, hwritten⟩ := upsertSubscription_run db org event.customerId
        (str (event.object.get "subscription"))
        (Subscription.link event.customerId (str (event.object.get "subscription")))
        (Subscription.link event.customerId (str (event.object.get "subscription"))
          { plan := .free, status := .incomplete })
      · exact .inl h
      · refine .inr ⟨hfree, db', hrun, hwritten.congr ?_⟩
        cases db.billing org <;> rfl
  | subscriptionCreated | subscriptionUpdated =>
      obtain h | ⟨hfree, db', hrun, hwritten⟩ := upsertSubscription_run db org
        (str (event.object.get "customer")) (str (event.object.get "id"))
        (Subscription.common event.object (db.planOf (firstItem event.object).priceId))
        (Subscription.common event.object (db.planOf (firstItem event.object).priceId)
          { plan := ((db.planOf (firstItem event.object).priceId).map (·.tier)).getD .free
            status := .trialing })
      · exact .inl h
      · refine .inr ⟨hfree, db', hrun, hwritten.congr ?_⟩
        cases db.billing org with
        | none => exact congrArg some (common_create _ _)
        | some s => rfl
  | subscriptionDeleted => exact .inr ⟨hnone, _, rfl, written_writeSubscription db org _⟩
  | paymentSucceeded => exact .inr ⟨hnone, _, rfl, written_writeSubscription db org _⟩
  | paymentFailed => exact .inr ⟨hnone, _, rfl, written_writeSubscription db org _⟩

/-! ## one delivery -/

/-- The event's effect is applied and the event recorded, once. -/
structure Applied (db : Db) (d : Delivery) (db' : Db) : Prop where
  applied : ∃ org type, resolveOrgId db d.event.object d.event.customerId = some org ∧
    eventType d.event.type = some type ∧
    db'.billing = Function.update db.billing org (effect db d.event type d.now (db.billing org)) ∧
    ∃ row, db'.invoiceEvents = db.invoiceEvents ++ [row] ∧ row.stripeEventId = d.event.id ∧
      row.organizationId = org ∧ row.type = type ∧ row.payload = d.event
  organizations : db'.organizations = db.organizations
  owners : ∀ r' ∈ db'.subscriptions, r'.organizationId ∈ db.organizations ∨
    ∃ r ∈ db.subscriptions, r.organizationId = r'.organizationId

/-- The event is of a handled type, and its organization resolves. -/
def Attributed (db : Db) (event : StripeEvent) : Prop :=
  isHandledStripeEvent event.type = true ∧
    (resolveOrgId db event.object event.customerId).isSome = true

instance (db : Db) (event : StripeEvent) : Decidable (Attributed db event) :=
  inferInstanceAs (Decidable (_ ∧ _))

/-- The event is new, and an identifier it writes is held by another organization. -/
def Db.misreads (db : Db) (event : StripeEvent) : Bool :=
  match eventType event.type, resolveOrgId db event.object event.customerId with
  | some type, some org =>
      !db.recorded event.id && db.organizations.contains org &&
        db.claimedElsewhere org (event.identifiers type).1 (event.identifiers type).2
  | _, _ => false

/-- The ways a delivery of an attributed event ends. -/
inductive Ends (db : Db) (d : Delivery) (org : OrganizationId) : Prop where
  | replay (hrecorded : db.recorded d.event.id = true)
      (h : handleEvent db d = (.ok .duplicate, db))
  | throws (hnew : db.recorded d.event.id = false) (horg : org ∉ db.organizations) (e : PrismaError)
      (h : handleEvent db d = (.error e, db))
  | misread (hnew : db.recorded d.event.id = false) (hmisread : db.misreads d.event = true)
      (h : handleEvent db d = (.ok .duplicate, db))
  | applied (hnew : db.recorded d.event.id = false) (hknown : org ∈ db.organizations)
      (hclear : db.misreads d.event = false) (db' : Db)
      (h : handleEvent db d = (.ok .applied, db')) (happlied : Applied db d db')

/-- An attributed event has a type in the ledger and an organization. -/
theorem Attributed.cases {db : Db} {event : StripeEvent} (h : Attributed db event) :
    ∃ type org, eventType event.type = some type ∧
      resolveOrgId db event.object event.customerId = some org := by
  obtain ⟨hhandled, horg⟩ := h
  rw [← eventType_isSome] at hhandled
  obtain ⟨type, htype⟩ := Option.isSome_iff_exists.1 hhandled
  obtain ⟨org, horg⟩ := Option.isSome_iff_exists.1 horg
  exact ⟨type, org, htype, horg⟩

/-- **What one delivery does.** -/
theorem handleEvent_ends {db : Db} {d : Delivery} {type : InvoiceEventType} {org : OrganizationId}
    (htype : eventType d.event.type = some type)
    (horg : resolveOrgId db d.event.object d.event.customerId = some org) : Ends db d org := by
  have hhandled : isHandledStripeEvent d.event.type = true := by
    rw [← eventType_isSome, htype]
    rfl
  have hmisreads : db.misreads d.event =
      (!db.recorded d.event.id && db.organizations.contains org &&
        db.claimedElsewhere org (d.event.identifiers type).1 (d.event.identifiers type).2) := by
    simp only [Db.misreads, htype, horg]
  have hrun : (processEvent d.event d.now).run db =
      (createInvoiceEvent (ledgerRow d.event type org (db.subscriptionOf org)) db >>= fun r =>
        (applyEffect d.event type org d.now r.2) >>= fun r => .ok (.applied, r.2)) :=
    processEvent_resolved d.now htype horg
  let row := ledgerRow d.event type org (db.subscriptionOf org)
  cases hrecorded : db.recorded d.event.id with
  | true =>
      have hinsert : createInvoiceEvent row db = .error (.uniqueViolation "stripeEventId") :=
        createInvoiceEvent_recorded hrecorded
      refine .replay hrecorded ?_
      rw [handleEvent, hrun, hinsert, hhandled]
      rfl
  | false =>
      by_cases hknown : org ∈ db.organizations
      · have hinsert : createInvoiceEvent row db =
            .ok ((), { db with invoiceEvents := db.invoiceEvents ++ [row] }) :=
          createInvoiceEvent_known hrecorded hknown
        obtain ⟨hclaimed, t, heffect⟩ | ⟨hfree, db', heffect, hwritten⟩ := applyEffect_run
          { db with invoiceEvents := db.invoiceEvents ++ [row] } d.event type org d.now
        · have hmisread : db.misreads d.event = true := by
            rw [hmisreads, hrecorded, List.contains_iff_mem.2 hknown]
            exact hclaimed
          refine .misread hrecorded hmisread ?_
          rw [handleEvent, hrun, hinsert, hhandled]
          simp [bind, Except.bind, heffect]
        · have hclear : db.misreads d.event = false := by
            rw [hmisreads]
            exact Bool.and_eq_false_imp.2 fun _ => hfree
          refine .applied hrecorded hknown hclear db' ?_ ⟨?_, hwritten.organizations, ?_⟩
          · rw [handleEvent, hrun, hinsert, hhandled]
            simp [bind, Except.bind, heffect]
          · exact ⟨org, type, horg, htype, hwritten.billing, row, hwritten.invoiceEvents, rfl, rfl,
              rfl, rfl⟩
          · intro r' hr'
            obtain hown | hold := hwritten.owners r' hr'
            · exact .inl (hown ▸ hknown)
            · exact .inr hold
      · have hinsert : createInvoiceEvent row db = .error (.foreignKey "organizationId") :=
          createInvoiceEvent_unknown hrecorded hknown
        refine .throws hrecorded hknown (.foreignKey "organizationId") ?_
        rw [handleEvent, hrun, hinsert, hhandled]
        rfl

/-! ## replays told from failures -/

/-- What a delivery promises: `duplicate` for an event in the ledger and for no other, with
nothing changed; or the event applied and recorded once; or an error, with nothing
changed. -/
def Lawful (db : Db) (d : Delivery) : Prop :=
  ((handleEvent db d).1 = .ok .duplicate ↔ db.recorded d.event.id = true) ∧
    (handleEvent db d = (.ok .duplicate, db) ∨
      ((handleEvent db d).1 = .ok .applied ∧ Applied db d (handleEvent db d).2) ∨
      ∃ e, handleEvent db d = (.error e, db))

/-- **A delivery keeps its promise exactly when no identifier it newly writes is held by
another organization.** -/
theorem lawful_iff {db : Db} {d : Delivery} (h : Attributed db d.event) :
    Lawful db d ↔ db.misreads d.event = false := by
  obtain ⟨type, org, htype, horg⟩ := h.cases
  cases handleEvent_ends htype horg with
  | replay hrecorded h =>
      have hclear : db.misreads d.event = false := by
        simp only [Db.misreads, htype, horg, hrecorded, Bool.not_true, Bool.false_and]
      simp [Lawful, h, hrecorded, hclear]
  | throws hnew hunknown e h =>
      have hclear : db.misreads d.event = false := by
        simp only [Db.misreads, htype, horg, hnew]
        simp [hunknown]
      simp [Lawful, h, hnew, hclear]
  | misread hnew hmisread h => simp [Lawful, h, hnew, hmisread]
  | applied hnew hknown hclear db' h happlied => simp [Lawful, h, hnew, hclear, happlied]

/-! ## redeliveries -/

/-- The tables after a delivery. -/
def deliver (db : Db) (d : Delivery) : Db := (handleEvent db d).2

/-- Every subscription is of an organization that exists. -/
def Db.ForeignKeys (db : Db) : Prop := ∀ r ∈ db.subscriptions, r.organizationId ∈ db.organizations

/-- A delivery of an event whose organization resolves, if its type is handled at all, and
that is not misread. -/
def Clear (db : Db) (d : Delivery) : Prop :=
  (isHandledStripeEvent d.event.type = true → Attributed db d.event) ∧
    db.misreads d.event = false

instance (db : Db) (d : Delivery) : Decidable (Clear db d) := inferInstanceAs (Decidable (_ ∧ _))

/-- No further delivery of the event changes anything. -/
def Settled (db : Db) (event : StripeEvent) : Prop :=
  isHandledStripeEvent event.type = false ∨ db.recorded event.id = true ∨
    ∃ org, metaOrg event.object = some org ∧ org ∉ db.organizations

/-- An event of another type is left alone. -/
theorem deliver_unhandled {db : Db} {d : Delivery}
    (h : isHandledStripeEvent d.event.type = false) : deliver db d = db := by
  rw [deliver, handleEvent, h]
  rfl

/-- An event that resolves to no organization is left alone. -/
theorem deliver_unresolved {db : Db} {d : Delivery}
    (h : resolveOrgId db d.event.object d.event.customerId = none) : deliver db d = db := by
  rw [deliver, handleEvent, processEvent_unresolved d.now h]
  split <;> rfl

/-- An event of no handled type or no organization is left alone. -/
theorem deliver_unattributed {db : Db} {d : Delivery} (h : ¬ Attributed db d.event) :
    deliver db d = db := by
  cases hhandled : isHandledStripeEvent d.event.type with
  | false => exact deliver_unhandled hhandled
  | true =>
      have hnone : (resolveOrgId db d.event.object d.event.customerId).isSome ≠ true :=
        fun hsome => h ⟨hhandled, hsome⟩
      exact deliver_unresolved (Option.not_isSome_iff_eq_none.1 hnone)

/-- A delivery changes nothing, or applies its event. -/
theorem deliver_cases (db : Db) (d : Delivery) :
    deliver db d = db ∨ Applied db d (deliver db d) := by
  by_cases h : Attributed db d.event
  · obtain ⟨type, org, htype, horg⟩ := h.cases
    cases handleEvent_ends htype horg with
    | replay hrecorded h => exact .inl (by rw [deliver, h])
    | throws hnew hunknown e h => exact .inl (by rw [deliver, h])
    | misread hnew hmisread h => exact .inl (by rw [deliver, h])
    | applied hnew hknown hclear db' h happlied => exact .inr (by rw [deliver, h]; exact happlied)
  · exact .inl (deliver_unattributed h)

theorem Applied.recorded {db db' : Db} {d : Delivery} (h : Applied db d db') :
    db'.recorded d.event.id = true := by
  obtain ⟨org, type, -, -, -, row, hledger, hid, -⟩ := h.applied
  rw [Db.recorded, hledger]
  simp [hid]

theorem Applied.keeps_recorded {db db' : Db} {d : Delivery} (h : Applied db d db') {id : String}
    (hid : db.recorded id = true) : db'.recorded id = true := by
  obtain ⟨org, type, -, -, -, row, hledger, -⟩ := h.applied
  rw [Db.recorded, hledger, List.any_append]
  simp only [Db.recorded] at hid
  rw [hid, Bool.true_or]

/-- A settled event stays settled, whatever is delivered. -/
theorem settled_deliver (db : Db) (d : Delivery) (event : StripeEvent) (h : Settled db event) :
    Settled (deliver db d) event := by
  obtain hsame | happlied := deliver_cases db d
  · rwa [hsame]
  · obtain hhandled | hrecorded | ⟨org, hmeta, horg⟩ := h
    · exact .inl hhandled
    · exact .inr (.inl (happlied.keeps_recorded hrecorded))
    · exact .inr (.inr ⟨org, hmeta, by rwa [happlied.organizations]⟩)

theorem foreignKeys_deliver {db : Db} (h : db.ForeignKeys) (d : Delivery) :
    (deliver db d).ForeignKeys := by
  obtain hsame | happlied := deliver_cases db d
  · rwa [hsame]
  · intro r' hr'
    rw [happlied.organizations]
    obtain hown | ⟨r, hr, horg⟩ := happlied.owners r' hr'
    · exact hown
    · exact horg ▸ h r hr

/-- An organization that does not exist can only come from an event's own metadata. -/
theorem metaOrg_of_unknown {db : Db} (h : db.ForeignKeys) {event : StripeEvent}
    {org : OrganizationId} (horg : resolveOrgId db event.object event.customerId = some org)
    (hunknown : org ∉ db.organizations) : metaOrg event.object = some org := by
  unfold resolveOrgId at horg
  split at horg
  · rename_i o hmeta
    rw [hmeta, horg]
  · split at horg
    · cases horg
    · obtain ⟨row, hrow, rfl⟩ := Option.map_eq_some_iff.1 horg
      exact absurd (h row (List.mem_of_find?_eq_some hrow)) hunknown

/-- One clear delivery settles its event. -/
theorem settles {db : Db} (hkeys : db.ForeignKeys) {d : Delivery} (hclear : Clear db d) :
    Settled (deliver db d) d.event := by
  cases hhandled : isHandledStripeEvent d.event.type with
  | false => exact .inl hhandled
  | true =>
      obtain ⟨type, org, htype, horg⟩ := (hclear.1 hhandled).cases
      cases handleEvent_ends htype horg with
      | replay hrecorded h => exact .inr (.inl (by rwa [deliver, h]))
      | throws hnew hunknown e h =>
          exact .inr (.inr ⟨org, metaOrg_of_unknown hkeys horg hunknown, by rwa [deliver, h]⟩)
      | misread hnew hmisread h => exact absurd hmisread (by simp [hclear.2])
      | applied hnew hknown _ db' h happlied => exact .inr (.inl (by rw [deliver, h]; exact happlied.recorded))

/-- A settled event changes nothing. -/
theorem deliver_settled {db : Db} {d : Delivery} (hclear : Clear db d)
    (hsettled : Settled db d.event) : deliver db d = db := by
  cases hhandled : isHandledStripeEvent d.event.type with
  | false => exact deliver_unhandled hhandled
  | true =>
      obtain ⟨type, org, htype, horg⟩ := (hclear.1 hhandled).cases
      cases handleEvent_ends htype horg with
      | replay hrecorded h => rw [deliver, h]
      | throws hnew hunknown e h => rw [deliver, h]
      | misread hnew hmisread h => rw [deliver, h]
      | applied hnew hknown _ db' h happlied =>
          -- a new event of a known organization is not settled
          obtain hother | hrecorded | ⟨o, hmeta, hunknown⟩ := hsettled
          · rw [hhandled] at hother
            cases hother
          · rw [hnew] at hrecorded
            cases hrecorded
          · simp only [resolveOrgId, hmeta] at horg
            exact absurd (Option.some.inj horg ▸ hknown) hunknown

/-- The later repetitions in a sequence of clear deliveries change nothing. -/
theorem run_firsts_deliver {db : Db} (hkeys : db.ForeignKeys) {ds : List Delivery}
    (hclear : Along deliver Clear db ds) :
    run deliver db (firsts Delivery.event ds) = run deliver db ds := by
  refine run_firsts (I := Db.ForeignKeys) (C := Clear) ?_ ?_ settled_deliver ?_ hkeys hclear
  · exact fun _ d hkeys _ => foreignKeys_deliver hkeys d
  · exact fun _ _ hkeys hc => settles hkeys hc
  · exact fun _ _ hc hs => deliver_settled hc hs

/-- **Exactly once.**  A delivery of an attributed event reports a duplicate for exactly the
recorded events, applies and records the others or throws, if and only if it is not misread;
and where no delivery is, the later repetitions of a sequence change nothing. -/
theorem handleEvent_exactlyOnce (db : Db) :
    (∀ d, Attributed db d.event → (Lawful db d ↔ db.misreads d.event = false)) ∧
      (db.ForeignKeys → ∀ ds, Along deliver Clear db ds →
        run deliver db (firsts Delivery.event ds) = run deliver db ds) :=
  ⟨fun _ h => lawful_iff h, fun hkeys _ hclear => run_firsts_deliver hkeys hclear⟩

/-- An active Stripe subscription of a customer, tagged with the organization it is for. -/
def subscribed (eventId org customer : String) : StripeEvent where
  id := eventId
  type := "customer.subscription.updated"
  object := .obj [("id", .str ("sub_" ++ org)), ("customer", .str customer), ("status", .str "active"),
    ("metadata", .obj [("organizationId", .str org)])]

/-- Two organizations, the first a customer already. -/
def twoCustomers : Db where
  organizations := ["acme", "globex"]
  billingPlans := []
  subscriptions := [{ id := 0, organizationId := "acme", plan := .free, status := .incomplete,
                      stripeCustomerId := some "cus_1" }]
  invoiceEvents := []

/-- Two events, one of them delivered again. -/
def redelivered : List Delivery :=
  [⟨subscribed "evt_1" "acme" "cus_1", 0⟩, ⟨subscribed "evt_2" "globex" "cus_2", 5⟩,
    ⟨subscribed "evt_1" "acme" "cus_1", 9⟩]

theorem handleEvent_exactlyOnce_redelivered :
    Lawful twoCustomers ⟨subscribed "evt_1" "acme" "cus_1", 0⟩ ∧
      run deliver twoCustomers (redelivered.take 2) = run deliver twoCustomers redelivered :=
  ⟨((handleEvent_exactlyOnce twoCustomers).1 _ (by decide)).2 (by decide),
    (handleEvent_exactlyOnce twoCustomers).2 (by simp [Db.ForeignKeys, twoCustomers]) redelivered
      (by decide)⟩

/-- A new event of `globex` that names the customer recorded for `acme` is reported as a
duplicate, and neither applied nor recorded. -/
theorem not_lawful_sharedCustomer :
    Attributed twoCustomers (subscribed "evt_2" "globex" "cus_1") ∧
      handleEvent twoCustomers ⟨subscribed "evt_2" "globex" "cus_1", 0⟩ =
        (.ok .duplicate, twoCustomers) ∧
      ¬ Lawful twoCustomers ⟨subscribed "evt_2" "globex" "cus_1", 0⟩ := by
  refine ⟨by decide, by rfl, fun hlawful => ?_⟩
  have hduplicate : (handleEvent twoCustomers ⟨subscribed "evt_2" "globex" "cus_1", 0⟩).1 =
      .ok .duplicate := by rfl
  have hrecorded := hlawful.1.1 hduplicate
  revert hrecorded
  decide

/-! ## a delivery as a change of billing -/

/-- The type and the organization of an event that a delivery applies: both are known, the
event is new, and it is not misread. -/
def Db.accepts (db : Db) (event : StripeEvent) : Option (InvoiceEventType × OrganizationId) :=
  match eventType event.type, resolveOrgId db event.object event.customerId with
  | some type, some org =>
      if db.recorded event.id = false ∧ org ∈ db.organizations ∧ db.misreads event = false then
        some (type, org)
      else none
  | _, _ => none

theorem Db.accepts_eq_some {db : Db} {event : StripeEvent} {type : InvoiceEventType}
    {org : OrganizationId} :
    db.accepts event = some (type, org) ↔
      eventType event.type = some type ∧
        resolveOrgId db event.object event.customerId = some org ∧
        db.recorded event.id = false ∧ org ∈ db.organizations ∧ db.misreads event = false := by
  unfold Db.accepts
  split
  · rename_i type' org' htype horg
    rw [htype, horg]
    split
    · rename_i hnew
      simp only [Option.some.injEq, Prod.mk.injEq, hnew, true_and, and_true]
      constructor
      · rintro ⟨rfl, rfl⟩
        exact ⟨rfl, rfl, hnew.2.1⟩
      · rintro ⟨rfl, rfl, -⟩
        exact ⟨rfl, rfl⟩
    · rename_i hold
      simp only [reduceCtorEq, Option.some.injEq, false_iff, not_and]
      rintro rfl rfl hnew hknown hclear
      exact hold ⟨hnew, hknown, hclear⟩
  · rename_i hnone
    simp only [reduceCtorEq, false_iff, not_and]
    intro htype horg
    exact absurd horg (hnone type org htype)

/-- An event that is not accepted changes nothing. -/
theorem deliver_rejected {db : Db} {d : Delivery} (h : db.accepts d.event = none) :
    deliver db d = db := by
  by_cases hattributed : Attributed db d.event
  · obtain ⟨type, org, htype, horg⟩ := hattributed.cases
    cases handleEvent_ends htype horg with
    | replay hrecorded h => rw [deliver, h]
    | throws hnew hunknown e h => rw [deliver, h]
    | misread hnew hmisread h => rw [deliver, h]
    | applied hnew hknown hclear db' _ happlied =>
        have haccepts : db.accepts d.event = some (type, org) :=
          Db.accepts_eq_some.2 ⟨htype, horg, hnew, hknown, hclear⟩
        rw [h] at haccepts
        cases haccepts
  · exact deliver_unattributed hattributed

/-- **An accepted event changes the subscription of its organization, and enters the
ledger.** -/
theorem deliver_accepted {db : Db} {d : Delivery} {type : InvoiceEventType} {org : OrganizationId}
    (h : db.accepts d.event = some (type, org)) :
    (deliver db d).billing =
        Function.update db.billing org (effect db d.event type d.now (db.billing org)) ∧
      ∃ row : InvoiceEvent, (deliver db d).invoiceEvents = db.invoiceEvents ++ [row] ∧
        row.stripeEventId = d.event.id := by
  obtain ⟨htype, horg, hnew, hknown, hclear⟩ := Db.accepts_eq_some.1 h
  cases handleEvent_ends htype horg with
  | replay hrecorded _ =>
      rw [hnew] at hrecorded
      cases hrecorded
  | throws _ hunknown e _ => exact absurd hknown hunknown
  | misread _ hmisread _ =>
      rw [hclear] at hmisread
      cases hmisread
  | applied _ _ _ db' hrun happlied =>
      obtain ⟨org', type', horg', htype', hbilling, row, hledger, hid, -⟩ := happlied.applied
      rw [horg, Option.some.injEq] at horg'
      rw [htype, Option.some.injEq] at htype'
      subst horg' htype'
      rw [deliver, hrun]
      exact ⟨hbilling, row, hledger, hid⟩

/-- What a delivery leaves of the subscription of an organization. -/
theorem deliver_billing (db : Db) (d : Delivery) (org : OrganizationId) :
    (deliver db d).billing org = db.billing org ∨
      ∃ type, db.accepts d.event = some (type, org) ∧
        (deliver db d).billing org = effect db d.event type d.now (db.billing org) := by
  cases haccepts : db.accepts d.event with
  | none => exact .inl (by rw [deliver_rejected haccepts])
  | some accepted =>
      obtain ⟨type, o⟩ := accepted
      have hbilling := (deliver_accepted haccepts).1
      by_cases ho : org = o
      · subst ho
        refine .inr ⟨type, rfl, ?_⟩
        rw [hbilling, Function.update_self]
      · refine .inl ?_
        rw [hbilling, Function.update_of_ne ho]

/-- The two statements of an accepted event: its ledger row, and its effect. -/
theorem deliver_steps {db : Db} {d : Delivery} {type : InvoiceEventType} {org : OrganizationId}
    (h : db.accepts d.event = some (type, org)) :
    ∃ row : InvoiceEvent, row.stripeEventId = d.event.id ∧
      applyEffect d.event type org d.now { db with invoiceEvents := db.invoiceEvents ++ [row] } =
        .ok ((), deliver db d) := by
  obtain ⟨htype, horg, hnew, hknown, hclear⟩ := Db.accepts_eq_some.1 h
  have hhandled : isHandledStripeEvent d.event.type = true := by
    rw [← eventType_isSome, htype]
    rfl
  have hunclaimed : db.claimedElsewhere org (d.event.identifiers type).1
      (d.event.identifiers type).2 = false := by
    simpa [Db.misreads, htype, horg, hnew, hknown] using hclear
  let row := ledgerRow d.event type org (db.subscriptionOf org)
  have hinsert : createInvoiceEvent row db =
      .ok ((), { db with invoiceEvents := db.invoiceEvents ++ [row] }) :=
    createInvoiceEvent_known hnew hknown
  obtain ⟨hclaimed, -⟩ | ⟨-, db', heffect, -⟩ := applyEffect_run
    { db with invoiceEvents := db.invoiceEvents ++ [row] } d.event type org d.now
  · have hsame : db.claimedElsewhere org (d.event.identifiers type).1
        (d.event.identifiers type).2 = true := hclaimed
    rw [hunclaimed] at hsame
    cases hsame
  · refine ⟨row, rfl, ?_⟩
    rw [heffect, deliver, handleEvent, processEvent_resolved d.now htype horg, hinsert, hhandled]
    simp [bind, Except.bind, heffect]

/-! ### the other rows, and the catalog -/

/-- The subscriptions of the other organizations. -/
def Db.others (db : Db) (org : OrganizationId) : List SubscriptionRow :=
  db.subscriptions.filter (·.organizationId ≠ org)

theorem others_writeSubscription (db : Db) (org : OrganizationId)
    (f : Subscription → Subscription) : (db.writeSubscription org f).others org = db.others org := by
  refine filter_updateWhere fun r hr => ?_
  have hown : r.organizationId = org := of_decide_eq_true hr
  simp [hown]

/-- An upsert writes the row of its organization only. -/
theorem upsertSubscription_frame {db db' : Db} {org : OrganizationId} {c s : Option String}
    {update : Subscription → Subscription} {create : Subscription}
    (h : upsertSubscription org c s update create db = .ok ((), db')) :
    db'.others org = db.others org ∧ db'.billingPlans = db.billingPlans := by
  unfold upsertSubscription at h
  split at h
  · cases h
  · split at h
    · cases h
      exact ⟨others_writeSubscription db org update, rfl⟩
    · cases h
      simp [Db.others]

/-- An effect writes the row of its organization only. -/
theorem applyEffect_frame {db db' : Db} {event : StripeEvent} {type : InvoiceEventType}
    {org : OrganizationId} {now : Instant} (h : applyEffect event type org now db = .ok ((), db')) :
    db'.others org = db.others org ∧ db'.billingPlans = db.billingPlans := by
  cases type with
  | checkoutCompleted => exact upsertSubscription_frame h
  | subscriptionCreated | subscriptionUpdated => exact upsertSubscription_frame h
  | subscriptionDeleted | paymentSucceeded | paymentFailed =>
      cases h
      exact ⟨others_writeSubscription db org _, rfl⟩

/-- An event leaves the rows of the other organizations alone. -/
theorem deliver_others {db : Db} {d : Delivery} {type : InvoiceEventType} {org : OrganizationId}
    (h : db.accepts d.event = some (type, org)) : (deliver db d).others org = db.others org := by
  obtain ⟨row, -, heffect⟩ := deliver_steps h
  exact (applyEffect_frame heffect).1

/-- No event changes the catalog of plans. -/
theorem deliver_billingPlans (db : Db) (d : Delivery) :
    (deliver db d).billingPlans = db.billingPlans := by
  cases haccepts : db.accepts d.event with
  | none => rw [deliver_rejected haccepts]
  | some accepted =>
      obtain ⟨row, -, heffect⟩ := deliver_steps haccepts
      exact (applyEffect_frame heffect).2

/-- No event changes the organizations. -/
theorem deliver_organizations (db : Db) (d : Delivery) :
    (deliver db d).organizations = db.organizations := by
  obtain hsame | happlied := deliver_cases db d
  · rw [hsame]
  · exact happlied.organizations

end UptimeFlow.Billing
