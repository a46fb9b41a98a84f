import UptimeFlow.Runs
import UptimeFlow.Billing.Checkout

/-!
# UptimeFlow.Billing.Customers

Overlapping checkouts of one organization, statement by statement.

`ensureCustomer` reads the row, asks Stripe for a customer where the row has
none, and writes the answer.  Two calls that read before either writes make two
customers, and the first session is opened for one that the row no longer has.
Where no call reads while another is on its way from its read to its write,
there is one customer, and every session is opened for it
(`oneCustomer_along`).
-/

namespace UptimeFlow.Billing

open Tables Runs
open Monitoring (OrganizationId)

/-! ## the calls -/

/-- Where a checkout stands: it is about to create a customer, to record it, or to open a session
for it. -/
inductive Call where
  | creating
  | recording (customerId : String)
  | opening (customerId : String)
deriving DecidableEq, Repr

/-- The call has read a row without a customer, and not written one yet. -/
def Call.unrecorded : Call → Bool
  | .creating | .recording _ => true
  | .opening _ => false

structure Checkouts where
  db : Db
  /-- The customers Stripe has created for the organization. -/
  customers : List String := []
  /-- The customers that sessions were opened for. -/
  sessions : List String := []
  calls : List Call := []
deriving DecidableEq, Repr

inductive CheckoutOp where
  /-- A call reads the row; without a customer it needs the caller's email to go on. -/
  | read (email : Option String)
  /-- Stripe answers the call `k` with a new customer, or fails. -/
  | create (k : Nat) (answer : Option String)
  /-- The call `k` writes its customer on the row. -/
  | record (k : Nat)
  /-- The call `k` opens a session. -/
  | «open» (k : Nat)
deriving DecidableEq, Repr

/-- `sub?.stripeCustomerId`, where it is not empty. -/
def Db.customerOf (db : Db) (org : OrganizationId) : Option String :=
  truthy ((db.billing org).bind (·.stripeCustomerId))

/-- The upsert of `ensureCustomer`. -/
def recordCustomer (org : OrganizationId) (customerId : String) : Tx Unit :=
  upsertSubscription org (some customerId) none
    (fun s => { s with stripeCustomerId := some customerId })
    { plan := .free, status := .incomplete, stripeCustomerId := some customerId }

/-- Stripe makes a new customer on every call. -/
def Checkouts.mints (s : Checkouts) (customerId : String) : Bool :=
  customerId ≠ "" && customerId ∉ s.customers &&
    s.db.subscriptions.all fun r => r.stripeCustomerId ≠ some customerId

def Checkouts.step (org : OrganizationId) (s : Checkouts) : CheckoutOp → Checkouts
  | .read email =>
      match s.db.customerOf org with
      | some customerId => { s with calls := s.calls ++ [.opening customerId] }
      | none =>
          if (truthy email).isNone then s
          else { s with calls := s.calls ++ [.creating] }
  | .create k answer =>
      match s.calls[k]?, answer with
      | some .creating, none => { s with calls := s.calls.eraseIdx k }
      | some .creating, some customerId =>
          if s.mints customerId then
            { s with
              customers := s.customers ++ [customerId]
              calls := s.calls.set k (.recording customerId) }
          else s
      | _, _ => s
  | .record k =>
      match s.calls[k]? with
      | some (.recording customerId) =>
          match recordCustomer org customerId s.db with
          | .ok ((), db) => { s with db, calls := s.calls.set k (.opening customerId) }
          | .error _ => { s with calls := s.calls.eraseIdx k }
      | _ => s
  | .open k =>
      match s.calls[k]? with
      | some (.opening customerId) =>
          { s with sessions := s.sessions ++ [customerId], calls := s.calls.eraseIdx k }
      | _ => s

/-! ## the law -/

/-- At most one customer was created, and every session was opened for the one on the row. -/
structure OneCustomer (org : OrganizationId) (s : Checkouts) : Prop where
  customers : s.customers.length ≤ 1
  sessions : ∀ customerId ∈ s.sessions, s.db.customerOf org = some customerId

/-- No call goes on to create a customer while another one is on its way to record one. -/
def Alone (org : OrganizationId) (s : Checkouts) : CheckoutOp → Prop
  | .read email =>
      s.db.customerOf org = none → (truthy email).isSome = true →
        ∀ call ∈ s.calls, call.unrecorded = false
  | _ => True

instance (org : OrganizationId) (s : Checkouts) : (op : CheckoutOp) → Decidable (Alone org s op)
  | .read email =>
      inferInstanceAs (Decidable (s.db.customerOf org = none → (truthy email).isSome = true →
        ∀ call ∈ s.calls, call.unrecorded = false))
  | .create .. | .record _ | .open _ => inferInstanceAs (Decidable True)

/-- The stages of a run without overlaps: the row has no customer and at most one call is about to
create it; that call is about to record it; the row has it, and so have all calls. -/
inductive Stage (org : OrganizationId) (s : Checkouts) : Prop where
  | missing (hrow : s.db.customerOf org = none) (hcustomers : s.customers = [])
      (hsessions : s.sessions = []) (hcalls : s.calls = [] ∨ s.calls = [.creating])
  | created (customerId : String) (hrow : s.db.customerOf org = none) (hne : customerId ≠ "")
      (hfree : s.db.claimedElsewhere org (some customerId) none = false)
      (hcustomers : s.customers = [customerId]) (hsessions : s.sessions = [])
      (hcalls : s.calls = [.recording customerId])
  | recorded (customerId : String) (hrow : s.db.customerOf org = some customerId)
      (hcustomers : s.customers = [customerId]) (hsessions : ∀ c ∈ s.sessions, c = customerId)
      (hcalls : ∀ call ∈ s.calls, call = .opening customerId)

/-! ## steps -/

section
variable {org : OrganizationId} {s : Checkouts}

/-! What each operation does. -/

theorem Checkouts.step_read (email : Option String) :
    s.step org (.read email) =
      match s.db.customerOf org with
      | some customerId => { s with calls := s.calls ++ [.opening customerId] }
      | none =>
          if (truthy email).isNone then s
          else { s with calls := s.calls ++ [.creating] } :=
  rfl

theorem Checkouts.step_create (k : Nat) (answer : Option String) :
    s.step org (.create k answer) =
      match s.calls[k]?, answer with
      | some .creating, none => { s with calls := s.calls.eraseIdx k }
      | some .creating, some customerId =>
          if s.mints customerId then
            { s with
              customers := s.customers ++ [customerId]
              calls := s.calls.set k (.recording customerId) }
          else s
      | _, _ => s :=
  rfl

theorem Checkouts.step_record (k : Nat) :
    s.step org (.record k) =
      match s.calls[k]? with
      | some (.recording customerId) =>
          match recordCustomer org customerId s.db with
          | .ok ((), db) => { s with db, calls := s.calls.set k (.opening customerId) }
          | .error _ => { s with calls := s.calls.eraseIdx k }
      | _ => s :=
  rfl

theorem Checkouts.step_open (k : Nat) :
    s.step org (.open k) =
      match s.calls[k]? with
      | some (.opening customerId) =>
          { s with sessions := s.sessions ++ [customerId], calls := s.calls.eraseIdx k }
      | _ => s :=
  rfl

theorem Stage.oneCustomer (h : Stage org s) : OneCustomer org s := by
  cases h with
  | missing _ hcustomers hsessions => exact ⟨by simp [hcustomers], by simp [hsessions]⟩
  | created _ _ _ _ hcustomers hsessions => exact ⟨by simp [hcustomers], by simp [hsessions]⟩
  | recorded customerId hrow hcustomers hsessions =>
      refine ⟨by simp [hcustomers], fun c hc => ?_⟩
      rw [hrow, hsessions c hc]

/-- A customer that Stripe has just made is on no other row. -/
theorem claimedElsewhere_of_mints (org : OrganizationId) {customerId : String}
    (h : s.mints customerId = true) :
    s.db.claimedElsewhere org (some customerId) none = false := by
  simp only [Checkouts.mints, Bool.and_eq_true, List.all_eq_true, decide_eq_true_eq] at h
  obtain ⟨-, hrows⟩ := h
  simp only [Db.claimedElsewhere, taken, Bool.or_eq_false_iff]
  refine ⟨?_, by simp⟩
  simp only [Option.isSome_some, Bool.true_and, List.any_eq_false, List.mem_filter]
  intro r hr
  simpa using hrows r hr.1

/-- The upsert puts the customer on the row. -/
theorem recordCustomer_run {db : Db} {customerId : String}
    (hfree : db.claimedElsewhere org (some customerId) none = false) (hne : customerId ≠ "") :
    ∃ db', recordCustomer org customerId db = .ok ((), db') ∧
      db'.customerOf org = some customerId := by
  obtain ⟨hclaimed, -⟩ | ⟨-, db', hrun, hwritten⟩ := upsertSubscription_run db org (some customerId)
    none (fun s => { s with stripeCustomerId := some customerId })
    { plan := .free, status := .incomplete, stripeCustomerId := some customerId }
  · rw [hfree] at hclaimed
    cases hclaimed
  · refine ⟨db', hrun, ?_⟩
    have htruthy : truthy (some customerId) = some customerId := by
      simp [truthy, Option.filter, hne]
    have hcustomer : (db'.billing org).bind (·.stripeCustomerId) = some customerId := by
      rw [hwritten.billing, Function.update_self]
      cases db.billing org <;> rfl
    rw [Db.customerOf, hcustomer, htruthy]

/-- A call reads: without a customer on the row it is the only one on its way to create one. -/
theorem Stage.read (h : Stage org s) {email : Option String} (halone : Alone org s (.read email)) :
    Stage org (s.step org (.read email)) := by
  cases h with
  | missing hrow hcustomers hsessions hcalls =>
      cases hemail : truthy email with
      | none =>
          simp only [Checkouts.step_read, hrow, hemail, Option.isNone_none, if_true]
          exact .missing hrow hcustomers hsessions hcalls
      | some address =>
          have hnone : s.calls = [] := by
            obtain hnone | hcreating := hcalls
            · exact hnone
            · have hothers := halone hrow (by simp [hemail]) .creating (by simp [hcreating])
              cases hothers
          simp only [Checkouts.step_read, hrow, hemail, Option.isNone_some, Bool.false_eq_true,
            if_false, hnone, List.nil_append]
          exact .missing hrow hcustomers hsessions (.inr rfl)
  | created customerId hrow hne hfree hcustomers hsessions hcalls =>
      cases hemail : truthy email with
      | none =>
          simp only [Checkouts.step_read, hrow, hemail, Option.isNone_none, if_true]
          exact .created customerId hrow hne hfree hcustomers hsessions hcalls
      | some address =>
          have hothers := halone hrow (by simp [hemail]) (.recording customerId) (by simp [hcalls])
          cases hothers
  | recorded customerId hrow hcustomers hsessions hcalls =>
      simp only [Checkouts.step_read, hrow]
      refine .recorded customerId hrow hcustomers hsessions fun call hcall => ?_
      obtain hcall | hcall := List.mem_append.1 hcall
      · exact hcalls call hcall
      · exact List.mem_singleton.1 hcall

/-- Stripe answers: before there is a customer, or not at all. -/
theorem Stage.create (h : Stage org s) (k : Nat) (answer : Option String) :
    Stage org (s.step org (.create k answer)) := by
  by_cases hcreating : s.calls[k]? = some .creating
  · have hmem := List.mem_of_getElem? hcreating
    cases h with
    | missing hrow hcustomers hsessions hcalls =>
        have hcalls : s.calls = [.creating] := by
          obtain hnone | hone := hcalls
          · simp [hnone] at hmem
          · exact hone
        obtain rfl : k = 0 := by
          have hlt := (List.getElem?_eq_some_iff.1 hcreating).1
          simpa [hcalls] using hlt
        cases answer with
        | none =>
            have hstep : s.step org (.create 0 none) = { s with calls := [] } := by
              simp [Checkouts.step_create, hcalls]
            rw [hstep]
            exact .missing hrow hcustomers hsessions (.inl rfl)
        | some customerId =>
            by_cases hmints : s.mints customerId = true
            · have hne : customerId ≠ "" := by
                simp only [Checkouts.mints, Bool.and_eq_true, decide_eq_true_eq] at hmints
                exact hmints.1.1
              have hfree := claimedElsewhere_of_mints org hmints
              have hstep : s.step org (.create 0 (some customerId)) =
                  { s with customers := [customerId], calls := [.recording customerId] } := by
                simp [Checkouts.step_create, hcalls, hmints, hcustomers]
              rw [hstep]
              exact .created customerId hrow hne hfree rfl hsessions rfl
            · have hstep : s.step org (.create 0 (some customerId)) = s := by
                simp [Checkouts.step_create, hcalls, hmints]
              rw [hstep]
              exact .missing hrow hcustomers hsessions (.inr hcalls)
    | created customerId hrow hne hfree hcustomers hsessions hcalls =>
        simp [hcalls] at hmem
    | recorded customerId hrow hcustomers hsessions hcalls =>
        cases hcalls _ hmem
  · have hsame : s.step org (.create k answer) = s := by
      simp only [Checkouts.step_create]
      split <;> simp_all
    rwa [hsame]

/-- The one call that created a customer records it. -/
theorem Stage.record (h : Stage org s) (k : Nat) : Stage org (s.step org (.record k)) := by
  by_cases hrecording : ∃ c, s.calls[k]? = some (.recording c)
  · obtain ⟨customerId, hk⟩ := hrecording
    have hmem := List.mem_of_getElem? hk
    cases h with
    | missing hrow hcustomers hsessions hcalls =>
        obtain hnone | hone := hcalls
        · simp [hnone] at hmem
        · simp [hone] at hmem
    | created c hrow hne hfree hcustomers hsessions hcalls =>
        obtain rfl : customerId = c := by simpa [hcalls] using hmem
        obtain rfl : k = 0 := by
          have hlt := (List.getElem?_eq_some_iff.1 hk).1
          simpa [hcalls] using hlt
        obtain ⟨db', hrun, hrecorded⟩ := recordCustomer_run hfree hne
        have hstep : s.step org (.record 0) =
            { s with db := db', calls := [.opening customerId] } := by
          simp [Checkouts.step_record, hcalls, hrun]
        rw [hstep]
        refine .recorded customerId hrecorded hcustomers (by simp [hsessions]) ?_
        intro call hcall
        simpa using hcall
    | recorded c hrow hcustomers hsessions hcalls =>
        cases hcalls _ hmem
  · have hsame : s.step org (.record k) = s := by
      simp only [Checkouts.step_record]
      split <;> simp_all
    rwa [hsame]

/-- A session is opened for the customer on the row. -/
theorem Stage.open (h : Stage org s) (k : Nat) : Stage org (s.step org (.open k)) := by
  by_cases hopening : ∃ c, s.calls[k]? = some (.opening c)
  · obtain ⟨customerId, hk⟩ := hopening
    have hmem := List.mem_of_getElem? hk
    cases h with
    | missing hrow hcustomers hsessions hcalls =>
        obtain hnone | hone := hcalls
        · simp [hnone] at hmem
        · simp [hone] at hmem
    | created c hrow hne hfree hcustomers hsessions hcalls =>
        simp [hcalls] at hmem
    | recorded c hrow hcustomers hsessions hcalls =>
        obtain rfl : customerId = c := by simpa using hcalls _ hmem
        simp only [Checkouts.step_open, hk]
        refine .recorded customerId hrow hcustomers ?_ ?_
        · intro c hc
          obtain hc | hc := List.mem_append.1 hc
          · exact hsessions c hc
          · exact List.mem_singleton.1 hc
        · intro call hcall
          exact hcalls call (List.mem_of_mem_eraseIdx hcall)
  · have hsame : s.step org (.open k) = s := by
      simp only [Checkouts.step_open]
      split <;> simp_all
    rwa [hsame]

/-- **Step lemma**: a run without overlaps goes from stage to stage. -/
theorem Stage.step (h : Stage org s) {op : CheckoutOp} (halone : Alone org s op) :
    Stage org (s.step org op) := by
  cases op with
  | read email => exact h.read halone
  | create k answer => exact h.create k answer
  | record k => exact h.record k
  | «open» k => exact h.open k

/-- **Where no call reads the row while another one is on its way to record a customer, at most one
customer is created and every session is opened for the one on the row.** -/
theorem oneCustomer_along (hrow : s.db.customerOf org = none) (hcustomers : s.customers = [])
    (hsessions : s.sessions = []) (hcalls : s.calls = []) {ops : List CheckoutOp}
    (halone : Along (Checkouts.step org) (Alone org) s ops) :
    Along (Checkouts.step org) (fun s op => OneCustomer org (s.step org op)) s ops :=
  Along.of_inv (I := Stage org) (fun _ _ h ha => h.step ha) (fun _ _ h ha => (h.step ha).oneCustomer)
    (.missing hrow hcustomers hsessions (.inl hcalls)) halone

end

/-! ## two checkouts at once -/

/-- An organization that was never billed. -/
def unbilled : Checkouts where
  db := { organizations := ["acme"], billingPlans := [], subscriptions := [], invoiceEvents := [] }

/-- One checkout after the other. -/
def inSequence : List CheckoutOp :=
  [.read (some "ada@acme.test"), .create 0 (some "cus_1"), .record 0, .read (some "ben@acme.test"),
    .open 1, .open 0]

theorem oneCustomer_inSequence :
    Along (Checkouts.step "acme") (fun s op => OneCustomer "acme" (s.step "acme" op)) unbilled
        inSequence ∧
      (run (Checkouts.step "acme") unbilled inSequence).sessions = ["cus_1", "cus_1"] :=
  ⟨oneCustomer_along (by decide +kernel) rfl rfl rfl (by decide +kernel), by decide +kernel⟩

/-- Two checkouts read the row before either writes it. -/
def atOnce : List CheckoutOp :=
  [.read (some "ada@acme.test"), .read (some "ben@acme.test"), .create 0 (some "cus_1"),
    .create 1 (some "cus_2"), .record 0, .record 1, .open 0]

theorem not_oneCustomer_atOnce :
    ¬ Along (Checkouts.step "acme") (fun s op => OneCustomer "acme" (s.step "acme" op)) unbilled
        atOnce ∧
      (run (Checkouts.step "acme") unbilled atOnce).customers = ["cus_1", "cus_2"] ∧
      (run (Checkouts.step "acme") unbilled atOnce).sessions = ["cus_1"] ∧
      (run (Checkouts.step "acme") unbilled atOnce).db.customerOf "acme" = some "cus_2" := by
  refine ⟨?_, by decide +kernel⟩
  rintro ⟨-, -, -, hsecond, -⟩
  exact absurd hsecond.customers (by decide +kernel)

end UptimeFlow.Billing
