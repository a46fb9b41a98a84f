import UptimeFlow.Past
import UptimeFlow.StatusPages.Domains
import UptimeFlow.StatusPages.Store

/-!
# UptimeFlow.StatusPages.Subscribers

Who a status page mails about incidents: subscribing, confirming and
unsubscribing by bearer tokens, over histories that start without subscribers.

A request finds its subscriber by a token and looks at nothing else of the
row, so a token works whatever happened since it was issued.  A subscriber who
confirms with a token that was left behind by an unsubscription is active
again without having asked; `consented_iff` says that this is the only way to
be active without consent.
-/

namespace UptimeFlow.StatusPages.Subscribers

open Tables Runs Past
open Monitoring (Instant)

/-! ## rows -/

inductive SubscriberStatus where
  | pending | active | unsubscribed
deriving DecidableEq, Repr

/-- Mail addresses; the schema admits ASCII ones only. -/
abbrev Email := List Char

structure SubscriberRow where
  id : Nat
  statusPageId : Nat
  email : Email
  status : SubscriberStatus := .pending
  verificationToken : Option String
  unsubscribeToken : Option String
  verifiedAt : Option Instant := none
  unsubscribedAt : Option Instant := none
deriving DecidableEq, Repr

/-- The unique key of a subscriber: a page and an address. -/
def SubscriberRow.key (row : SubscriberRow) : Nat × Email := (row.statusPageId, row.email)

structure SubscriberDb where
  store : Db := {}
  subscribers : List SubscriberRow := []
deriving DecidableEq, Repr

/-- The row a token leads to, among those of live pages with this slug. -/
def SubscriberDb.findToken (db : SubscriberDb) (token : SubscriberRow → Option String)
    (slug value : String) : Option SubscriberRow :=
  db.subscribers.find? fun row => token row = some value &&
    db.store.pages.any fun p => p.id = row.statusPageId && p.slug = slug && p.deletedAt.isNone

def SubscriberDb.update (db : SubscriberDb) (id : Nat) (f : SubscriberRow → SubscriberRow) :
    SubscriberDb :=
  { db with subscribers := updateWhere (·.id = id) f db.subscribers }

/-! ## mails -/

inductive Phase where
  | opened | updated | resolved
deriving DecidableEq, Repr

def Phase.label : Phase → String
  | .opened => "opened"
  | .updated => "updated"
  | .resolved => "resolved"

/-- `PHASE_TEMPLATE` -/
def Phase.template : Phase → String
  | .opened => "status_incident_opened"
  | .updated => "status_incident_updated"
  | .resolved => "status_incident_resolved"

structure IncidentMail where
  template : String
  recipient : Email
  pageName : String
  incidentTitle : String
  statusLabel : String
  body : String
  publicUrl : String
  unsubscribeUrl : String
deriving DecidableEq, Repr

structure ConfirmationMail where
  template : String := "status_subscribe_confirm"
  recipient : Email
  pageName : String
  confirmUrl : String
deriving DecidableEq, Repr

/-- A job of the email queue, with the identifier that makes it unique. -/
structure EmailJob (α : Type) where
  job : α
  jobId : String
deriving DecidableEq, Repr

structure IncidentNotice where
  statusPageId : Nat
  pageSlug : String
  pageName : String
  incidentId : String
  updateId : String
  title : String
  phase : Phase
  statusLabel : String
  body : String
deriving DecidableEq, Repr

/-- The confirmation to a new subscriber, unique by the token in its link. -/
def sendVerification (pageName : String) (email : Email) (confirmUrl : String) :
    EmailJob ConfirmationMail where
  job := { recipient := email, pageName, confirmUrl }
  jobId := "status-confirm:" ++
    String.ofList ((Js.split "token=".toList confirmUrl.toList)[1]?.getD email)

/-- The mails about an incident: one to each active subscriber of the page. -/
def notifyIncident (webUrl : String) (db : SubscriberDb) (input : IncidentNotice) :
    List (EmailJob IncidentMail) :=
  let publicUrl := webUrl ++ "/status/" ++ input.pageSlug
  db.subscribers.filterMap fun sub =>
    if sub.statusPageId = input.statusPageId ∧ sub.status = .active then
      sub.unsubscribeToken.map fun token => {
        job := {
          template := input.phase.template, recipient := sub.email, pageName := input.pageName
          incidentTitle := input.title, statusLabel := input.statusLabel, body := input.body
          publicUrl, unsubscribeUrl := publicUrl ++ "/unsubscribe?token=" ++ token }
        jobId := "status-incident:" ++ input.phase.label ++ ":" ++ input.incidentId ++ ":" ++
          input.updateId ++ ":" ++ toString sub.id }
    else none

/-! ## requests -/

/-- The address as it is stored. -/
def normalizeEmail (email : Email) : Email := Domains.toLowerCase (Js.trim email)

inductive SubscribeStatus where
  | pending | alreadyActive
deriving DecidableEq, Repr

structure SubscribeResult where
  status : SubscribeStatus
  verificationToken : Option String
  email : Email
deriving DecidableEq, Repr

def SubscriberDb.findKey (db : SubscriberDb) (pageId : Nat) (email : Email) : Option SubscriberRow :=
  db.subscribers.find? fun row => row.key = (pageId, email)

/-- Ask for mails.  The two tokens are drawn for the request; an existing row keeps its
unsubscribe token. -/
def subscribe (webUrl : String) (db : SubscriberDb) (slug : String) (email : Email)
    (verificationToken unsubscribeToken : String) :
    Option SubscribeResult × Option (EmailJob ConfirmationMail) × SubscriberDb :=
  match db.store.publicRow slug with
  | none => (none, none, db)
  | some page =>
      let normalized := normalizeEmail email
      let mail := sendVerification page.name normalized
        (webUrl ++ "/status/" ++ page.slug ++ "/verify?token=" ++ verificationToken)
      match db.findKey page.id normalized with
      | none =>
          let row : SubscriberRow := {
            id := freshId (·.id) db.subscribers, statusPageId := page.id, email := normalized
            verificationToken := some verificationToken, unsubscribeToken := some unsubscribeToken }
          (some ⟨.pending, some verificationToken, normalized⟩, some mail,
            { db with subscribers := db.subscribers ++ [row] })
      | some existing =>
          if existing.status = .active then (some ⟨.alreadyActive, none, normalized⟩, none, db)
          else
            (some ⟨.pending, some verificationToken, normalized⟩, some mail,
              db.update existing.id fun row => { row with
                status := .pending, verificationToken := some verificationToken
                unsubscribedAt := none })

/-- Confirm.  `fresh` is the token drawn where the row has no unsubscribe token. -/
def verifySubscriber (db : SubscriberDb) (slug verificationToken fresh : String) (now : Instant) :
    Bool × SubscriberDb :=
  match db.findToken (·.verificationToken) slug verificationToken with
  | none => (false, db)
  | some sub =>
      (true, db.update sub.id fun row => { row with
        status := .active, verifiedAt := some now, verificationToken := none
        unsubscribeToken := some (sub.unsubscribeToken.getD fresh) })

def unsubscribe (db : SubscriberDb) (slug unsubscribeToken : String) (now : Instant) :
    Bool × SubscriberDb :=
  match db.findToken (·.unsubscribeToken) slug unsubscribeToken with
  | none => (false, db)
  | some sub =>
      (true, db.update sub.id fun row => { row with
        status := .unsubscribed, unsubscribedAt := some now })

/-! ## histories -/

/-- A request of the public, or an operation on the pages. -/
inductive SubscriberOp where
  | subscribe (slug : String) (email : Email) (verificationToken unsubscribeToken : String)
  | verify (slug verificationToken fresh : String) (now : Instant)
  | unsubscribe (slug unsubscribeToken : String) (now : Instant)
  | page (op : Op)
deriving DecidableEq, Repr

section
variable (webUrl : String)

def subscriberStep (db : SubscriberDb) : SubscriberOp → SubscriberDb
  | .subscribe slug email verificationToken unsubscribeToken =>
      (subscribe webUrl db slug email verificationToken unsubscribeToken).2.2
  | .verify slug verificationToken fresh now =>
      (verifySubscriber db slug verificationToken fresh now).2
  | .unsubscribe slug unsubscribeToken now => (unsubscribe db slug unsubscribeToken now).2
  | .page op => { db with store := step db.store op }

/-- The tables after a history. -/
abbrev after (ops : List SubscriberOp) : SubscriberDb := run (subscriberStep webUrl) {} ops

end

/-! ## consent -/

section
variable (key : Nat × Email) (token : String)

/-- The request issues the token to the subscriber, to confirm with. -/
def Issues (db : SubscriberDb) : SubscriberOp → Prop
  | .subscribe slug email verificationToken _ => verificationToken = token ∧
      (∃ page ∈ db.store.publicRow slug, (page.id, normalizeEmail email) = key) ∧
      ∀ row ∈ db.findKey key.1 key.2, row.status ≠ .active
  | _ => False

/-- The request confirms the subscriber with the token. -/
def Uses (db : SubscriberDb) : SubscriberOp → Prop
  | .verify slug verificationToken _ _ => verificationToken = token ∧
      ∃ sub ∈ db.findToken (·.verificationToken) slug verificationToken, sub.key = key
  | _ => False

/-- The request confirms the subscriber. -/
def Verifies (db : SubscriberDb) (op : SubscriberOp) : Prop := ∃ token, Uses key token db op

/-- The request unsubscribes the subscriber. -/
def Unsubscribes (db : SubscriberDb) : SubscriberOp → Prop
  | .unsubscribe slug unsubscribeToken _ =>
      ∃ sub ∈ db.findToken (·.unsubscribeToken) slug unsubscribeToken, sub.key = key
  | _ => False

variable (webUrl : String) (ops : List SubscriberOp)

/-- The token was issued to the subscriber, who has not unsubscribed since. -/
def Standing : Prop :=
  Since (subscriberStep webUrl) (fun db op => ¬ Unsubscribes key db op) (Issues key token) {} ops

/-- The subscriber's latest confirmation used a token that was issued after the latest
unsubscription. -/
def OptedIn : Prop :=
  ∃ token, Since (subscriberStep webUrl) (fun db op => ¬ Verifies key db op) (Uses key token) {} ops ∧
    Standing key token webUrl ops

end

/-- The columns of an active subscriber. -/
structure SubscriberRow.Confirmed (row : SubscriberRow) : Prop where
  verifiedAt : row.verifiedAt ≠ none
  unsubscribedAt : row.unsubscribedAt = none
  verificationToken : row.verificationToken = none
  unsubscribeToken : row.unsubscribeToken ≠ none

/-- After a history, every active subscriber opted in and is marked so, and every mail goes to a
subscriber who opted in. -/
structure Consented (webUrl : String) (ops : List SubscriberOp) : Prop where
  active : ∀ row ∈ (after webUrl ops).subscribers, row.status = .active →
    row.Confirmed ∧ OptedIn row.key webUrl ops
  mails : ∀ input, ∀ mail ∈ notifyIncident webUrl (after webUrl ops) input,
    OptedIn (input.statusPageId, mail.job.recipient) webUrl ops

/-- The request does not confirm a subscriber who has unsubscribed. -/
def NotUnsubscribed (db : SubscriberDb) : SubscriberOp → Prop
  | .verify slug verificationToken _ _ =>
      ∀ sub ∈ db.findToken (·.verificationToken) slug verificationToken, sub.status ≠ .unsubscribed
  | _ => True

instance (db : SubscriberDb) : (op : SubscriberOp) → Decidable (NotUnsubscribed db op)
  | .verify slug verificationToken _ _ => inferInstanceAs (Decidable
      (∀ sub ∈ db.findToken (·.verificationToken) slug verificationToken,
        sub.status ≠ .unsubscribed))
  | .subscribe .. | .unsubscribe .. | .page _ => isTrue trivial

/-! ## what a request does to a row -/

/-- The ways a row comes out of a request. -/
inductive Change (db : SubscriberDb) (op : SubscriberOp) (row : SubscriberRow) :
    SubscriberRow → Prop where
  | kept (hverifies : ¬ Verifies row.key db op) (hunsubscribes : ¬ Unsubscribes row.key db op) :
      Change db op row row
  | reissued (token : String) (hissues : Issues row.key token db op) (hactive : row.status ≠ .active) :
      Change db op row
        { row with status := .pending, verificationToken := some token, unsubscribedAt := none }
  | verified (token unsubscribeToken : String) (now : Instant) (huses : Uses row.key token db op)
      (htoken : row.verificationToken = some token) :
      Change db op row
        { row with
          status := .active, verifiedAt := some now, verificationToken := none
          unsubscribeToken := some unsubscribeToken }
  | unsubscribed (now : Instant) (hunsubscribes : Unsubscribes row.key db op) :
      Change db op row { row with status := .unsubscribed, unsubscribedAt := some now }

/-- A subscriber the request adds. -/
structure Added (db : SubscriberDb) (op : SubscriberOp) (row : SubscriberRow) : Prop where
  status : row.status = .pending
  unsubscribeToken : row.unsubscribeToken ≠ none
  unsubscribedAt : row.unsubscribedAt = none
  issues : ∃ token, row.verificationToken = some token ∧ Issues row.key token db op
  fresh : ∀ old ∈ db.subscribers, old.id ≠ row.id ∧ old.key ≠ row.key

/-- No two rows share an identifier, or an address on one page. -/
structure Keys (db : SubscriberDb) : Prop where
  ids : (db.subscribers.map (·.id)).Nodup
  keys : (db.subscribers.map (·.key)).Nodup

variable {webUrl : String} {db : SubscriberDb}

theorem mem_of_findToken {token : SubscriberRow → Option String} {slug value : String}
    {sub : SubscriberRow} (h : db.findToken token slug value = some sub) :
    sub ∈ db.subscribers ∧ token sub = some value := by
  have hcond := List.find?_some h
  simp only [Bool.and_eq_true, decide_eq_true_eq] at hcond
  exact ⟨List.mem_of_find?_eq_some h, hcond.1⟩

theorem mem_of_findKey {pageId : Nat} {email : Email} {row : SubscriberRow}
    (h : db.findKey pageId email = some row) : row ∈ db.subscribers ∧ row.key = (pageId, email) := by
  have hcond := List.find?_some h
  exact ⟨List.mem_of_find?_eq_some h, of_decide_eq_true hcond⟩

/-- **Step lemma**: every row after a request is one that was there, come out of it in one of four
ways, or one the request added. -/
theorem mem_subscriberStep (hk : Keys db) (op : SubscriberOp) {row' : SubscriberRow}
    (h : row' ∈ (subscriberStep webUrl db op).subscribers) :
    (∃ row ∈ db.subscribers, Change db op row row') ∨ Added db op row' := by
  cases op with
  | page op =>
      exact .inl ⟨row', h, .kept (by rintro ⟨token, ⟨⟩⟩) (by rintro ⟨⟩)⟩
  | subscribe slug email verificationToken unsubscribeToken =>
      have hkept : ∀ row, Change db (.subscribe slug email verificationToken unsubscribeToken) row row :=
        fun row => .kept (by rintro ⟨token, ⟨⟩⟩) (by rintro ⟨⟩)
      simp only [subscriberStep, subscribe] at h
      cases hpage : db.store.publicRow slug with
      | none =>
          rw [hpage] at h
          exact .inl ⟨row', h, hkept row'⟩
      | some page =>
          simp only [hpage] at h
          cases hexisting : db.findKey page.id (normalizeEmail email) with
          | none =>
              simp only [hexisting] at h
              rcases List.mem_append.1 h with hold | hnew
              · exact .inl ⟨row', hold, hkept row'⟩
              · obtain rfl := List.mem_singleton.1 hnew
                refine .inr ⟨rfl, by simp, rfl, ⟨verificationToken, rfl, rfl, ⟨page, hpage, rfl⟩, ?_⟩, ?_⟩
                · simp [SubscriberRow.key, hexisting]
                · intro old hold
                  refine ⟨ne_freshId (·.id) hold, fun hkey => ?_⟩
                  exact List.find?_eq_none.1 hexisting old hold (by simpa [SubscriberRow.key] using hkey)
          | some existing =>
              obtain ⟨hmem, hkey⟩ := mem_of_findKey hexisting
              simp only [hexisting] at h
              split at h
              · exact .inl ⟨row', h, hkept row'⟩
              · next hactive =>
                  rcases mem_updateWhere.1 h with ⟨row, hrow, hid, rfl⟩ | ⟨hrow, -⟩
                  · obtain rfl := eq_of_id_eq hk.ids hrow hmem (of_decide_eq_true hid)
                    refine .inl ⟨row, hrow, .reissued verificationToken ⟨rfl, ⟨page, hpage, hkey.symm⟩, ?_⟩
                      hactive⟩
                    intro found hfound
                    rw [hkey, hexisting] at hfound
                    cases hfound
                    exact hactive
                  · exact .inl ⟨row', hrow, hkept row'⟩
  | verify slug verificationToken fresh now =>
      simp only [subscriberStep, verifySubscriber] at h
      cases hfound : db.findToken (·.verificationToken) slug verificationToken with
      | none =>
          rw [hfound] at h
          exact .inl ⟨row', h, .kept (by rintro ⟨token, -, sub, hsub, -⟩; simp [hfound] at hsub)
            (by rintro ⟨⟩)⟩
      | some sub =>
          obtain ⟨hmem, htoken⟩ := mem_of_findToken hfound
          rw [hfound] at h
          rcases mem_updateWhere.1 h with ⟨row, hrow, hid, rfl⟩ | ⟨hrow, hid⟩
          · obtain rfl := eq_of_id_eq hk.ids hrow hmem (of_decide_eq_true hid)
            exact .inl ⟨row, hrow, .verified verificationToken _ now ⟨rfl, row, hfound, rfl⟩ htoken⟩
          · refine .inl ⟨row', hrow, .kept ?_ (by rintro ⟨⟩)⟩
            rintro ⟨token, -, found, hother, hkey⟩
            rw [hfound] at hother
            cases hother
            obtain rfl := eq_of_id_eq hk.keys hmem hrow hkey
            simp at hid
  | unsubscribe slug unsubscribeToken now =>
      simp only [subscriberStep, Subscribers.unsubscribe] at h
      cases hfound : db.findToken (·.unsubscribeToken) slug unsubscribeToken with
      | none =>
          rw [hfound] at h
          exact .inl ⟨row', h, .kept (by rintro ⟨token, ⟨⟩⟩)
            (by rintro ⟨sub, hsub, -⟩; simp [hfound] at hsub)⟩
      | some sub =>
          obtain ⟨hmem, -⟩ := mem_of_findToken hfound
          rw [hfound] at h
          rcases mem_updateWhere.1 h with ⟨row, hrow, hid, rfl⟩ | ⟨hrow, hid⟩
          · obtain rfl := eq_of_id_eq hk.ids hrow hmem (of_decide_eq_true hid)
            exact .inl ⟨row, hrow, .unsubscribed now ⟨row, hfound, rfl⟩⟩
          · refine .inl ⟨row', hrow, .kept (by rintro ⟨token, ⟨⟩⟩) ?_⟩
            rintro ⟨found, hother, hkey⟩
            rw [hfound] at hother
            cases hother
            obtain rfl := eq_of_id_eq hk.keys hmem hrow hkey
            simp at hid

theorem keys_empty : Keys {} := ⟨List.nodup_nil, List.nodup_nil⟩

theorem Keys.update (hk : Keys db) (id : Nat) {f : SubscriberRow → SubscriberRow}
    (hid : ∀ r, (f r).id = r.id) (hkey : ∀ r, (f r).key = r.key) : Keys (db.update id f) where
  ids := by
    rw [SubscriberDb.update, map_id_updateWhere hid]
    exact hk.ids
  keys := by
    rw [SubscriberDb.update, map_id_updateWhere hkey]
    exact hk.keys

theorem Keys.step (hk : Keys db) (op : SubscriberOp) : Keys (subscriberStep webUrl db op) := by
  cases op with
  | page op => exact ⟨hk.ids, hk.keys⟩
  | subscribe slug email verificationToken unsubscribeToken =>
      simp only [subscriberStep, subscribe]
      cases db.store.publicRow slug with
      | none => exact hk
      | some page =>
          simp only
          cases hexisting : db.findKey page.id (normalizeEmail email) with
          | none =>
              refine ⟨nodup_concat_freshId hk.ids rfl, ?_⟩
              simp only [List.map_append, List.map_singleton]
              refine List.nodup_append.2 ⟨hk.keys, List.nodup_singleton _, ?_⟩
              intro k hold l hl hsame
              obtain ⟨old, hmem, rfl⟩ := List.mem_map.1 hold
              rw [List.mem_singleton.1 hl] at hsame
              exact List.find?_eq_none.1 hexisting old hmem (by simpa [SubscriberRow.key] using hsame)
          | some existing =>
              simp only
              split
              · exact hk
              · exact hk.update existing.id (fun _ => rfl) fun _ => rfl
  | verify slug verificationToken fresh now =>
      simp only [subscriberStep, verifySubscriber]
      cases db.findToken (·.verificationToken) slug verificationToken with
      | none => exact hk
      | some sub => exact hk.update sub.id (fun _ => rfl) fun _ => rfl
  | unsubscribe slug unsubscribeToken now =>
      simp only [subscriberStep, Subscribers.unsubscribe]
      cases db.findToken (·.unsubscribeToken) slug unsubscribeToken with
      | none => exact hk
      | some sub => exact hk.update sub.id (fun _ => rfl) fun _ => rfl

theorem keys_after (ops : List SubscriberOp) : Keys (after webUrl ops) :=
  inv_run_of_step (fun _ op hk => hk.step op) keys_empty ops

theorem after_concat (ops : List SubscriberOp) (op : SubscriberOp) :
    after webUrl (ops ++ [op]) = subscriberStep webUrl (after webUrl ops) op := run_concat _ ops op

/-! ## the invariant -/

/-- What a row's status says of its columns and of its history. -/
structure Sound (webUrl : String) (ops : List SubscriberOp) (row : SubscriberRow) : Prop where
  unsubscribeToken : row.unsubscribeToken ≠ none
  pending : row.status = .pending → row.unsubscribedAt = none ∧
    ∃ token, row.verificationToken = some token ∧ Standing row.key token webUrl ops
  active : row.status = .active → row.Confirmed ∧ OptedIn row.key webUrl ops
  unsubscribed : row.status = .unsubscribed → row.unsubscribedAt ≠ none

theorem standing_concat {key : Nat × Email} {token : String} {ops : List SubscriberOp}
    {op : SubscriberOp} : Standing key token webUrl (ops ++ [op]) ↔
      Issues key token (after webUrl ops) op ∨
        (Standing key token webUrl ops ∧ ¬ Unsubscribes key (after webUrl ops) op) :=
  since_concat

theorem Sound.change {ops : List SubscriberOp} {op : SubscriberOp} {row row' : SubscriberRow}
    (h : Sound webUrl ops row) (hchange : Change (after webUrl ops) op row row')
    (hlawful : Verifies row.key (after webUrl ops) op → row.status ≠ .unsubscribed) :
    Sound webUrl (ops ++ [op]) row' := by
  cases hchange with
  | kept hverifies hunsubscribes =>
      refine ⟨h.unsubscribeToken, fun hpending => ?_, fun hactive => ?_, h.unsubscribed⟩
      · obtain ⟨hnone, token, htoken, hstanding⟩ := h.pending hpending
        exact ⟨hnone, token, htoken, standing_concat.2 (.inr ⟨hstanding, hunsubscribes⟩)⟩
      · obtain ⟨hconfirmed, token, hused, hstanding⟩ := h.active hactive
        exact ⟨hconfirmed, token, since_concat.2 (.inr ⟨hused, hverifies⟩),
          standing_concat.2 (.inr ⟨hstanding, hunsubscribes⟩)⟩
  | reissued token hissues hactive =>
      exact ⟨h.unsubscribeToken, fun _ => ⟨rfl, token, rfl, standing_concat.2 (.inl hissues)⟩,
        nofun, nofun⟩
  | verified token unsubscribeToken now huses htoken =>
      -- an active row has no token to be confirmed with, so the row was pending
      have hpending : row.status = .pending := by
        cases hstatus : row.status with
        | pending => rfl
        | active =>
            have hcleared := (h.active hstatus).1.verificationToken
            rw [htoken] at hcleared
            cases hcleared
        | unsubscribed => exact absurd hstatus (hlawful ⟨token, huses⟩)
      obtain ⟨hnone, token', htoken', hstanding⟩ := h.pending hpending
      obtain rfl : token = token' := Option.some.inj (htoken.symm.trans htoken')
      have hnot : ¬ Unsubscribes row.key (after webUrl ops) op := by
        cases op with
        | verify => exact id
        | subscribe => exact absurd huses id
        | unsubscribe => exact absurd huses id
        | page => exact absurd huses id
      exact ⟨by simp, nofun, fun _ => ⟨⟨by simp, hnone, rfl, by simp⟩, token,
        since_concat.2 (.inl huses), standing_concat.2 (.inr ⟨hstanding, hnot⟩)⟩, nofun⟩
  | unsubscribed now hunsubscribes =>
      exact ⟨h.unsubscribeToken, nofun, nofun, fun _ => by simp⟩

/-- **Step lemma**: a request that confirms no one who has unsubscribed keeps the rows sound. -/
theorem sound_concat {ops : List SubscriberOp} {op : SubscriberOp}
    (h : ∀ row ∈ (after webUrl ops).subscribers, Sound webUrl ops row)
    (hlawful : NotUnsubscribed (after webUrl ops) op) :
    ∀ row ∈ (after webUrl (ops ++ [op])).subscribers, Sound webUrl (ops ++ [op]) row := by
  intro row' hrow'
  have hk : Keys (after webUrl ops) := keys_after ops
  rw [after_concat] at hrow'
  rcases mem_subscriberStep hk op hrow' with ⟨row, hrow, hchange⟩ | hadded
  · refine (h row hrow).change hchange fun hverifies => ?_
    obtain ⟨token, huses⟩ := hverifies
    cases op with
    | verify slug verificationToken fresh now =>
        obtain ⟨-, sub, hsub, hkey⟩ := huses
        obtain rfl := eq_of_id_eq hk.keys (mem_of_findToken hsub).1 hrow hkey
        exact hlawful sub hsub
    | subscribe => exact absurd huses id
    | unsubscribe => exact absurd huses id
    | page => exact absurd huses id
  · obtain ⟨token, htoken, hissues⟩ := hadded.issues
    exact ⟨hadded.unsubscribeToken,
      fun _ => ⟨hadded.unsubscribedAt, token, htoken, standing_concat.2 (.inl hissues)⟩,
      fun hactive => absurd (hadded.status.symm.trans hactive) nofun,
      fun hgone => absurd (hadded.status.symm.trans hgone) nofun⟩

/-- The mails go to active subscribers of the page. -/
theorem mem_notifyIncident {input : IncidentNotice} {mail : EmailJob IncidentMail}
    (h : mail ∈ notifyIncident webUrl db input) : ∃ row ∈ db.subscribers, row.status = .active ∧
      row.key = (input.statusPageId, mail.job.recipient) := by
  obtain ⟨row, hrow, hmail⟩ := List.mem_filterMap.1 h
  split at hmail
  · next hcond =>
      obtain ⟨token, -, rfl⟩ := Option.map_eq_some_iff.1 hmail
      exact ⟨row, hrow, hcond.2, by simp [SubscriberRow.key, hcond.1]⟩
  · contradiction

theorem consented_of_sound {ops : List SubscriberOp}
    (h : ∀ row ∈ (after webUrl ops).subscribers, Sound webUrl ops row) : Consented webUrl ops where
  active row hrow := (h row hrow).active
  mails input mail hmail := by
    obtain ⟨row, hrow, hactive, hkey⟩ := mem_notifyIncident hmail
    rw [← hkey]
    exact ((h row hrow).active hactive).2

/-- Confirming someone who has unsubscribed leaves an active row with the mark of it. -/
theorem notUnsubscribed_of_consented {ops : List SubscriberOp} {op : SubscriberOp}
    (h : ∀ row ∈ (after webUrl ops).subscribers, Sound webUrl ops row)
    (hconsented : Consented webUrl (ops ++ [op])) : NotUnsubscribed (after webUrl ops) op := by
  cases op with
  | subscribe => trivial
  | unsubscribe => trivial
  | page => trivial
  | verify slug verificationToken fresh now =>
      intro sub hsub hgone
      have hmem := (mem_of_findToken hsub).1
      have hactive := hconsented.active { sub with
        status := .active, verifiedAt := some now, verificationToken := none
        unsubscribeToken := some (sub.unsubscribeToken.getD fresh) } (by
          rw [after_concat]
          simp only [subscriberStep, verifySubscriber, Option.mem_def.1 hsub]
          exact mem_updateWhere.2 (.inl ⟨sub, hmem, by simp, rfl⟩)) rfl
      exact (h sub hmem).unsubscribed hgone hactive.1.unsubscribedAt

/-- **Consent**: after every part of a history every active subscriber opted in after the last
opt-out, is marked so, and none but such are mailed, if and only if no request confirms a
subscriber who has unsubscribed. -/
theorem consented_iff (webUrl : String) (ops : List SubscriberOp) :
    (∀ before, before <+: ops → Consented webUrl before) ↔
      Along (subscriberStep webUrl) NotUnsubscribed {} ops := by
  have hnil : ∀ row ∈ (after webUrl []).subscribers, Sound webUrl [] row := by
    intro row hrow
    cases hrow
  exact prefixes_iff (J := fun ops => ∀ row ∈ (after webUrl ops).subscribers, Sound webUrl ops row)
    (consented_of_sound hnil) hnil
    (fun ops op hJ => ⟨notUnsubscribed_of_consented hJ,
      fun hlawful => consented_of_sound (sound_concat hJ hlawful)⟩)
    (fun ops op hJ hlawful => sound_concat hJ hlawful) ops

/-- Ada subscribes, confirms, unsubscribes, and subscribes again; she thinks better of it and
follows the unsubscribe link she has, and only then someone opens the second confirmation. -/
def adaThinksBetter : List SubscriberOp :=
  [.page (.create "acme" true { name := "Acme", slug := "acme" } 0),
    .subscribe "acme" "ada@acme.com".toList "v1" "u1", .verify "acme" "v1" "f1" 100,
    .unsubscribe "acme" "u1" 200, .subscribe "acme" "ada@acme.com".toList "v2" "u2",
    .unsubscribe "acme" "u1" 300, .verify "acme" "v2" "f2" 400]

/-- The notice of an incident on acme's page. -/
def acmeDown : IncidentNotice where
  statusPageId := 0
  pageSlug := "acme"
  pageName := "Acme"
  incidentId := "inc"
  updateId := "upd"
  title := "Outage"
  phase := .opened
  statusLabel := "INVESTIGATING"
  body := "We are looking into it."

/-- She is mailed, and her row says when she unsubscribed. -/
theorem not_consented_ada :
    ((notifyIncident "https://up.dev" (after "https://up.dev" adaThinksBetter) acmeDown).map
        (·.job.recipient) = ["ada@acme.com".toList]) ∧
      ¬ Consented "https://up.dev" adaThinksBetter := by
  refine ⟨by decide +kernel, fun h => ?_⟩
  have hrow : ∃ row ∈ (after "https://up.dev" adaThinksBetter).subscribers,
      row.status = .active ∧ row.unsubscribedAt = some 300 := by decide +kernel
  obtain ⟨row, hmem, hactive, hgone⟩ := hrow
  rw [(h.active row hmem hactive).1.unsubscribedAt] at hgone
  cases hgone

end UptimeFlow.StatusPages.Subscribers
