import UptimeFlow.Js
import UptimeFlow.Runs
import UptimeFlow.Tables
import UptimeFlow.Monitoring.Schema

/-!
# UptimeFlow.StatusPages.Domains

Connecting, verifying and removing the custom domains of status pages.

A removal keeps the row and sets its `deletedAt`; the unique key on `domain`
spans the rows that were removed as well as the live ones.  So a domain is
available exactly as long as it was never removed (`available_along_iff`), and
once removed it is refused for good (`refused_along`).
-/

namespace UptimeFlow.StatusPages.Domains

open Tables Runs
open Monitoring (OrganizationId Instant)

/-! ## domains -/

/-- `toLowerCase` of one character.  Besides the capital letters only U+212A and U+0130 have an
ASCII letter in lower case, the latter with a mark behind it; no other character can be part of a
domain, and is left as it is. -/
def lowerChar (c : Char) : List Char :=
  if c.isUpper then [c.toLower]
  else if c = Char.ofNat 0x212A then ['k']
  else if c = Char.ofNat 0x0130 then ['i', Char.ofNat 0x0307]
  else [c]

def toLowerCase (cs : List Char) : List Char := cs.flatMap lowerChar

/-- `[a-z0-9-]`. -/
def isLabelChar (c : Char) : Bool := c.isLower || c.isDigit || c = '-'

/-- `LABEL`: 1 to 63 characters, no hyphen at either end. -/
def isLabel (l : List Char) : Bool :=
  1 ≤ l.length && l.length ≤ 63 && l.all isLabelChar && l.head? ≠ some '-' && l.getLast? ≠ some '-'

/-- `[a-z0-9+.-]`. -/
def isSchemeChar (c : Char) : Bool := isLabelChar c || c = '+' || c = '.'

/-- Drop a scheme and its `://`. -/
def stripScheme : List Char → List Char
  | [] => []
  | c :: cs =>
      let after := cs.dropWhile isSchemeChar
      if c.isLower && "://".toList.isPrefixOf after then after.drop 3 else c :: cs

/-- `/^\d+(\.\d+){3}$/`. -/
def isDottedQuad (host : List Char) : Bool :=
  let parts := Js.split ['.'] host
  parts.length = 4 && parts.all fun p => !p.isEmpty && p.all Char.isDigit

/-- `/^[a-z]{2,}$/`. -/
def isTld (l : List Char) : Bool := 2 ≤ l.length && l.all Char.isLower

/-- The host name in what was entered: no scheme, path, port or trailing dot. -/
def hostOf (input : List Char) : List Char :=
  let host := stripScheme (toLowerCase (Js.trim input))
  let host := (host.takeWhile (· ≠ '/')).takeWhile (· ≠ ':')
  if host.getLast? = some '.' then host.dropLast else host

def normalizeDomain (input : List Char) : Option (List Char) :=
  if (toLowerCase (Js.trim input)).isEmpty then none
  else
    let host := hostOf input
    if host.isEmpty || Js.length host > 253 then none
    else if host.contains '*' then none
    else if host = "localhost".toList then none
    else if isDottedQuad host || host.contains ':' then none
    else
      let labels := Js.split ['.'] host
      if labels.length < 2 then none
      else if !labels.all isLabel then none
      else if !isTld (labels.getLastD []) then none
      else some host

example : normalizeDomain " https://Status.Acme.com:8443/x ".toList =
    some "status.acme.com".toList := by decide +kernel

/-! ## rows -/

inductive DomainVerificationStatus where
  | pending | verified | failed
deriving DecidableEq, Repr

structure CustomDomainRow where
  id : Nat
  organizationId : OrganizationId
  statusPageId : Nat
  domain : List Char
  verificationStatus : DomainVerificationStatus := .pending
  verificationToken : String
  verifiedAt : Option Instant := none
  lastCheckedAt : Option Instant := none
  lastCheckError : Option String := none
  createdById : Option String
  deletedAt : Option Instant := none
  deletedById : Option String := none
deriving DecidableEq, Repr

/-- The columns of a status page that say whose it is. -/
structure OwnedPage where
  id : Nat
  organizationId : OrganizationId
  deletedAt : Option Instant := none
deriving DecidableEq, Repr

structure DomainDb where
  pages : List OwnedPage
  customDomains : List CustomDomainRow := []
deriving DecidableEq, Repr

/-- The records to add: a TXT challenge and a routing CNAME. -/
structure DnsInstructions where
  txtName : List Char
  txtValue : String
  cnameName : List Char
  cnameValue : String
deriving DecidableEq, Repr

structure CustomDomainSummary where
  row : CustomDomainRow
  dns : DnsInstructions
deriving DecidableEq, Repr

inductive DomainError where
  | paymentRequired (message : String)
  | validationFailed (message : String)
  | notFound (message : String)
  | conflict (message : String)
deriving DecidableEq, Repr

structure DomainDeps where
  cnameTarget : String
  challengePrefix : List Char := "_uptimeflow-challenge".toList
  /-- The capability gate. -/
  assertCanUseCustomDomains : OrganizationId → Except DomainError Unit := fun _ => .ok ()

/-- `challengeHostname` -/
def DomainDeps.challengeHostname (deps : DomainDeps) (domain : List Char) : List Char :=
  deps.challengePrefix ++ '.' :: domain

def DomainDeps.toSummary (deps : DomainDeps) (row : CustomDomainRow) : CustomDomainSummary where
  row := row
  dns := {
    txtName := deps.challengeHostname row.domain, txtValue := row.verificationToken
    cnameName := row.domain, cnameValue := deps.cnameTarget }

/-! ## requests -/

/-- A request to connect a domain, with the token drawn for it. -/
structure CreateDomain where
  organizationId : OrganizationId
  statusPageId : Nat
  domain : List Char
  userId : Option String
  verificationToken : String
deriving DecidableEq, Repr

/-- The page is the organization's, and live. -/
def DomainDb.ownsPage (db : DomainDb) (org : OrganizationId) (page : Nat) : Bool :=
  db.pages.any fun p => p.id = page && p.organizationId = org && p.deletedAt.isNone

/-- Connect a domain to a status page. -/
def create (deps : DomainDeps) (db : DomainDb) (r : CreateDomain) :
    Except DomainError CustomDomainSummary × DomainDb :=
  match deps.assertCanUseCustomDomains r.organizationId with
  | .error e => (.error e, db)
  | .ok () =>
      match normalizeDomain r.domain with
      | none =>
          (.error (.validationFailed "Enter a valid domain, e.g. status.acme.com."), db)
      | some domain =>
          if !db.ownsPage r.organizationId r.statusPageId then
            (.error (.notFound "Status page not found."), db)
          -- the unique key spans the rows that were removed
          else if db.customDomains.any (·.domain = domain) then
            (.error (.conflict "That domain is already connected to a status page."), db)
          else
            let row : CustomDomainRow := {
              id := freshId (·.id) db.customDomains, organizationId := r.organizationId
              statusPageId := r.statusPageId, domain
              verificationToken := r.verificationToken, createdById := r.userId }
            (.ok (deps.toSummary row), { db with customDomains := db.customDomains ++ [row] })

/-- The live row of an organization. -/
def DomainDb.findRow (db : DomainDb) (org : OrganizationId) (id : Nat) : Option CustomDomainRow :=
  db.customDomains.find? fun r => r.id = id && r.organizationId = org && r.deletedAt.isNone

def DomainDb.update (db : DomainDb) (id : Nat) (f : CustomDomainRow → CustomDomainRow) : DomainDb :=
  { db with customDomains := updateWhere (·.id = id) f db.customDomains }

/-- The outcome of a TXT lookup: the status and the message to record. -/
def checkTxt (token : String) :
    Except (Option String) (List (List String)) → DomainVerificationStatus × Option String
  | .ok records =>
      let values := records.map String.join
      if values.contains token then (.verified, none)
      else if values.length > 0 then
        (.failed, some "A TXT record was found but did not match the expected verification token.")
      else (.pending, some "No verification TXT record found yet — DNS may still be propagating.")
  | .error code =>
      if code = some "ENOTFOUND" || code = some "ENODATA" then
        (.pending, some "No verification TXT record found yet — DNS may still be propagating.")
      else
        let detail := ((code.filter (!·.isEmpty)).map fun c => " (" ++ c ++ ")").getD ""
        (.pending, some ("DNS lookup failed" ++ detail ++ " — will retry."))

/-- A TXT resolver, by host name. -/
abbrev Resolver := List Char → Except (Option String) (List (List String))

/-- Run a DNS check and update the verification status. -/
def verify (deps : DomainDeps) (resolveTxt : Resolver) (now : Instant) (db : DomainDb)
    (org : OrganizationId) (id : Nat) : Option CustomDomainSummary × DomainDb :=
  match db.findRow org id with
  | none => (none, db)
  | some row =>
      let (status, error) :=
        checkTxt row.verificationToken (resolveTxt (deps.challengeHostname row.domain))
      let checked (r : CustomDomainRow) : CustomDomainRow :=
        { r with
          verificationStatus := status
          lastCheckedAt := some now
          lastCheckError := error
          verifiedAt := if status = .verified then some (row.verifiedAt.getD now)
            else row.verifiedAt }
      (some (deps.toSummary (checked row)), db.update row.id checked)

/-- Disconnect a domain: the row stays, marked. -/
def remove (db : DomainDb) (org : OrganizationId) (id : Nat) (userId : Option String)
    (now : Instant) : Bool × DomainDb :=
  match db.findRow org id with
  | none => (false, db)
  | some _ => (true, db.update id fun r => { r with deletedAt := some now, deletedById := userId })

/-! ## histories -/

inductive DomainOp where
  | create (r : CreateDomain)
  | verify (organizationId : OrganizationId) (id : Nat) (resolveTxt : Resolver) (now : Instant)
  | remove (organizationId : OrganizationId) (id : Nat) (userId : Option String) (now : Instant)

def domainStep (deps : DomainDeps) (db : DomainDb) : DomainOp → DomainDb
  | .create r => (create deps db r).2
  | .verify org id resolveTxt now => (verify deps resolveTxt now db org id).2
  | .remove org id userId now => (remove db org id userId now).2

/-! ## the law -/

/-- An entitled organization asks for a valid domain on its own page. -/
structure Entitled (deps : DomainDeps) (db : DomainDb) (r : CreateDomain) (domain : List Char) :
    Prop where
  capable : deps.assertCanUseCustomDomains r.organizationId = .ok ()
  valid : normalizeDomain r.domain = some domain
  owns : db.ownsPage r.organizationId r.statusPageId = true

/-- No live row has the domain. -/
def DomainDb.Unused (db : DomainDb) (domain : List Char) : Prop :=
  ∀ row ∈ db.customDomains, row.domain = domain → row.deletedAt ≠ none

instance (db : DomainDb) (domain : List Char) : Decidable (db.Unused domain) :=
  inferInstanceAs (Decidable (∀ row ∈ db.customDomains, row.domain = domain → row.deletedAt ≠ none))

/-- A removed row has the domain. -/
def DomainDb.Removed (db : DomainDb) (domain : List Char) : Prop :=
  ∃ row ∈ db.customDomains, row.domain = domain ∧ row.deletedAt ≠ none

/-- The request connects the domain: it returns a row that is then in the table, live. -/
def Connects (deps : DomainDeps) (db : DomainDb) (r : CreateDomain) (domain : List Char) : Prop :=
  ∃ row, (create deps db r).1 = .ok (deps.toSummary row) ∧
    row ∈ (create deps db r).2.customDomains ∧ row.deletedAt = none ∧ row.domain = domain ∧
      row.organizationId = r.organizationId ∧ row.statusPageId = r.statusPageId

/-- A domain that no live row has is connected for whoever may ask for it. -/
def Available (deps : DomainDeps) (db : DomainDb) : DomainOp → Prop
  | .create r => ∀ domain, Entitled deps db r domain → db.Unused domain → Connects deps db r domain
  | _ => True

/-- A domain that is asked for, and that no live row has, was not removed before. -/
def NeverRemoved (deps : DomainDeps) (db : DomainDb) : DomainOp → Prop
  | .create r => ∀ domain, Entitled deps db r domain → db.Unused domain → ¬ db.Removed domain
  | _ => True

/-! ## one request -/

section
variable {deps : DomainDeps} {db : DomainDb} {r : CreateDomain} {domain : List Char}

/-- A domain that some row has is refused. -/
theorem create_taken (h : Entitled deps db r domain)
    (htaken : db.customDomains.any (·.domain = domain) = true) :
    create deps db r =
      (.error (.conflict "That domain is already connected to a status page."), db) := by
  simp only [create, h.capable, h.valid, h.owns, htaken, Bool.not_true, Bool.false_eq_true,
    if_false, if_true]

/-- A domain that no row has is connected. -/
theorem connects_of_free (h : Entitled deps db r domain)
    (hfree : db.customDomains.any (·.domain = domain) = false) : Connects deps db r domain := by
  simp only [Connects, create, h.capable, h.valid, h.owns, hfree, Bool.not_true, Bool.false_eq_true,
    if_false]
  exact ⟨_, rfl, List.mem_append_right _ (List.mem_singleton_self _), rfl, rfl, rfl, rfl⟩

/-- A domain is in the table, live or removed. -/
theorem any_domain_iff :
    db.customDomains.any (·.domain = domain) = true ↔ ¬ db.Unused domain ∨ db.Removed domain := by
  simp only [List.any_eq_true, decide_eq_true_eq, DomainDb.Unused, DomainDb.Removed]
  constructor
  · rintro ⟨row, hrow, hdomain⟩
    by_cases hlive : row.deletedAt = none
    · exact .inl fun hunused => hunused row hrow hdomain hlive
    · exact .inr ⟨row, hrow, hdomain, hlive⟩
  · rintro (hused | ⟨row, hrow, hdomain, -⟩)
    · obtain ⟨row, hrow⟩ := not_forall.1 hused
      obtain ⟨hmem, hrow⟩ := Classical.not_imp.1 hrow
      exact ⟨row, hmem, (Classical.not_imp.1 hrow).1⟩
    · exact ⟨row, hrow, hdomain⟩

/-- **A domain that no live row has is connected if and only if it was not removed before.** -/
theorem connects_iff (h : Entitled deps db r domain) (hunused : db.Unused domain) :
    Connects deps db r domain ↔ ¬ db.Removed domain := by
  constructor
  · rintro ⟨row, hok, -⟩ hremoved
    rw [create_taken h (any_domain_iff.2 (.inr hremoved))] at hok
    cases hok
  · intro hnot
    refine connects_of_free h ?_
    rw [Bool.eq_false_iff, Ne, any_domain_iff]
    rintro (hused | hremoved)
    · exact hused hunused
    · exact hnot hremoved

/-- **Step lemma**: a domain is available to an operation if and only if it was not removed. -/
theorem available_iff (op : DomainOp) : Available deps db op ↔ NeverRemoved deps db op := by
  cases op with
  | create r =>
      exact forall_congr' fun domain => forall_congr' fun h => forall_congr' fun hunused =>
        connects_iff h hunused
  | verify org id resolveTxt now => exact Iff.rfl
  | remove org id userId now => exact Iff.rfl

end

/-! ## runs -/

/-- **In every history of creates, verifications and removals, every domain that no live row has can
be connected if and only if no such domain that is asked for was removed before.** -/
theorem available_along_iff (deps : DomainDeps) (db : DomainDb) (ops : List DomainOp) :
    Along (domainStep deps) (Available deps) db ops ↔
      Along (domainStep deps) (NeverRemoved deps) db ops :=
  along_iff (I := fun _ => True) (fun _ _ _ _ => trivial) (fun _ op _ => available_iff op) trivial

/-! ## removed for good -/

section
variable {deps : DomainDeps} {db : DomainDb} {domain : List Char}

/-- An update that keeps the domain, and keeps removed rows removed. -/
theorem DomainDb.Removed.update (h : db.Removed domain) {id : Nat}
    {f : CustomDomainRow → CustomDomainRow} (hdomain : ∀ r, (f r).domain = r.domain)
    (hdeleted : ∀ r, r.deletedAt ≠ none → (f r).deletedAt ≠ none) :
    (db.update id f).Removed domain := by
  obtain ⟨row, hrow, hrowDomain, hremoved⟩ := h
  by_cases hid : row.id = id
  · refine ⟨f row, mem_updateWhere.2 (.inl ⟨row, hrow, by simpa using hid, rfl⟩), ?_, ?_⟩
    · rw [hdomain, hrowDomain]
    · exact hdeleted row hremoved
  · exact ⟨row, mem_updateWhere.2 (.inr ⟨hrow, by simpa using hid⟩), hrowDomain, hremoved⟩

/-- Nothing brings a removed row back. -/
theorem DomainDb.Removed.step (h : db.Removed domain) (op : DomainOp) :
    (domainStep deps db op).Removed domain := by
  cases op with
  | create r =>
      obtain ⟨row, hrow, hdomain, hremoved⟩ := h
      simp only [domainStep, Domains.create]
      split
      · exact ⟨row, hrow, hdomain, hremoved⟩
      · split
        · exact ⟨row, hrow, hdomain, hremoved⟩
        · split
          · exact ⟨row, hrow, hdomain, hremoved⟩
          · split
            · exact ⟨row, hrow, hdomain, hremoved⟩
            · exact ⟨row, List.mem_append_left _ hrow, hdomain, hremoved⟩
  | verify org id resolveTxt now =>
      simp only [domainStep, Domains.verify]
      split
      · exact h
      · exact h.update (fun _ => rfl) fun _ hremoved => hremoved
  | remove org id userId now =>
      simp only [domainStep, Domains.remove]
      split
      · exact h
      · exact h.update (fun _ => rfl) fun _ _ => by simp

/-- The operation is not a request that connects the domain. -/
def Refuses (deps : DomainDeps) (domain : List Char) (db : DomainDb) : DomainOp → Prop
  | .create r => normalizeDomain r.domain = some domain → ∃ e, create deps db r = (.error e, db)
  | _ => True

/-- **A removed domain is refused for good, to every organization.** -/
theorem refused_along (h : db.Removed domain) (ops : List DomainOp) :
    Along (domainStep deps) (Refuses deps domain) db ops := by
  refine Along.of_inv (I := fun db => db.Removed domain) (C := fun _ _ => True)
    (fun _ op h _ => h.step op) ?_ h (Along.of_forall (fun _ _ _ => trivial) db)
  intro db op h _
  cases op with
  | create r =>
      intro hvalid
      cases hcapable : deps.assertCanUseCustomDomains r.organizationId with
      | error e => exact ⟨e, by simp [create, hcapable]⟩
      | ok _ =>
          by_cases howns : db.ownsPage r.organizationId r.statusPageId = true
          · exact ⟨_, create_taken ⟨hcapable, hvalid, howns⟩ (any_domain_iff.2 (.inr h))⟩
          · exact ⟨_, by simp only [create, hcapable, hvalid, howns, Bool.not_false, if_true]; rfl⟩
  | verify org id resolveTxt now => trivial
  | remove org id userId now => trivial

end

/-! ## a domain removed and asked for again -/

/-- Two organizations with a page each, and no domain. -/
def twoPages : DomainDb where
  pages := [{ id := 1, organizationId := "acme" }, { id := 2, organizationId := "globex" }]

def planDeps : DomainDeps where
  cnameTarget := "cname.uptimeflow.app"

/-- Acme connects its domain and removes it; then globex asks for it. -/
def reconnect : List DomainOp :=
  [.create ⟨"acme", 1, "status.acme.com".toList, none, "t1"⟩, .remove "acme" 0 none 100,
    .create ⟨"globex", 2, "status.acme.com".toList, none, "t2"⟩]

theorem not_available_reconnect :
    ¬ Along (domainStep planDeps) (Available planDeps) twoPages reconnect ∧
      (create planDeps (run (domainStep planDeps) twoPages (reconnect.take 2))
        ⟨"globex", 2, "status.acme.com".toList, none, "t2"⟩).1 =
        .error (.conflict "That domain is already connected to a status page.") := by
  have hrefused : (create planDeps (run (domainStep planDeps) twoPages (reconnect.take 2))
      ⟨"globex", 2, "status.acme.com".toList, none, "t2"⟩).1 =
      .error (.conflict "That domain is already connected to a status page.") := by decide +kernel
  refine ⟨?_, hrefused⟩
  rintro ⟨-, -, hagain, -⟩
  obtain ⟨row, hok, -⟩ := hagain "status.acme.com".toList ⟨rfl, by decide +kernel, by decide +kernel⟩
    (by decide +kernel)
  exact absurd (hok.symm.trans hrefused) (by simp)

end UptimeFlow.StatusPages.Domains
