import UptimeFlow.Past
import UptimeFlow.StatusPages.Domains
import UptimeFlow.StatusPages.Isolation

/-!
# UptimeFlow.StatusPages.Hosts

From a host name to the status page it shows, over histories of domain and
page operations that start from empty tables.

`resolve` reads one column, the outcome of the row's latest check, and nothing
of the page but its slug.  So what it returns was proven to be the
organization's (`resolve_proven`); but a check that learned nothing takes a
verified domain down, and a page that was withdrawn is still found.
`stable_iff` says which operations do either.
-/

namespace UptimeFlow.StatusPages.Hosts

open Tables Runs Past Domains
open Monitoring (OrganizationId Instant)

/-! ## resolving -/

/-- The pages, and the domains connected to them. -/
structure HostDb where
  store : Db := {}
  customDomains : List CustomDomainRow := []
deriving DecidableEq, Repr

/-- What the domain operations see of the tables. -/
def HostDb.domainDb (db : HostDb) : DomainDb where
  pages := db.store.pages.map fun p =>
    { id := p.id, organizationId := p.organizationId, deletedAt := p.deletedAt }
  customDomains := db.customDomains

structure ResolvedDomain where
  organizationId : OrganizationId
  statusPageId : Nat
  domain : List Char
  slug : String
deriving DecidableEq, Repr

/-- A live, verified row of the domain. -/
def serves (domain : List Char) (row : CustomDomainRow) : Bool :=
  row.domain = domain && row.verificationStatus = .verified && row.deletedAt.isNone

/-- The page a host name leads to.  The foreign key has every row's page exist. -/
def resolve (db : HostDb) (host : List Char) : Option ResolvedDomain :=
  match normalizeDomain host with
  | none => none
  | some domain =>
      match db.customDomains.find? (serves domain) with
      | none => none
      | some row => (db.store.page row.statusPageId).map fun page => {
          organizationId := row.organizationId, statusPageId := row.statusPageId
          domain := row.domain, slug := page.slug }

/-- `publicPageBySlug`: what the web asks for next. -/
def publicPageBySlug (db : HostDb) (slug : String) : Option PageRow := db.store.publicRow slug

/-! ## histories -/

inductive HostOp where
  | domain (op : DomainOp)
  | page (op : Op)

def hostStep (deps : DomainDeps) (db : HostDb) : HostOp → HostDb
  | .domain op => { db with customDomains := (domainStep deps db.domainDb op).customDomains }
  | .page op => { db with store := step db.store op }

/-- The tables after a history. -/
abbrev after (deps : DomainDeps) (ops : List HostOp) : HostDb := run (hostStep deps) {} ops

/-! ## what a check observes -/

abbrev TxtAnswer := Except (Option String) (List (List String))

/-- The answer has the token among its values. -/
def TxtAnswer.has (token : String) : TxtAnswer → Bool
  | .ok records => (records.map String.join).contains token
  | .error _ => false

/-- The answer says which records there are, or that there are none; any other error leaves it
open. -/
def TxtAnswer.definite : TxtAnswer → Bool
  | .ok _ => true
  | .error code => code = some "ENOTFOUND" || code = some "ENODATA"

/-- What stays of a row for good: whose it is, what it connects, and its token. -/
def identity (row : CustomDomainRow) : Nat × OrganizationId × Nat × List Char × String :=
  (row.id, row.organizationId, row.statusPageId, row.domain, row.verificationToken)

/-- The answer an operation gets about a row, where it is a verification of this row. -/
def observes (deps : DomainDeps) (row : CustomDomainRow) (db : HostDb) : HostOp → Option TxtAnswer
  | .domain (.verify org id resolveTxt _) =>
      if (db.domainDb.findRow org id).any fun found => identity found = identity row then
        some (resolveTxt (deps.challengeHostname row.domain))
      else none
  | _ => none

section
variable (deps : DomainDeps) (row : CustomDomainRow)

/-- The operation verifies the row. -/
def Verifies (db : HostDb) (op : HostOp) : Prop := (observes deps row db op).isSome = true

/-- A verification that sees the row's own token. -/
def Sees (db : HostDb) (op : HostOp) : Prop :=
  ∃ answer ∈ observes deps row db op, answer.has row.verificationToken = true

/-- A verification with a definite answer that lacks the token. -/
def Refutes (db : HostDb) (op : HostOp) : Prop :=
  ∃ answer ∈ observes deps row db op,
    answer.definite = true ∧ answer.has row.verificationToken = false

/-- The operation connects the row, to a live page of its organization. -/
def Connected (db : HostDb) (op : HostOp) : Prop :=
  ∃ r fresh, op = .domain (.create r) ∧
    (Domains.create deps db.domainDb r).1 = .ok (deps.toSummary fresh) ∧
    identity fresh = identity row ∧
    db.domainDb.ownsPage row.organizationId row.statusPageId = true

end

/-! ## what an operation does to the rows -/

variable {deps : DomainDeps}

/-- A request to connect a domain is refused, or adds a fresh, pending row for a domain no row
has. -/
theorem create_cases (deps : DomainDeps) (db : DomainDb) (r : CreateDomain) :
    (Domains.create deps db r).2 = db ∨
    ∃ row, (Domains.create deps db r).1 = .ok (deps.toSummary row) ∧
      (Domains.create deps db r).2 = { db with customDomains := db.customDomains ++ [row] } ∧
      row.id = freshId (·.id) db.customDomains ∧ row.verificationStatus = .pending ∧
      normalizeDomain r.domain = some row.domain ∧
      (∀ old ∈ db.customDomains, old.domain ≠ row.domain) ∧
      db.ownsPage row.organizationId row.statusPageId = true := by
  unfold Domains.create
  cases hcapable : deps.assertCanUseCustomDomains r.organizationId with
  | error e => exact .inl rfl
  | ok _ =>
      cases hvalid : normalizeDomain r.domain with
      | none => exact .inl rfl
      | some domain =>
          by_cases howns : db.ownsPage r.organizationId r.statusPageId = true
          · by_cases htaken : db.customDomains.any (·.domain = domain) = true
            · simp [howns, htaken]
            · refine .inr ⟨_, by simp [howns, htaken]; rfl, by simp [howns, htaken], rfl, rfl, rfl, ?_,
                howns⟩
              intro old hold hdomain
              exact htaken (List.any_eq_true.2 ⟨old, hold, by simp [hdomain]⟩)
          · simp [howns]

/-- A check ends in `verified` exactly when the token was seen. -/
theorem checkTxt_verified_iff (token : String) (answer : TxtAnswer) :
    (checkTxt token answer).1 = .verified ↔ answer.has token = true := by
  cases answer with
  | error code =>
      simp only [checkTxt, TxtAnswer.has]
      split <;> simp
  | ok records =>
      simp only [checkTxt, TxtAnswer.has]
      split
      · simp_all
      · split <;> simp_all

/-- The status of a row after an operation that leaves it in the table. -/
def statusAfter (deps : DomainDeps) (row : CustomDomainRow) (db : HostDb) (op : HostOp) :
    DomainVerificationStatus :=
  match observes deps row db op with
  | none => row.verificationStatus
  | some answer => (checkTxt row.verificationToken answer).1

theorem identity_eq_iff {a b : CustomDomainRow} : identity a = identity b ↔
    a.id = b.id ∧ a.organizationId = b.organizationId ∧ a.statusPageId = b.statusPageId ∧
      a.domain = b.domain ∧ a.verificationToken = b.verificationToken := by
  simp [identity]

section
variable {a b : CustomDomainRow} (h : identity a = identity b)
include h

/-- What is observed about a row depends on its identity only. -/
theorem observes_congr : observes deps a = observes deps b := by
  have hdomain := (identity_eq_iff.1 h).2.2.2.1
  funext db op
  unfold observes
  split
  · rw [h, hdomain]
  · rfl

theorem verifies_congr : Verifies deps a = Verifies deps b := by
  funext db op
  rw [Verifies, Verifies, observes_congr h]

theorem sees_congr : Sees deps a = Sees deps b := by
  have htoken := (identity_eq_iff.1 h).2.2.2.2
  funext db op
  rw [Sees, Sees, observes_congr h, htoken]

theorem refutes_congr : Refutes deps a = Refutes deps b := by
  have htoken := (identity_eq_iff.1 h).2.2.2.2
  funext db op
  rw [Refutes, Refutes, observes_congr h, htoken]

theorem connected_congr : Connected deps a = Connected deps b := by
  obtain ⟨-, horg, hpage, -, -⟩ := identity_eq_iff.1 h
  funext db op
  simp only [Connected, h, horg, hpage]

end

/-- **Step lemma**: a row of the tables after an operation was connected by it, and is pending,
or was there, with the status the operation gives it; a removed row stays removed. -/
theorem mem_hostStep {db : HostDb} (hids : (db.customDomains.map (·.id)).Nodup) {op : HostOp}
    {row' : CustomDomainRow} (h : row' ∈ (hostStep deps db op).customDomains) :
    (Connected deps row' db op ∧ row'.verificationStatus = .pending ∧
      ∀ old ∈ db.customDomains, old.id ≠ row'.id) ∨
    ∃ row ∈ db.customDomains, identity row = identity row' ∧
      (row'.deletedAt = none → row.deletedAt = none) ∧
      row'.verificationStatus = statusAfter deps row db op := by
  cases op with
  | page op => exact .inr ⟨row', h, rfl, fun hlive => hlive, rfl⟩
  | domain op =>
      cases op with
      | create r =>
          simp only [hostStep, domainStep] at h
          obtain hsame | ⟨row, hok, hrows, hid, hpending, -, -, howns⟩ :=
            create_cases deps db.domainDb r
          · rw [hsame] at h
            exact .inr ⟨row', h, rfl, fun hlive => hlive, rfl⟩
          · rw [hrows] at h
            rcases List.mem_append.1 h with hold | hnew
            · exact .inr ⟨row', hold, rfl, fun hlive => hlive, rfl⟩
            · obtain rfl := List.mem_singleton.1 hnew
              refine .inl ⟨⟨r, row', rfl, hok, rfl, howns⟩, hpending, fun old hold => ?_⟩
              rw [hid]
              exact ne_freshId (·.id) hold
      | verify org id resolveTxt now =>
          simp only [hostStep, domainStep, Domains.verify] at h
          cases hfound : db.domainDb.findRow org id with
          | none =>
              rw [hfound] at h
              exact .inr ⟨row', h, rfl, fun hlive => hlive, by simp [statusAfter, observes, hfound]⟩
          | some found =>
              rw [hfound] at h
              have hmem : found ∈ db.customDomains := List.mem_of_find?_eq_some hfound
              rcases mem_updateWhere.1 h with ⟨row, hrow, hid, rfl⟩ | ⟨hrow, hid⟩
              · obtain rfl : row = found := eq_of_id_eq hids hrow hmem (of_decide_eq_true hid)
                refine .inr ⟨row, hrow, rfl, fun hlive => hlive, ?_⟩
                simp [statusAfter, observes, hfound]
              · have hne : identity found ≠ identity row' := fun heq =>
                  of_decide_eq_false hid (identity_eq_iff.1 heq).1.symm
                refine .inr ⟨row', hrow, rfl, fun hlive => hlive, ?_⟩
                simp [statusAfter, observes, hfound, hne]
      | remove org id userId now =>
          simp only [hostStep, domainStep, Domains.remove] at h
          cases hfound : db.domainDb.findRow org id with
          | none =>
              rw [hfound] at h
              exact .inr ⟨row', h, rfl, fun hlive => hlive, rfl⟩
          | some found =>
              rw [hfound] at h
              rcases mem_updateWhere.1 h with ⟨row, hrow, -, rfl⟩ | ⟨hrow, -⟩
              · exact .inr ⟨row, hrow, rfl, by simp, rfl⟩
              · exact .inr ⟨row', hrow, rfl, fun hlive => hlive, rfl⟩

/-- The operation is a removal of a domain. -/
def Removes : HostOp → Prop
  | .domain (.remove ..) => True
  | _ => False

/-- The other way round: a row stays in the tables, with the status the operation gives it, and
live unless the operation is a removal. -/
theorem hostStep_mem (deps : DomainDeps) {db : HostDb} (hids : (db.customDomains.map (·.id)).Nodup) (op : HostOp)
    {row : CustomDomainRow} (h : row ∈ db.customDomains) :
    ∃ row' ∈ (hostStep deps db op).customDomains, identity row' = identity row ∧
      row'.verificationStatus = statusAfter deps row db op ∧
      (¬ Removes op → row'.deletedAt = row.deletedAt) := by
  cases op with
  | page op => exact ⟨row, h, rfl, rfl, fun _ => rfl⟩
  | domain op =>
      cases op with
      | create r =>
          refine ⟨row, ?_, rfl, rfl, fun _ => rfl⟩
          simp only [hostStep, domainStep]
          obtain hsame | ⟨fresh, -, hrows, -⟩ := create_cases deps db.domainDb r
          · rw [hsame]
            exact h
          · rw [hrows]
            exact List.mem_append_left _ h
      | verify org id resolveTxt now =>
          simp only [hostStep, domainStep, Domains.verify]
          cases hfound : db.domainDb.findRow org id with
          | none => exact ⟨row, h, rfl, by simp [statusAfter, observes, hfound], fun _ => rfl⟩
          | some found =>
              have hmem : found ∈ db.customDomains := List.mem_of_find?_eq_some hfound
              by_cases hid : row.id = found.id
              · obtain rfl := eq_of_id_eq hids h hmem hid
                refine ⟨_, mem_updateWhere.2 (.inl ⟨row, h, by simp, rfl⟩), rfl, ?_, fun _ => rfl⟩
                simp [statusAfter, observes, hfound]
              · have hne : identity found ≠ identity row := fun heq =>
                  hid (identity_eq_iff.1 heq).1.symm
                refine ⟨row, mem_updateWhere.2 (.inr ⟨h, by simpa using hid⟩), rfl, ?_, fun _ => rfl⟩
                simp [statusAfter, observes, hfound, hne]
      | remove org id userId now =>
          simp only [hostStep, domainStep, Domains.remove]
          cases hfound : db.domainDb.findRow org id with
          | none => exact ⟨row, h, rfl, rfl, fun _ => rfl⟩
          | some found =>
              by_cases hid : row.id = id
              · exact ⟨_, mem_updateWhere.2 (.inl ⟨row, h, by simpa using hid, rfl⟩), rfl, rfl,
                  fun hnot => absurd trivial hnot⟩
              · exact ⟨row, mem_updateWhere.2 (.inr ⟨h, by simpa using hid⟩), rfl, rfl, fun _ => rfl⟩

/-! ## keys -/

/-- What the keys guarantee: no two rows share a domain, and each row's page is there, its
organization's. -/
structure Keys (db : HostDb) : Prop where
  consistent : db.store.Consistent
  ids : (db.customDomains.map (·.id)).Nodup
  domains : (db.customDomains.map (·.domain)).Nodup
  pages : ∀ row ∈ db.customDomains, db.store.pageOrg row.statusPageId = some row.organizationId
  names : ∀ row ∈ db.customDomains, ∃ host, normalizeDomain host = some row.domain

/-- The ownership check finds the organization of the page. -/
theorem pageOrg_of_ownsPage {db : HostDb} (hc : db.store.Consistent) {org : OrganizationId}
    {pageId : Nat} (h : db.domainDb.ownsPage org pageId = true) :
    db.store.pageOrg pageId = some org := by
  refine pageOrg_of_pageInOrg hc.pageIds ?_
  simpa [DomainDb.ownsPage, HostDb.domainDb, Db.pageInOrg, and_assoc] using h

theorem keys_empty : Keys {} where
  consistent := consistent_empty
  ids := List.nodup_nil
  domains := List.nodup_nil
  pages := by simp
  names := by simp

/-- An update of rows that keeps what identifies them keeps the keys. -/
theorem Keys.update {db : HostDb} (hk : Keys db) {p : CustomDomainRow → Bool}
    {f : CustomDomainRow → CustomDomainRow} (hf : ∀ r, identity (f r) = identity r) :
    Keys { db with customDomains := updateWhere p f db.customDomains } where
  consistent := hk.consistent
  ids := by
    show ((updateWhere p f db.customDomains).map (·.id)).Nodup
    rw [map_id_updateWhere fun r => (identity_eq_iff.1 (hf r)).1]
    exact hk.ids
  domains := by
    show ((updateWhere p f db.customDomains).map (·.domain)).Nodup
    rw [map_id_updateWhere fun r => (identity_eq_iff.1 (hf r)).2.2.2.1]
    exact hk.domains
  pages row hrow := by
    obtain ⟨old, hold, hsame⟩ := exists_of_mem_updateWhere identity hrow hf
    obtain ⟨-, horg, hpage, -, -⟩ := identity_eq_iff.1 hsame
    rw [← horg, ← hpage]
    exact hk.pages old hold
  names row hrow := by
    obtain ⟨old, hold, hsame⟩ := exists_of_mem_updateWhere identity hrow hf
    rw [← (identity_eq_iff.1 hsame).2.2.2.1]
    exact hk.names old hold

theorem Keys.step {db : HostDb} (hk : Keys db) (op : HostOp) : Keys (hostStep deps db op) := by
  cases op with
  | page op =>
      have hchange := step_change hk.consistent op
      exact {
        consistent := hchange.consistent, ids := hk.ids, domains := hk.domains
        pages := fun row hrow => hchange.keeps.pageOrg (hk.pages row hrow), names := hk.names }
  | domain op =>
      cases op with
      | create r =>
          simp only [hostStep, domainStep]
          obtain hsame | ⟨row, -, hrows, hid, -, hvalid, hfree, howns⟩ := create_cases deps db.domainDb r
          · rw [hsame]
            exact hk
          · rw [hrows]
            refine {
              consistent := hk.consistent, ids := nodup_concat_freshId hk.ids hid
              domains := ?_, pages := ?_, names := ?_ }
            · show ((db.customDomains ++ [row]).map (·.domain)).Nodup
              rw [List.map_append, List.map_singleton]
              refine List.nodup_append.2 ⟨hk.domains, List.nodup_singleton _, ?_⟩
              intro d hd e he
              obtain ⟨old, hold, rfl⟩ := List.mem_map.1 hd
              rw [List.mem_singleton.1 he]
              exact hfree old hold
            · intro x hx
              rcases List.mem_append.1 hx with hold | hnew
              · exact hk.pages x hold
              · obtain rfl := List.mem_singleton.1 hnew
                exact pageOrg_of_ownsPage hk.consistent howns
            · intro x hx
              rcases List.mem_append.1 hx with hold | hnew
              · exact hk.names x hold
              · obtain rfl := List.mem_singleton.1 hnew
                exact ⟨r.domain, hvalid⟩
      | verify org id resolveTxt now =>
          simp only [hostStep, domainStep, Domains.verify]
          cases db.domainDb.findRow org id with
          | none => exact hk
          | some found => exact hk.update fun _ => rfl
      | remove org id userId now =>
          simp only [hostStep, domainStep, Domains.remove]
          cases db.domainDb.findRow org id with
          | none => exact hk
          | some found => exact hk.update fun _ => rfl

theorem keys_after (ops : List HostOp) : Keys (after deps ops) :=
  inv_run_of_step (fun _ op hk => hk.step op) keys_empty ops

/-- **What a host leads to**: the live row of its domain, if that is verified, and the slug of
the row's page. -/
theorem resolve_of_row {db : HostDb} (hk : Keys db) {row : CustomDomainRow}
    (hrow : row ∈ db.customDomains) (hlive : row.deletedAt = none) {host : List Char}
    (hhost : normalizeDomain host = some row.domain) :
    (row.verificationStatus = .verified → ∃ page, db.store.page row.statusPageId = some page ∧
      resolve db host = some ⟨row.organizationId, row.statusPageId, row.domain, page.slug⟩) ∧
    (row.verificationStatus ≠ .verified → resolve db host = none) := by
  constructor
  · intro hverified
    obtain ⟨page, hpage, -⟩ := Option.map_eq_some_iff.1 (hk.pages row hrow)
    have hfind : db.customDomains.find? (serves row.domain) = some row := by
      rw [← find?_of_nodup hk.domains hrow]
      refine List.find?_congr fun r hr => ?_
      by_cases hdomain : r.domain = row.domain
      · obtain rfl := eq_of_id_eq hk.domains hr hrow hdomain
        simp [serves, hverified, hlive]
      · simp [serves, hdomain]
    exact ⟨page, hpage, by simp [resolve, hhost, hfind, hpage]⟩
  · intro hnot
    have hnone : db.customDomains.find? (serves row.domain) = none := by
      refine List.find?_eq_none.2 fun r hr hserves => ?_
      simp only [serves, Bool.and_eq_true, decide_eq_true_eq] at hserves
      obtain rfl := eq_of_id_eq hk.domains hr hrow hserves.1.1
      exact hnot hserves.1.2
    simp [resolve, hhost, hnone]

/-! ## what a resolved host was proven by -/

/-- A row that stays in the tables is verified after an operation that sees its token, and after
one that does not verify it if it was before. -/
theorem statusAfter_verified_iff {row : CustomDomainRow} {db : HostDb} {op : HostOp} :
    statusAfter deps row db op = .verified ↔
      Sees deps row db op ∨ (row.verificationStatus = .verified ∧ ¬ Verifies deps row db op) := by
  unfold statusAfter Sees Verifies
  cases observes deps row db op with
  | none => simp
  | some answer => simp [checkTxt_verified_iff]

theorem after_concat (ops : List HostOp) (op : HostOp) :
    after deps (ops ++ [op]) = hostStep deps (after deps ops) op := run_concat _ ops op

/-- Every row was connected, to a page of its organization. -/
theorem connected_since (ops : List HostOp) : ∀ row ∈ (after deps ops).customDomains,
    Since (hostStep deps) (fun _ _ => True) (Connected deps row) {} ops := by
  induction ops using List.reverseRecOn with
  | nil => simp
  | append_singleton ops op ih =>
      intro row' hrow'
      rw [after_concat] at hrow'
      rw [since_concat]
      obtain ⟨hconnected, -⟩ | ⟨row, hrow, hsame, -⟩ := mem_hostStep (keys_after ops).ids hrow'
      · exact .inl hconnected
      · exact .inr ⟨connected_congr hsame ▸ ih row hrow, trivial⟩

/-- **A verified row's latest verification saw its own token.** -/
theorem since_of_verified (ops : List HostOp) : ∀ row ∈ (after deps ops).customDomains,
    row.verificationStatus = .verified →
      Since (hostStep deps) (fun db op => ¬ Verifies deps row db op) (Sees deps row) {} ops := by
  induction ops using List.reverseRecOn with
  | nil => simp
  | append_singleton ops op ih =>
      intro row' hrow' hverified
      rw [after_concat] at hrow'
      rw [since_concat]
      obtain ⟨-, hpending, -⟩ | ⟨row, hrow, hsame, -, hstatus⟩ :=
        mem_hostStep (keys_after ops).ids hrow'
      · rw [hpending] at hverified
        cases hverified
      · rw [hstatus, statusAfter_verified_iff] at hverified
        rw [← sees_congr hsame, ← verifies_congr hsame]
        exact hverified.imp id fun h => ⟨ih row hrow h.1, h.2⟩

theorem resolve_some {db : HostDb} {host : List Char} {res : ResolvedDomain}
    (h : resolve db host = some res) : ∃ row ∈ db.customDomains, ∃ page,
      normalizeDomain host = some row.domain ∧ row.verificationStatus = .verified ∧
      row.deletedAt = none ∧ db.store.page row.statusPageId = some page ∧
      res = ⟨row.organizationId, row.statusPageId, row.domain, page.slug⟩ := by
  unfold resolve at h
  split at h
  · contradiction
  · next domain hdomain =>
      split at h
      · contradiction
      · next row hfind =>
          obtain ⟨page, hpage, rfl⟩ := Option.map_eq_some_iff.1 h
          have hserves := List.find?_some hfind
          simp only [serves, Bool.and_eq_true, decide_eq_true_eq, Option.isNone_iff_eq_none]
            at hserves
          obtain ⟨⟨rfl, hverified⟩, hlive⟩ := hserves
          exact ⟨row, List.mem_of_find?_eq_some hfind, page, hdomain, hverified, hlive, hpage, rfl⟩

/-- The row a resolved host rests on: it is live, its latest verification saw its own token, and
it was connected to a page of its organization. -/
structure Proven (deps : DomainDeps) (ops : List HostOp) (host : List Char) (res : ResolvedDomain)
    (row : CustomDomainRow) : Prop where
  mem : row ∈ (after deps ops).customDomains
  live : row.deletedAt = none
  host : normalizeDomain host = some row.domain
  resolved : ∃ page, (after deps ops).store.page row.statusPageId = some page ∧
    res = ⟨row.organizationId, row.statusPageId, row.domain, page.slug⟩
  seen : Since (hostStep deps) (fun db op => ¬ Verifies deps row db op) (Sees deps row) {} ops
  connected : Since (hostStep deps) (fun _ _ => True) (Connected deps row) {} ops

/-- **No host without its token**: in every history of domain and page operations, a host resolves
only to a row that was proven its organization's. -/
theorem resolve_proven (deps : DomainDeps) (ops : List HostOp) (host : List Char)
    (res : ResolvedDomain) (h : resolve (after deps ops) host = some res) :
    ∃ row, Proven deps ops host res row := by
  obtain ⟨row, hrow, page, hhost, hverified, hlive, hpage, hres⟩ := resolve_some h
  exact ⟨row, {
    mem := hrow, live := hlive, host := hhost, resolved := ⟨page, hpage, hres⟩
    seen := since_of_verified ops row hrow hverified, connected := connected_since ops row hrow }⟩

/-- Acme publishes a page, connects its domain and proves it. -/
def acmeConnects : List HostOp :=
  [.page (.create "acme" true { name := "Acme", slug := "acme" } 0),
    .domain (.create ⟨"acme", 0, "status.acme.com".toList, none, "t1"⟩),
    .domain (.verify "acme" 0 (fun _ => .ok [["t", "1"]]) 100)]

theorem resolve_proven_acme :
    resolve (after planDeps acmeConnects) "Status.Acme.com".toList =
        some ⟨"acme", 0, "status.acme.com".toList, "acme"⟩ ∧
      ∃ row, Proven planDeps acmeConnects "Status.Acme.com".toList
        ⟨"acme", 0, "status.acme.com".toList, "acme"⟩ row := by
  have hresolves : resolve (after planDeps acmeConnects) "Status.Acme.com".toList =
      some ⟨"acme", 0, "status.acme.com".toList, "acme"⟩ := by decide +kernel
  exact ⟨hresolves, resolve_proven planDeps acmeConnects _ _ hresolves⟩

/-! ## staying up, going down -/

/-- The page is live and publicly visible. -/
def shows (db : Db) (pageId : Nat) : Bool :=
  (db.page pageId).any fun p => p.deletedAt.isNone && p.visibility ≠ .private

/-- The row was verified, and no check since got a definite answer that lacked its token. -/
def Held (deps : DomainDeps) (ops : List HostOp) (row : CustomDomainRow) : Prop :=
  Since (hostStep deps) (fun db op => ¬ Refutes deps row db op) (Sees deps row) {} ops

/-- After a history, a held domain resolves to its page while that is shown, and no domain
resolves once its page is withdrawn. -/
def Stable (deps : DomainDeps) (ops : List HostOp) : Prop :=
  ∀ row ∈ (after deps ops).customDomains, row.deletedAt = none →
    ∀ host, normalizeDomain host = some row.domain →
      (Held deps ops row → shows (after deps ops).store row.statusPageId = true →
        ∃ slug, resolve (after deps ops) host =
          some ⟨row.organizationId, row.statusPageId, row.domain, slug⟩) ∧
      (shows (after deps ops).store row.statusPageId = false → resolve (after deps ops) host = none)

/-- What an operation must not do: fail to look up a verified domain, verify the domain of a
withdrawn page, or withdraw a page that has a verified domain. -/
def Settled (deps : DomainDeps) (db : HostDb) : HostOp → Prop
  | .domain (.verify org id resolveTxt _) => ∀ row ∈ db.domainDb.findRow org id,
      let answer : TxtAnswer := resolveTxt (deps.challengeHostname row.domain)
      (row.verificationStatus = .verified → answer.definite = true) ∧
        (answer.has row.verificationToken = true → shows db.store row.statusPageId = true)
  | .domain _ => True
  | .page op => ∀ row ∈ db.customDomains, row.deletedAt = none →
      row.verificationStatus = .verified → shows (step db.store op) row.statusPageId = true

instance (deps : DomainDeps) (db : HostDb) : (op : HostOp) → Decidable (Settled deps db op)
  | .domain (.verify org id resolveTxt _) => inferInstanceAs (Decidable
      (∀ row ∈ db.domainDb.findRow org id,
        let answer : TxtAnswer := resolveTxt (deps.challengeHostname row.domain)
        (row.verificationStatus = .verified → answer.definite = true) ∧
          (answer.has row.verificationToken = true → shows db.store row.statusPageId = true)))
  | .domain (.create _) | .domain (.remove ..) => isTrue trivial
  | .page op => inferInstanceAs (Decidable (∀ row ∈ db.customDomains, row.deletedAt = none →
      row.verificationStatus = .verified → shows (step db.store op) row.statusPageId = true))

/-- In terms of the rows: the live ones that are held and shown are verified, those of withdrawn
pages are not. -/
theorem stable_iff_rows (ops : List HostOp) : Stable deps ops ↔
    ∀ row ∈ (after deps ops).customDomains, row.deletedAt = none →
      (Held deps ops row → shows (after deps ops).store row.statusPageId = true →
        row.verificationStatus = .verified) ∧
      (row.verificationStatus = .verified → shows (after deps ops).store row.statusPageId = true) := by
  have hk : Keys (after deps ops) := keys_after ops
  refine forall_congr' fun row => forall_congr' fun hrow => forall_congr' fun hlive => ?_
  constructor
  · intro h
    obtain ⟨host, hhost⟩ := hk.names row hrow
    obtain ⟨hup, hdown⟩ := resolve_of_row hk hrow hlive hhost
    obtain ⟨hstays, hstops⟩ := h host hhost
    constructor
    · intro hheld hshows
      by_contra hnot
      obtain ⟨slug, hslug⟩ := hstays hheld hshows
      simp [hdown hnot] at hslug
    · intro hverified
      by_contra hnot
      obtain ⟨page, -, hresolve⟩ := hup hverified
      simp [hstops (by simpa using hnot)] at hresolve
  · intro h host hhost
    obtain ⟨hup, hdown⟩ := resolve_of_row hk hrow hlive hhost
    constructor
    · intro hheld hshows
      obtain ⟨page, -, hresolve⟩ := hup (h.1 hheld hshows)
      exact ⟨page.slug, hresolve⟩
    · intro hhidden
      refine hdown fun hverified => ?_
      simp [h.2 hverified] at hhidden

/-- The page behind a resolved host is served by its slug exactly while it is shown, so a host
that still resolves to a withdrawn page leads to none. -/
theorem publicPageBySlug_of_resolve {ops : List HostOp} {host : List Char} {res : ResolvedDomain}
    (h : resolve (after deps ops) host = some res) :
    (publicPageBySlug (after deps ops) res.slug).isSome =
      shows (after deps ops).store res.statusPageId := by
  obtain ⟨row, -, page, -, -, -, hpage, rfl⟩ := resolve_some h
  have hk : Keys (after deps ops) := keys_after ops
  have hslugs := hk.consistent.slugs
  have hmem : page ∈ (after deps ops).store.pages := List.mem_of_find?_eq_some hpage
  have hshows : shows (after deps ops).store row.statusPageId = page.readable page.slug := by
    cases hvisibility : page.visibility <;>
      cases hdeleted : page.deletedAt <;> simp [shows, hpage, PageRow.readable, hvisibility, hdeleted]
  rw [hshows, publicPageBySlug, Db.publicRow]
  by_cases hreadable : page.readable page.slug = true
  · rw [hreadable, List.find?_isSome]
    exact ⟨page, hmem, hreadable⟩
  · rw [Bool.not_eq_true] at hreadable
    rw [hreadable, Option.isSome_eq_false_iff, Option.isNone_iff_eq_none, List.find?_eq_none]
    intro p hp hother
    have hslug : p.slug = page.slug := by
      simp only [PageRow.readable, Bool.and_eq_true, decide_eq_true_eq] at hother
      exact hother.1.1
    obtain rfl := eq_of_id_eq hslugs hp hmem hslug
    rw [hother] at hreadable
    cases hreadable

/-! ### held rows -/

theorem held_concat {ops : List HostOp} {op : HostOp} {row : CustomDomainRow} :
    Held deps (ops ++ [op]) row ↔
      Sees deps row (after deps ops) op ∨ (Held deps ops row ∧ ¬ Refutes deps row (after deps ops) op) :=
  since_concat

theorem held_congr {a b : CustomDomainRow} (h : identity a = identity b) (ops : List HostOp) :
    Held deps ops a ↔ Held deps ops b := by
  rw [Held, Held, sees_congr h, refutes_congr h]

theorem held_of_verified (ops : List HostOp) {row : CustomDomainRow}
    (hrow : row ∈ (after deps ops).customDomains) (h : row.verificationStatus = .verified) :
    Held deps ops row := by
  refine (since_of_verified ops row hrow h).mono fun db op hnot hrefutes => hnot ?_
  obtain ⟨answer, hanswer, -⟩ := hrefutes
  rw [Verifies, Option.mem_def.1 hanswer, Option.isSome_some]

/-- A verification of a row of the tables is one that found this row. -/
theorem observes_some {db : HostDb} (hids : (db.customDomains.map (·.id)).Nodup)
    {row : CustomDomainRow} (hrow : row ∈ db.customDomains) {op : HostOp} {answer : TxtAnswer}
    (h : observes deps row db op = some answer) : ∃ org id resolveTxt now,
      op = .domain (.verify org id resolveTxt now) ∧ db.domainDb.findRow org id = some row ∧
      answer = resolveTxt (deps.challengeHostname row.domain) := by
  unfold observes at h
  split at h
  · next org id resolveTxt now =>
      split at h
      · next hany =>
          obtain ⟨found, hfound, hsame⟩ := (Option.any_eq_true _ _).1 hany
          have hmem : found ∈ db.customDomains := List.mem_of_find?_eq_some hfound
          obtain rfl := eq_of_id_eq hids hmem hrow (identity_eq_iff.1 (of_decide_eq_true hsame)).1
          exact ⟨org, id, resolveTxt, now, rfl, hfound, (Option.some.inj h).symm⟩
      · contradiction
  · contradiction

/-- A held row is in the tables: rows are never taken out. -/
theorem exists_of_held (ops : List HostOp) {row : CustomDomainRow} (h : Held deps ops row) :
    ∃ old ∈ (after deps ops).customDomains, identity old = identity row := by
  induction ops using List.reverseRecOn with
  | nil => exact absurd h not_since_nil
  | append_singleton ops op ih =>
      have hbefore : ∃ old ∈ (after deps ops).customDomains, identity old = identity row := by
        rcases held_concat.1 h with ⟨answer, hanswer, -⟩ | ⟨hheld, -⟩
        · unfold observes at hanswer
          split at hanswer
          · split at hanswer
            · next hany =>
                obtain ⟨found, hfound, hsame⟩ := (Option.any_eq_true _ _).1 hany
                exact ⟨found, List.mem_of_find?_eq_some hfound, of_decide_eq_true hsame⟩
            · simp at hanswer
          · simp at hanswer
        · exact ih hheld
      obtain ⟨old, hold, hsame⟩ := hbefore
      obtain ⟨row', hrow', hsame', -⟩ := hostStep_mem deps (keys_after ops).ids op hold
      rw [after_concat]
      exact ⟨row', hrow', hsame'.trans hsame⟩

/-- In every live row, to be held is to be verified, and no verified one's page is withdrawn. -/
def Upheld (deps : DomainDeps) (ops : List HostOp) : Prop :=
  ∀ row ∈ (after deps ops).customDomains, row.deletedAt = none →
    (Held deps ops row → row.verificationStatus = .verified) ∧
    (row.verificationStatus = .verified → shows (after deps ops).store row.statusPageId = true)

theorem Upheld.stable {ops : List HostOp} (h : Upheld deps ops) : Stable deps ops :=
  (stable_iff_rows ops).2 fun row hrow hlive =>
    ⟨fun hheld _ => (h row hrow hlive).1 hheld, (h row hrow hlive).2⟩

/-- **Step lemma**: what is upheld stays so when nothing unsettles it. -/
theorem Upheld.concat {ops : List HostOp} (h : Upheld deps ops) {op : HostOp}
    (hsettled : Settled deps (after deps ops) op) : Upheld deps (ops ++ [op]) := by
  have hk : Keys (after deps ops) := keys_after ops
  have hids := hk.ids
  intro row' hrow' hlive'
  rw [after_concat] at hrow' ⊢
  obtain ⟨hconnected, hpending, hfresh⟩ | ⟨row, hrow, hsame, hlive, hstatus⟩ :=
    mem_hostStep hids hrow'
  · -- a new row: there is nothing it could have been verified by
    refine ⟨fun hheld => ?_, fun hverified => ?_⟩
    · rcases held_concat.1 hheld with ⟨answer, hanswer, -⟩ | ⟨hbefore, -⟩
      · obtain ⟨r, fresh, rfl, -⟩ := hconnected
        simp [observes] at hanswer
      · obtain ⟨old, hold, hid⟩ := exists_of_held ops hbefore
        exact absurd (identity_eq_iff.1 hid).1 (hfresh old hold)
    · rw [hpending] at hverified
      cases hverified
  · obtain ⟨hholds, hshows⟩ := h row hrow (hlive hlive')
    rw [hstatus, statusAfter_verified_iff, ← held_congr hsame, held_concat,
      ← (identity_eq_iff.1 hsame).2.2.1]
    refine ⟨?_, ?_⟩
    · rintro (hsees | ⟨hheld, hnot⟩)
      · exact .inl hsees
      · have hverified := hholds hheld
        by_cases hverifies : Verifies deps row (after deps ops) op
        · -- neither seen nor refuted: the answer was not definite
          obtain ⟨answer, hanswer⟩ := Option.isSome_iff_exists.1 hverifies
          obtain ⟨org, id, resolveTxt, now, rfl, hfound, rfl⟩ := observes_some hids hrow hanswer
          have hdefinite := (hsettled row hfound).1 hverified
          by_cases hhas : TxtAnswer.has row.verificationToken
              (resolveTxt (deps.challengeHostname row.domain)) = true
          · exact .inl ⟨_, hanswer, hhas⟩
          · exact absurd ⟨_, hanswer, hdefinite, by simpa using hhas⟩ hnot
        · exact .inr ⟨hverified, hverifies⟩
    · rintro (⟨answer, hanswer, hhas⟩ | ⟨hverified, -⟩)
      · obtain ⟨org, id, resolveTxt, now, rfl, hfound, rfl⟩ := observes_some hids hrow hanswer
        exact (hsettled row hfound).2 hhas
      · cases op with
        | domain op => exact hshows hverified
        | page op => exact hsettled row hrow (hlive hlive') hverified

/-- From a state in which all is upheld, an operation that unsettles a row shows. -/
theorem settled_of_stable {ops : List HostOp} (h : Upheld deps ops) {op : HostOp}
    (hstable : Stable deps (ops ++ [op])) : Settled deps (after deps ops) op := by
  have hk : Keys (after deps ops) := keys_after ops
  have hids := hk.ids
  rw [stable_iff_rows, after_concat] at hstable
  cases op with
  | page op =>
      intro row hrow hlive hverified
      exact (hstable row hrow hlive).2 hverified
  | domain op =>
      cases op with
      | create r => trivial
      | remove org id userId now => trivial
      | verify org id resolveTxt now =>
          intro row hfound
          have hrow : row ∈ (after deps ops).customDomains := List.mem_of_find?_eq_some hfound
          have hlive : row.deletedAt = none := by
            have hcond := List.find?_some hfound
            simp only [Bool.and_eq_true, Option.isNone_iff_eq_none] at hcond
            exact hcond.2
          obtain ⟨row', hrow', hsame, hstatus, hkeeps⟩ :=
            hostStep_mem deps hids (.domain (.verify org id resolveTxt now)) hrow
          have hanswer : observes deps row (after deps ops) (.domain (.verify org id resolveTxt now)) =
              some (resolveTxt (deps.challengeHostname row.domain)) := by
            simp [observes, Option.mem_def.1 hfound]
          obtain ⟨hstays, hshown⟩ := hstable row' hrow' ((hkeeps fun hremoves => hremoves).trans hlive)
          rw [held_congr hsame, held_concat, hstatus, statusAfter_verified_iff,
            (identity_eq_iff.1 hsame).2.2.1] at hstays
          rw [hstatus, statusAfter_verified_iff, (identity_eq_iff.1 hsame).2.2.1] at hshown
          refine ⟨fun hverified => ?_, fun hhas => hshown (.inl ⟨_, hanswer, hhas⟩)⟩
          by_contra hopen
          have hnot : ¬ Refutes deps row (after deps ops) (.domain (.verify org id resolveTxt now)) := by
            rintro ⟨answer, hmem, hdefinite, -⟩
            rw [hanswer] at hmem
            cases hmem
            exact hopen hdefinite
          have hheld := held_of_verified ops hrow hverified
          rcases hstays (.inr ⟨hheld, hnot⟩) ((h row hrow hlive).2 hverified) with
            ⟨answer, hmem, hhas⟩ | ⟨-, hskips⟩
          · rw [hanswer] at hmem
            cases hmem
            cases hlookup : resolveTxt (deps.challengeHostname row.domain) with
            | ok records => simp [hlookup, TxtAnswer.definite] at hopen
            | error code => simp [hlookup, TxtAnswer.has] at hhas
          · exact hskips (by rw [Verifies, hanswer]; rfl)

theorem upheld_nil : Upheld deps [] := by
  intro row hrow
  cases hrow

/-- What nothing unsettles is upheld. -/
theorem upheld_of_settled (ops : List HostOp) (h : Along (hostStep deps) (Settled deps) {} ops) :
    Upheld deps ops := by
  induction ops using List.reverseRecOn with
  | nil => exact upheld_nil
  | append_singleton ops op ih =>
      obtain ⟨hops, hop⟩ := (along_concat ops op).1 h
      exact (ih hops).concat hop

/-- **Up while shown, down once withdrawn**: after every part of a history a held domain resolves
while its page is shown and no domain of a withdrawn page does, if and only if no operation fails
to look up a verified domain, verifies the domain of a withdrawn page, or withdraws a page that
has a verified domain. -/
theorem stable_iff (deps : DomainDeps) (ops : List HostOp) :
    (∀ before, before <+: ops → Stable deps before) ↔
      Along (hostStep deps) (Settled deps) {} ops := by
  exact prefixes_iff (J := Upheld deps) upheld_nil.stable upheld_nil
    (fun ops op hJ => ⟨settled_of_stable hJ, fun hsettled => (hJ.concat hsettled).stable⟩)
    (fun ops op hJ hsettled => hJ.concat hsettled) ops

/-- The look-up fails when acme's domain is checked again. -/
def servfail : HostOp := .domain (.verify "acme" 0 (fun _ => .error (some "ESERVFAIL")) 200)

/-- Acme deletes its page. -/
def withdrawal : HostOp := .page (.remove "acme" 0 200)

/-- A failed look-up takes the domain of a page that is shown down; the domain of a deleted page
stays up. -/
theorem not_stable_acme :
    (resolve (after planDeps (acmeConnects ++ [servfail])) "status.acme.com".toList = none ∧
      ¬ Stable planDeps (acmeConnects ++ [servfail])) ∧
    (resolve (after planDeps (acmeConnects ++ [withdrawal])) "status.acme.com".toList =
        some ⟨"acme", 0, "status.acme.com".toList, "acme"⟩ ∧
      ¬ Stable planDeps (acmeConnects ++ [withdrawal])) := by
  have hup : Upheld planDeps acmeConnects := upheld_of_settled acmeConnects (by decide +kernel)
  refine ⟨⟨by decide +kernel, fun h => ?_⟩, ⟨by decide +kernel, fun h => ?_⟩⟩
  · exact absurd (settled_of_stable hup h) (by decide +kernel)
  · exact absurd (settled_of_stable hup h) (by decide +kernel)

end UptimeFlow.StatusPages.Hosts
