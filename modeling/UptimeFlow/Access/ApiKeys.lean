import UptimeFlow.Access.Roles
import UptimeFlow.Chains

/-!
# UptimeFlow.Access.ApiKeys

API keys: how a request is resolved to a principal, how a key is minted, and
what a minted key may do.

`resolve` is the chain of middleware in front of every organization route,
and `createApiKey` the handler of the create route.  A `Mint` is a request
both let through, and a `Lineage` a chain of them in which each key mints the
next.  The route checks that the caller may create keys and that the scopes
exist; it does not compare them with what the caller may do, and
`neverEscalates_iff` states the comparison that is missing.
-/

namespace UptimeFlow.Access

/-! ## principals and errors -/

inductive ErrorCode where
  | badRequest | unauthorized | forbidden | notFound
deriving DecidableEq, Repr

/-- What a schema objects to; no message where it is the schema library's own. -/
structure Issue where
  path : List String
  message : Option String := none
deriving DecidableEq, Repr

inductive RequestError where
  | app (code : ErrorCode) (message : String)
  | validation (issues : List Issue)
  | typeError (error : TypeError)
  | uniqueViolation (target : String)
deriving DecidableEq, Repr

/-- The authenticated principal acting inside an organization. -/
inductive Principal where
  | session (userId memberId : String) (role : OrgRole)
  | apiKey (apiKeyId : String) (scopes : List String)
deriving DecidableEq, Repr

structure OrgContext where
  organizationId : String
  principal : Principal
deriving DecidableEq, Repr

/-- The decision inside `requirePermission`: by role for a session, by scope for a key. -/
def Principal.permits : Principal → Resource → List Action → Bool
  | .session _ _ role, resource, actions => hasPermission role.name resource actions
  | .apiKey _ scopes, resource, actions => hasScopePermission scopes resource actions

/-- The caller as a refusal names it. -/
def Principal.subject : Principal → String
  | .session _ _ role => "Your role (" ++ role.name ++ ")"
  | .apiKey _ _ => "This API key"

def requirePermission (ctx : Option OrgContext) (resource : Resource) (actions : List Action) :
    Except RequestError Unit :=
  match ctx with
  | none => .error (.app .unauthorized "Authentication required.")
  | some ctx =>
      if !ctx.principal.permits resource actions then
        .error (.app .forbidden (ctx.principal.subject ++ " does not allow " ++
          ",".intercalate (actions.map Action.name) ++ " on " ++ resource.name ++ "."))
      else .ok ()

/-- `requirePermission` lets a request for the permission pass. -/
def OrgContext.Allows (ctx : OrgContext) (p : Permission) : Prop :=
  requirePermission (some ctx) p.resource [p.action] = .ok ()

theorem OrgContext.allows_iff (ctx : OrgContext) (p : Permission) :
    ctx.Allows p ↔ ctx.principal.permits p.resource [p.action] = true := by
  simp only [OrgContext.Allows, requirePermission]
  cases ctx.principal.permits p.resource [p.action] <;> simp

/-! ## keys and the middleware -/

/-- A row of `api_keys`. -/
structure ApiKeyRow where
  id : String
  organizationId : String
  name : String
  hashedKey : String
  shownPrefix : String
  scopes : List String
  expiresAt : Option Int := none
  createdById : Option String := none
  revokedAt : Option Int := none
  deletedAt : Option Int := none
deriving DecidableEq, Repr

structure Member where
  id : String
  organizationId : String
  userId : String
  role : String
deriving DecidableEq, Repr

/-- The tables authentication reads. -/
structure Store where
  organizations : List String
  members : List Member
  apiKeys : List ApiKeyRow
deriving DecidableEq, Repr

/-- What a request carries: the key it presents, the user of its session, and the
organization of its path. -/
structure Request where
  presented : Option String := none
  session : Option String := none
  organizationId : String
deriving DecidableEq, Repr

/-- `API_KEY_PREFIX` -/
def apiKeyPrefix : String := "uf_"

structure VerifiedApiKey where
  id : String
  name : String
  organizationId : String
  scopes : List String
deriving DecidableEq, Repr

section
-- SHA-256 of a token
variable (hash : String → String)

/-- Resolve a plaintext token to a live key, or `none` if invalid, expired or revoked. -/
def verify (now : Int) (token : String) (keys : List ApiKeyRow) : Option VerifiedApiKey :=
  if !apiKeyPrefix.toList.isPrefixOf token.toList then none
  else
    match keys.find? fun k => k.hashedKey == hash token with
    | none => none
    | some record =>
        if record.revokedAt.isSome || record.deletedAt.isSome then none
        else if record.expiresAt.any (· ≤ now) then none
        else some ⟨record.id, record.name, record.organizationId, record.scopes⟩

/-- An API key when one is presented, otherwise the session. -/
def authenticate (now : Int) (store : Store) (req : Request) :
    Except RequestError (VerifiedApiKey ⊕ String) :=
  match req.presented with
  | some token =>
      match verify hash now token store.apiKeys with
      | none => .error (.app .unauthorized "Invalid or expired API key.")
      | some key => .ok (.inl key)
  | none =>
      match req.session with
      | none => .error (.app .unauthorized "Authentication required.")
      | some userId => .ok (.inr userId)

/-- The active organization and the principal acting in it. -/
def orgContext (store : Store) (organizationId : String) :
    VerifiedApiKey ⊕ String → Except RequestError OrgContext
  | .inl key =>
      if organizationId.isEmpty then .error (.app .badRequest "Missing organization id.")
      else if key.organizationId ≠ organizationId then
        .error (.app .notFound "Organization not found.")
      else if !store.organizations.contains organizationId then
        .error (.app .notFound "Organization not found.")
      else .ok ⟨organizationId, .apiKey key.id key.scopes⟩
  | .inr userId =>
      if organizationId.isEmpty then .error (.app .badRequest "Missing organization id.")
      else
        match store.members.find? fun m =>
            m.organizationId == organizationId && m.userId == userId with
        | none => .error (.app .notFound "Organization not found.")
        | some membership =>
            match isOrgRole membership.role with
            | none =>
                .error (.app .forbidden "Your role in this organization is not recognized.")
            | some role => .ok ⟨organizationId, .session userId membership.id role⟩

/-- Everything in front of the handlers of an organization's routes. -/
def resolve (now : Int) (store : Store) (req : Request) : Except RequestError OrgContext := do
  let caller ← authenticate hash now store req
  orgContext store req.organizationId caller

/-! ## minting -/

structure CreateApiKeyBody where
  name : String
  scopes : List String
  expiresAt : Option Int := none
deriving DecidableEq, Repr

/-- What the request does not determine: the clock, the row's id and the random bytes. -/
structure Generated where
  now : Int
  id : String
  random : String
deriving DecidableEq, Repr

structure CreatedApiKey where
  id : String
  name : String
  shownPrefix : String
  scopes : List String
  expiresAt : Option Int
  token : String
deriving DecidableEq, Repr

/-- `isValidScope` as a refinement: what it throws passes through the schema. -/
def refineScope (scope : String) : Except RequestError Bool :=
  (isValidScope scope).mapError .typeError

/-- What `createApiKeySchema` objects to, field by field; `valid` is what the scopes refine
to. -/
def schemaIssues (now : Int) (body : CreateApiKeyBody) (valid : List Bool) : List Issue :=
  let nameLength := Js.length (Js.trim body.name.toList)
  (if nameLength < 1 ∨ 120 < nameLength then [⟨["name"], none⟩] else []) ++
  (if body.scopes.length < 1 ∨ 50 < body.scopes.length then [⟨["scopes"], none⟩] else []) ++
  (valid.zipIdx.filterMap fun (ok, i) => if ok then none
    else some ⟨["scopes", toString i], some "Unknown scope (expected <resource>:<action>)."⟩) ++
  (if body.expiresAt.any (· ≤ now) then
    [⟨["expiresAt"], some "expiresAt must be in the future."⟩] else [])

/-- `createApiKeySchema`, on a body of the right shape. -/
def createApiKeySchema (now : Int) (body : CreateApiKeyBody) :
    Except RequestError CreateApiKeyBody := do
  let valid ← body.scopes.mapM refineScope
  if schemaIssues now body valid = [] then
    .ok { body with name := String.ofList (Js.trim body.name.toList) }
  else .error (.validation (schemaIssues now body valid))

/-- `apiKeys.create`: the service's part of the create route. -/
def createKey (gen : Generated) (organizationId : String) (body : CreateApiKeyBody)
    (createdById : Option String) (keys : List ApiKeyRow) :
    Except RequestError (CreatedApiKey × List ApiKeyRow) :=
  let token := apiKeyPrefix ++ gen.random
  let shown := String.ofList (token.toList.take (apiKeyPrefix.length + 8))
  let row : ApiKeyRow :=
    { id := gen.id, organizationId, name := body.name, hashedKey := hash token,
      shownPrefix := shown, scopes := body.scopes, expiresAt := body.expiresAt, createdById }
  if keys.any (·.id == row.id) then .error (.uniqueViolation "id")
  else if keys.any (·.hashedKey == row.hashedKey) then .error (.uniqueViolation "hashedKey")
  else .ok (⟨gen.id, body.name, shown, body.scopes, body.expiresAt, token⟩, keys ++ [row])

/-- Creation is attributed to the human when a session created the key. -/
def Principal.creator : Principal → Option String
  | .session userId _ _ => some userId
  | .apiKey _ _ => none

/-- `POST api-keys`, behind `resolve`. -/
def createApiKey (gen : Generated) (ctx : OrgContext) (body : CreateApiKeyBody)
    (keys : List ApiKeyRow) : Except RequestError (CreatedApiKey × List ApiKeyRow) := do
  requirePermission (some ctx) .apiKey [.create]
  let body ← createApiKeySchema gen.now body
  createKey hash gen ctx.organizationId body ctx.principal.creator keys

/-- A request that minted a key. -/
structure Mint where
  gen : Generated
  store : Store
  request : Request
  body : CreateApiKeyBody
  ctx : OrgContext
  created : CreatedApiKey
  keys : List ApiKeyRow
  resolved : resolve hash gen.now store request = .ok ctx
  accepted : createApiKey hash gen ctx body store.apiKeys = .ok (created, keys)

end

/-! ## what a mint leaves behind -/

section
variable {hash : String → String}

/-- A created key carries the scopes asked for and the token the row's hash belongs to, and
it is the one row the table gains. -/
theorem createKey_ok {gen : Generated} {org : String} {body : CreateApiKeyBody}
    {createdById : Option String} {keys keys' : List ApiKeyRow} {created : CreatedApiKey}
    (h : createKey hash gen org body createdById keys = .ok (created, keys')) :
    created.scopes = body.scopes ∧ created.id = gen.id ∧
      created.token = apiKeyPrefix ++ gen.random ∧ created.expiresAt = body.expiresAt ∧
      (∀ k ∈ keys, k.hashedKey ≠ hash created.token) ∧
      ∃ row, keys' = keys ++ [row] ∧ row.id = created.id ∧ row.organizationId = org ∧
        row.hashedKey = hash created.token ∧ row.scopes = created.scopes ∧
        row.expiresAt = created.expiresAt ∧ row.revokedAt = none ∧ row.deletedAt = none := by
  simp only [createKey] at h
  split at h
  · cases h
  · split at h
    · cases h
    · rename_i hhash
      cases h
      refine ⟨rfl, rfl, rfl, rfl, ?_, _, rfl, rfl, rfl, rfl, rfl, rfl, rfl, rfl⟩
      intro k hk heq
      exact hhash (List.any_eq_true.2 ⟨k, hk, beq_iff_eq.2 heq⟩)

/-- The schema keeps the scopes and the expiry as they are. -/
theorem createApiKeySchema_ok {now : Int} {body parsed : CreateApiKeyBody}
    (h : createApiKeySchema now body = .ok parsed) :
    parsed.scopes = body.scopes ∧ parsed.expiresAt = body.expiresAt := by
  simp only [createApiKeySchema, bind, Except.bind] at h
  split at h
  · cases h
  · split at h
    · cases h
      exact ⟨rfl, rfl⟩
    · cases h

/-- What the create route did, when it answered with a key. -/
theorem createApiKey_ok {gen : Generated} {ctx : OrgContext} {body : CreateApiKeyBody}
    {keys keys' : List ApiKeyRow} {created : CreatedApiKey}
    (h : createApiKey hash gen ctx body keys = .ok (created, keys')) :
    ∃ parsed, parsed.scopes = body.scopes ∧ parsed.expiresAt = body.expiresAt ∧
      createKey hash gen ctx.organizationId parsed ctx.principal.creator keys =
        .ok (created, keys') := by
  simp only [createApiKey, bind, Except.bind] at h
  split at h
  · cases h
  · split at h
    · cases h
    · rename_i parsed hparsed
      obtain ⟨hscopes, hexpires⟩ := createApiKeySchema_ok hparsed
      exact ⟨parsed, hscopes, hexpires, h⟩

theorem Mint.created_scopes (m : Mint hash) : m.created.scopes = m.body.scopes := by
  obtain ⟨parsed, hscopes, -, hcreate⟩ := createApiKey_ok m.accepted
  rw [(createKey_ok hcreate).1, hscopes]

/-- The context of a request that presents the minted key. -/
def Mint.keyContext (m : Mint hash) : OrgContext :=
  ⟨m.ctx.organizationId, .apiKey m.created.id m.created.scopes⟩

theorem isPrefixOf_append (xs ys : List Char) : xs.isPrefixOf (xs ++ ys) = true := by
  exact List.isPrefixOf_iff_prefix.2 (List.prefix_append xs ys)

/-- **The token a mint returns speaks for its key**: until it expires, a request that
presents it acts in the minter's organization with the key's scopes. -/
theorem Mint.resolve_token (m : Mint hash) {now : Int} {store : Store} {session : Option String}
    (hkeys : store.apiKeys = m.keys) (hid : m.ctx.organizationId.isEmpty = false)
    (horg : m.ctx.organizationId ∈ store.organizations)
    (hlive : m.created.expiresAt.any (· ≤ now) = false) :
    resolve hash now store ⟨some m.created.token, session, m.ctx.organizationId⟩ =
      .ok m.keyContext := by
  obtain ⟨parsed, -, -, hcreate⟩ := createApiKey_ok m.accepted
  obtain ⟨-, -, htoken, -, hfresh, row, hrows, hrow, horgRow, hhash, hscopes, hexpires, hrevoked,
    hdeleted⟩ := createKey_ok hcreate
  have hstart : apiKeyPrefix.toList.isPrefixOf m.created.token.toList = true := by
    rw [htoken, String.toList_append]
    exact isPrefixOf_append _ _
  have hfind : (m.store.apiKeys ++ [row]).find? (fun k => k.hashedKey == hash m.created.token) =
      some row := by
    rw [List.find?_append, List.find?_eq_none.2]
    · simp [hhash]
    · intro k hk
      simpa using hfresh k hk
  have hverify : verify hash now m.created.token m.keys =
      some ⟨row.id, row.name, row.organizationId, row.scopes⟩ := by
    simp [verify, hstart, hrows, hfind, hrevoked, hdeleted, hexpires, hlive]
  simp [resolve, bind, Except.bind, authenticate, hkeys, hverify, orgContext, hid, horgRow, horg,
    Mint.keyContext, hrow, hscopes]

/-! ## what a principal covers -/

/-- The role has every permission the scope grants, read off the role matrix. -/
def OrgRole.covers (role : OrgRole) : Scope → Bool
  | .all => role == .owner
  | .every r => (permissionStatements r).all ((rolePermissions role r).getD []).contains
  | .one p => ((rolePermissions role p.resource).getD []).contains p.action

/-- The scopes hold `resource:*`, or every action of the resource one by one. -/
def holdEvery (scopes : List String) (r : Resource) : Bool :=
  scopes.contains (Scope.every r).text ||
    (permissionStatements r).all fun a => scopes.contains (r.name ++ ":" ++ a.name)

/-- The scope is subsumed by the listed ones. -/
def scopesCover (scopes : List String) : Scope → Bool
  | .all => scopes.contains "*" || resources.all (holdEvery scopes)
  | .every r => scopes.contains "*" || holdEvery scopes r
  | .one p =>
      scopes.contains "*" || scopes.contains (Scope.every p.resource).text ||
        scopes.contains (Scope.one p).text

def Principal.covers : Principal → Scope → Bool
  | .session _ _ role => role.covers
  | .apiKey _ scopes => scopesCover scopes

theorem hasPermission_iff (role : OrgRole) (p : Permission) :
    hasPermission role.name p.resource [p.action] = true ↔
      p.action ∈ (rolePermissions role p.resource).getD [] := by
  simp only [hasPermission, isOrgRole_name]
  cases rolePermissions role p.resource <;> simp

/-- Only the owner has every permission. -/
theorem OrgRole.owner_iff (role : OrgRole) :
    role = .owner ↔ ∀ p : Permission, hasPermission role.name p.resource [p.action] = true := by
  have h : ∀ r ∈ orgRoles, r = .owner ↔
      ∀ p ∈ permissions, hasPermission r.name p.resource [p.action] = true := by decide +kernel
  rw [h role (mem_orgRoles role)]
  simp

/-- A role covers a scope exactly when it may do all the scope grants. -/
theorem OrgRole.covers_iff (role : OrgRole) (sc : Scope) :
    role.covers sc = true ↔
      ∀ p, sc.Grants p → hasPermission role.name p.resource [p.action] = true := by
  cases sc with
  | all => simpa [OrgRole.covers, Scope.Grants] using role.owner_iff
  | every r =>
      simp only [OrgRole.covers, List.all_eq_true, List.contains_iff_mem, Scope.Grants,
        hasPermission_iff]
      constructor
      · rintro h p rfl
        exact h p.action p.supported
      · intro h a ha
        exact h ⟨r, a, ha⟩ rfl
  | one q => simp [OrgRole.covers, Scope.Grants, hasPermission_iff]

theorem scopeAllows_cases (scopes : List String) (p : Permission) :
    hasScopePermission scopes p.resource [p.action] = true ↔
      "*" ∈ scopes ∨ (Scope.every p.resource).text ∈ scopes ∨ (Scope.one p).text ∈ scopes := by
  simp only [hasScopePermission, List.all_cons, List.all_nil, Bool.and_true, scopeAllows,
    List.any_eq_true, Bool.or_eq_true, beq_iff_eq, Scope.text]
  constructor
  · rintro ⟨s, hs, (rfl | rfl) | rfl⟩
    · exact .inl hs
    · exact .inr (.inl hs)
    · exact .inr (.inr hs)
  · rintro (h | h | h)
    · exact ⟨_, h, .inl (.inl rfl)⟩
    · exact ⟨_, h, .inl (.inr rfl)⟩
    · exact ⟨_, h, .inr rfl⟩

/-- Short of `*`, all of a resource is held by its wildcard or action by action. -/
theorem holdEvery_iff {scopes : List String} (hstar : "*" ∉ scopes) (r : Resource) :
    holdEvery scopes r = true ↔
      ∀ p : Permission, p.resource = r → hasScopePermission scopes p.resource [p.action] = true := by
  simp only [holdEvery, Bool.or_eq_true, List.contains_iff_mem, List.all_eq_true, scopeAllows_cases]
  constructor
  · rintro (h | h) p rfl
    · exact .inr (.inl h)
    · exact .inr (.inr (h p.action p.supported))
  · intro h
    by_cases hall : (Scope.every r).text ∈ scopes
    · exact .inl hall
    · refine .inr fun a ha => ?_
      obtain hs | hs | hs := h ⟨r, a, ha⟩ rfl
      · exact absurd hs hstar
      · exact absurd hs hall
      · exact hs

/-- A key covers a scope exactly when it may do all the scope grants. -/
theorem scopesCover_iff (scopes : List String) (sc : Scope) :
    scopesCover scopes sc = true ↔
      ∀ p, sc.Grants p → hasScopePermission scopes p.resource [p.action] = true := by
  by_cases hstar : "*" ∈ scopes
  · have hall : ∀ p : Permission, hasScopePermission scopes p.resource [p.action] = true :=
      fun p => (scopeAllows_cases scopes p).2 (.inl hstar)
    cases sc <;> simp [scopesCover, hstar, hall]
  · cases sc with
    | all =>
        simp only [scopesCover, hstar, Scope.Grants, List.contains_iff_mem, Bool.or_eq_true,
          List.all_eq_true, false_or, holdEvery_iff hstar]
        exact ⟨fun h p _ => h p.resource (mem_resources _) p rfl, fun h r _ p _ => h p trivial⟩
    | every r =>
        simp only [scopesCover, hstar, Scope.Grants, List.contains_iff_mem, Bool.or_eq_true,
          false_or, holdEvery_iff hstar]
    | one q =>
        simp only [scopesCover, Scope.Grants, List.contains_iff_mem, Bool.or_eq_true, or_assoc,
          forall_eq, scopeAllows_cases]

/-- **Coverage is containment of authority.** -/
theorem Principal.covers_iff (principal : Principal) (sc : Scope) :
    principal.covers sc = true ↔
      ∀ p, sc.Grants p → principal.permits p.resource [p.action] = true := by
  cases principal with
  | session userId memberId role => exact role.covers_iff sc
  | apiKey apiKeyId scopes => exact scopesCover_iff scopes sc

/-! ## chains of keys minting keys -/

/-- Whatever the second caller may do, the first may do. -/
def Confines (a b : OrgContext) : Prop := ∀ p : Permission, b.Allows p → a.Allows p

instance : IsTrans OrgContext Confines := ⟨fun _ _ _ hab hbc p hp => hab p (hbc p hp)⟩

/-- Every scope asked for is one the creating principal covers. -/
def Mint.Covered (m : Mint hash) : Prop :=
  ∀ s ∈ m.body.scopes, ∀ sc, Scope.ofText s = some sc → m.ctx.principal.covers sc = true

/-- A key is confined to its creator exactly when its scopes were covered. -/
theorem Mint.confines_iff (m : Mint hash) : Confines m.ctx m.keyContext ↔ m.Covered := by
  simp only [Confines, Mint.Covered, OrgContext.allows_iff, Principal.covers_iff, Mint.keyContext,
    m.created_scopes, Principal.permits, hasScopePermission, List.all_cons, List.all_nil,
    Bool.and_true, scopeAllows_iff]
  constructor
  · intro h s hs sc hsc p hp
    exact h p ⟨s, hs, sc, hsc, hp⟩
  · rintro h p ⟨s, hs, sc, hsc, hp⟩
    exact h s hs sc hsc p hp

/-- Mints in which each minted key mints the next. -/
structure Lineage (hash : String → String) where
  mints : List (Mint hash)
  linked : Chains.Linked Mint.ctx Mint.keyContext mints

/-- No key of the lineage may do what a principal before it may not. -/
def Lineage.NeverEscalates (l : Lineage hash) : Prop :=
  (Chains.nodes Mint.ctx Mint.keyContext l.mints).Pairwise Confines

/-- **A lineage never escalates if and only if every mint asks for covered scopes only.** -/
theorem Lineage.neverEscalates_iff (l : Lineage hash) :
    l.NeverEscalates ↔ ∀ m ∈ l.mints, m.Covered := by
  rw [Lineage.NeverEscalates, Chains.pairwise_nodes_iff l.linked]
  simp only [Mint.confines_iff]

end

/-- A developer of `acme` asks for a key that may do everything. -/
def developerMint (hash : String → String) : Mint hash where
  gen := ⟨0, "key-1", "AAAA"⟩
  store := ⟨["acme"], [⟨"member-1", "acme", "dev", "developer"⟩], []⟩
  request := { session := some "dev", organizationId := "acme" }
  body := { name := "ci", scopes := ["*"] }
  ctx := ⟨"acme", .session "dev" "member-1" .developer⟩
  created := ⟨"key-1", "ci", "uf_AAAA", ["*"], none, "uf_AAAA"⟩
  keys := [{ id := "key-1", organizationId := "acme", name := "ci", hashedKey := hash "uf_AAAA",
             shownPrefix := "uf_AAAA", scopes := ["*"], createdById := some "dev" }]
  resolved := by rfl
  accepted := by rfl

/-- The developer's key may manage billing, which the developer may not; no hash function
prevents it. -/
theorem not_neverEscalates_developerStar :
    ¬ ∃ hash : String → String, ∀ l : Lineage hash, l.NeverEscalates := by
  rintro ⟨hash, hnever⟩
  have hpair := hnever ⟨[developerMint hash], List.isChain_singleton _⟩
  have hconf : Confines (developerMint hash).ctx (developerMint hash).keyContext := by
    simpa [Lineage.NeverEscalates, Chains.nodes] using hpair
  have hkey : (developerMint hash).keyContext.Allows ⟨.billing, .manage, by decide⟩ := by rfl
  have hdev := hconf _ hkey
  rw [OrgContext.allows_iff] at hdev
  have hrole : hasPermission OrgRole.developer.name .billing [.manage] = false := by decide
  exact Bool.false_ne_true (hrole.symm.trans hdev)

end UptimeFlow.Access
