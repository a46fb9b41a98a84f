import UptimeFlow.Access.ApiKeys
import UptimeFlow.Commits
import UptimeFlow.Tables

/-!
# UptimeFlow.Access.KeyLife

The life of an API key, from the answer that shows its token to the one that
confirms its revocation.

The requests of the key routes are served side by side, each a `Handler` whose
queries are statements of their own: it is authenticated, then authorized, and
by the time it acts both may be out of date.  What it writes it writes in its
last statement, so the answers given are a history of the table, and
`verify_iff` reads off that history which tokens authenticate at any moment.
-/

namespace UptimeFlow.Access

open Tables

/-! ## requests -/

/-- The headers an API key may come in. -/
structure Headers where
  xApiKey : Option String := none
  authorization : Option String := none
deriving DecidableEq, Repr

/-- Pull an API key from the request. -/
def extractApiKey (headers : Headers) : Option String :=
  let bearer := headers.authorization.bind fun auth =>
    if "Bearer ".toList.isPrefixOf auth.toList then
      let token := Js.trim (auth.toList.drop "Bearer ".length)
      if apiKeyPrefix.toList.isPrefixOf token then some (String.ofList token) else none
    else none
  match headers.xApiKey with
  | some header => if header.isEmpty then bearer else some header
  | none => bearer

inductive KeyOp where
  | create (body : CreateApiKeyBody) (gen : Generated)
  | revoke (keyId : String) (now : Int)
deriving DecidableEq, Repr

/-- A request to the routes of an organization's keys; `session` is the user of its cookie, and
`now` the time at which its token is looked at. -/
structure KeyRequest where
  headers : Headers
  session : Option String := none
  organizationId : String
  now : Int
  op : KeyOp
deriving DecidableEq, Repr

inductive KeyAnswer where
  | created (created : CreatedApiKey)
  | noContent
deriving DecidableEq, Repr

abbrev KeyHandler := Handler Store RequestError

/-- `apiKey.updateMany`, of the revocation. -/
def Store.revoke (s : Store) (organizationId id : String) (now : Int) : Store :=
  { s with
    apiKeys := updateWhere
      (fun k => k.id == id && k.organizationId == organizationId && k.deletedAt.isNone)
      (fun k => { k with revokedAt := some now, deletedAt := some now }) s.apiKeys }

/-- Load the key named by the route, and confirm that it belongs to the active organization. -/
def requireResource (ctx : OrgContext) (keyId : String) : KeyHandler ApiKeyRow :=
  if keyId.isEmpty then .raise (.app .notFound "Resource not found.")
  else do
    match ← .read fun s => s.apiKeys.find? fun k => k.id == keyId with
    | none => .raise (.app .notFound "Resource not found.")
    | some row =>
        if row.organizationId ≠ ctx.organizationId then
          .raise (.app .notFound "Resource not found.")
        else pure row

section
variable (hash : String → String)

/-- The key routes, behind `authenticate` and `orgContext`. -/
def serveKeys (req : KeyRequest) : KeyHandler KeyAnswer := do
  let presented : Request := ⟨extractApiKey req.headers, req.session, req.organizationId⟩
  let caller ← .query fun s => authenticate hash req.now s presented
  let ctx ← .query fun s => orgContext s req.organizationId caller
  match req.op with
  | .create body gen => do
      .ofExcept (requirePermission (some ctx) .apiKey [.create])
      let body ← .ofExcept (createApiKeySchema gen.now body)
      let created ← .statement fun s =>
        match createKey hash gen ctx.organizationId body ctx.principal.creator s.apiKeys with
        | .error e => (.error e, s)
        | .ok (created, keys) => (.ok created, { s with apiKeys := keys })
      return .created created
  | .revoke keyId now => do
      .ofExcept (requirePermission (some ctx) .apiKey [.revoke])
      let key ← requireResource ctx keyId
      .write fun s => s.revoke ctx.organizationId key.id now
      return .noContent

/-- The key tables, and the requests they are asked to serve. -/
def keyService {ι : Type} (store : Store) (requests : ι → KeyRequest) :
    Pool ι Store RequestError KeyAnswer where
  store
  handlers i := serveKeys hash (requests i)

end

/-! ## one request -/

/-- No key goes away or changes hands. -/
def Store.Stands (s t : Store) : Prop :=
  ∀ k ∈ s.apiKeys, ∃ k' ∈ t.apiKeys, k'.id = k.id ∧ k'.organizationId = k.organizationId

theorem Store.Stands.refl (s : Store) : s.Stands s := fun k hk => ⟨k, hk, rfl, rfl⟩

theorem Store.Stands.trans {s t u : Store} (hst : s.Stands t) (htu : t.Stands u) : s.Stands u := by
  intro k hk
  obtain ⟨k', hk', hid, horg⟩ := hst k hk
  obtain ⟨k'', hk'', hid', horg'⟩ := htu k' hk'
  exact ⟨k'', hk'', hid'.trans hid, horg'.trans horg⟩

/-- What the answer to a request says of its write. -/
def KeyRequest.Outcome (hash : String → String) (req : KeyRequest) :
    Except RequestError KeyAnswer → Store → Store → Prop
  | .error _, s, t => t = s
  | .ok (.created created), s, t => ∃ gen body creator keys,
      createKey hash gen req.organizationId body creator s.apiKeys = .ok (created, keys) ∧
        t = { s with apiKeys := keys }
  | .ok .noContent, s, t => ∃ keyId now, req.op = .revoke keyId now ∧
      (∃ k ∈ s.apiKeys, k.id = keyId ∧ k.organizationId = req.organizationId) ∧
        t = s.revoke req.organizationId keyId now

theorem orgContext_organizationId {s : Store} {organizationId : String}
    {caller : VerifiedApiKey ⊕ String} {ctx : OrgContext}
    (h : orgContext s organizationId caller = .ok ctx) : ctx.organizationId = organizationId := by
  cases caller with
  | inl key =>
      simp only [orgContext] at h
      split at h
      · cases h
      · split at h
        · cases h
        · split at h
          · cases h
          · exact (congrArg OrgContext.organizationId (Except.ok.inj h)).symm
  | inr userId =>
      simp only [orgContext] at h
      split at h
      · cases h
      · split at h
        · cases h
        · split at h
          · cases h
          · exact (congrArg OrgContext.organizationId (Except.ok.inj h)).symm

theorem commits_serveKeys (hash : String → String) (req : KeyRequest) (s : Store) :
    (serveKeys hash req).Commits Store.Stands (req.Outcome hash) s := by
  refine .query_bind (fun _ _ => rfl) fun s₁ _ caller _ => ?_
  refine .query_bind (fun _ _ => rfl) fun s₂ _ ctx hctx => ?_
  have horg := orgContext_organizationId hctx
  cases hop : req.op with
  | create body gen =>
      refine .ofExcept_bind (fun _ => rfl) fun _ _ => ?_
      refine .ofExcept_bind (fun _ => rfl) fun body _ => ?_
      refine .statement_bind fun t _ => ?_
      cases hcreate : createKey hash gen ctx.organizationId body ctx.principal.creator t.apiKeys
        with
      | error e => exact rfl
      | ok result => exact ⟨gen, body, _, result.2, by rw [← horg]; exact hcreate, rfl⟩
  | revoke keyId now =>
      refine .ofExcept_bind (fun _ => rfl) fun _ _ => ?_
      unfold requireResource
      split
      · exact .raise rfl
      · rw [Handler.bind_assoc]
        refine .read_bind fun s₃ _ => ?_
        cases hfound : s₃.apiKeys.find? fun k => k.id == keyId with
        | none => exact .raise rfl
        | some key =>
            by_cases hne : key.organizationId ≠ ctx.organizationId
            · simp only [if_pos hne]
              exact .raise rfl
            · simp only [if_neg hne]
              refine .write_bind fun t hst => ?_
              have hid : key.id = keyId := by simpa using List.find?_some hfound
              obtain ⟨k, hk, hkid, hkorg⟩ := hst key (List.mem_of_find?_eq_some hfound)
              rw [hid, horg]
              exact ⟨keyId, now, hop, ⟨k, hk, hkid.trans hid,
                hkorg.trans ((not_not.1 hne).trans horg)⟩, rfl⟩

/-! ## the history of a key -/

/-- The row of the key a create answers with. -/
def CreatedApiKey.row (hash : String → String) (organizationId : String)
    (createdById : Option String) (created : CreatedApiKey) : ApiKeyRow :=
  { id := created.id, organizationId, name := created.name, hashedKey := hash created.token
    shownPrefix := created.shownPrefix, scopes := created.scopes, expiresAt := created.expiresAt
    createdById }

def ApiKeyRow.verified (k : ApiKeyRow) : VerifiedApiKey :=
  ⟨k.id, k.name, k.organizationId, k.scopes⟩

/-- Neither revoked nor deleted. -/
def ApiKeyRow.live (k : ApiKeyRow) : Bool := k.revokedAt.isNone && k.deletedAt.isNone

section
variable {ι : Type} (hash : String → String) (store : Store) (requests : ι → KeyRequest)
  (answered : ι → KeyAnswer → Prop)

/-- A key that was there at the start, or that a request was answered with. -/
def Issued (row : ApiKeyRow) : Prop :=
  row ∈ store.apiKeys ∨ ∃ i created createdById, answered i (.created created) ∧
    row = created.row hash (requests i).organizationId createdById

/-- A request to revoke the key has been confirmed. -/
def Revoked (keyId : String) : Prop :=
  ∃ i now, answered i .noContent ∧ (requests i).op = .revoke keyId now

/-- `k` is what became of the key that was issued as `row`. -/
structure Standing (row k : ApiKeyRow) : Prop where
  verified : k.verified = row.verified
  hashedKey : k.hashedKey = row.hashedKey
  expiresAt : k.expiresAt = row.expiresAt
  live : k.live = true ↔ row.live = true ∧ ¬ Revoked requests answered row.id

/-- The table has the keys that were issued, and those are live that nobody revoked. -/
structure Kept (s : Store) : Prop where
  ids : (s.apiKeys.map ApiKeyRow.id).Nodup
  hashes : (s.apiKeys.map ApiKeyRow.hashedKey).Nodup
  revoked : ∀ keyId, Revoked requests answered keyId → ∃ k ∈ s.apiKeys, k.id = keyId
  sound : ∀ k ∈ s.apiKeys, ∃ row, Issued hash store requests answered row ∧
    Standing requests answered row k
  complete : ∀ row, Issued hash store requests answered row →
    ∃ k ∈ s.apiKeys, Standing requests answered row k

end

section
variable {ι : Type} {hash : String → String} {store : Store} {requests : ι → KeyRequest}

theorem Standing.id {answered : ι → KeyAnswer → Prop} {row k : ApiKeyRow}
    (h : Standing requests answered row k) : k.id = row.id := congrArg VerifiedApiKey.id h.verified

theorem verify_some_iff {keys : List ApiKeyRow} (hkeys : (keys.map ApiKeyRow.hashedKey).Nodup)
    {now : Int} {token : String} {v : VerifiedApiKey} :
    verify hash now token keys = some v ↔
      apiKeyPrefix.toList.isPrefixOf token.toList = true ∧ ∃ k ∈ keys, k.hashedKey = hash token ∧
        k.live = true ∧ k.expiresAt.all (now < ·) = true ∧ v = k.verified := by
  have hexpired : ∀ k : ApiKeyRow,
      k.expiresAt.any (· ≤ now) = false ↔ k.expiresAt.all (now < ·) = true := by
    intro k
    cases k.expiresAt <;> simp
  unfold verify
  cases hprefix : apiKeyPrefix.toList.isPrefixOf token.toList with
  | false => simp
  | true =>
      simp only [Bool.not_true, Bool.false_eq_true, if_false, true_and]
      cases hfound : keys.find? fun k => k.hashedKey == hash token with
      | none =>
          have hnone := List.find?_eq_none.1 hfound
          simp only [beq_iff_eq] at hnone
          simp only [reduceCtorEq, false_iff, not_exists, not_and]
          exact fun k hk hhash => absurd hhash (hnone k hk)
      | some k =>
          have hhash : k.hashedKey = hash token := by simpa using List.find?_some hfound
          have hmem := List.mem_of_find?_eq_some hfound
          have hlive : k.live = !(k.revokedAt.isSome || k.deletedAt.isSome) := by
            simp [ApiKeyRow.live]
          constructor
          · intro h
            cases hgone : k.revokedAt.isSome || k.deletedAt.isSome with
            | true => simp [hgone] at h
            | false =>
                cases hpast : k.expiresAt.any (· ≤ now) with
                | true => simp [hgone, hpast] at h
                | false =>
                    simp only [hgone, hpast, Bool.false_eq_true, if_false, Option.some.injEq] at h
                    exact ⟨k, hmem, hhash, by rw [hlive, hgone]; rfl, (hexpired k).1 hpast, h.symm⟩
          · rintro ⟨k', hk', hhash', hlive', hleft, rfl⟩
            obtain rfl : k' = k :=
              List.inj_on_of_nodup_map hkeys hk' hmem (hhash'.trans hhash.symm)
            rw [hlive, Bool.not_eq_true'] at hlive'
            simp [hlive', (hexpired k').2 hleft, ApiKeyRow.verified]

/-- What the create leaves behind, row by row. -/
theorem createKey_row {gen : Generated} {org : String} {body : CreateApiKeyBody}
    {createdById : Option String} {keys keys' : List ApiKeyRow} {created : CreatedApiKey}
    (h : createKey hash gen org body createdById keys = .ok (created, keys')) :
    keys' = keys ++ [created.row hash org createdById] ∧ (∀ k ∈ keys, k.id ≠ created.id) ∧
      ∀ k ∈ keys, k.hashedKey ≠ hash created.token := by
  simp only [createKey] at h
  split at h
  · cases h
  · rename_i hid
    split at h
    · cases h
    · rename_i hhash
      cases h
      simp only [List.any_eq_true, beq_iff_eq, not_exists, not_and] at hid hhash
      exact ⟨rfl, hid, hhash⟩

theorem Kept.start (hids : (store.apiKeys.map ApiKeyRow.id).Nodup)
    (hhashes : (store.apiKeys.map ApiKeyRow.hashedKey).Nodup) :
    Kept hash store requests (fun _ _ => False) store where
  ids := hids
  hashes := hhashes
  revoked := by
    rintro _ ⟨_, _, hfalse, -⟩
    exact hfalse.elim
  sound k hk := ⟨k, .inl hk, rfl, rfl, rfl, by simp [Revoked]⟩
  complete row hrow := by
    obtain hrow | ⟨_, _, _, hfalse, -⟩ := hrow
    · exact ⟨row, hrow, rfl, rfl, rfl, by simp [Revoked]⟩
    · exact hfalse.elim

/-- The requests answered so far, and one more. -/
abbrev also (answered : ι → KeyAnswer → Prop) (i : ι) (a : KeyAnswer) (j : ι) (b : KeyAnswer) :
    Prop := j = i ∧ b = a ∨ answered j b

section
variable {answered : ι → KeyAnswer → Prop} {i : ι} {s t : Store}

theorem revoked_also_created {created : CreatedApiKey} {keyId : String} :
    Revoked requests (also answered i (.created created)) keyId ↔
      Revoked requests answered keyId := by simp [Revoked, also]

/-- A create adds the key it answers with, and no key shares its id or its hash. -/
theorem Kept.created (h : Kept hash store requests answered s) {created : CreatedApiKey}
    (hcreated : (requests i).Outcome hash (.ok (.created created)) s t) :
    Kept hash store requests (also answered i (.created created)) t := by
  obtain ⟨gen, body, createdById, keys, hcreate, rfl⟩ := hcreated
  obtain ⟨rfl, hid, hhash⟩ := createKey_row hcreate
  have hold : ∀ {row k}, Standing requests answered row k →
      Standing requests (also answered i (.created created)) row k := fun hk =>
    ⟨hk.verified, hk.hashedKey, hk.expiresAt, by rw [revoked_also_created]; exact hk.live⟩
  have hnew : ∀ creator, Standing requests (also answered i (.created created))
      (created.row hash (requests i).organizationId creator)
      (created.row hash (requests i).organizationId createdById) := by
    refine fun creator => ⟨rfl, rfl, rfl, ?_⟩
    have hfresh : ¬ Revoked requests answered created.id := by
      intro hrevoked
      obtain ⟨k, hk, hkid⟩ := h.revoked _ hrevoked
      exact hid k hk hkid
    rw [revoked_also_created]
    simp [CreatedApiKey.row, ApiKeyRow.live, hfresh]
  refine ⟨?_, ?_, fun keyId hrevoked => ?_, fun k hk => ?_, fun row hrow => ?_⟩
  · rw [List.map_append, List.map_singleton, List.nodup_append]
    refine ⟨h.ids, List.nodup_singleton _, fun a ha b hb => ?_⟩
    obtain ⟨k, hk, rfl⟩ := List.mem_map.1 ha
    rw [List.mem_singleton.1 hb]
    exact hid k hk
  · rw [List.map_append, List.map_singleton, List.nodup_append]
    refine ⟨h.hashes, List.nodup_singleton _, fun a ha b hb => ?_⟩
    obtain ⟨k, hk, rfl⟩ := List.mem_map.1 ha
    rw [List.mem_singleton.1 hb]
    exact hhash k hk
  · obtain ⟨k, hk, hkid⟩ := h.revoked keyId (revoked_also_created.1 hrevoked)
    exact ⟨k, List.mem_append_left _ hk, hkid⟩
  · obtain hk | hk := List.mem_append.1 hk
    · obtain ⟨row, hrow, hstands⟩ := h.sound k hk
      refine ⟨row, ?_, hold hstands⟩
      obtain hrow | ⟨j, other, creator, hanswer, rfl⟩ := hrow
      · exact .inl hrow
      · exact .inr ⟨j, other, creator, .inr hanswer, rfl⟩
    · obtain rfl := List.mem_singleton.1 hk
      exact ⟨_, .inr ⟨i, created, createdById, .inl ⟨rfl, rfl⟩, rfl⟩, hnew createdById⟩
  · obtain hrow | ⟨j, other, creator, ⟨rfl, hother⟩ | hanswer, rfl⟩ := hrow
    · obtain ⟨k, hk, hstands⟩ := h.complete row (.inl hrow)
      exact ⟨k, List.mem_append_left _ hk, hold hstands⟩
    · obtain rfl := KeyAnswer.created.inj hother
      exact ⟨_, List.mem_append_right _ (List.mem_singleton.2 rfl), hnew creator⟩
    · obtain ⟨k, hk, hstands⟩ := h.complete _ (.inr ⟨j, other, creator, hanswer, rfl⟩)
      exact ⟨k, List.mem_append_left _ hk, hold hstands⟩

theorem revoked_also_noContent {keyId id : String} {now : Int}
    (hop : (requests i).op = .revoke keyId now) :
    Revoked requests (also answered i .noContent) id ↔
      id = keyId ∨ Revoked requests answered id := by
  constructor
  · rintro ⟨j, now', ⟨rfl, -⟩ | hanswer, hop'⟩
    · rw [hop] at hop'
      exact .inl (KeyOp.revoke.inj hop').1.symm
    · exact .inr ⟨j, now', hanswer, hop'⟩
  · rintro (rfl | ⟨j, now', hanswer, hop'⟩)
    · exact ⟨i, now, .inl ⟨rfl, rfl⟩, hop⟩
    · exact ⟨j, now', .inr hanswer, hop'⟩

theorem issued_also_noContent {row : ApiKeyRow} :
    Issued hash store requests (also answered i .noContent) row ↔
      Issued hash store requests answered row := by simp [Issued, also]

/-- A revocation ends the life of the key it names, and of no other. -/
theorem Kept.noContent (h : Kept hash store requests answered s)
    (hrevoked : (requests i).Outcome hash (.ok .noContent) s t) :
    Kept hash store requests (also answered i .noContent) t := by
  obtain ⟨keyId, now, hop, ⟨key, hkey, rfl, horg⟩, rfl⟩ := hrevoked
  let after : ApiKeyRow → ApiKeyRow := fun k =>
    if k.id == key.id && k.organizationId == (requests i).organizationId && k.deletedAt.isNone then
      { k with revokedAt := some now, deletedAt := some now } else k
  have hkeys : (s.revoke (requests i).organizationId key.id now).apiKeys =
      s.apiKeys.map after := rfl
  have hstands : ∀ row, ∀ k ∈ s.apiKeys, Standing requests answered row k →
      Standing requests (also answered i .noContent) row (after k) := by
    intro row k hk hrow
    by_cases hid : k.id = key.id
    · obtain rfl : k = key := List.inj_on_of_nodup_map h.ids hk hkey hid
      have hover : Revoked requests (also answered i .noContent) row.id :=
        (revoked_also_noContent hop).2 (.inl hrow.id.symm)
      cases hgone : k.deletedAt with
      | none =>
          have hafter : after k = { k with revokedAt := some now, deletedAt := some now } := by
            simp [after, horg, hgone]
          rw [hafter]
          exact ⟨hrow.verified, hrow.hashedKey, hrow.expiresAt, by simp [ApiKeyRow.live, hover]⟩
      | some _ =>
          have hafter : after k = k := by simp [after, hgone]
          rw [hafter]
          exact ⟨hrow.verified, hrow.hashedKey, hrow.expiresAt,
            by simp [ApiKeyRow.live, hover, hgone]⟩
    · have hafter : after k = k := by simp [after, hid]
      rw [hafter]
      refine ⟨hrow.verified, hrow.hashedKey, hrow.expiresAt, ?_⟩
      rw [revoked_also_noContent hop, hrow.live]
      simp [← hrow.id, hid]
  have hids : (s.apiKeys.map after).map ApiKeyRow.id = s.apiKeys.map ApiKeyRow.id :=
    map_id_updateWhere fun _ => rfl
  have hhashes : (s.apiKeys.map after).map ApiKeyRow.hashedKey =
      s.apiKeys.map ApiKeyRow.hashedKey :=
    map_id_updateWhere fun _ => rfl
  refine ⟨?_, ?_, fun id hid => ?_, fun k hk => ?_, fun row hrow => ?_⟩
  · rw [hkeys, hids]
    exact h.ids
  · rw [hkeys, hhashes]
    exact h.hashes
  · have hknown : ∃ k ∈ s.apiKeys, k.id = id := by
      obtain rfl | hid := (revoked_also_noContent hop).1 hid
      · exact ⟨key, hkey, rfl⟩
      · exact h.revoked id hid
    obtain ⟨k, hk, rfl⟩ := hknown
    have hmem : k.id ∈ (s.apiKeys.map after).map ApiKeyRow.id := by
      rw [hids]
      exact List.mem_map_of_mem hk
    obtain ⟨k', hk', hid'⟩ := List.mem_map.1 hmem
    exact ⟨k', hk', hid'⟩
  · rw [hkeys] at hk
    obtain ⟨old, hold, rfl⟩ := List.mem_map.1 hk
    obtain ⟨row, hrow, hstanding⟩ := h.sound old hold
    exact ⟨row, issued_also_noContent.2 hrow, hstands row old hold hstanding⟩
  · obtain ⟨k, hk, hstanding⟩ := h.complete row (issued_also_noContent.1 hrow)
    exact ⟨after k, List.mem_map_of_mem hk, hstands row k hk hstanding⟩

end

theorem stands_of_outcome {req : KeyRequest} {r : Except RequestError KeyAnswer} {s t : Store}
    (h : req.Outcome hash r s t) : s.Stands t := by
  cases r with
  | error e =>
      obtain rfl : t = s := h
      exact .refl t
  | ok a =>
      cases a with
      | created created =>
          obtain ⟨gen, body, createdById, keys, hcreate, rfl⟩ := h
          obtain ⟨rfl, -, -⟩ := createKey_row hcreate
          exact fun k hk => ⟨k, List.mem_append_left _ hk, rfl, rfl⟩
      | noContent =>
          obtain ⟨keyId, now, -, -, rfl⟩ := h
          intro k hk
          refine ⟨_, List.mem_map_of_mem hk, ?_⟩
          split
          · exact ⟨rfl, rfl⟩
          · exact ⟨rfl, rfl⟩

/-- The requests a log answers. -/
def answeredBy (log : List (ι × Except RequestError KeyAnswer)) (i : ι) (a : KeyAnswer) : Prop :=
  (i, .ok a) ∈ log

/-- Every commit keeps the table in line with the answers given. -/
theorem kept_of_replays {log : List (ι × Except RequestError KeyAnswer)} {t : Store}
    (hids : (store.apiKeys.map ApiKeyRow.id).Nodup)
    (hhashes : (store.apiKeys.map ApiKeyRow.hashedKey).Nodup)
    (h : Replays (fun i => (requests i).Outcome hash) store log t) :
    Kept hash store requests (answeredBy log) t := by
  refine Replays.inv (I := fun log t => Kept hash store requests (answeredBy log) t) ?_ ?_ h
  · have hnone : answeredBy ([] : List (ι × Except RequestError KeyAnswer)) = fun _ _ => False := by
      simp [funext_iff, answeredBy]
    rw [hnone]
    exact .start hids hhashes
  · intro i r log u v hkept hR
    cases r with
    | error e =>
        obtain rfl : v = u := hR
        have hsame : answeredBy ((i, .error e) :: log) = answeredBy log := by
          simp [funext_iff, answeredBy]
        rwa [hsame]
    | ok a =>
        have halso : answeredBy ((i, .ok a) :: log) = also (answeredBy log) i a := by
          simp [funext_iff, answeredBy, also]
        rw [halso]
        cases a with
        | created created => exact hkept.created hR
        | noContent => exact hkept.noContent hR

end

/-- **Who authenticates.**  At every moment of every interleaving a token authenticates exactly as a
key that was issued with it, has not expired, and whose revocation nobody has been confirmed. -/
theorem verify_iff (hash : String → String) {ι : Type} [DecidableEq ι] {store : Store}
    (hids : (store.apiKeys.map ApiKeyRow.id).Nodup)
    (hhashes : (store.apiKeys.map ApiKeyRow.hashedKey).Nodup)
    (requests : ι → KeyRequest) (turns : List ι) (now : Int) (token : String) (v : VerifiedApiKey) :
    let p := Runs.run Pool.turn (keyService hash store requests) turns
    let answered i a := p.answer? i = some (.ok a)
    verify hash now token p.store.apiKeys = some v ↔
      apiKeyPrefix.toList.isPrefixOf token.toList = true ∧
        ∃ row, Issued hash store requests answered row ∧ row.hashedKey = hash token ∧
          row.live = true ∧ ¬ Revoked requests answered row.id ∧
          row.expiresAt.all (now < ·) = true ∧ v = row.verified := by
  intro p answered
  have hfit : ∀ (_ j : ι) (r : Except RequestError KeyAnswer) (s t : Store),
      (requests j).Outcome hash r s t → s.Stands t := fun _ _ _ _ _ hR => stands_of_outcome hR
  have hfresh : ∀ i, (keyService hash store requests).answer? i = none := fun _ => rfl
  have hcommits : ∀ i, ((keyService hash store requests).handlers i).Commits Store.Stands
      ((requests i).Outcome hash) store := fun i => commits_serveKeys hash (requests i) store
  obtain ⟨log, hlog⟩ := Pool.Committed.run (fun _ => Store.Stands.refl)
    (fun _ _ _ _ => Store.Stands.trans) hfit hfresh hcommits turns
  have hanswered : answered = answeredBy log := by
    funext i a
    exact propext (hlog.answers i (.ok a))
  have hkept : Kept hash store requests answered p.store := by
    rw [hanswered]
    exact kept_of_replays hids hhashes hlog.store
  rw [verify_some_iff hkept.hashes]
  refine and_congr_right fun _ => ⟨?_, ?_⟩
  · rintro ⟨k, hk, hhash, hlive, hleft, rfl⟩
    obtain ⟨row, hrow, hstands⟩ := hkept.sound k hk
    obtain ⟨hrowLive, hnot⟩ := hstands.live.1 hlive
    exact ⟨row, hrow, hstands.hashedKey.symm.trans hhash, hrowLive, hnot,
      by rwa [← hstands.expiresAt], hstands.verified⟩
  · rintro ⟨row, hrow, hhash, hlive, hnot, hleft, rfl⟩
    obtain ⟨k, hk, hstands⟩ := hkept.complete row hrow
    exact ⟨k, hk, hstands.hashedKey.trans hhash, hstands.live.2 ⟨hlive, hnot⟩,
      by rwa [hstands.expiresAt], hstands.verified.symm⟩

/-- An organization with its owner, and no key yet. -/
def acmeOwned : Store := ⟨["acme"], [⟨"member-1", "acme", "ada", "owner"⟩], []⟩

/-- The owner mints a key, and revokes it while a second key is minted. -/
def mintAndRevoke : Fin 3 → KeyRequest
  | 0 => { headers := {}, session := some "ada", organizationId := "acme", now := 0
           op := .create { name := "ci", scopes := ["*"] } ⟨0, "key-1", "AAAA"⟩ }
  | 1 => { headers := {}, session := some "ada", organizationId := "acme", now := 1
           op := .create { name := "cd", scopes := ["*"] } ⟨1, "key-2", "BBBB"⟩ }
  | 2 => { headers := { xApiKey := some "uf_AAAA" }, organizationId := "acme", now := 2
           op := .revoke "key-1" 2 }

theorem verify_iff_mintAndRevoke :
    let p := Runs.run Pool.turn (keyService (fun token => token) acmeOwned mintAndRevoke)
      [0, 0, 0, 1, 2, 1, 2, 2, 2, 1]
    let answered i a := p.answer? i = some (.ok a)
    verify (fun token => token) 3 "uf_BBBB" p.store.apiKeys = some ⟨"key-2", "cd", "acme", ["*"]⟩ ↔
      apiKeyPrefix.toList.isPrefixOf "uf_BBBB".toList = true ∧
        ∃ row, Issued (fun token => token) acmeOwned mintAndRevoke answered row ∧
          row.hashedKey = "uf_BBBB" ∧ row.live = true ∧
          ¬ Revoked mintAndRevoke answered row.id ∧ row.expiresAt.all (3 < ·) = true ∧
          ⟨"key-2", "cd", "acme", ["*"]⟩ = row.verified :=
  @verify_iff _ _ _ acmeOwned List.nodup_nil List.nodup_nil mintAndRevoke _ 3 "uf_BBBB" _

end UptimeFlow.Access
