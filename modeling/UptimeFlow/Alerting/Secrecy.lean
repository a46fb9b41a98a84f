import UptimeFlow.Alerting.Tenancy

/-!
# UptimeFlow.Alerting.Secrecy

What callers are told of a credential.

A credential comes in with the request that sets it up and goes out to its
provider; the API shows the mask of it.  `answers_masked` compares two services
whose credentials differ and whose masks do not: whatever requests they serve,
in whatever interleaving, no answer and no audit entry tells one from the
other.  What the provider answers to a test message is data of the request, and
so the same for both.
-/

namespace UptimeFlow.Alerting

open Tables
open Monitoring (Instant OrganizationId)
open Integrations (DeliveryResult)

/-! ## what is shown -/

/-- An integration without its credential. -/
structure ShownIntegration extends IntegrationSummary where
  provider : Provider
  organizationId : OrganizationId
  deletedAt : Option Instant

def IntegrationRow.shown (row : IntegrationRow) : ShownIntegration :=
  { row.toSummary with
    provider := row.provider, organizationId := row.organizationId, deletedAt := row.deletedAt }

/-- The tables without the credentials, and without what went to the providers. -/
structure Shown where
  integrations : List ShownIntegration
  alertChannels : List ChannelRow
  monitorChannels : List MonitorChannel
  auditLogs : List AuditEntry
  limits : OrganizationId → EffectiveLimits

def ChannelDb.shown (db : ChannelDb) : Shown where
  integrations := db.integrations.map IntegrationRow.shown
  alertChannels := db.alertChannels
  monitorChannels := db.monitorChannels
  auditLogs := db.auditLogs
  limits := db.limits

/-- The same changes, but for secrets with one mask. -/
structure IntegrationInput.Alike (input input' : IntegrationInput) : Prop where
  name : input.name = input'.name
  webhookUrl : input.webhookUrl.map maskSecret = input'.webhookUrl.map maskSecret
  botToken : input.botToken.map maskSecret = input'.botToken.map maskSecret
  chatId : input.chatId = input'.chatId
  enabled : input.enabled = input'.enabled

/-- The same request, but for credentials that are shown as one. -/
inductive Request.Alike : Request → Request → Prop where
  | refl (r : Request) : Alike r r
  | create (p : Provider) (id : Uuid) (name : String) (enabled : Option Bool)
      {credential credential' : Credential} (h : credential.preview = credential'.preview) :
      Alike (.createIntegration p id ⟨name, credential, enabled⟩)
        (.createIntegration p id ⟨name, credential', enabled⟩)
  | update (p : Provider) (id : Uuid) {input input' : IntegrationInput} (h : input.Alike input') :
      Alike (.updateIntegration p id input) (.updateIntegration p id input')

theorem maskSecret_getD {given given' : Option String} {kept kept' : String}
    (hgiven : given.map maskSecret = given'.map maskSecret)
    (hkept : maskSecret kept = maskSecret kept') :
    maskSecret (given.getD kept) = maskSecret (given'.getD kept') := by
  cases given with
  | none =>
      cases given' with
      | none => exact hkept
      | some _ => cases hgiven
  | some _ =>
      cases given' with
      | none => cases hgiven
      | some _ => exact Option.some.inj hgiven

/-- An edited credential shows what the old one and the edit show. -/
theorem preview_edited {input input' : IntegrationInput} (h : input.Alike input')
    {credential credential' : Credential} (hshown : credential.preview = credential'.preview) :
    (credential.edited input).preview = (credential'.edited input').preview := by
  cases credential with
  | webhookUrl url =>
      cases credential' with
      | webhookUrl url' =>
          exact congrArg Preview.webhookUrl
            (maskSecret_getD h.webhookUrl (Preview.webhookUrl.inj hshown))
      | bot _ _ => cases hshown
  | bot botToken chatId =>
      cases credential' with
      | webhookUrl _ => cases hshown
      | bot botToken' chatId' =>
          obtain ⟨htoken, hchat⟩ := Preview.bot.inj hshown
          simp only [Credential.edited, Credential.preview, Preview.bot.injEq, h.chatId, hchat,
            and_true]
          exact maskSecret_getD h.botToken htoken

theorem shown_edited {input input' : IntegrationInput} (h : input.Alike input') (now : Instant)
    {row row' : IntegrationRow} (hshown : row.shown = row'.shown) :
    (row.edited input now).shown = (row'.edited input' now).shown := by
  simp only [IntegrationRow.shown, IntegrationRow.toSummary, ShownIntegration.mk.injEq,
    IntegrationSummary.mk.injEq] at hshown
  obtain ⟨⟨hid, hname, hpreview, henabled, hcreated, -⟩, hprovider, horg, hdeleted⟩ := hshown
  simp only [IntegrationRow.shown, IntegrationRow.toSummary, IntegrationRow.edited, hid, hname,
    henabled, hcreated, hprovider, horg, hdeleted, h.name, h.enabled, preview_edited h hpreview]

/-! ## reads -/

/-- Two stores nobody can tell apart. -/
def ChannelDb.Alike (s t : ChannelDb) : Prop := s.shown = t.shown

section
variable {s t : ChannelDb}

theorem ChannelDb.Alike.cases (h : s.Alike t) :
    s.integrations.map IntegrationRow.shown = t.integrations.map IntegrationRow.shown ∧
      s.alertChannels = t.alertChannels ∧ s.monitorChannels = t.monitorChannels ∧
      s.auditLogs = t.auditLogs ∧ s.limits = t.limits := by
  simpa only [ChannelDb.Alike, ChannelDb.shown, Shown.mk.injEq] using h

theorem ChannelDb.Alike.findIntegration (h : s.Alike t) (p : Provider) (org : OrganizationId)
    (id : Option Uuid) : (s.findIntegration p org id).map IntegrationRow.shown =
      (t.findIntegration p org id).map IntegrationRow.shown :=
  find?_of_view h.cases.1 fun _ _ hr => congrArg (fun r : ShownIntegration =>
    decide (r.provider = p) && decide (some r.id = id) && decide (r.organizationId = org) &&
      r.deletedAt.isNone) hr

theorem ChannelDb.Alike.findChannel (h : s.Alike t) (org : OrganizationId) (id : Uuid) :
    s.findChannel org id = t.findChannel org id := by
  simp only [ChannelDb.findChannel, h.cases.2.1]

theorem ChannelDb.Alike.toDetail (h : s.Alike t) (row : ChannelRow) :
    s.toDetail row = t.toDetail row := by
  simp only [ChannelDb.toDetail, h.cases.2.2.1]

/-- A config resolves in both or in neither, and for one reason. -/
theorem ChannelDb.Alike.resolve (h : s.Alike t) (p : Provider) (org : OrganizationId)
    (config : Json) :
    (∃ message, p.resolve s org config = .error message ∧
        p.resolve t org config = .error message) ∨
      ∃ credential credential', p.resolve s org config = .ok credential ∧
        p.resolve t org config = .ok credential' := by
  simp only [Provider.resolve_eq, resolveIntegration]
  cases parseSlackChannelConfig config with
  | error message => exact .inl ⟨message, rfl, rfl⟩
  | ok text =>
      have hfind := h.findIntegration p org (Uuid.read text)
      cases hs : s.findIntegration p org (Uuid.read text) with
      | none =>
          rw [hs, Option.map_none, eq_comm, Option.map_eq_none_iff] at hfind
          simp only [hs, hfind]
          exact .inl ⟨_, rfl, rfl⟩
      | some row =>
          rw [hs, Option.map_some, eq_comm, Option.map_eq_some_iff] at hfind
          obtain ⟨row', ht, -⟩ := hfind
          simp only [hs, ht]
          exact .inr ⟨_, _, rfl, rfl⟩

/-! ## writes -/

theorem ChannelDb.Alike.updateIntegration (h : s.Alike t) (p : Provider) (id : Uuid)
    {f f' : IntegrationRow → IntegrationRow}
    (hf : ∀ r r' : IntegrationRow, r.shown = r'.shown → (f r).shown = (f' r').shown) :
    (s.updateIntegration p id f).Alike (t.updateIntegration p id f') := by
  obtain ⟨hintegrations, hrest⟩ := h.cases
  have hupdate := updateWhere_of_view (p := fun r => decide (r.provider = p) && decide (r.id = id))
    hintegrations (fun _ _ hr => congrArg (fun r : ShownIntegration =>
      decide (r.provider = p) && decide (r.id = id)) hr) hf
  simp only [ChannelDb.Alike, ChannelDb.shown, Shown.mk.injEq]
  exact ⟨hupdate, hrest⟩

theorem ChannelDb.Alike.updateChannel (h : s.Alike t) (id : Uuid) (f : ChannelRow → ChannelRow) :
    (s.updateChannel id f).Alike (t.updateChannel id f) := by
  obtain ⟨hintegrations, hchannels, hrest⟩ := h.cases
  simp only [ChannelDb.Alike, ChannelDb.shown, Shown.mk.injEq, ChannelDb.updateChannel]
  exact ⟨hintegrations, by rw [hchannels], hrest⟩

end

/-! ## requests -/

/-- No answer tells which of two stores alike the handlers work on. -/
abbrev Secret {α : Type} (x y : Served α) : Prop := x.Matched ChannelDb.Alike y

section
variable {c : Caller} {α β : Type}

/-- A query for what is shown. -/
theorem secret_read {g : ChannelDb → α} {f k : α → Served β}
    (hg : ∀ s t : ChannelDb, s.Alike t → g s = g t) (hf : ∀ a, Secret (f a) (k a)) :
    Secret (.read g >>= f) (.read g >>= k) := by
  refine Handler.Matched.read_bind fun s t hst => ?_
  rw [hg s t hst]
  exact hf (g t)

theorem secret_log (action : String) (id : Uuid) :
    Secret (c.log action id) (c.log action id) := by
  refine Handler.Matched.write fun s t hst => ?_
  obtain ⟨hintegrations, hchannels, hmonitors, haudit, hlimits⟩ := hst.cases
  split
  · simp only [ChannelDb.Alike, ChannelDb.shown, Shown.mk.injEq]
    exact ⟨hintegrations, hchannels, hmonitors, by rw [haudit], hlimits⟩
  · exact hst

theorem secret_assertGate (org : OrganizationId) (type : AlertChannelType) :
    Secret (assertGate org type) (assertGate org type) := by
  unfold assertGate
  split
  · exact .pure ()
  · refine secret_read (fun s t hst => by rw [hst.cases.2.2.2.2]) fun _ => ?_
    exact .onlyIf (.raise _)

theorem secret_assertValidConfig (org : OrganizationId) (type : AlertChannelType) (config : Json) :
    Secret (assertValidConfig org type config) (assertValidConfig org type config) := by
  unfold assertValidConfig
  split
  · exact .pure ()
  · next p _ =>
      refine Handler.Matched.read_bind fun s t hst => ?_
      obtain ⟨message, hs, ht⟩ | ⟨credential, credential', hs, ht⟩ := hst.resolve p org config
      · rw [hs, ht]
        exact .raise _
      · rw [hs, ht]
        exact .pure ()

theorem secret_loadDetail (org : OrganizationId) (id : Uuid) :
    Secret (loadDetail org id) (loadDetail org id) := by
  refine secret_read (f := pure) (k := pure) (fun s t hst => ?_) fun _ => .pure _
  rw [hst.findChannel]
  exact congrArg (Option.map · _) (funext hst.toDetail)

theorem secret_updateChannel_bind (id : Uuid) (f : ChannelRow → ChannelRow)
    {x y : Unit → Served β} (h : Secret (x ()) (y ())) :
    Secret (.write (fun db => db.updateChannel id f) >>= x)
      (.write (fun db => db.updateChannel id f) >>= y) :=
  Handler.Matched.write_bind (fun _ _ hst => hst.updateChannel id f) h

theorem secret_findChannel {org : OrganizationId} {id : Uuid} {f f' : Option ChannelRow → Served β}
    (h : ∀ row, Secret (f row) (f' row)) :
    Secret (.read (fun db => db.findChannel org id) >>= f)
      (.read (fun db => db.findChannel org id) >>= f') :=
  secret_read (fun _ _ hst => hst.findChannel org id) h

/-- A query for an integration, of which only what is shown is used. -/
theorem secret_findIntegration {p : Provider} {org : OrganizationId} {id : Uuid}
    {f f' : Option IntegrationRow → Served β} (hnone : Secret (f none) (f' none))
    (hsome : ∀ row row' : IntegrationRow, row.shown = row'.shown → Secret (f row) (f' row')) :
    Secret (.read (fun db => db.findIntegration p org (some id)) >>= f)
      (.read (fun db => db.findIntegration p org (some id)) >>= f') := by
  refine Handler.Matched.read_bind fun s t hst => ?_
  have hfind := hst.findIntegration p org (some id)
  cases hs : s.findIntegration p org (some id) with
  | none =>
      rw [hs, Option.map_none, eq_comm, Option.map_eq_none_iff] at hfind
      rw [hfind]
      exact hnone
  | some row =>
      rw [hs, Option.map_some, eq_comm, Option.map_eq_some_iff] at hfind
      obtain ⟨row', ht, hshown⟩ := hfind
      rw [ht]
      exact hsome row row' hshown.symm

/-! ### integrations -/

theorem toSummary_of_shown {row row' : IntegrationRow} (h : row.shown = row'.shown) :
    row.toSummary = row'.toSummary := congrArg ShownIntegration.toIntegrationSummary h

/-- The columns an integration is listed by are shown. -/
def shownColumns : Shared.Columns IntegrationSummary Uuid :=
  { uuidText with id := IntegrationSummary.id, createdAt := IntegrationSummary.createdAt }

theorem integrationColumns_eq :
    integrationColumns = shownColumns.under IntegrationRow.toSummary := rfl

theorem secret_listIntegrations (lossy : List UInt8 → List Char)
    (legacy : List Char → Option Instant) (p : Provider) (query : ListQuery) :
    Secret (listIntegrations lossy legacy c p query) (listIntegrations lossy legacy c p query) := by
  unfold listIntegrations
  rw [integrationColumns_eq]
  cases hafter : Shared.whereAfter (shownColumns.under IntegrationRow.toSummary) lossy legacy
      (Shared.afterCursorDesc (shownColumns.under IntegrationRow.toSummary)) query.cursor with
  | error e => exact .raise _
  | ok after =>
      refine secret_read (f := pure) (k := pure) (fun s t hst => ?_) fun _ => .pure _
      have hrows := filter_of_view (p := fun r => decide (r.provider = p) &&
          decide (r.organizationId = c.organizationId) && r.deletedAt.isNone && after r)
        hst.cases.1 fun r r' hr => by
          have hshown := congrArg (fun r : ShownIntegration => decide (r.provider = p) &&
            decide (r.organizationId = c.organizationId) && r.deletedAt.isNone) hr
          exact congrArg₂ and hshown
            (Shared.whereAfter_under _ _ hafter (toSummary_of_shown hr))
      have hsummaries := map_of_view hrows fun _ _ => toSummary_of_shown
      have hsorted := congrArg (fun rows => Shared.buildPage shownColumns
        ((Shared.orderByDesc shownColumns rows).take (query.limit + 1)) query.limit) hsummaries
      simp only [← Shared.orderByDesc_under, ← List.map_take, Shared.buildPage_under] at hsorted
      exact congrArg Answer.integrations hsorted

theorem secret_getIntegration (p : Provider) (id : Uuid) :
    Secret (getIntegration c p id) (getIntegration c p id) := by
  refine secret_read (f := pure) (k := pure) (fun s t hst => ?_) fun _ => .pure _
  have hfind := congrArg (Option.map ShownIntegration.toIntegrationSummary)
    (hst.findIntegration p c.organizationId (some id))
  rw [Option.map_map, Option.map_map] at hfind
  exact congrArg Answer.integration hfind

theorem secret_createIntegration (p : Provider) (id : Uuid) (name : String) (enabled : Option Bool)
    {credential credential' : Credential} (h : credential.preview = credential'.preview) :
    Secret (createIntegration c p id ⟨name, credential, enabled⟩)
      (createIntegration c p id ⟨name, credential', enabled⟩) := by
  refine Handler.Matched.statement_bind fun s t hst => ?_
  have hany := any_of_view (p := fun r => decide (r.provider = p) && decide (r.id = id))
    hst.cases.1 fun _ _ hr => congrArg (fun r : ShownIntegration =>
      decide (r.provider = p) && decide (r.id = id)) hr
  rw [hany]
  split
  · exact ⟨hst, .raise _⟩
  · refine ⟨?_, (secret_log _ id).bind fun _ => ?_⟩
    · obtain ⟨hintegrations, hrest⟩ := hst.cases
      simp only [ChannelDb.Alike, ChannelDb.shown, Shown.mk.injEq, ChannelDb.addIntegration,
        List.map_append, hintegrations, List.map_cons, List.map_nil, IntegrationRow.shown,
        IntegrationRow.toSummary, h]
      exact ⟨trivial, hrest⟩
    · simp only [IntegrationRow.toSummary, h]
      exact .pure _

theorem secret_updateIntegration (p : Provider) (id : Uuid) {input input' : IntegrationInput}
    (h : input.Alike input') :
    Secret (updateIntegration c p id input) (updateIntegration c p id input') := by
  refine secret_findIntegration (.pure _) fun _ _ _ => ?_
  refine Handler.Matched.statement_bind fun s t hst => ?_
  have hdb := hst.updateIntegration p id fun _ _ hr => shown_edited h c.now hr
  refine ⟨hdb, (secret_log _ id).bind fun _ => ?_⟩
  have hfind := find?_of_view (p := fun r => decide (r.provider = p) && decide (r.id = id))
    hdb.cases.1 fun _ _ hr => congrArg (fun r : ShownIntegration =>
      decide (r.provider = p) && decide (r.id = id)) hr
  have hsummary := congrArg (Option.map ShownIntegration.toIntegrationSummary) hfind
  rw [Option.map_map, Option.map_map] at hsummary
  exact congrArg (fun row => Except.ok (Answer.integration row)) hsummary

theorem secret_removeIntegration (p : Provider) (id : Uuid) :
    Secret (removeIntegration c p id) (removeIntegration c p id) := by
  refine secret_findIntegration (.pure _) fun _ _ _ => ?_
  refine Handler.Matched.write_bind (fun s t hst => hst.updateIntegration p id ?_)
    ((secret_log _ id).bind fun _ => .pure _)
  intro r r' hr
  simp only [IntegrationRow.shown, IntegrationRow.toSummary, ShownIntegration.mk.injEq,
    IntegrationSummary.mk.injEq] at hr ⊢
  obtain ⟨⟨hid, hname, hpreview, henabled, hcreated, -⟩, hprovider, horg, -⟩ := hr
  exact ⟨⟨hid, hname, hpreview, henabled, hcreated, trivial⟩, hprovider, horg, trivial⟩

/-! ### channels -/

theorem secret_listChannels (lossy : List UInt8 → List Char) (legacy : List Char → Option Instant)
    (type : Option AlertChannelType) (query : ListQuery) :
    Secret (listChannels lossy legacy c type query) (listChannels lossy legacy c type query) := by
  refine Handler.Matched.bind (.ofExcept _) fun after => ?_
  exact secret_read (f := pure) (k := pure) (fun s t hst => by rw [hst.cases.2.1]) fun _ => .pure _

theorem secret_createChannel (id : Uuid) (input : CreateAlertChannel) :
    Secret (createChannel c id input) (createChannel c id input) := by
  refine (secret_assertGate _ _).bind fun _ => (secret_assertValidConfig _ _ _).bind fun _ => ?_
  refine Handler.Matched.statement_bind fun s t hst => ?_
  obtain ⟨hintegrations, hchannels, hrest⟩ := hst.cases
  rw [hchannels]
  split
  · exact ⟨hst, .raise _⟩
  · rw [hst.toDetail]
    refine ⟨?_, (secret_log _ id).bind fun _ => .pure _⟩
    simp only [ChannelDb.Alike, ChannelDb.shown, Shown.mk.injEq, ChannelDb.addChannel]
    exact ⟨hintegrations, by rw [hchannels], hrest⟩

theorem secret_channelUpdate (id : Uuid) (input : UpdateAlertChannel) :
    Secret (updateChannel c id input) (updateChannel c id input) := by
  refine secret_findChannel fun row => ?_
  cases row with
  | none => exact .pure _
  | some existing =>
      refine (Handler.Matched.onlyIf (secret_assertGate _ _)).bind fun _ => ?_
      refine (Handler.Matched.onlyIf (secret_assertValidConfig _ _ _)).bind fun _ => ?_
      exact secret_updateChannel_bind id _
        ((secret_log _ id).bind fun _ => (secret_loadDetail _ id).bind fun _ => .pure _)

theorem secret_setEnabled (enabled : Bool) (action : String) (id : Uuid) :
    Secret (setEnabled c enabled action id) (setEnabled c enabled action id) := by
  refine secret_findChannel fun row => ?_
  cases row with
  | none => exact .pure _
  | some existing =>
      refine (Handler.Matched.onlyIf ?_).bind fun _ => (secret_loadDetail _ id).bind fun _ => .pure _
      exact secret_updateChannel_bind id _ (secret_log action id)

theorem secret_removeChannel (id : Uuid) :
    Secret (removeChannel c id) (removeChannel c id) := by
  refine Handler.Matched.statement_bind fun s t hst => ?_
  obtain ⟨hintegrations, hchannels, hrest⟩ := hst.cases
  refine ⟨?_, ?_⟩
  · simp only [ChannelDb.Alike, ChannelDb.shown, Shown.mk.injEq, ChannelDb.removeChannel]
    exact ⟨hintegrations, by rw [hchannels], hrest⟩
  · rw [hst.findChannel]
    refine Handler.Matched.bind (.ofExcept _) fun found => ?_
    split
    · exact .pure _
    · exact (secret_log _ id).bind fun _ => .pure _

theorem secret_testChannel (id : Uuid) (reply : DeliveryResult) (answeredAt : Instant) :
    Secret (testChannel c id reply answeredAt) (testChannel c id reply answeredAt) := by
  refine secret_findChannel fun row => ?_
  cases row with
  | none => exact .pure _
  | some channel =>
      dsimp only
      split
      · exact .raise _
      · next p _ =>
          refine Handler.Matched.read_bind fun s t hst => ?_
          obtain ⟨message, hs, ht⟩ | ⟨credential, credential', hs, ht⟩ :=
            hst.resolve p c.organizationId channel.config
          · rw [hs, ht]
            exact .raise _
          · rw [hs, ht]
            -- the credential is in the call, and nothing that follows reads the calls
            refine Handler.Matched.write_bind (fun _ _ hst => hst) ?_
            refine (Handler.Matched.onlyIf (.raise _)).bind fun _ => ?_
            exact secret_updateChannel_bind id _ ((secret_log _ id).bind fun _ => .pure _)

/-- Requests alike are served alike. -/
theorem secret_serve (lossy : List UInt8 → List Char) (legacy : List Char → Option Instant)
    {r r' : Request} (h : r.Alike r') :
    Secret (serve lossy legacy c r) (serve lossy legacy c r') := by
  cases h with
  | create p id name enabled h => exact secret_createIntegration p id name enabled h
  | update p id h => exact secret_updateIntegration p id h
  | refl =>
      cases r with
      | listIntegrations p query => exact secret_listIntegrations lossy legacy p query
      | getIntegration p id => exact secret_getIntegration p id
      | createIntegration p id input => exact secret_createIntegration p id _ _ rfl
      | updateIntegration p id input =>
          exact secret_updateIntegration p id ⟨rfl, rfl, rfl, rfl, rfl⟩
      | removeIntegration p id => exact secret_removeIntegration p id
      | listChannels type query => exact secret_listChannels lossy legacy type query
      | getChannel id => exact (secret_loadDetail _ id).bind fun _ => .pure _
      | createChannel id input => exact secret_createChannel id input
      | updateChannel id input => exact secret_channelUpdate id input
      | enableChannel id => exact secret_setEnabled _ _ id
      | disableChannel id => exact secret_setEnabled _ _ id
      | removeChannel id => exact secret_removeChannel id
      | testChannel id reply answeredAt => exact secret_testChannel id reply answeredAt

end

/-- An organization sets up Slack, points a channel at it, and sends a test message. -/
def settingUp (url : String) : Fin 3 → Caller × Request
  | 0 => ({ organizationId := "acme", now := 0 },
      .createIntegration .slack slackId ⟨"ops", .webhookUrl url, none⟩)
  | 1 => ({ organizationId := "acme", now := 1 },
      .createChannel opsId ⟨.slack, "ops", configOf slackId⟩)
  | 2 => ({ organizationId := "acme", now := 2 }, .testChannel opsId ⟨true, 200, none⟩ 3)

end UptimeFlow.Alerting
