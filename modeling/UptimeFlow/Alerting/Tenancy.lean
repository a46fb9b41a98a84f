import UptimeFlow.Alerting.Channels

/-!
# UptimeFlow.Alerting.Tenancy

What keeps the channels and credentials of one organization from the others.

Every query names the organization, but the writes that follow a query name the
row by its id alone.  They stay with the organization because a row never
changes hands and no two organizations draw one id (`home`): under that, every
request is confined to the `slice` of its organization, whatever the other
requests do between its statements.  So an organization gets the answers, the
audit entries and the provider calls it would get if it were the only one
(`requests_separated`).
-/

namespace UptimeFlow.Alerting

open Tables
open Monitoring (Instant OrganizationId)
open Integrations (DeliveryResult)

/-- What the tables hold of one organization. -/
def ChannelDb.slice (home : Uuid → OrganizationId) (k : OrganizationId) (db : ChannelDb) :
    ChannelDb where
  integrations := db.integrations.filter (·.organizationId = k)
  alertChannels := db.alertChannels.filter (·.organizationId = k)
  monitorChannels := db.monitorChannels.filter (home ·.channelId = k)
  auditLogs := db.auditLogs.filter (·.organizationId = k)
  limits := fun _ => db.limits k
  calls := db.calls.filter (·.organizationId = k)

/-- Every row is under an id that its organization has drawn. -/
structure ChannelDb.Homed (home : Uuid → OrganizationId) (db : ChannelDb) : Prop where
  integrations : ∀ r ∈ db.integrations, home r.id = r.organizationId
  channels : ∀ r ∈ db.alertChannels, home r.id = r.organizationId

section
variable {home : Uuid → OrganizationId} {k : OrganizationId} {db : ChannelDb}

/-! ## reads -/

@[simp] theorem findIntegration_slice (p : Provider) (id : Option Uuid) :
    (db.slice home k).findIntegration p k id = db.findIntegration p k id := by
  refine find?_filter_of_imp fun r _ h => ?_
  simp only [Bool.and_eq_true, decide_eq_true_eq] at h
  exact decide_eq_true h.1.2

@[simp] theorem findChannel_slice (id : Uuid) :
    (db.slice home k).findChannel k id = db.findChannel k id := by
  refine find?_filter_of_imp fun r _ h => ?_
  simp only [Bool.and_eq_true, decide_eq_true_eq] at h
  exact decide_eq_true h.1.2

@[simp] theorem resolve_slice (p : Provider) (config : Json) :
    p.resolve (db.slice home k) k config = p.resolve db k config := by
  simp only [Provider.resolve_eq, resolveIntegration, findIntegration_slice]

theorem toDetail_slice {row : ChannelRow} (h : home row.id = k) :
    (db.slice home k).toDetail row = db.toDetail row := by
  have hsame : (db.slice home k).monitorChannels.filter (·.channelId = row.id) =
      db.monitorChannels.filter (·.channelId = row.id) :=
    filter_filter_of_imp fun r _ hr => decide_eq_true ((congrArg home (of_decide_eq_true hr)).trans h)
  simp only [ChannelDb.toDetail, hsame]

theorem findChannel_some {org : OrganizationId} {id : Uuid} {row : ChannelRow}
    (h : db.findChannel org id = some row) :
    row ∈ db.alertChannels ∧ row.id = id ∧ row.organizationId = org ∧ row.deletedAt = none := by
  have hfound := List.find?_some h
  simp only [Bool.and_eq_true, decide_eq_true_eq, Option.isNone_iff_eq_none] at hfound
  exact ⟨List.mem_of_find?_eq_some h, hfound.1.1, hfound.1.2, hfound.2⟩

theorem findIntegration_some {p : Provider} {org : OrganizationId} {id : Option Uuid}
    {row : IntegrationRow} (h : db.findIntegration p org id = some row) :
    row ∈ db.integrations ∧ row.provider = p ∧ some row.id = id ∧ row.organizationId = org ∧
      row.deletedAt = none := by
  have hfound := List.find?_some h
  simp only [Bool.and_eq_true, decide_eq_true_eq, Option.isNone_iff_eq_none] at hfound
  exact ⟨List.mem_of_find?_eq_some h, hfound.1.1.1, hfound.1.1.2, hfound.1.2, hfound.2⟩

/-- A channel that is found is under an id of the organization that looked for it. -/
theorem home_of_findChannel (hdb : db.Homed home) {id : Uuid} {row : ChannelRow}
    (h : db.findChannel k id = some row) : home id = k := by
  obtain ⟨hmem, rfl, rfl, -⟩ := findChannel_some h
  exact hdb.channels row hmem

theorem home_of_findIntegration (hdb : db.Homed home) {p : Provider} {id : Uuid}
    {row : IntegrationRow} (h : db.findIntegration p k (some id) = some row) : home id = k := by
  obtain ⟨hmem, -, hid, rfl, -⟩ := findIntegration_some h
  rw [← Option.some.inj hid]
  exact hdb.integrations row hmem

/-! ## writes -/

section
variable {f : ChannelRow → ChannelRow} {id : Uuid}

theorem updateChannel_slice (hf : ∀ r, (f r).organizationId = r.organizationId) :
    (db.updateChannel id f).slice home k = (db.slice home k).updateChannel id f := by
  simp only [ChannelDb.slice, ChannelDb.updateChannel]
  rw [updateWhere_filter fun r => by simp only [hf]]

theorem updateChannel_frame (hdb : db.Homed home) (hf : ∀ r, (f r).organizationId = r.organizationId)
    (hid : home id ≠ k) : (db.updateChannel id f).slice home k = db.slice home k := by
  rw [updateChannel_slice hf]
  have hnone : ∀ r ∈ (db.slice home k).alertChannels, decide (r.id = id) = false := by
    intro r hr
    obtain ⟨hmem, horg⟩ := List.mem_filter.1 hr
    refine decide_eq_false fun hrid => hid ?_
    rw [← hrid, hdb.channels r hmem, of_decide_eq_true horg]
  simp only [ChannelDb.updateChannel, updateWhere_eq_self hnone]

theorem updateChannel_homed (hdb : db.Homed home)
    (hf : ∀ r, (f r).id = r.id ∧ (f r).organizationId = r.organizationId) :
    (db.updateChannel id f).Homed home where
  integrations := hdb.integrations
  channels r hr := by
    obtain ⟨old, hold, -, rfl⟩ | ⟨hold, -⟩ := mem_updateWhere.1 hr
    · rw [(hf old).1, (hf old).2, hdb.channels old hold]
    · exact hdb.channels r hold

end

section
variable {org : OrganizationId} {id : Uuid} {now : Instant}

theorem removeChannel_slice :
    (db.removeChannel org id now).slice home k = (db.slice home k).removeChannel org id now := by
  simp only [ChannelDb.slice, ChannelDb.removeChannel]
  rw [updateWhere_filter]
  exact fun _ => rfl

theorem removeChannel_frame (hk : k ≠ org) :
    (db.removeChannel org id now).slice home k = db.slice home k := by
  rw [removeChannel_slice]
  have hnone : ∀ r ∈ (db.slice home k).alertChannels,
      (decide (r.id = id) && decide (r.organizationId = org) && r.deletedAt.isNone) = false := by
    intro r hr
    have horg : r.organizationId = k := of_decide_eq_true (List.mem_filter.1 hr).2
    simp [horg, hk]
  simp only [ChannelDb.removeChannel, updateWhere_eq_self hnone]

theorem removeChannel_homed (hdb : db.Homed home) : (db.removeChannel org id now).Homed home where
  integrations := hdb.integrations
  channels r hr := by
    obtain ⟨old, hold, -, rfl⟩ | ⟨hold, -⟩ := mem_updateWhere.1 hr
    · exact hdb.channels old hold
    · exact hdb.channels r hold

end

section
variable {f : IntegrationRow → IntegrationRow} {p : Provider} {id : Uuid}

theorem updateIntegration_slice (hf : ∀ r, (f r).organizationId = r.organizationId) :
    (db.updateIntegration p id f).slice home k = (db.slice home k).updateIntegration p id f := by
  simp only [ChannelDb.slice, ChannelDb.updateIntegration]
  rw [updateWhere_filter fun r => by simp only [hf]]

theorem updateIntegration_congr {t : ChannelDb} (hf : ∀ r, (f r).organizationId = r.organizationId)
    (h : db.slice home k = t.slice home k) :
    (db.updateIntegration p id f).slice home k = (t.updateIntegration p id f).slice home k := by
  rw [updateIntegration_slice hf, updateIntegration_slice hf, h]

theorem updateIntegration_frame (hdb : db.Homed home)
    (hf : ∀ r, (f r).organizationId = r.organizationId) (hid : home id ≠ k) :
    (db.updateIntegration p id f).slice home k = db.slice home k := by
  rw [updateIntegration_slice hf]
  have hnone : ∀ r ∈ (db.slice home k).integrations,
      (decide (r.provider = p) && decide (r.id = id)) = false := by
    intro r hr
    obtain ⟨hmem, horg⟩ := List.mem_filter.1 hr
    have hne : r.id ≠ id := by
      intro hrid
      exact hid (by rw [← hrid, hdb.integrations r hmem, of_decide_eq_true horg])
    simp [hne]
  simp only [ChannelDb.updateIntegration, updateWhere_eq_self hnone]

theorem updateIntegration_homed (hdb : db.Homed home)
    (hf : ∀ r, (f r).id = r.id ∧ (f r).organizationId = r.organizationId) :
    (db.updateIntegration p id f).Homed home where
  integrations r hr := by
    obtain ⟨old, hold, -, rfl⟩ | ⟨hold, -⟩ := mem_updateWhere.1 hr
    · rw [(hf old).1, (hf old).2, hdb.integrations old hold]
    · exact hdb.integrations r hold
  channels := hdb.channels

end

end

/-! ## statements -/

/-- The handler acts on the slice of its caller's organization, and on nothing else. -/
abbrev Tenant {α : Type} (home : Uuid → OrganizationId) (c : Caller) (x : Served α) : Prop :=
  x.Confined (ChannelDb.Homed home) (fun k db => db.slice home k) c.organizationId

section
variable {home : Uuid → OrganizationId} {c : Caller} {α β : Type}

/-- What the slice tells is the same wherever the slice is. -/
theorem eq_of_slice (g : ChannelDb → α) {k : OrganizationId}
    (h : ∀ db : ChannelDb, db.Homed home → g (db.slice home k) = g db) :
    ∀ s t : ChannelDb, s.Homed home → t.Homed home → s.slice home k = t.slice home k →
      g s = g t := by
  intro s t hs ht hst
  rw [← h s hs, hst, h t ht]

/-- A query for rows of the organization. -/
theorem tenant_read {g : ChannelDb → α} {f : α → Served β}
    (hg : ∀ db : ChannelDb, db.Homed home → g (db.slice home c.organizationId) = g db)
    (hf : ∀ db : ChannelDb, db.Homed home → Tenant home c (f (g db))) :
    Tenant home c (.read g >>= f) := Handler.Confined.read_bind (eq_of_slice g hg) hf

/-- A write by the id of a channel of the organization. -/
theorem tenant_updateChannel {id : Uuid} {f : ChannelRow → ChannelRow} {next : Unit → Served β}
    (hid : home id = c.organizationId)
    (hf : ∀ r, (f r).id = r.id ∧ (f r).organizationId = r.organizationId)
    (hnext : Tenant home c (next ())) :
    Tenant home c (.write (fun db => db.updateChannel id f) >>= next) := by
  refine Handler.Confined.write_bind (fun db hdb => updateChannel_homed hdb hf) ?_ ?_ hnext
  · intro db hdb k hk
    refine updateChannel_frame hdb (fun r => (hf r).2) fun h => hk ?_
    rw [← h, hid]
  · intro s t _ _ hst
    simp only [updateChannel_slice fun r => (hf r).2, hst]

theorem tenant_log (action : String) (id : Uuid) : Tenant home c (c.log action id) := by
  refine Handler.Confined.write_bind (fun db hdb => ?_) (fun db _ k hk => ?_)
    (fun s t _ _ hst => ?_) (.pure ())
  · split
    · exact ⟨hdb.integrations, hdb.channels⟩
    · exact hdb
  · split
    · simp [ChannelDb.slice, Ne.symm hk]
    · rfl
  · split
    · have haudit := congrArg ChannelDb.auditLogs hst
      simp only [ChannelDb.slice, ChannelDb.mk.injEq, List.filter_append] at hst haudit ⊢
      exact ⟨hst.1, hst.2.1, hst.2.2.1, by rw [haudit], hst.2.2.2.2⟩
    · exact hst

theorem tenant_assertGate (type : AlertChannelType) :
    Tenant home c (assertGate c.organizationId type) := by
  unfold assertGate
  split
  · exact .pure ()
  · exact tenant_read (fun _ _ => rfl) fun db _ => .onlyIf fun _ => .raise _

theorem tenant_assertValidConfig (type : AlertChannelType) (config : Json) :
    Tenant home c (assertValidConfig c.organizationId type config) := by
  unfold assertValidConfig
  split
  · exact .pure ()
  · refine tenant_read (fun _ _ => resolve_slice _ _) fun db _ => ?_
    split
    · exact .raise _
    · exact .pure ()

theorem loadDetail_slice {db : ChannelDb} (hdb : db.Homed home) {k : OrganizationId} (id : Uuid) :
    ((db.slice home k).findChannel k id).map (db.slice home k).toDetail =
      (db.findChannel k id).map db.toDetail := by
  rw [findChannel_slice]
  refine Option.map_congr fun row hrow => toDetail_slice ?_
  obtain ⟨-, hid, -, -⟩ := findChannel_some hrow
  rw [hid]
  exact home_of_findChannel hdb hrow

theorem tenant_loadDetail {id : Uuid} {f : Option AlertChannelDetail → Served β}
    (hf : ∀ detail, Tenant home c (f detail)) :
    Tenant home c (loadDetail c.organizationId id >>= f) :=
  tenant_read (fun _ hdb => loadDetail_slice hdb id) fun _ _ => hf _

/-! ## requests -/

theorem tenant_listIntegrations (lossy : List UInt8 → List Char)
    (legacy : List Char → Option Instant) (p : Provider) (query : ListQuery) :
    Tenant home c (listIntegrations lossy legacy c p query) := by
  refine Handler.Confined.bind trivial fun after => ?_
  refine tenant_read (fun db _ => ?_) fun _ _ => .pure _
  have hrows : (db.slice home c.organizationId).integrations.filter (fun r =>
        r.provider = p && r.organizationId = c.organizationId && r.deletedAt.isNone && after r) =
      db.integrations.filter fun r =>
        r.provider = p && r.organizationId = c.organizationId && r.deletedAt.isNone && after r := by
    refine filter_filter_of_imp fun r _ h => ?_
    simp only [Bool.and_eq_true] at h
    exact h.1.1.2
  simp only [hrows]

theorem tenant_listChannels (lossy : List UInt8 → List Char)
    (legacy : List Char → Option Instant) (type : Option AlertChannelType) (query : ListQuery) :
    Tenant home c (listChannels lossy legacy c type query) := by
  refine Handler.Confined.bind trivial fun after => ?_
  refine tenant_read (fun db _ => ?_) fun _ _ => .pure _
  have hrows : (db.slice home c.organizationId).alertChannels.filter (fun r =>
        r.organizationId = c.organizationId && r.deletedAt.isNone && type.all (r.type = ·) &&
          after r) =
      db.alertChannels.filter fun r =>
        r.organizationId = c.organizationId && r.deletedAt.isNone && type.all (r.type = ·) &&
          after r := by
    refine filter_filter_of_imp fun r _ h => ?_
    simp only [Bool.and_eq_true] at h
    exact h.1.1.1
  simp only [hrows]

theorem tenant_channelUpdate (id : Uuid) (input : UpdateAlertChannel) :
    Tenant home c (updateChannel c id input) := by
  refine tenant_read (fun _ _ => findChannel_slice id) fun db hdb => ?_
  cases hfound : db.findChannel c.organizationId id with
  | none => exact .pure _
  | some existing =>
      have hid := home_of_findChannel hdb hfound
      refine Handler.Confined.bind (.onlyIf fun _ => tenant_assertGate _) fun _ => ?_
      refine Handler.Confined.bind (.onlyIf fun _ => tenant_assertValidConfig _ _) fun _ => ?_
      exact tenant_updateChannel hid (fun _ => ⟨rfl, rfl⟩)
        ((tenant_log _ id).bind fun _ => tenant_loadDetail fun _ => .pure _)

theorem tenant_setEnabled (enabled : Bool) (action : String) (id : Uuid) :
    Tenant home c (setEnabled c enabled action id) := by
  refine tenant_read (fun _ _ => findChannel_slice id) fun db hdb => ?_
  cases hfound : db.findChannel c.organizationId id with
  | none => exact .pure _
  | some existing =>
      have hid := home_of_findChannel hdb hfound
      refine Handler.Confined.bind (.onlyIf fun _ => ?_) fun _ => tenant_loadDetail fun _ => .pure _
      exact tenant_updateChannel hid (fun _ => ⟨rfl, rfl⟩) (tenant_log action id)

theorem tenant_removeChannel (id : Uuid) : Tenant home c (removeChannel c id) := by
  refine Handler.Confined.statement_bind (fun _ hdb => removeChannel_homed hdb)
    (fun db _ k hk => removeChannel_frame hk) (fun s t hs ht hst => ?_) fun db found _ _ => ?_
  · refine ⟨by simp only [removeChannel_slice, hst], congrArg Except.ok ?_⟩
    exact eq_of_slice (fun db => (db.findChannel c.organizationId id).isSome)
      (fun _ _ => by rw [findChannel_slice]) s t hs ht hst
  · split
    · exact .pure _
    · exact (tenant_log _ id).bind fun _ => .pure _

theorem tenant_testChannel (id : Uuid) (reply : DeliveryResult) (answeredAt : Instant) :
    Tenant home c (testChannel c id reply answeredAt) := by
  refine tenant_read (fun _ _ => findChannel_slice id) fun db hdb => ?_
  cases hfound : db.findChannel c.organizationId id with
  | none => exact .pure _
  | some channel =>
      have hid := home_of_findChannel hdb hfound
      dsimp only
      split
      · exact .raise _
      · refine tenant_read (fun _ _ => resolve_slice _ _) fun db _ => ?_
        split
        · exact .raise _
        · refine Handler.Confined.write_bind (fun _ hdb => ⟨hdb.integrations, hdb.channels⟩)
            (fun db _ k hk => ?_) (fun s t _ _ hst => ?_) ?_
          · simp [ChannelDb.slice, Ne.symm hk]
          · simp only [ChannelDb.slice, ChannelDb.mk.injEq, List.filter_append] at hst ⊢
            exact ⟨hst.1, hst.2.1, hst.2.2.1, hst.2.2.2.1, hst.2.2.2.2.1, by rw [hst.2.2.2.2.2]⟩
          · refine Handler.Confined.bind (.onlyIf fun _ => .raise _) fun _ => ?_
            exact tenant_updateChannel hid (fun _ => ⟨rfl, rfl⟩)
              ((tenant_log _ id).bind fun _ => .pure _)

theorem any_channel_slice {db : ChannelDb} (hdb : db.Homed home) {k : OrganizationId} {id : Uuid}
    (hid : home id = k) :
    (db.slice home k).alertChannels.any (·.id = id) = db.alertChannels.any (·.id = id) := by
  rw [Bool.eq_iff_iff, ChannelDb.slice, List.any_filter, List.any_eq_true, List.any_eq_true]
  refine exists_congr fun r => and_congr_right fun hr => ?_
  simp only [Bool.and_eq_true, decide_eq_true_eq, and_iff_right_iff_imp]
  rintro rfl
  rw [← hdb.channels r hr, hid]

theorem tenant_createChannel {id : Uuid} (hid : home id = c.organizationId)
    (input : CreateAlertChannel) : Tenant home c (createChannel c id input) := by
  refine Handler.Confined.bind (tenant_assertGate _) fun _ => ?_
  refine Handler.Confined.bind (tenant_assertValidConfig _ _) fun _ => ?_
  refine Handler.Confined.statement_bind (fun db hdb => ?_) (fun db _ k hk => ?_)
    (fun s t hs ht hst => ?_) fun _ _ _ _ => (tenant_log _ id).bind fun _ => .pure _
  · split
    · exact hdb
    · refine ⟨hdb.integrations, List.forall_mem_append.2 ⟨hdb.channels, ?_⟩⟩
      simpa using hid
  · split
    · rfl
    · simp [ChannelDb.slice, ChannelDb.addChannel, Ne.symm hk]
  · have hany : s.alertChannels.any (·.id = id) = t.alertChannels.any (·.id = id) :=
      eq_of_slice (fun db => db.alertChannels.any (·.id = id))
        (fun _ hdb => any_channel_slice hdb hid) s t hs ht hst
    rw [hany]
    split
    · exact ⟨hst, rfl⟩
    · refine ⟨?_, congrArg Except.ok ?_⟩
      · simp only [ChannelDb.slice, ChannelDb.addChannel, ChannelDb.mk.injEq,
          List.filter_append] at hst ⊢
        exact ⟨hst.1, by rw [hst.2.1], hst.2.2⟩
      · exact eq_of_slice (fun db => db.toDetail _) (fun db _ => toDetail_slice hid) s t hs ht hst

theorem any_integration_slice {db : ChannelDb} (hdb : db.Homed home) {k : OrganizationId}
    (p : Provider) {id : Uuid} (hid : home id = k) :
    ((db.slice home k).integrations.any fun r => r.provider = p && r.id = id) =
      db.integrations.any fun r => r.provider = p && r.id = id := by
  rw [Bool.eq_iff_iff, ChannelDb.slice, List.any_filter, List.any_eq_true, List.any_eq_true]
  refine exists_congr fun r => and_congr_right fun hr => ?_
  simp only [Bool.and_eq_true, decide_eq_true_eq, and_iff_right_iff_imp]
  rintro ⟨-, rfl⟩
  rw [← hdb.integrations r hr, hid]

theorem tenant_createIntegration (p : Provider) {id : Uuid} (hid : home id = c.organizationId)
    (input : CreateIntegration) : Tenant home c (createIntegration c p id input) := by
  refine Handler.Confined.statement_bind (fun db hdb => ?_) (fun db _ k hk => ?_)
    (fun s t hs ht hst => ?_) fun _ _ _ _ => (tenant_log _ id).bind fun _ => .pure _
  · split
    · exact hdb
    · refine ⟨List.forall_mem_append.2 ⟨hdb.integrations, ?_⟩, hdb.channels⟩
      simpa using hid
  · split
    · rfl
    · simp [ChannelDb.slice, ChannelDb.addIntegration, Ne.symm hk]
  · have hany := eq_of_slice (fun db => db.integrations.any fun r => r.provider = p && r.id = id)
      (fun _ hdb => any_integration_slice hdb p hid) s t hs ht hst
    rw [hany]
    split
    · exact ⟨hst, rfl⟩
    · refine ⟨?_, rfl⟩
      simp only [ChannelDb.slice, ChannelDb.addIntegration, ChannelDb.mk.injEq,
        List.filter_append] at hst ⊢
      exact ⟨by rw [hst.1], hst.2⟩

/-- A look-up of a row of the organization by its id alone. -/
theorem find_integration_slice {db : ChannelDb} (hdb : db.Homed home) {k : OrganizationId}
    (p : Provider) {id : Uuid} (hid : home id = k) :
    ((db.slice home k).integrations.find? fun r => r.provider = p && r.id = id) =
      db.integrations.find? fun r => r.provider = p && r.id = id := by
  refine find?_filter_of_imp fun r hr h => ?_
  simp only [Bool.and_eq_true, decide_eq_true_eq] at h
  exact decide_eq_true (by rw [← hdb.integrations r hr, h.2, hid])

theorem tenant_updateIntegration (p : Provider) (id : Uuid) (input : IntegrationInput) :
    Tenant home c (updateIntegration c p id input) := by
  have hf : ∀ r : IntegrationRow, (r.edited input c.now).id = r.id ∧
      (r.edited input c.now).organizationId = r.organizationId := fun _ => ⟨rfl, rfl⟩
  refine tenant_read (fun _ _ => findIntegration_slice p (some id)) fun db hdb => ?_
  cases hfound : db.findIntegration p c.organizationId (some id) with
  | none => exact .pure _
  | some _ =>
      have hid := home_of_findIntegration hdb hfound
      refine Handler.Confined.statement_bind (fun _ hdb => updateIntegration_homed hdb hf)
        (fun db hdb k hk => updateIntegration_frame hdb (fun r => (hf r).2) ?_)
        (fun s t hs ht hst => ?_) fun _ _ _ _ => (tenant_log _ id).bind fun _ => .pure _
      · rw [hid]
        exact Ne.symm hk
      · have hslice : (s.updateIntegration p id (·.edited input c.now)).slice home c.organizationId =
            (t.updateIntegration p id (·.edited input c.now)).slice home c.organizationId :=
          updateIntegration_congr (fun r => (hf r).2) hst
        refine ⟨hslice, congrArg Except.ok ?_⟩
        exact eq_of_slice (fun db => db.integrations.find? fun r => r.provider = p && r.id = id)
          (fun _ hdb => find_integration_slice hdb p hid) _ _
          (updateIntegration_homed hs hf) (updateIntegration_homed ht hf) hslice

theorem tenant_removeIntegration (p : Provider) (id : Uuid) :
    Tenant home c (removeIntegration c p id) := by
  refine tenant_read (fun _ _ => findIntegration_slice p (some id)) fun db hdb => ?_
  cases hfound : db.findIntegration p c.organizationId (some id) with
  | none => exact .pure _
  | some _ =>
      have hid := home_of_findIntegration hdb hfound
      refine Handler.Confined.write_bind
        (fun _ hdb => updateIntegration_homed hdb fun _ => ⟨rfl, rfl⟩)
        (fun db hdb k hk => updateIntegration_frame hdb (fun _ => rfl) ?_)
        (fun s t _ _ hst => updateIntegration_congr (fun _ => rfl) hst)
        ((tenant_log _ id).bind fun _ => .pure _)
      rw [hid]
      exact Ne.symm hk

/-- The id a request draws for a new row. -/
def Request.drawn : Request → Option Uuid
  | .createIntegration _ id _ | .createChannel id _ => some id
  | _ => none

/-- A request that draws an id of its own organization is confined to the organization. -/
theorem tenant_serve (lossy : List UInt8 → List Char) (legacy : List Char → Option Instant)
    {request : Request} (hdrawn : ∀ id ∈ request.drawn, home id = c.organizationId) :
    Tenant home c (serve lossy legacy c request) := by
  cases request with
  | listIntegrations p query => exact tenant_listIntegrations lossy legacy p query
  | getIntegration p id =>
      exact tenant_read (fun _ _ => by simp only [findIntegration_slice]) fun _ _ => .pure _
  | createIntegration p id input => exact tenant_createIntegration p (hdrawn id rfl) input
  | updateIntegration p id input => exact tenant_updateIntegration p id input
  | removeIntegration p id => exact tenant_removeIntegration p id
  | listChannels type query => exact tenant_listChannels lossy legacy type query
  | getChannel id => exact tenant_loadDetail fun _ => .pure _
  | createChannel id input => exact tenant_createChannel (hdrawn id rfl) input
  | updateChannel id input => exact tenant_channelUpdate id input
  | enableChannel id => exact tenant_setEnabled true _ id
  | disableChannel id => exact tenant_setEnabled false _ id
  | removeChannel id => exact tenant_removeChannel id
  | testChannel id reply answeredAt => exact tenant_testChannel id reply answeredAt

/-- **Separation.**  In every interleaving of the requests of any organizations, an organization
gets the answers, and leaves its rows, its audit entries and its provider calls, as if the
others had sent no request at all. -/
theorem requests_separated (lossy : List UInt8 → List Char) (legacy : List Char → Option Instant)
    {ι : Type} [DecidableEq ι] {store : ChannelDb} {requests : ι → Caller × Request}
    (hstore : store.Homed home)
    (hdrawn : ∀ i, ∀ id ∈ (requests i).2.drawn, home id = (requests i).1.organizationId)
    (k : OrganizationId) (turns : List ι) :
    let all := Runs.run Pool.turn (service lossy legacy store requests) turns
    let own := Runs.run Pool.turn (service lossy legacy store requests)
      (turns.filter fun i => (requests i).1.organizationId = k)
    (∀ i, (requests i).1.organizationId = k → all.answer? i = own.answer? i) ∧
      all.store.slice home k = own.store.slice home k := by
  have hconfined : (service lossy legacy store requests).Confined (ChannelDb.Homed home)
      (fun k db => db.slice home k) fun i => (requests i).1.organizationId :=
    ⟨hstore, fun i => tenant_serve lossy legacy (hdrawn i)⟩
  have halike := hconfined.separated k turns
  exact ⟨fun i hi => congrArg Handler.answer? (halike.handlers i hi), halike.store⟩

end

/-- The id whose text is all zeros up to its last digit. -/
def uuidOf (n : Fin 10) : Uuid where
  text := List.replicate 8 '0' ++ '-' :: List.replicate 4 '0' ++ '-' :: List.replicate 4 '0' ++
    '-' :: List.replicate 4 '0' ++ '-' :: List.replicate 11 '0' ++ [Nat.digitChar n]
  canonical := by
    revert n
    decide +kernel

/-- The id of an integration. -/
def slackId : Uuid := uuidOf 1

/-- The id of a channel. -/
def opsId : Uuid := uuidOf 2

/-- A channel config that names the integration. -/
def configOf (id : Uuid) : Json := .obj [("integrationId", .str (String.ofList id.text))]

/-- One organization sets up Slack, and another one a channel that names its integration. -/
def twoTenants : Fin 3 → Caller × Request
  | 0 => ({ organizationId := "acme", now := 0 },
      .createIntegration .slack slackId ⟨"ops", .webhookUrl "https://hooks.slack.com/a", none⟩)
  | 1 => ({ organizationId := "globex", now := 1 },
      .createChannel opsId ⟨.slack, "theirs", configOf slackId⟩)
  | 2 => ({ organizationId := "globex", now := 2 }, .testChannel opsId ⟨true, 200, none⟩ 3)

/-- The tables before the first request. -/
def noChannels : ChannelDb := { limits := fun _ => ⟨"Free", false, false⟩ }

theorem requests_separated_twoTenants :
    let requests := service (fun _ => []) (fun _ => none) noChannels twoTenants
    let all := Runs.run Pool.turn requests [0, 1, 0, 1, 1, 2]
    let own := Runs.run Pool.turn requests [1, 1, 1, 2]
    (∀ i, (twoTenants i).1.organizationId = "globex" → all.answer? i = own.answer? i) ∧
      all.store.slice (fun u => if u = slackId then "acme" else "globex") "globex" =
        own.store.slice (fun u => if u = slackId then "acme" else "globex") "globex" := by
  have hne : opsId ≠ slackId := by decide +kernel
  have hdrawn : ∀ i, ∀ id ∈ (twoTenants i).2.drawn,
      (if id = slackId then "acme" else "globex") = (twoTenants i).1.organizationId := by
    intro i id hid
    match i with
    | 0 => cases hid; exact if_pos rfl
    | 1 => cases hid; exact if_neg hne
    | 2 => cases hid
  exact requests_separated _ _ ⟨by simp [noChannels], by simp [noChannels]⟩ hdrawn "globex"
    [0, 1, 0, 1, 1, 2]

end UptimeFlow.Alerting
