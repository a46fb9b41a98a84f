import UptimeFlow.Alerting.Tenancy

/-!
# UptimeFlow.Alerting.Deliverable

A channel that was saved delivers, until its integration is removed.

A config is validated with the resolver the transport calls, against the shape
the channel is about to have; but the type and the config of a channel are read
in one statement and written in another.  Where no two requests reshape one
channel at the same time, every saved channel of an integration-backed type
names an integration of its organization (`Deliverable`), so that the transport
fails to resolve it exactly if that integration has been removed since
(`resolve_of_saved`).  Two requests that do can leave a channel that never
delivers (`not_deliverable_clash`).
-/

namespace UptimeFlow.Alerting

open Tables
open Monitoring (Instant OrganizationId)
open Integrations (DeliveryResult)

/-! ## the invariant -/

/-- The config names an integration of the organization, removed or not. -/
def ChannelDb.Backs (db : ChannelDb) (org : OrganizationId) (p : Provider) (config : Json) : Prop :=
  ∃ text, parseSlackChannelConfig config = .ok text ∧
    ∃ r ∈ db.integrations, r.provider = p ∧ some r.id = Uuid.read text ∧ r.organizationId = org

/-- The type and the config fit each other. -/
def ChannelDb.Fits (db : ChannelDb) (org : OrganizationId) (type : AlertChannelType)
    (config : Json) : Prop :=
  ∀ p, integrationChannels type = some p → db.Backs org p config

structure ChannelDb.Deliverable (db : ChannelDb) : Prop where
  integrations : (db.integrations.map fun r => (r.provider, r.id)).Nodup
  channels : (db.alertChannels.map (·.id)).Nodup
  fits : ∀ r ∈ db.alertChannels, db.Fits r.organizationId r.type r.config

theorem deliverable_noChannels : noChannels.Deliverable :=
  ⟨List.nodup_nil, List.nodup_nil, by simp [noChannels]⟩

/-- Every integration of the first tables is one of the second. -/
def Outlast (s t : ChannelDb) : Prop :=
  ∀ r ∈ s.integrations, ∃ r' ∈ t.integrations,
    r'.provider = r.provider ∧ r'.id = r.id ∧ r'.organizationId = r.organizationId

theorem Outlast.refl (db : ChannelDb) : Outlast db db := fun r hr => ⟨r, hr, rfl, rfl, rfl⟩

theorem Outlast.trans {s t u : ChannelDb} (h : Outlast s t) (h' : Outlast t u) : Outlast s u := by
  intro r hr
  obtain ⟨r', hr', hp, hid, horg⟩ := h r hr
  obtain ⟨r'', hr'', hp', hid', horg'⟩ := h' r' hr'
  exact ⟨r'', hr'', hp'.trans hp, hid'.trans hid, horg'.trans horg⟩

theorem ChannelDb.Fits.outlast {s t : ChannelDb} {org : OrganizationId} {type : AlertChannelType}
    {config : Json} (h : s.Fits org type config) (hst : Outlast s t) : t.Fits org type config := by
  intro p hp
  obtain ⟨text, htext, r, hr, hprovider, hid, horg⟩ := h p hp
  obtain ⟨r', hr', hp', hid', horg'⟩ := hst r hr
  exact ⟨text, htext, r', hr', hp'.trans hprovider, by rw [hid', hid], horg'.trans horg⟩

/-! ## what the requests rely on -/

/-- The channel whose type or config the request writes. -/
def Request.reshapes : Request → Option Uuid
  | .updateChannel id input => if input.type.isSome || input.config.isSome then some id else none
  | _ => none

/-- Every channel stays under its id and with its organization, and keeps its type and its config
where the condition holds of its id. -/
def Keep (fixed : Uuid → Prop) (s t : ChannelDb) : Prop :=
  ∀ r ∈ s.alertChannels, ∃ r' ∈ t.alertChannels, r'.id = r.id ∧
    r'.organizationId = r.organizationId ∧ (fixed r.id → r'.type = r.type ∧ r'.config = r.config)

/-- A request relies on the others to leave alone the channel it reshapes. -/
def Rely (reshaped : Option Uuid) (s t : ChannelDb) : Prop :=
  Outlast s t ∧ Keep (fun id => reshaped = some id) s t

/-- A request reshapes no channel but its own. -/
def Guarantee (reshaped : Option Uuid) (s t : ChannelDb) : Prop :=
  Outlast s t ∧ Keep (fun id => reshaped ≠ some id) s t

/-- Two requests that reshape one channel. -/
def Clash (a b : Request) : Prop := a.reshapes = b.reshapes ∧ a.reshapes ≠ none

theorem Keep.refl (fixed : Uuid → Prop) (db : ChannelDb) : Keep fixed db db :=
  fun r hr => ⟨r, hr, rfl, rfl, fun _ => ⟨rfl, rfl⟩⟩

theorem Keep.trans {fixed : Uuid → Prop} {s t u : ChannelDb} (h : Keep fixed s t)
    (h' : Keep fixed t u) : Keep fixed s u := by
  intro r hr
  obtain ⟨r', hr', hid, horg, hshape⟩ := h r hr
  obtain ⟨r'', hr'', hid', horg', hshape'⟩ := h' r' hr'
  refine ⟨r'', hr'', hid'.trans hid, horg'.trans horg, fun hfixed => ?_⟩
  obtain ⟨htype, hconfig⟩ := hshape hfixed
  obtain ⟨htype', hconfig'⟩ := hshape' (by rwa [hid])
  exact ⟨htype'.trans htype, hconfig'.trans hconfig⟩

theorem Rely.refl (reshaped : Option Uuid) (db : ChannelDb) : Rely reshaped db db :=
  ⟨.refl db, .refl _ db⟩

theorem Rely.trans {reshaped : Option Uuid} {s t u : ChannelDb} (h : Rely reshaped s t)
    (h' : Rely reshaped t u) : Rely reshaped s u := ⟨h.1.trans h'.1, h.2.trans h'.2⟩

theorem Guarantee.refl (reshaped : Option Uuid) (db : ChannelDb) : Guarantee reshaped db db :=
  ⟨.refl db, .refl _ db⟩

/-- What one request guarantees is what another one relies on, unless they clash. -/
theorem Guarantee.rely {a b : Request} {s t : ChannelDb} (h : Guarantee b.reshapes s t)
    (hapart : ¬ Clash a b) : Rely a.reshapes s t := by
  refine ⟨h.1, fun r hr => ?_⟩
  obtain ⟨r', hr', hid, horg, hshape⟩ := h.2 r hr
  refine ⟨r', hr', hid, horg, fun ha => hshape fun hb => hapart ⟨ha.trans hb.symm, ?_⟩⟩
  rw [ha]
  exact Option.some_ne_none _

/-! ## writes -/

section
variable {s t : ChannelDb} {reshaped : Option Uuid}

/-- A write to none of the columns that matter here. -/
structure Plain (s t : ChannelDb) : Prop where
  integrations : t.integrations.map (fun r => (r.provider, r.id, r.organizationId)) =
    s.integrations.map fun r => (r.provider, r.id, r.organizationId)
  channels : t.alertChannels.map (fun r => (r.id, r.organizationId, r.type, r.config)) =
    s.alertChannels.map fun r => (r.id, r.organizationId, r.type, r.config)

theorem Plain.outlast (h : Plain s t) : Outlast s t := by
  intro r hr
  have hmem := List.mem_map_of_mem (f := fun r => (r.provider, r.id, r.organizationId)) hr
  rw [← h.integrations, List.mem_map] at hmem
  obtain ⟨r', hr', heq⟩ := hmem
  simp only [Prod.mk.injEq] at heq
  exact ⟨r', hr', heq⟩

theorem Plain.guarantee (h : Plain s t) : Guarantee reshaped s t := by
  refine ⟨h.outlast, fun r hr => ?_⟩
  have hmem := List.mem_map_of_mem (f := fun r => (r.id, r.organizationId, r.type, r.config)) hr
  rw [← h.channels, List.mem_map] at hmem
  obtain ⟨r', hr', heq⟩ := hmem
  simp only [Prod.mk.injEq] at heq
  exact ⟨r', hr', heq.1, heq.2.1, fun _ => heq.2.2⟩

theorem Plain.deliverable (h : Plain s t) (hs : s.Deliverable) : t.Deliverable := by
  refine ⟨?_, ?_, fun r hr => ?_⟩
  · have hkeys := congrArg (List.map fun k => (k.1, k.2.1)) h.integrations
    simp only [List.map_map] at hkeys
    exact hkeys.symm ▸ hs.integrations
  · have hids := congrArg (List.map fun k => k.1) h.channels
    simp only [List.map_map] at hids
    exact hids.symm ▸ hs.channels
  · have hmem := List.mem_map_of_mem (f := fun r => (r.id, r.organizationId, r.type, r.config)) hr
    rw [h.channels, List.mem_map] at hmem
    obtain ⟨r', hr', heq⟩ := hmem
    simp only [Prod.mk.injEq] at heq
    obtain ⟨-, horg, htype, hconfig⟩ := heq
    rw [← horg, ← htype, ← hconfig]
    exact (hs.fits r' hr').outlast h.outlast

theorem plain_updateChannel {id : Uuid} {f : ChannelRow → ChannelRow}
    (hf : ∀ r, ((f r).id, (f r).organizationId, (f r).type, (f r).config) =
      (r.id, r.organizationId, r.type, r.config)) : Plain s (s.updateChannel id f) :=
  ⟨rfl, map_id_updateWhere hf⟩

theorem plain_updateIntegration {p : Provider} {id : Uuid} {f : IntegrationRow → IntegrationRow}
    (hf : ∀ r, ((f r).provider, (f r).id, (f r).organizationId) =
      (r.provider, r.id, r.organizationId)) : Plain s (s.updateIntegration p id f) :=
  ⟨map_id_updateWhere hf, rfl⟩

theorem plain_removeChannel {org : OrganizationId} {id : Uuid} {now : Instant} :
    Plain s (s.removeChannel org id now) := by
  refine ⟨rfl, map_id_updateWhere ?_⟩
  exact fun _ => rfl

theorem addIntegration_guarantee (row : IntegrationRow) :
    Guarantee reshaped s (s.addIntegration row) :=
  ⟨fun r hr => ⟨r, List.mem_append_left _ hr, rfl, rfl, rfl⟩,
    fun r hr => ⟨r, hr, rfl, rfl, fun _ => ⟨rfl, rfl⟩⟩⟩

/-- A new integration comes under an id its table does not have. -/
theorem addIntegration_deliverable {row : IntegrationRow}
    (hfresh : (s.integrations.any fun r => r.provider = row.provider && r.id = row.id) = false)
    (hs : s.Deliverable) : (s.addIntegration row).Deliverable := by
  have houtlast : Outlast s (s.addIntegration row) :=
    fun r hr => ⟨r, List.mem_append_left _ hr, rfl, rfl, rfl⟩
  refine ⟨?_, hs.channels, fun r hr => (hs.fits r hr).outlast houtlast⟩
  rw [ChannelDb.addIntegration, List.map_append, List.nodup_append]
  refine ⟨hs.integrations, by simp, ?_⟩
  intro a ha b hb
  obtain ⟨r, hr, rfl⟩ := List.mem_map.1 ha
  simp only [List.map_cons, List.map_nil, List.mem_singleton] at hb
  rintro rfl
  simp only [Prod.mk.injEq] at hb
  have hany := List.any_eq_false.1 hfresh r hr
  simp [hb.1, hb.2] at hany

theorem addChannel_guarantee (row : ChannelRow) : Guarantee reshaped s (s.addChannel row) :=
  ⟨.refl s, fun r hr => ⟨r, List.mem_append_left _ hr, rfl, rfl, fun _ => ⟨rfl, rfl⟩⟩⟩

/-- A new channel comes with a config that fits its type. -/
theorem addChannel_deliverable {row : ChannelRow}
    (hfresh : s.alertChannels.any (·.id = row.id) = false)
    (hfits : s.Fits row.organizationId row.type row.config) (hs : s.Deliverable) :
    (s.addChannel row).Deliverable := by
  refine ⟨hs.integrations, ?_, List.forall_mem_append.2 ⟨hs.fits, ?_⟩⟩
  · rw [ChannelDb.addChannel, List.map_append, List.nodup_append]
    refine ⟨hs.channels, by simp, ?_⟩
    intro a ha b hb
    obtain ⟨r, hr, rfl⟩ := List.mem_map.1 ha
    simp only [List.map_cons, List.map_nil, List.mem_singleton] at hb
    rintro rfl
    have hany := List.any_eq_false.1 hfresh r hr
    simp [hb] at hany
  · intro r hr
    obtain rfl := List.mem_singleton.1 hr
    exact hfits

/-- A channel gets a type and a config that fit each other. -/
theorem reshape_channel {id : Uuid} {input : UpdateAlertChannel} {now : Instant}
    (hfits : ∀ r ∈ s.alertChannels, r.id = id →
      s.Fits r.organizationId (input.type.getD r.type) (input.config.getD r.config))
    (hs : s.Deliverable) :
    (s.updateChannel id (·.edited input now)).Deliverable ∧
      Guarantee (some id) s (s.updateChannel id (·.edited input now)) := by
  refine ⟨⟨hs.integrations, ?_, fun r hr => ?_⟩, .refl s, fun r hr => ?_⟩
  · rw [ChannelDb.updateChannel, map_id_updateWhere]
    · exact hs.channels
    · exact fun _ => rfl
  · obtain ⟨old, hold, hid, rfl⟩ | ⟨hold, -⟩ := mem_updateWhere.1 hr
    · exact hfits old hold (of_decide_eq_true hid)
    · exact hs.fits r hold
  · by_cases hid : r.id = id
    · refine ⟨r.edited input now, ?_, rfl, rfl, fun hne => absurd (by rw [hid]) hne⟩
      exact mem_updateWhere.2 (.inl ⟨r, hr, decide_eq_true hid, rfl⟩)
    · exact ⟨r, mem_updateWhere.2 (.inr ⟨hr, decide_eq_false hid⟩), rfl, rfl, fun _ => ⟨rfl, rfl⟩⟩

end

/-! ## requests -/

/-- A handler that keeps the channels deliverable while the others leave alone what it
reshapes. -/
abbrev Steady {α : Type} (reshaped : Option Uuid) (x : Served α) (db : ChannelDb) : Prop :=
  x.Sound ChannelDb.Deliverable (Rely reshaped) (Guarantee reshaped) db

section
variable {reshaped : Option Uuid} {c : Caller} {s : ChannelDb} {α β : Type}

theorem steady_read {g : ChannelDb → α} {f : α → Served β}
    (h : ∀ t, Rely reshaped s t → t.Deliverable → Steady reshaped (f (g t)) t) :
    Steady reshaped (.read g >>= f) s :=
  Handler.Sound.read_bind (Guarantee.refl reshaped) h

theorem steady_plain {op : ChannelDb → ChannelDb} {f : Unit → Served β}
    (hop : ∀ db, Plain db (op db)) (hf : ∀ t, Steady reshaped (f ()) t) :
    Steady reshaped (.write op >>= f) s :=
  Handler.Sound.write_bind fun t _ ht =>
    ⟨(hop t).deliverable ht, (hop t).guarantee, hf _⟩

theorem steady_log {action : String} {id : Uuid} {f : Unit → Served β}
    (hf : ∀ t, Steady reshaped (f ()) t) : Steady reshaped (c.log action id >>= f) s := by
  refine steady_plain (fun db => ?_) hf
  split
  · exact ⟨rfl, rfl⟩
  · exact ⟨rfl, rfl⟩

theorem steady_loadDetail {id : Uuid} {f : Option AlertChannelDetail → Served β}
    (hf : ∀ detail t, Steady reshaped (f detail) t) :
    Steady reshaped (loadDetail c.organizationId id >>= f) s := steady_read fun t _ _ => hf _ t

/-- The gate reads, and raises or not. -/
theorem steady_assertGate {org : OrganizationId} {type : AlertChannelType} {f : Unit → Served β}
    (hs : s.Deliverable)
    (hf : ∀ t, Rely reshaped s t → t.Deliverable → Steady reshaped (f ()) t) :
    Steady reshaped (assertGate org type >>= f) s := by
  unfold assertGate
  split
  · exact hf s (.refl _ s) hs
  · rw [assertCapability, Handler.bind_assoc]
    refine steady_read fun t hst ht => ?_
    rw [Handler.onlyIf_bind]
    split
    · exact .raise _
    · exact hf t hst ht

/-- What has been validated fits. -/
theorem steady_assertValidConfig {org : OrganizationId} {type : AlertChannelType} {config : Json}
    {f : Unit → Served β} (hs : s.Deliverable)
    (hf : ∀ t, Rely reshaped s t → t.Deliverable → t.Fits org type config →
      Steady reshaped (f ()) t) :
    Steady reshaped (assertValidConfig org type config >>= f) s := by
  unfold assertValidConfig
  split
  · next hnone =>
    exact hf s (.refl _ s) hs fun p hp => absurd (hnone.symm.trans hp) (by simp)
  · next p hsome =>
    rw [Handler.bind_assoc]
    refine steady_read fun t hst ht => ?_
    cases hresolve : p.resolve t org config with
    | error message => exact .raise _
    | ok credential =>
        refine hf t hst ht fun q hq => ?_
        obtain rfl := Option.some.inj (hsome.symm.trans hq)
        rw [Provider.resolve_eq, resolveIntegration] at hresolve
        cases htext : parseSlackChannelConfig config with
        | error message => simp [htext] at hresolve
        | ok text =>
            simp only [htext] at hresolve
            cases hfound : t.findIntegration p org (Uuid.read text) with
            | none => simp [hfound] at hresolve
            | some row =>
                obtain ⟨hmem, hp, hid, horg, -⟩ := findIntegration_some hfound
                exact ⟨text, htext, row, hmem, hp, hid, horg⟩

theorem steady_createIntegration (p : Provider) (id : Uuid) (input : CreateIntegration) :
    Steady reshaped (createIntegration c p id input) s := by
  refine Handler.Sound.statement_bind fun t _ ht => ?_
  split
  · exact ⟨ht, .refl _ t, fun _ h => by cases h⟩
  · next hfresh =>
    exact ⟨addIntegration_deliverable (Bool.eq_false_iff.2 hfresh) ht, addIntegration_guarantee _,
      fun _ _ => steady_log fun _ => .pure _⟩

theorem steady_updateIntegration (p : Provider) (id : Uuid) (input : IntegrationInput) :
    Steady reshaped (updateIntegration c p id input) s := by
  refine steady_read fun t _ ht => ?_
  split
  · exact .pure _
  · refine Handler.Sound.statement_bind fun u _ hu => ?_
    have hplain : Plain u (u.updateIntegration p id (·.edited input c.now)) :=
      plain_updateIntegration fun _ => rfl
    exact ⟨hplain.deliverable hu, hplain.guarantee, fun _ _ => steady_log fun _ => .pure _⟩

theorem steady_removeIntegration (p : Provider) (id : Uuid) :
    Steady reshaped (removeIntegration c p id) s := by
  refine steady_read fun t _ ht => ?_
  split
  · exact .pure _
  · exact steady_plain (fun _ => plain_updateIntegration fun _ => rfl) fun _ =>
      steady_log fun _ => .pure _

theorem steady_createChannel (hs : s.Deliverable) (id : Uuid) (input : CreateAlertChannel) :
    Steady reshaped (createChannel c id input) s := by
  refine steady_assertGate hs fun t _ ht => ?_
  refine steady_assertValidConfig ht fun u _ hu hfits => ?_
  refine Handler.Sound.statement_bind fun v huv hv => ?_
  split
  · exact ⟨hv, .refl _ v, fun _ h => by cases h⟩
  · next hfresh =>
    exact ⟨addChannel_deliverable (Bool.eq_false_iff.2 hfresh) (hfits.outlast huv.1) hv,
      addChannel_guarantee _, fun _ _ => steady_log fun _ => .pure _⟩

/-- The channel as it was read is the channel that is written, up to the columns that others may
write. -/
theorem Rely.channel {t : ChannelDb} {id : Uuid} {existing r : ChannelRow}
    (hst : Rely (some id) s t) (ht : t.Deliverable)
    (hfound : s.findChannel c.organizationId id = some existing) (hr : r ∈ t.alertChannels)
    (hid : r.id = id) :
    r.organizationId = c.organizationId ∧ r.type = existing.type ∧ r.config = existing.config := by
  obtain ⟨hmem, hexisting, horg, -⟩ := findChannel_some hfound
  obtain ⟨r', hr', hid', horg', hshape⟩ := hst.2 existing hmem
  obtain rfl : r' = r := eq_of_id_eq ht.channels hr' hr (by rw [hid', hexisting, hid])
  obtain ⟨htype, hconfig⟩ := hshape (by rw [hexisting])
  exact ⟨horg'.trans horg, htype, hconfig⟩

theorem steady_updateChannel (id : Uuid) (input : UpdateAlertChannel) :
    Steady (Request.updateChannel id input).reshapes (updateChannel c id input) s := by
  refine steady_read fun t _ ht => ?_
  cases hfound : t.findChannel c.organizationId id with
  | none => exact .pure _
  | some existing =>
      have hend : ∀ db, Steady (Request.updateChannel id input).reshapes (do
          c.log "alert_channel.updated" id
          return Answer.channel (← loadDetail c.organizationId id)) db :=
        fun db => steady_log fun _ => steady_loadDetail fun _ _ => .pure _
      dsimp only
      rw [Handler.onlyIf_bind]
      by_cases hreshapes : (input.type.isSome || input.config.isSome) = true
      · -- the type and the config it has read are those it will write over
        have hsome : (Request.updateChannel id input).reshapes = some id := if_pos hreshapes
        rw [hsome] at hend ⊢
        have hrest : ∀ u, Rely (some id) t u → u.Deliverable → Steady (some id) (do
            Handler.onlyIf (input.type.isSome || input.config.isSome)
              (assertValidConfig c.organizationId (input.type.getD existing.type)
                (input.config.getD existing.config))
            Handler.write fun db => db.updateChannel id (·.edited input c.now)
            c.log "alert_channel.updated" id
            return Answer.channel (← loadDetail c.organizationId id)) u := by
          intro u htu hu
          rw [Handler.onlyIf_bind, if_pos hreshapes]
          refine steady_assertValidConfig hu fun v huv hv hfits => ?_
          refine Handler.Sound.write_bind fun w hvw hw => ?_
          have htw := (htu.trans huv).trans hvw
          have hnew : ∀ r ∈ w.alertChannels, r.id = id → w.Fits r.organizationId
              (input.type.getD r.type) (input.config.getD r.config) := by
            intro r hr hid
            obtain ⟨horg, htype, hconfig⟩ := htw.channel hw hfound hr hid
            rw [horg, htype, hconfig]
            exact hfits.outlast hvw.1
          exact ⟨(reshape_channel hnew hw).1, (reshape_channel hnew hw).2, hend _⟩
        split
        · exact steady_assertGate ht hrest
        · exact hrest t (.refl _ t) ht
      · -- a new name leaves them as they are
        obtain ⟨htype, hconfig⟩ : input.type = none ∧ input.config = none := by
          simpa using hreshapes
        rw [if_neg (by simp [htype]), Handler.onlyIf_bind, if_neg hreshapes]
        exact steady_plain (fun _ => plain_updateChannel fun r => by
          simp [ChannelRow.edited, htype, hconfig]) hend

theorem steady_setEnabled (enabled : Bool) (action : String) (id : Uuid) :
    Steady reshaped (setEnabled c enabled action id) s := by
  refine steady_read fun t _ ht => ?_
  split
  · exact .pure _
  · have hend : ∀ db, Steady reshaped (do
        return Answer.channel (← loadDetail c.organizationId id)) db :=
      fun _ => steady_loadDetail fun _ _ => .pure _
    rw [Handler.onlyIf_bind]
    split
    · rw [Handler.bind_assoc]
      exact steady_plain (fun _ => plain_updateChannel fun _ => rfl) fun _ => steady_log hend
    · exact hend t

theorem steady_removeChannel (id : Uuid) : Steady reshaped (removeChannel c id) s := by
  refine Handler.Sound.statement_bind fun t _ ht =>
    ⟨plain_removeChannel.deliverable ht, plain_removeChannel.guarantee, fun found _ => ?_⟩
  split
  · exact .pure _
  · exact steady_log fun _ => .pure _

theorem steady_testChannel (id : Uuid) (reply : DeliveryResult) (answeredAt : Instant) :
    Steady reshaped (testChannel c id reply answeredAt) s := by
  refine steady_read fun t _ ht => ?_
  split
  · exact .pure _
  · split
    · exact .raise _
    · refine steady_read fun u _ hu => ?_
      split
      · exact .raise _
      · refine steady_plain (fun _ => ⟨rfl, rfl⟩) fun v => ?_
        rw [Handler.onlyIf_bind]
        split
        · exact .raise _
        · exact steady_plain (fun _ => plain_updateChannel fun _ => rfl) fun _ =>
            steady_log fun _ => .pure _

/-- Every request keeps the channels deliverable, while the others leave alone what it
reshapes. -/
theorem steady_serve (lossy : List UInt8 → List Char) (legacy : List Char → Option Instant)
    (hs : s.Deliverable) (request : Request) :
    Steady request.reshapes (serve lossy legacy c request) s := by
  cases request with
  | listIntegrations p query =>
      exact Handler.Sound.ofExcept_bind fun after _ => steady_read fun t _ _ => .pure _
  | getIntegration p id => exact steady_read fun t _ _ => .pure _
  | createIntegration p id input => exact steady_createIntegration p id input
  | updateIntegration p id input => exact steady_updateIntegration p id input
  | removeIntegration p id => exact steady_removeIntegration p id
  | listChannels type query =>
      exact Handler.Sound.ofExcept_bind fun after _ => steady_read fun t _ _ => .pure _
  | getChannel id => exact steady_loadDetail fun _ _ => .pure _
  | createChannel id input => exact steady_createChannel hs id input
  | updateChannel id input => exact steady_updateChannel id input
  | enableChannel id => exact steady_setEnabled true _ id
  | disableChannel id => exact steady_setEnabled false _ id
  | removeChannel id => exact steady_removeChannel id
  | testChannel id reply answeredAt => exact steady_testChannel id reply answeredAt

end

/-! ## runs -/

/-- Two requests in flight at once do not reshape one channel. -/
abbrev NoClash {ι : Type} (requests : ι → Caller × Request)
    (p : Pool ι ChannelDb ServiceError Answer) (i : ι) : Prop :=
  p.Apart (fun i j => Clash (requests i).2 (requests j).2) i

theorem deliverable_run (lossy : List UInt8 → List Char) (legacy : List Char → Option Instant)
    {ι : Type} [DecidableEq ι] {store : ChannelDb} {requests : ι → Caller × Request}
    {turns : List ι} (hstore : store.Deliverable)
    (hapart : Runs.Along Pool.turn (NoClash requests) (service lossy legacy store requests) turns) :
    (Runs.run Pool.turn (service lossy legacy store requests) turns).store.Deliverable := by
  have hsound : (service lossy legacy store requests).Sound ChannelDb.Deliverable
      (fun i => Rely (requests i).2.reshapes) (fun i => Guarantee (requests i).2.reshapes) := by
    refine ⟨hstore, fun i _ s hs => steady_serve lossy legacy hs _, fun i hi => ?_⟩
    simp [service] at hi
  exact (hsound.run (fun i => Rely.refl _) (fun i s t u => Rely.trans)
    (fun j i s t _ hclash hguar => hguar.rely hclash) hapart).store

/-- The one row a look-up by provider, organization and id can find, unless it is removed. -/
theorem ChannelDb.Deliverable.findIntegration {db : ChannelDb} (h : db.Deliverable)
    {row : IntegrationRow} (hrow : row ∈ db.integrations) :
    db.findIntegration row.provider row.organizationId (some row.id) =
      if row.deletedAt = none then some row else none := by
  cases hfound : db.findIntegration row.provider row.organizationId (some row.id) with
  | some r =>
      obtain ⟨hr, hp, hid, -, hdeleted⟩ := findIntegration_some hfound
      obtain rfl := eq_of_id_eq h.integrations hr hrow
        (Prod.ext hp (Option.some.inj hid))
      rw [if_pos hdeleted]
  | none =>
      have hnot := List.find?_eq_none.1 hfound row hrow
      rw [if_neg]
      intro hdeleted
      simp [hdeleted] at hnot

/-- A Slack integration and a channel of one organization. -/
def saved (type : AlertChannelType) (config : Json) : ChannelDb :=
  { noChannels with
    integrations := [{ provider := .slack, id := slackId, organizationId := "acme", name := "ops"
                       credential := .webhookUrl "https://hooks.slack.com/a", createdAt := 0
                       updatedAt := 0 }]
    alertChannels := [{ id := opsId, organizationId := "acme", type, name := "ops", config
                        createdAt := 0, updatedAt := 0 }] }

/-- The integration is removed while the channel gets a new name. -/
def removing : Bool → Caller × Request
  | false => ({ organizationId := "acme", now := 1 }, .removeIntegration .slack slackId)
  | true => ({ organizationId := "acme", now := 2 },
      .updateChannel opsId { name := some "on-call" })

/-- The channel becomes a Slack channel while another request, which read it when it was an email
channel, empties its config. -/
def clashing : Bool → Caller × Request
  | false => ({ organizationId := "acme", now := 1 },
      .updateChannel opsId { config := some (.obj []) })
  | true => ({ organizationId := "acme", now := 2 },
      .updateChannel opsId { type := some .slack, config := some (configOf slackId) })

/-- Both requests are answered as if all were well, and the channel never delivers. -/
theorem not_deliverable_clash :
    ¬ (Runs.run Pool.turn (service (fun _ => []) (fun _ => none) (saved .email (.obj [])) clashing)
      [false, true, true, true, false]).store.Deliverable := by
  intro h
  have hfits := h.fits
    { id := opsId, organizationId := "acme", type := .slack, name := "ops", config := .obj []
      createdAt := 0, updatedAt := 1 } (List.mem_singleton.2 rfl) .slack rfl
  obtain ⟨text, htext, -⟩ := hfits
  cases htext

end UptimeFlow.Alerting
