import Mathlib.Data.List.Dedup
import Mathlib.Data.String.Basic
import UptimeFlow.Attempts
import UptimeFlow.Monitoring.Dispatch

/-!
# UptimeFlow.Monitoring.Replays

An integration fan-out that fails and is replayed.

For each target the row comes first and the job second, and a row that cannot
be created counts as one that is there.  So a target whose insert failed looks
handled (`Unsent`), and a target whose job was not taken looks handled to every
replay (`Stuck`): `fanOut_replayed_iff` — the replayed fan-out reaches every
target exactly once if and only if the first run failed nowhere.
-/

namespace UptimeFlow.Monitoring

open Tables

/-! ## one target -/

abbrev Target := IntegrationType × String

def dedupeKey (dedupeBase : String) (target : Target) : String :=
  dedupeBase ++ ":" ++ target.1.label ++ ":" ++ target.2

/-- The rows of the event for a target. -/
def Db.rowsOf (db : Db) (dedupeBase : String) (target : Target) : List IntegrationDelivery :=
  db.integrationDeliveries.filter (·.dedupeKey = some (dedupeKey dedupeBase target))

/-- The jobs of a delivery row. -/
def Db.jobsOf (db : Db) (id : DeliveryId) : List IntegrationJobData :=
  db.integrationQueue.filter (·.deliveryId = id)

/-- One row for the target, and one job for the row. -/
def SentOnce (db : Db) (dedupeBase : String) (target : Target) : Prop :=
  ∃ row, db.rowsOf dedupeBase target = [row] ∧ (db.jobsOf row.id).length = 1

/-- No row for the target. -/
def Unsent (db : Db) (dedupeBase : String) (target : Target) : Prop :=
  db.rowsOf dedupeBase target = []

/-- A row for the target, and no job for it. -/
def Stuck (db : Db) (dedupeBase : String) (target : Target) : Prop :=
  db.rowsOf dedupeBase target ≠ [] ∧ ∀ row ∈ db.rowsOf dedupeBase target, db.jobsOf row.id = []

/-- Every job is of a recorded delivery. -/
def JobsKnown (db : Db) : Prop :=
  ∀ j ∈ db.integrationQueue, ∃ row ∈ db.integrationDeliveries, row.id = j.deliveryId

theorem not_sentOnce_of_unsent {db : Db} {base : String} {target : Target}
    (h : Unsent db base target) : ¬ SentOnce db base target := by
  rintro ⟨row, hrow, -⟩
  rw [Unsent, hrow] at h
  cases h

theorem not_sentOnce_of_stuck {db : Db} {base : String} {target : Target}
    (h : Stuck db base target) : ¬ SentOnce db base target := by
  rintro ⟨row, hrow, hjobs⟩
  have hnone := h.2 row (by simp [hrow])
  simp [hnone] at hjobs

/-! ## the keys -/

/-- A label is told from the next by its first letter. -/
theorem label_append_injective {a b : IntegrationType} {s t : List Char}
    (h : a.label.toList ++ s = b.label.toList ++ t) : a = b ∧ s = t := by
  cases a <;> cases b <;> simp_all [IntegrationType.label]

/-- Different targets have different keys. -/
theorem dedupeKey_injective (dedupeBase : String) :
    Function.Injective (dedupeKey dedupeBase) := by
  rintro ⟨a, i⟩ ⟨b, j⟩ h
  have hchars := congrArg String.toList h
  simp only [dedupeKey, String.toList_append, List.append_assoc, List.append_cancel_left_eq]
    at hchars
  obtain ⟨rfl, hrest⟩ := label_append_injective hchars
  rw [List.append_cancel_left_eq, String.toList_inj] at hrest
  rw [hrest]

/-! ## one target of a run -/

section
variable (organizationId : OrganizationId) (eventName dedupeBase : String)
  (event : IntegrationEvent)

/-- The row of a target. -/
def Db.addRow (db : Db) (target : Target) : Db :=
  { db with
    integrationDeliveries := db.integrationDeliveries ++
      [{ id := freshId IntegrationDelivery.id db.integrationDeliveries, organizationId
         integrationType := target.1, integrationId := target.2, event := eventName
         dedupeKey := some (dedupeKey dedupeBase target) }] }

/-- The job of the row that is about to be added. -/
def Db.addJob (db : Db) (target : Target) (deliveryId : DeliveryId) : Db :=
  { db with
    integrationQueue := db.integrationQueue ++
      [{ deliveryId, integrationType := target.1, integrationId := target.2, organizationId
         event }] }

/-- A row with the target's key is there. -/
def Db.keyTaken (db : Db) (target : Target) : Bool :=
  taken IntegrationDelivery.dedupeKey (some (dedupeKey dedupeBase target)) db.integrationDeliveries

variable (faults : Faults) (db : Db) (target : Target) (rest : List Target)

/-- A target whose row is not created is skipped. -/
theorem fanOutEach_skip
    (h : faults (.integrationDelivery target) = true ∨ db.keyTaken dedupeBase target = true) :
    (fanOutEach faults organizationId eventName dedupeBase event (target :: rest)).run db =
      (fanOutEach faults organizationId eventName dedupeBase event rest).run db := by
  have hnone : ∀ g : Option DeliveryId → Pipe Nat, ((Eff.rescue (some <$> createIntegrationDelivery
      faults organizationId eventName dedupeBase target) fun _ => pure none) >>= g).run db =
      (g none).run db := by
    intro g
    refine Eff.bind_run_of_ok ?_ g
    rw [Eff.rescue_run, Eff.map_run, createIntegrationDelivery, Eff.statement_run]
    obtain hfault | htaken := h
    · simp [hfault]
    · cases faults (.integrationDelivery target) with
      | true => simp
      | false =>
          rw [Db.keyTaken, dedupeKey] at htaken
          simp [htaken]
  rw [fanOutEach, hnone]

/-- A target whose row is created has its job added, or the run ends there. -/
theorem fanOutEach_create (hrow : faults (.integrationDelivery target) = false)
    (hfree : db.keyTaken dedupeBase target = false) :
    (fanOutEach faults organizationId eventName dedupeBase event (target :: rest)).run db =
      if faults (.integrationJob target) then
        (.error .unavailable, db.addRow organizationId eventName dedupeBase target)
      else
        ((· + 1) <$> fanOutEach faults organizationId eventName dedupeBase event rest).run
          ((db.addRow organizationId eventName dedupeBase target).addJob organizationId event target
            (freshId IntegrationDelivery.id db.integrationDeliveries)) := by
  have hcreate : (Eff.rescue (some <$> createIntegrationDelivery faults organizationId eventName
      dedupeBase target) fun _ => pure none).run db =
      (.ok (some (freshId IntegrationDelivery.id db.integrationDeliveries)),
        db.addRow organizationId eventName dedupeBase target) := by
    rw [Db.keyTaken, dedupeKey] at hfree
    simp [Eff.rescue_run, Eff.map_run, createIntegrationDelivery, hrow, hfree, Db.addRow, dedupeKey]
  rw [fanOutEach, Eff.bind_run_of_ok hcreate]
  cases hjob : faults (.integrationJob target) with
  | true => simp [Faults.write, Eff.bind_run, hjob]
  | false => simp [Faults.write, Eff.bind_run, Eff.map_run, hjob, Db.addJob]

end

/-! ## what one target leaves of another -/

section
variable {organizationId : OrganizationId} {eventName dedupeBase : String}
  {event : IntegrationEvent} {faults : Faults} {db : Db} {target other : Target}

theorem keyTaken_iff : db.keyTaken dedupeBase target = true ↔ db.rowsOf dedupeBase target ≠ [] := by
  rw [Db.keyTaken, taken_iff, Db.rowsOf, Ne, Ne, List.filter_eq_nil_iff]
  simp

variable (organizationId eventName dedupeBase db target) in
theorem rowsOf_addRow_self :
    (db.addRow organizationId eventName dedupeBase target).rowsOf dedupeBase target =
      db.rowsOf dedupeBase target ++
        [{ id := freshId IntegrationDelivery.id db.integrationDeliveries, organizationId
           integrationType := target.1, integrationId := target.2, event := eventName
           dedupeKey := some (dedupeKey dedupeBase target) }] := by
  simp [Db.rowsOf, Db.addRow]

variable (organizationId eventName) in
theorem rowsOf_addRow_of_ne (h : target ≠ other) :
    (db.addRow organizationId eventName dedupeBase target).rowsOf dedupeBase other =
      db.rowsOf dedupeBase other := by
  have hkey : dedupeKey dedupeBase target ≠ dedupeKey dedupeBase other :=
    (dedupeKey_injective dedupeBase).ne h
  simp [Db.rowsOf, Db.addRow, hkey]

theorem jobsOf_addJob_of_ne {id deliveryId : DeliveryId} (h : deliveryId ≠ id) :
    (db.addJob organizationId event target deliveryId).jobsOf id = db.jobsOf id := by
  simp [Db.jobsOf, Db.addJob, h]

/-- A fresh row has no job. -/
theorem jobsOf_freshId (h : JobsKnown db) :
    db.jobsOf (freshId IntegrationDelivery.id db.integrationDeliveries) = [] := by
  rw [Db.jobsOf, List.filter_eq_nil_iff]
  intro j hj hfresh
  obtain ⟨row, hrow, hid⟩ := h j hj
  rw [decide_eq_true_eq] at hfresh
  exact ne_freshId IntegrationDelivery.id hrow (hid.trans hfresh)

theorem JobsKnown.addRow (h : JobsKnown db) :
    JobsKnown (db.addRow organizationId eventName dedupeBase target) := by
  intro j hj
  obtain ⟨row, hrow, hid⟩ := h j hj
  exact ⟨row, List.mem_append_left _ hrow, hid⟩

theorem JobsKnown.create (h : JobsKnown db) :
    JobsKnown ((db.addRow organizationId eventName dedupeBase target).addJob organizationId event
      target (freshId IntegrationDelivery.id db.integrationDeliveries)) := by
  intro j hj
  obtain hj | hj := List.mem_append.1 hj
  · exact h.addRow j hj
  · rw [List.mem_singleton.1 hj]
    exact ⟨_, List.mem_append_right _ (List.mem_singleton.2 rfl), rfl⟩

variable (organizationId eventName event faults) in
/-- **A target that has a row keeps its rows and their jobs**, whatever a run goes over and
wherever it fails. -/
theorem fanOutEach_handled (targets : List Target) (h : db.rowsOf dedupeBase other ≠ []) :
    let db' := ((fanOutEach faults organizationId eventName dedupeBase event targets).run db).2
    db'.rowsOf dedupeBase other = db.rowsOf dedupeBase other ∧
      ∀ row ∈ db.rowsOf dedupeBase other, db'.jobsOf row.id = db.jobsOf row.id := by
  induction targets generalizing db with
  | nil => exact ⟨rfl, fun _ _ => rfl⟩
  | cons t rest ih =>
      by_cases hskip : faults (.integrationDelivery t) = true ∨ db.keyTaken dedupeBase t = true
      · rw [fanOutEach_skip organizationId eventName dedupeBase event faults db t rest hskip]
        exact ih h
      · rw [not_or, Bool.not_eq_true, Bool.not_eq_true] at hskip
        have hne : t ≠ other := by
          rintro rfl
          have htaken := keyTaken_iff.2 h
          rw [hskip.2] at htaken
          cases htaken
        rw [fanOutEach_create organizationId eventName dedupeBase event faults db t rest hskip.1
          hskip.2]
        have hrows : (db.addRow organizationId eventName dedupeBase t).rowsOf dedupeBase other =
            db.rowsOf dedupeBase other := rowsOf_addRow_of_ne organizationId eventName hne
        split
        · exact ⟨hrows, fun _ _ => rfl⟩
        · rw [Eff.map_run_snd]
          have hcreated : ((db.addRow organizationId eventName dedupeBase t).addJob organizationId event
              t (freshId IntegrationDelivery.id db.integrationDeliveries)).rowsOf dedupeBase other ≠
                [] := by
            rw [← hrows] at h
            exact h
          obtain ⟨hrest, hjobs⟩ := ih hcreated
          refine ⟨hrest.trans hrows, fun row hrow => ?_⟩
          refine (hjobs row (by rw [← hrows] at hrow; exact hrow)).trans ?_
          have hmem : row ∈ db.integrationDeliveries := (List.mem_filter.1 hrow).1
          exact jobsOf_addJob_of_ne (ne_freshId IntegrationDelivery.id hmem).symm

variable (organizationId eventName event faults) in
/-- A target the run does not go over is not given a row. -/
theorem fanOutEach_unsent {targets : List Target} (hother : other ∉ targets)
    (h : Unsent db dedupeBase other) :
    Unsent ((fanOutEach faults organizationId eventName dedupeBase event targets).run db).2
      dedupeBase other := by
  induction targets generalizing db with
  | nil => exact h
  | cons t rest ih =>
      rw [List.mem_cons, not_or] at hother
      by_cases hskip : faults (.integrationDelivery t) = true ∨ db.keyTaken dedupeBase t = true
      · rw [fanOutEach_skip organizationId eventName dedupeBase event faults db t rest hskip]
        exact ih hother.2 h
      · rw [not_or, Bool.not_eq_true, Bool.not_eq_true] at hskip
        have hrows : (db.addRow organizationId eventName dedupeBase t).rowsOf dedupeBase other =
            db.rowsOf dedupeBase other := rowsOf_addRow_of_ne organizationId eventName
              (Ne.symm hother.1)
        rw [fanOutEach_create organizationId eventName dedupeBase event faults db t rest hskip.1
          hskip.2]
        split
        · exact hrows.trans h
        · rw [Eff.map_run_snd]
          exact ih hother.2 (hrows.trans h)

variable (organizationId eventName event faults) in
theorem fanOutEach_sentOnce (targets : List Target) (h : SentOnce db dedupeBase other) :
    SentOnce ((fanOutEach faults organizationId eventName dedupeBase event targets).run db).2
      dedupeBase other := by
  obtain ⟨row, hrow, hjobs⟩ := h
  have hhandled : db.rowsOf dedupeBase other ≠ [] := by simp [hrow]
  obtain ⟨hrows, hkept⟩ :=
    fanOutEach_handled organizationId eventName event faults targets hhandled
  exact ⟨row, hrows.trans hrow, by rw [hkept row (by simp [hrow])]; exact hjobs⟩

variable (organizationId eventName event faults) in
theorem fanOutEach_stuck (targets : List Target) (h : Stuck db dedupeBase other) :
    Stuck ((fanOutEach faults organizationId eventName dedupeBase event targets).run db).2
      dedupeBase other := by
  obtain ⟨hrows, hkept⟩ := fanOutEach_handled organizationId eventName event faults targets h.1
  rw [Stuck, hrows]
  exact ⟨h.1, fun row hrow => (hkept row hrow).trans (h.2 row hrow)⟩

end

/-! ## the first run -/

section
variable {organizationId : OrganizationId} {eventName dedupeBase : String}
  {event : IntegrationEvent} {faults : Faults}

/-- A new row with its job is sent once. -/
theorem sentOnce_create {db : Db} {target : Target} (hunsent : Unsent db dedupeBase target)
    (hknown : JobsKnown db) :
    SentOnce ((db.addRow organizationId eventName dedupeBase target).addJob organizationId event
      target (freshId IntegrationDelivery.id db.integrationDeliveries)) dedupeBase target := by
  have hrows := rowsOf_addRow_self organizationId eventName dedupeBase db target
  rw [hunsent, List.nil_append] at hrows
  refine ⟨_, hrows, ?_⟩
  have hnone := jobsOf_freshId hknown
  have hjobs : ((db.addRow organizationId eventName dedupeBase target).addJob organizationId event
      target (freshId IntegrationDelivery.id db.integrationDeliveries)).jobsOf
        (freshId IntegrationDelivery.id db.integrationDeliveries) =
      db.jobsOf (freshId IntegrationDelivery.id db.integrationDeliveries) ++
        [{ deliveryId := freshId IntegrationDelivery.id db.integrationDeliveries
           integrationType := target.1, integrationId := target.2, organizationId, event }] := by
    simp [Db.jobsOf, Db.addJob, Db.addRow]
  simp [hjobs, hnone]

/-- A new row without its job is stuck. -/
theorem stuck_addRow {db : Db} {target : Target} (hunsent : Unsent db dedupeBase target)
    (hknown : JobsKnown db) :
    Stuck (db.addRow organizationId eventName dedupeBase target) dedupeBase target := by
  have hrows := rowsOf_addRow_self organizationId eventName dedupeBase db target
  rw [hunsent, List.nil_append] at hrows
  rw [Stuck, hrows]
  refine ⟨by simp, fun row hrow => ?_⟩
  rw [List.mem_singleton.1 hrow]
  exact jobsOf_freshId hknown

/-- What the first run over new targets leaves: if it succeeds, each target was sent once or its
insert failed; if it fails, a target is stuck whose job was not taken. -/
theorem fanOutEach_first {targets : List Target} {db db' : Db} {r : Except DbError Nat}
    (hrun : (fanOutEach faults organizationId eventName dedupeBase event targets).run db = (r, db'))
    (hnodup : targets.Nodup) (hunsent : ∀ t ∈ targets, Unsent db dedupeBase t)
    (hknown : JobsKnown db) :
    match r with
    | .ok _ => ∀ t ∈ targets,
        (faults (.integrationDelivery t) = true ∧ Unsent db' dedupeBase t) ∨
          (faults (.integrationDelivery t) = false ∧ faults (.integrationJob t) = false ∧
            SentOnce db' dedupeBase t)
    | .error _ => ∃ t ∈ targets, faults (.integrationJob t) = true ∧ Stuck db' dedupeBase t := by
  induction targets generalizing db db' r with
  | nil =>
      cases hrun
      simp
  | cons t rest ih =>
      rw [List.nodup_cons] at hnodup
      have hnew : Unsent db dedupeBase t := hunsent t List.mem_cons_self
      have hrest : ∀ u ∈ rest, Unsent db dedupeBase u :=
        fun u hu => hunsent u (List.mem_cons_of_mem t hu)
      cases hfault : faults (.integrationDelivery t) with
      | true =>
          rw [fanOutEach_skip organizationId eventName dedupeBase event faults db t rest
            (.inl hfault)] at hrun
          have hnone := fanOutEach_unsent organizationId eventName event faults hnodup.1 hnew
          rw [hrun] at hnone
          have hlater := ih hrun hnodup.2 hrest hknown
          cases r with
          | ok n =>
              intro u hu
              obtain rfl | hu := List.mem_cons.1 hu
              · exact .inl ⟨hfault, hnone⟩
              · exact hlater u hu
          | error e =>
              obtain ⟨u, hu, hjob, hstuck⟩ := hlater
              exact ⟨u, List.mem_cons_of_mem t hu, hjob, hstuck⟩
      | false =>
          have hfree : db.keyTaken dedupeBase t = false := by
            rw [← Bool.not_eq_true, keyTaken_iff, Ne, not_not]
            exact hnew
          rw [fanOutEach_create organizationId eventName dedupeBase event faults db t rest hfault
            hfree] at hrun
          cases hjob : faults (.integrationJob t) with
          | true =>
              rw [if_pos hjob] at hrun
              cases hrun
              exact ⟨t, List.mem_cons_self, hjob, stuck_addRow hnew hknown⟩
          | false =>
              rw [if_neg (by simp [hjob]), Eff.map_run] at hrun
              let created := (db.addRow organizationId eventName dedupeBase t).addJob organizationId
                event t (freshId IntegrationDelivery.id db.integrationDeliveries)
              have hsent : SentOnce created dedupeBase t := sentOnce_create hnew hknown
              have hunsent' : ∀ u ∈ rest, Unsent created dedupeBase u := by
                intro u hu
                have hne : t ≠ u := fun h => hnodup.1 (h ▸ hu)
                exact (rowsOf_addRow_of_ne organizationId eventName hne).trans (hrest u hu)
              have hkept := fanOutEach_sentOnce organizationId eventName event faults rest hsent
              cases hlast : (fanOutEach faults organizationId eventName dedupeBase event rest).run
                  created with
              | mk r' d =>
                  have hlater := ih hlast hnodup.2 hunsent' hknown.create
                  rw [hlast] at hrun hkept
                  cases r' with
                  | ok n =>
                      cases hrun
                      intro u hu
                      obtain rfl | hu := List.mem_cons.1 hu
                      · exact .inr ⟨hfault, hjob, hkept⟩
                      · exact hlater u hu
                  | error e =>
                      cases hrun
                      obtain ⟨u, hu, hjob, hstuck⟩ := hlater
                      exact ⟨u, List.mem_cons_of_mem t hu, hjob, hstuck⟩

end

/-! ## replays -/

/-- One run of a fan-out: the statements that fail in it, and the event as rendered for it. -/
structure Replay where
  faults : Faults := noFaults
  event : IntegrationEvent

/-- The fan-out of one event instance, run again. -/
def fanOutOf (organizationId : OrganizationId) (eventName dedupeBase : String) (r : Replay) :
    Pipe Nat :=
  fanOut r.faults organizationId eventName dedupeBase r.event

theorem fanOutOf_run (organizationId : OrganizationId) (eventName dedupeBase : String) (r : Replay)
    (db : Db) :
    (fanOutOf organizationId eventName dedupeBase r).run db =
      (fanOutEach r.faults organizationId eventName dedupeBase r.event
        (db.targetsFor organizationId)).run db := rfl

/-- The targets are distinct, as the integrations are. -/
theorem targetsFor_nodup {db : Db} (hkeys : (db.integrations.map fun i => (i.type, i.id)).Nodup)
    (organizationId : OrganizationId) : (db.targetsFor organizationId).Nodup := by
  have hmem : ∀ type t, t ∈ db.integrationsOf organizationId type → t.1 = type := by
    intro type t ht
    obtain ⟨i, hi, rfl⟩ := List.mem_map.1 ht
    have hselected := (List.mem_filter.1 hi).2
    simp only [Bool.and_eq_true, decide_eq_true_eq] at hselected
    exact hselected.1.1.1
  rw [Db.targetsFor, List.nodup_flatMap]
  constructor
  · intro type _
    exact (List.filter_sublist.map _).nodup hkeys
  · refine List.Nodup.pairwise_of_forall_ne (by decide) fun a _ b _ hne => ?_
    intro t hta htb
    exact hne ((hmem a t hta).symm.trans (hmem b t htb))

/-- **A fan-out that is replayed until it succeeds sends to every target exactly once, if and only
if in its first run no row and no job of a target failed.** -/
theorem fanOut_replayed_iff {organizationId : OrganizationId} {eventName dedupeBase : String}
    {first : Replay} {replays : List Replay} {db db' : Db} {enqueued : Nat}
    (hkeys : (db.integrations.map fun i => (i.type, i.id)).Nodup) (hknown : JobsKnown db)
    (hnew : ∀ t ∈ db.targetsFor organizationId, Unsent db dedupeBase t)
    (hcompletes : Completes (fanOutOf organizationId eventName dedupeBase) (first :: replays) db
      enqueued db') :
    (∀ t ∈ db.targetsFor organizationId, SentOnce db' dedupeBase t) ↔
      ∀ t ∈ db.targetsFor organizationId, first.faults (.integrationDelivery t) = false ∧
        first.faults (.integrationJob t) = false := by
  have hnodup := targetsFor_nodup hkeys organizationId
  cases hcompletes with
  | done h =>
      rw [fanOutOf_run] at h
      have hfirst := fanOutEach_first h hnodup hnew hknown
      constructor
      · intro hsent t ht
        obtain ⟨-, hunsent⟩ | ⟨hrow, hjob, -⟩ := hfirst t ht
        · exact absurd (hsent t ht) (not_sentOnce_of_unsent hunsent)
        · exact ⟨hrow, hjob⟩
      · intro hspared t ht
        obtain ⟨hfault, -⟩ | ⟨-, -, hsent⟩ := hfirst t ht
        · rw [(hspared t ht).1] at hfault
          cases hfault
        · exact hsent
  | again h hrest =>
      rw [fanOutOf_run] at h
      obtain ⟨t, ht, hjob, hstuck⟩ := fanOutEach_first h hnodup hnew hknown
      -- a stuck target stays stuck in every replay
      have hstuck' : Stuck db' dedupeBase t := by
        refine Completes.inv (I := fun d => Stuck d dedupeBase t) (fun r d hd => ?_) hrest hstuck
        rw [fanOutOf_run]
        exact fanOutEach_stuck organizationId eventName r.event r.faults _ hd
      refine iff_of_false (fun hsent => ?_) fun hspared => ?_
      · exact not_sentOnce_of_stuck hstuck' (hsent t ht)
      · rw [(hspared t ht).2] at hjob
        cases hjob

/-- An organization with one webhook and one Slack integration. -/
def twoIntegrations : Db where
  monitor := { id := "api", organizationId := "acme", name := "api", type := .http }
  integrations := [{ type := .webhook, id := "w1", organizationId := "acme" },
    { type := .slack, id := "s1", organizationId := "acme" }]

def openedEvent : IntegrationEvent where
  event := "incident.opened"
  title := "api is down"
  monitorName := "api"
  status := "DOWN"
  url := "/dashboard/incidents/7"
  timestamp := 0

/-- The queue does not take the job of the Slack delivery. -/
def slackJobFails : Faults
  | .integrationJob (.slack, "s1") => true
  | _ => false

theorem fanOut_replayed_spared :
    let replayed := ((fanOutOf "acme" "incident.opened" "incident:7:opened"
      { event := openedEvent }).run twoIntegrations).2
    SentOnce replayed "incident:7:opened" (.webhook, "w1") ∧
      SentOnce replayed "incident:7:opened" (.slack, "s1") := by
  intro replayed
  have hcompletes : Completes (fanOutOf "acme" "incident.opened" "incident:7:opened")
      [{ event := openedEvent }] twoIntegrations 2 replayed := .done rfl
  have hknown : JobsKnown twoIntegrations := by simp [JobsKnown, twoIntegrations]
  have hsent := (fanOut_replayed_iff (by decide) hknown (fun _ _ => rfl) hcompletes).2
    fun _ _ => ⟨rfl, rfl⟩
  exact ⟨hsent _ (by decide), hsent _ (by decide)⟩

/-- The replay of a fan-out that failed at the Slack job succeeds, and leaves the Slack delivery
without a job. -/
theorem fanOut_replayed_stuck :
    let failed := ((fanOutOf "acme" "incident.opened" "incident:7:opened"
      ⟨slackJobFails, openedEvent⟩).run twoIntegrations).2
    let replayed := ((fanOutOf "acme" "incident.opened" "incident:7:opened"
      { event := openedEvent }).run failed).2
    Completes (fanOutOf "acme" "incident.opened" "incident:7:opened")
        [⟨slackJobFails, openedEvent⟩, { event := openedEvent }] twoIntegrations 1 replayed ∧
      replayed.jobsOf 0 = [] ∧
      (replayed.rowsOf "incident:7:opened" (.slack, "s1")).map (·.id) = [0] ∧
      ¬ SentOnce replayed "incident:7:opened" (.slack, "s1") := by
  intro failed replayed
  have hjobs : replayed.jobsOf 0 = [] := by rfl
  have hrows : (replayed.rowsOf "incident:7:opened" (.slack, "s1")).map (·.id) = [0] := by rfl
  refine ⟨.again rfl (.done rfl), hjobs, hrows, ?_⟩
  rintro ⟨row, hrow, hone⟩
  rw [hrow, List.map_singleton, List.cons.injEq] at hrows
  rw [hrows.1, hjobs] at hone
  cases hone

end UptimeFlow.Monitoring
