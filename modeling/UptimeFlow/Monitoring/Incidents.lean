import UptimeFlow.Monitoring.Pipeline
import UptimeFlow.Runs

/-!
# UptimeFlow.Monitoring.Incidents

The incident table of one monitor.

The first half is the invariant every later module carries along its runs,
`IncidentsOk`: the monitor's incidents have a fingerprint exactly while they
are not resolved, so the unique key admits one open incident at a time.  The
incident step of the pipeline keeps it, and decides `OpenDown` — whether the
monitor has an open incident that holds its down fingerprint.

The second half lets the pipeline and the two manual operations of the
incident service interleave between their read and their write, and settles
when the table keeps its promises.
-/

namespace UptimeFlow.Monitoring

open Tables Runs

/-! ## the invariant -/

/-- The monitor has an incident that is not resolved and holds its down fingerprint. -/
def OpenDown (m : MonitorId) (rows : List Incident) : Prop :=
  ∃ i ∈ rows, i.monitorId = m ∧ i.fingerprint = some (downFingerprint m) ∧ i.status ≠ .resolved

instance (m : MonitorId) (rows : List Incident) : Decidable (OpenDown m rows) :=
  inferInstanceAs (Decidable (∃ i ∈ rows, _ ∧ _ ∧ _))

/-- An incident as the pipeline and the incident service leave it. -/
structure Incident.Coherent (i : Incident) : Prop where
  resolvedAt : i.resolvedAt ≠ none ↔ i.status = .resolved
  fingerprint :
    i.fingerprint = if i.status = .resolved then none else some (downFingerprint i.monitorId)

/-- The constraints of the incident table, and the coherence of one monitor's rows. -/
structure IncidentsOk (m : MonitorId) (rows : List Incident) : Prop where
  unique : UniqueKey Incident.uniqueKey rows
  ids : (rows.map Incident.id).Nodup
  coherent : ∀ i ∈ rows, i.monitorId = m → i.Coherent

theorem incidentsOk_nil (m : MonitorId) : IncidentsOk m [] :=
  ⟨uniqueKey_nil _, List.nodup_nil, by simp⟩

theorem Incident.Coherent.fingerprint_of_open {i : Incident} (h : i.Coherent)
    (ho : i.status ≠ .resolved) : i.fingerprint = some (downFingerprint i.monitorId) := by
  rw [h.fingerprint, if_neg ho]

section
variable {m : MonitorId} {rows : List Incident}

theorem IncidentsOk.uniqueKey_of_open (h : IncidentsOk m rows) {i : Incident} (hi : i ∈ rows)
    (ho : i.isOpen m = true) : i.uniqueKey = some (m, downFingerprint m) := by
  obtain ⟨rfl, hst⟩ := Incident.isOpen_iff.mp ho
  rw [Incident.uniqueKey, (h.coherent i hi rfl).fingerprint_of_open hst]
  rfl

theorem IncidentsOk.openDown_iff (h : IncidentsOk m rows) :
    OpenDown m rows ↔ ∃ i ∈ rows, i.isOpen m = true := by
  constructor
  · rintro ⟨i, hi, hm, -, hst⟩
    exact ⟨i, hi, Incident.isOpen_iff.mpr ⟨hm, hst⟩⟩
  · rintro ⟨i, hi, ho⟩
    obtain ⟨rfl, hst⟩ := Incident.isOpen_iff.mp ho
    exact ⟨i, hi, rfl, (h.coherent i hi rfl).fingerprint_of_open hst, hst⟩

theorem IncidentsOk.findOpen_eq_none_iff (h : IncidentsOk m rows) :
    findOpen m rows = none ↔ ¬ OpenDown m rows := by
  rw [findOpen, findLatest_none_iff, h.openDown_iff]
  simp

/-- The unique key rejects an incident exactly while one is open. -/
theorem IncidentsOk.taken_iff (h : IncidentsOk m rows) :
    taken Incident.uniqueKey (some (m, downFingerprint m)) rows = true ↔ OpenDown m rows := by
  rw [Tables.taken_iff, h.openDown_iff]
  constructor
  · rintro ⟨-, i, hi, hk⟩
    obtain ⟨f, hf, hkey⟩ := Option.map_eq_some_iff.mp hk
    have hm : i.monitorId = m := congrArg Prod.fst hkey
    refine ⟨i, hi, Incident.isOpen_iff.mpr ⟨hm, fun hst => ?_⟩⟩
    rw [(h.coherent i hi hm).fingerprint, if_pos hst] at hf
    simp at hf
  · rintro ⟨i, hi, ho⟩
    exact ⟨by simp, i, hi, h.uniqueKey_of_open hi ho⟩

/-- The monitor's open incident is the only one. -/
theorem IncidentsOk.open_unique (h : IncidentsOk m rows) {i j : Incident} (hi : i ∈ rows)
    (hj : j ∈ rows) (hio : i.isOpen m = true) (hjo : j.isOpen m = true) : i = j := by
  have hik := h.uniqueKey_of_open hi hio
  have hjk := h.uniqueKey_of_open hj hjo
  exact h.unique.eq_of_key hi hj (hik.trans hjk.symm) (by simp [hik])

/-- Writing coherent rows over rows of the same identity, with the key cleared or kept. -/
theorem IncidentsOk.updateWhere (h : IncidentsOk m rows) {p : Incident → Bool}
    {f : Incident → Incident} (hid : ∀ i, (f i).id = i.id)
    (hkey : ∀ i, (f i).uniqueKey = none ∨ (f i).uniqueKey = i.uniqueKey)
    (hco : ∀ i ∈ rows, p i = true → (f i).monitorId = m → (f i).Coherent) :
    IncidentsOk m (updateWhere p f rows) where
  unique := h.unique.updateWhere hkey
  ids := by rw [map_id_updateWhere hid]; exact h.ids
  coherent := by
    intro i hi hm
    rcases mem_updateWhere.mp hi with ⟨j, hj, hp, rfl⟩ | ⟨hi, -⟩
    · exact hco j hj hp hm
    · exact h.coherent i hi hm

end

/-! ## what the incident step does to it -/

theorem newIncident_coherent (monitor : MonitorSnapshot) (outcome : ProbeOutcome) (now : Instant)
    (id : IncidentId) : (newIncident monitor outcome now id).Coherent :=
  ⟨by simp [newIncident], by simp [newIncident]⟩

theorem Incident.resolve_coherent (now : Instant) (duration : Int) (i : Incident) :
    (i.resolve now duration).Coherent := ⟨by simp [resolve], by simp [resolve]⟩

section
variable {monitor : MonitorSnapshot} {outcome : ProbeOutcome} {now : Instant}
  {rows rows' : List Incident}

theorem insertIncident_eq_some {created : List Incident × IncidentId}
    (h : insertIncident monitor outcome now rows = some created) :
    created = (rows ++ [newIncident monitor outcome now (freshId Incident.id rows)],
      freshId Incident.id rows) := by
  rw [insertIncident] at h
  split at h
  · simp at h
  · exact (Option.some.inj h).symm

variable (outcome now) in
/-- An insert either is rejected, an incident being open, or adds the new row under a
fresh identifier. -/
theorem IncidentsOk.insertIncident_cases (h : IncidentsOk monitor.id rows) :
    (insertIncident monitor outcome now rows = none ∧ OpenDown monitor.id rows) ∨
      (insertIncident monitor outcome now rows =
          some (rows ++ [newIncident monitor outcome now (freshId Incident.id rows)],
            freshId Incident.id rows) ∧
        ¬ OpenDown monitor.id rows) := by
  rw [insertIncident, ← h.taken_iff]
  split
  · next ht => exact .inl ⟨rfl, ht⟩
  · next ht => exact .inr ⟨rfl, ht⟩

variable (outcome now) in
theorem IncidentsOk.concat_newIncident (h : IncidentsOk monitor.id rows)
    (ho : ¬ OpenDown monitor.id rows) :
    IncidentsOk monitor.id
      (rows ++ [newIncident monitor outcome now (freshId Incident.id rows)]) where
  unique := h.unique.concat (Bool.eq_false_iff.mpr (mt h.taken_iff.mp ho))
  ids := nodup_concat_freshId h.ids rfl
  coherent := by
    intro i hi hm
    rcases List.mem_append.mp hi with hi | hi
    · exact h.coherent i hi hm
    · rw [List.mem_singleton.mp hi]
      exact newIncident_coherent monitor outcome now _

theorem openDown_concat_newIncident (id : IncidentId) :
    OpenDown monitor.id (rows ++ [newIncident monitor outcome now id]) :=
  ⟨newIncident monitor outcome now id, by simp, rfl, rfl, by simp [newIncident]⟩

variable (now) in
theorem IncidentsOk.resolveRow {m : MonitorId} (h : IncidentsOk m rows) (id : IncidentId)
    (duration : Int) : IncidentsOk m (resolveRow id now duration rows) :=
  h.updateWhere (fun _ => rfl) (fun _ => .inl rfl) fun i _ _ _ => i.resolve_coherent now duration

/-- Resolving the incident found leaves the monitor without an open one. -/
theorem IncidentsOk.not_openDown_resolveRow {m : MonitorId} (h : IncidentsOk m rows)
    {i : Incident} (hf : findOpen m rows = some i) (duration : Int) :
    ¬ OpenDown m (Monitoring.resolveRow i.id now duration rows) := by
  obtain ⟨hi, hio⟩ := findLatest_some hf
  rintro ⟨j, hj, hm, -, hst⟩
  rcases mem_updateWhere.mp hj with ⟨j, hj, -, rfl⟩ | ⟨hj, hid⟩
  · exact hst rfl
  · have hij := h.open_unique hi hj hio (Incident.isOpen_iff.mpr ⟨hm, hst⟩)
    simp [hij] at hid

variable (faults : Faults) (action : Option IncidentAction)

/-- The incident step keeps the invariant, whatever fails in it. -/
theorem IncidentsOk.nextIncidents (h : IncidentsOk monitor.id rows) :
    IncidentsOk monitor.id (nextIncidents faults monitor outcome now action rows) := by
  cases action with
  | none => exact h
  | some action =>
      cases action with
      | «open» =>
          rw [Monitoring.nextIncidents]
          split
          · exact h
          · rcases h.insertIncident_cases outcome now with ⟨he, -⟩ | ⟨he, ho⟩
            · rw [he]; exact h
            · rw [he]; exact h.concat_newIncident outcome now ho
      | resolve =>
          rw [Monitoring.nextIncidents]
          split
          · exact h
          · split
            · exact h
            · exact h.resolveRow now _ _

/-- An incident step forgets no row. -/
theorem mem_ids_nextIncidents {id : IncidentId} (h : id ∈ rows.map Incident.id) :
    id ∈ (Monitoring.nextIncidents faults monitor outcome now action rows).map Incident.id := by
  cases action with
  | none => exact h
  | some action =>
      cases action with
      | «open» =>
          simp only [Monitoring.nextIncidents, insertIncident]
          split
          · exact h
          · split
            · exact h
            · simp only [Option.map_some, Option.getD_some, List.map_append]
              exact List.mem_append_left _ h
      | resolve =>
          simp only [Monitoring.nextIncidents]
          split
          · exact h
          · split
            · exact h
            · next i _ =>
                rw [Monitoring.resolveRow,
                  map_id_updateWhere fun j => show (j.resolve now _).id = j.id from rfl]
                exact h

/-- A row is only ever rewritten by a resolution. -/
theorem mem_nextIncidents {i : Incident} (hi : i ∈ rows) (ha : action ≠ some .resolve) :
    i ∈ Monitoring.nextIncidents faults monitor outcome now action rows := by
  cases action with
  | none => exact hi
  | some action =>
      cases action with
      | resolve => exact absurd rfl ha
      | «open» =>
          simp only [Monitoring.nextIncidents, insertIncident]
          split
          · exact hi
          · split
            · exact hi
            · simp [hi]

/-- Opening leaves an open incident behind, be it a new one or one found open. -/
theorem IncidentsOk.openDown_of_open (h : IncidentsOk monitor.id rows)
    (hf : faults .incidentCreate = false) :
    OpenDown monitor.id (Monitoring.nextIncidents faults monitor outcome now (some .open) rows) := by
  simp only [Monitoring.nextIncidents, hf, Bool.false_eq_true, if_false]
  rcases h.insertIncident_cases outcome now with ⟨he, ho⟩ | ⟨he, -⟩
  · rw [he]; exact ho
  · rw [he]; exact openDown_concat_newIncident _

/-- Resolving leaves none behind. -/
theorem IncidentsOk.not_openDown_of_resolve (h : IncidentsOk monitor.id rows)
    (hf : faults .incidentUpdate = false) :
    ¬ OpenDown monitor.id
      (Monitoring.nextIncidents faults monitor outcome now (some .resolve) rows) := by
  simp only [Monitoring.nextIncidents, hf, Bool.false_eq_true, if_false]
  split
  · next hn => exact h.findOpen_eq_none_iff.mp hn
  · next i hi => exact h.not_openDown_resolveRow hi _

/-- Where none was open, the incident an opening leaves open is the new one. -/
theorem IncidentsOk.id_of_opened (h : IncidentsOk monitor.id rows)
    (ho : ¬ OpenDown monitor.id rows) (hf : faults .incidentCreate = false) {i : Incident}
    (hi : i ∈ Monitoring.nextIncidents faults monitor outcome now (some .open) rows)
    (hio : i.isOpen monitor.id = true) : i.id = freshId Incident.id rows := by
  simp only [Monitoring.nextIncidents, hf, Bool.false_eq_true, if_false] at hi
  rcases h.insertIncident_cases outcome now with ⟨-, ho'⟩ | ⟨he, -⟩
  · exact absurd ho' ho
  · rw [he] at hi
    rcases List.mem_append.mp hi with hi | hi
    · exact absurd (h.openDown_iff.mpr ⟨i, hi, hio⟩) ho
    · rw [List.mem_singleton.mp hi]
      rfl

/-- An incident open after a resolving step is a row the step left as it was. -/
theorem mem_of_resolved {i : Incident}
    (hi : i ∈ Monitoring.nextIncidents faults monitor outcome now (some .resolve) rows)
    (hio : i.isOpen monitor.id = true) :
    i ∈ rows ∧ (faults .incidentUpdate = false →
      ∀ j, findOpen monitor.id rows = some j → j.id ≠ i.id) := by
  simp only [Monitoring.nextIncidents] at hi
  split at hi
  · next hf => exact ⟨hi, by simp [hf]⟩
  · split at hi
    · next hn => exact ⟨hi, by simp [hn]⟩
    · next j hj =>
        rcases mem_updateWhere.mp hi with ⟨k, -, -, rfl⟩ | ⟨hi, hid⟩
        · exact absurd rfl (Incident.isOpen_iff.mp hio).2
        · refine ⟨hi, fun _ j' hj' hne => ?_⟩
          rw [hj, Option.some.injEq] at hj'
          simp [hj', hne] at hid

/-- Only an opening step opens. -/
theorem IncidentsOk.openDown_of_nextIncidents (h : IncidentsOk monitor.id rows)
    (ha : action ≠ some .open)
    (ho : OpenDown monitor.id (Monitoring.nextIncidents faults monitor outcome now action rows)) :
    OpenDown monitor.id rows := by
  cases action with
  | none => exact ho
  | some action =>
      cases action with
      | «open» => exact absurd rfl ha
      | resolve =>
          cases hf : faults .incidentUpdate with
          | true => simpa [Monitoring.nextIncidents, hf] using ho
          | false => exact absurd ho (h.not_openDown_of_resolve faults hf)

/-- Only a resolving step resolves. -/
theorem IncidentsOk.openDown_nextIncidents (h : IncidentsOk monitor.id rows)
    (ha : action ≠ some .resolve) (ho : OpenDown monitor.id rows) :
    OpenDown monitor.id (Monitoring.nextIncidents faults monitor outcome now action rows) := by
  cases action with
  | none => exact ho
  | some action =>
      cases action with
      | resolve => exact absurd rfl ha
      | «open» =>
          cases hf : faults .incidentCreate with
          | true => simpa [Monitoring.nextIncidents, hf] using ho
          | false => exact h.openDown_of_open faults hf

end

/-! ## reads and writes that interleave -/

/-- The row an acknowledgement leaves behind. -/
def Incident.acknowledge (userId : Option String) (now : Instant) (i : Incident) : Incident :=
  { i with status := .acknowledged, acknowledgedAt := some now, acknowledgedById := userId }

/-- An update an operation has decided on from what it read, and not issued yet.  It
names its row by `id` alone. -/
inductive Update where
  | acknowledge (id : IncidentId) (userId : Option String) (now : Instant)
  | resolve (id : IncidentId) (now : Instant) (duration : Int)
deriving DecidableEq, Repr

def Update.apply : Update → List Incident → List Incident
  | .acknowledge id userId now => updateWhere (·.id = id) (Incident.acknowledge userId now)
  | .resolve id now duration => resolveRow id now duration

/-- Whether an update acknowledges the incident `id`. -/
def Update.acknowledges (id : IncidentId) : Update → Bool
  | .acknowledge id' _ _ => id' = id
  | .resolve _ _ _ => false

def findIncident (organizationId : OrganizationId) (id : IncidentId) (rows : List Incident) :
    Option Incident :=
  rows.find? fun i => i.id = id && i.organizationId = organizationId

/-- The read half of the service's `acknowledge`. -/
def readAcknowledge (organizationId : OrganizationId) (id : IncidentId) (userId : Option String)
    (now : Instant) (rows : List Incident) : Option Update :=
  match findIncident organizationId id rows with
  | none => none
  | some existing => if existing.status = .open then some (.acknowledge id userId now) else none

/-- The read half of the service's `resolve`. -/
def readResolve (organizationId : OrganizationId) (id : IncidentId) (now : Instant)
    (rows : List Incident) : Option Update :=
  match findIncident organizationId id rows with
  | none => none
  | some existing =>
      if existing.status ≠ .resolved then some (.resolve id now (durationSec existing.startedAt now))
      else none

/-- The read half of the pipeline's `resolveIncident`. -/
def readPipelineResolve (m : MonitorId) (now : Instant) (rows : List Incident) : Option Update :=
  (findOpen m rows).map fun i => .resolve i.id now (durationSec i.startedAt now)

/-- The incident table, and the updates that were decided on and are still to land. -/
structure Race where
  incidents : List Incident
  inFlight : List Update := []
deriving DecidableEq, Repr

/-- One atomic step of an operation on the incidents of the monitor `m`. -/
inductive RaceOp (m : MonitorId) where
  | openIncident (monitor : MonitorSnapshot) (of : monitor.id = m) (outcome : ProbeOutcome)
      (now : Instant)
  | readPipelineResolve (now : Instant)
  | readAcknowledge (organizationId : OrganizationId) (id : IncidentId) (userId : Option String)
      (now : Instant)
  | readResolve (organizationId : OrganizationId) (id : IncidentId) (now : Instant)
  /-- The `k`-th update in flight lands. -/
  | land (k : Nat)

namespace Race

variable {m : MonitorId}

def decided (s : Race) (u : Option Update) : Race :=
  { s with inFlight := s.inFlight ++ u.toList }

def step (s : Race) : RaceOp m → Race
  | .openIncident monitor _ outcome now =>
      { s with incidents :=
          ((insertIncident monitor outcome now s.incidents).map Prod.fst).getD s.incidents }
  | .readPipelineResolve now => s.decided (Monitoring.readPipelineResolve m now s.incidents)
  | .readAcknowledge organizationId id userId now =>
      s.decided (Monitoring.readAcknowledge organizationId id userId now s.incidents)
  | .readResolve organizationId id now =>
      s.decided (Monitoring.readResolve organizationId id now s.incidents)
  | .land k =>
      match s.inFlight[k]? with
      | none => s
      | some u => { incidents := u.apply s.incidents, inFlight := s.inFlight.eraseIdx k }

/-- The status recorded for an incident. -/
def statusOf (id : IncidentId) (rows : List Incident) : Option IncidentStatus :=
  (rows.find? (·.id = id)).map Incident.status

/-- What the table promises of one monitor's incidents. -/
structure Lawful (m : MonitorId) (rows : List Incident) : Prop where
  resolvedAt : ∀ i ∈ rows, i.monitorId = m → (i.resolvedAt ≠ none ↔ i.status = .resolved)
  fingerprint : ∀ i ∈ rows, i.monitorId = m → (i.fingerprint ≠ none ↔ i.status ≠ .resolved)
  atMostOneOpen : (rows.filter (Incident.isOpen m)).length ≤ 1

/-- No step takes one of the monitor's incidents out of `RESOLVED`. -/
def ResolvedStays (m : MonitorId) (rows rows' : List Incident) : Prop :=
  ∀ i ∈ rows, i.monitorId = m → i.status = .resolved → statusOf i.id rows' = some .resolved

instance (m : MonitorId) (rows rows' : List Incident) : Decidable (ResolvedStays m rows rows') :=
  inferInstanceAs (Decidable (∀ i ∈ rows, _ → _ → _))

/-- The step lands no acknowledgement on an incident of the monitor that is resolved. -/
def AcknowledgesUnresolved (s : Race) : RaceOp m → Prop
  | .land k => ∀ u ∈ s.inFlight[k]?, ∀ i ∈ s.incidents,
      i.monitorId = m → u.acknowledges i.id = true → i.status ≠ .resolved
  | _ => True

instance (s : Race) (op : RaceOp m) : Decidable (s.AcknowledgesUnresolved op) := by
  cases op <;> unfold AcknowledgesUnresolved <;> infer_instance

theorem lawful_of_incidentsOk {rows : List Incident} (h : IncidentsOk m rows) : Lawful m rows where
  resolvedAt i hi hm := (h.coherent i hi hm).resolvedAt
  fingerprint i hi hm := by
    rw [(h.coherent i hi hm).fingerprint]
    split <;> simp_all
  atMostOneOpen := h.unique.length_filter_le_one fun _ hi ho => h.uniqueKey_of_open hi ho

theorem statusOf_of_mem {rows : List Incident} (h : (rows.map Incident.id).Nodup) {i : Incident}
    (hi : i ∈ rows) : statusOf i.id rows = some i.status := by
  rw [statusOf, find?_of_nodup h hi]
  rfl

/-- Rows that are kept, but for changes that leave `RESOLVED` in place. -/
theorem resolvedStays_of_kept {rows rows' : List Incident} (hn : (rows'.map Incident.id).Nodup)
    (h : ∀ i ∈ rows, i.monitorId = m → i.status = .resolved →
      ∃ i' ∈ rows', i'.id = i.id ∧ i'.status = .resolved) : ResolvedStays m rows rows' := by
  intro i hi hm hst
  obtain ⟨i', hi', hid, hst'⟩ := h i hi hm hst
  rw [← hid, statusOf_of_mem hn hi', hst']

/-- An acknowledgement of an unresolved incident keeps the invariant. -/
theorem incidentsOk_acknowledge {rows : List Incident} (h : IncidentsOk m rows) {id : IncidentId}
    (userId : Option String) (now : Instant)
    (hst : ∀ i ∈ rows, i.monitorId = m → i.id = id → i.status ≠ .resolved) :
    IncidentsOk m ((Update.acknowledge id userId now).apply rows) := by
  refine h.updateWhere (fun _ => rfl) (fun _ => .inr rfl) fun i hi hp hm => ?_
  have hco := h.coherent i hi hm
  have hne := hst i hi hm (by simpa using hp)
  constructor
  · simp [Incident.acknowledge, hco.resolvedAt, hne]
  · simp [Incident.acknowledge, hco.fingerprint, hne]

/-- **Step lemma**: a step that acknowledges no resolved incident keeps the invariant,
and every resolved incident resolved. -/
theorem step_ok {s : Race} (h : IncidentsOk m s.incidents) (op : RaceOp m)
    (hop : s.AcknowledgesUnresolved op) :
    IncidentsOk m (s.step op).incidents ∧ ResolvedStays m s.incidents (s.step op).incidents := by
  have hsame : IncidentsOk m s.incidents ∧ ResolvedStays m s.incidents s.incidents :=
    ⟨h, resolvedStays_of_kept h.ids fun i hi _ hst => ⟨i, hi, rfl, hst⟩⟩
  cases op with
  | readPipelineResolve now => exact hsame
  | readAcknowledge organizationId id userId now => exact hsame
  | readResolve organizationId id now => exact hsame
  | openIncident monitor of outcome now =>
      clear hop
      rw [step]
      subst of
      rcases h.insertIncident_cases outcome now with ⟨he, -⟩ | ⟨he, ho⟩
      · rw [he]; exact hsame
      · rw [he]
        have hok := h.concat_newIncident outcome now ho
        exact ⟨hok, resolvedStays_of_kept hok.ids fun i hi _ hst => ⟨i, by simp [hi], rfl, hst⟩⟩
  | land k =>
      rw [step]
      cases hk : s.inFlight[k]? with
      | none => exact hsame
      | some u =>
          cases u with
          | acknowledge id userId now =>
              have hst : ∀ i ∈ s.incidents, i.monitorId = m → i.id = id → i.status ≠ .resolved := by
                intro i hi hm hid
                exact hop _ hk i hi hm (by simp [Update.acknowledges, hid])
              have hok := incidentsOk_acknowledge h userId now hst
              refine ⟨hok, resolvedStays_of_kept hok.ids fun i hi hm hres => ?_⟩
              have hid : i.id ≠ id := fun hid => hst i hi hm hid hres
              exact ⟨i, mem_updateWhere.mpr (.inr ⟨hi, by simpa using hid⟩), rfl, hres⟩
          | resolve id now duration =>
              have hok := h.resolveRow now id duration
              refine ⟨hok, resolvedStays_of_kept hok.ids fun i hi _ hres => ?_⟩
              by_cases hid : i.id = id
              · refine ⟨i.resolve now duration, ?_, rfl, rfl⟩
                exact mem_updateWhere.mpr (.inl ⟨i, hi, by simpa using hid, rfl⟩)
              · exact ⟨i, mem_updateWhere.mpr (.inr ⟨hi, by simpa using hid⟩), rfl, hres⟩

/-- An acknowledgement that lands on a resolved incident takes it out of `RESOLVED`. -/
theorem acknowledgesUnresolved_of_resolvedStays {s : Race} (h : IncidentsOk m s.incidents)
    (op : RaceOp m) (hop : ResolvedStays m s.incidents (s.step op).incidents) :
    s.AcknowledgesUnresolved op := by
  cases op with
  | openIncident | readPipelineResolve | readAcknowledge | readResolve => trivial
  | land k =>
      intro u hk i hi hm hack hst
      cases u with
      | resolve id now duration => simp [Update.acknowledges] at hack
      | acknowledge id userId now =>
      have hid : i.id = id := by simpa [Update.acknowledges, eq_comm] using hack
      have hres := hop i hi hm hst
      rw [Option.mem_def] at hk
      simp only [step, hk] at hres
      have hmem : i.acknowledge userId now ∈ (Update.acknowledge id userId now).apply s.incidents :=
        mem_updateWhere.mpr (.inl ⟨i, hi, by simpa using hid, rfl⟩)
      have hn : (((Update.acknowledge id userId now).apply s.incidents).map Incident.id).Nodup := by
        rw [Update.apply, map_id_updateWhere fun (i : Incident) => show (i.acknowledge userId now).id = _ from rfl]
        exact h.ids
      have hack := statusOf_of_mem hn hmem
      rw [show (i.acknowledge userId now).id = i.id from rfl, hres] at hack
      exact absurd hack (by simp [Incident.acknowledge])

/-- **Incident table**: whatever steps interleave, the monitor's resolved incidents stay
resolved and its table stays lawful, step after step, exactly when no acknowledgement
lands on an incident that has been resolved since it was read. -/
theorem lawfulAlong_iff (s : Race) (ops : List (RaceOp m)) (h : IncidentsOk m s.incidents) :
    Along step (fun s op =>
        ResolvedStays m s.incidents (s.step op).incidents ∧ Lawful m (s.step op).incidents) s ops ↔
      Along step AcknowledgesUnresolved s ops := by
  refine along_iff (I := fun s => IncidentsOk m s.incidents)
    (fun s op hs hop => (step_ok hs op hop).1) (fun s op hs => ?_) h
  constructor
  · exact fun hlaw => acknowledgesUnresolved_of_resolvedStays hs op hlaw.1
  · intro hop
    obtain ⟨hok, hstays⟩ := step_ok hs op hop
    exact ⟨hstays, lawful_of_incidentsOk hok⟩

def outage : ProbeOutcome := { status := .down }

def watched : MonitorSnapshot :=
  { id := "m", organizationId := "o", name := "api", type := .http, failureThreshold := 1
    successThreshold := 1, escalationPolicyId := none, health := .up, consecutiveFailures := 0
    consecutiveSuccesses := 0 }

/-- An acknowledgement and a recovery both read the open incident; the recovery lands
first. -/
def lateAcknowledge : List (RaceOp "m") :=
  [.openIncident watched rfl outage 0, .readAcknowledge "o" 0 (some "u") 10,
    .readPipelineResolve 20, .land 1, .land 0]

/-- Up to the recovery the table is lawful. -/
theorem lawfulAlong_recovery :
    Along step (fun s op =>
        ResolvedStays "m" s.incidents (s.step op).incidents ∧ Lawful "m" (s.step op).incidents)
      ⟨[], []⟩ (lateAcknowledge.take 4) :=
  (lawfulAlong_iff ⟨[], []⟩ (lateAcknowledge.take 4) (incidentsOk_nil "m")).mpr (by decide)

/-- The acknowledgement that lands last reopens the resolved incident. -/
theorem not_lawfulAlong_lateAcknowledge :
    ¬ Along step (fun s op =>
        ResolvedStays "m" s.incidents (s.step op).incidents ∧ Lawful "m" (s.step op).incidents)
      ⟨[], []⟩ lateAcknowledge := by
  rintro ⟨-, -, -, -, ⟨hstays, -⟩, -⟩
  exact absurd hstays (by decide)

end Race

end UptimeFlow.Monitoring
