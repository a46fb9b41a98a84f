import UptimeFlow.Monitoring.Retries

/-!
# UptimeFlow.Monitoring.Pairing

`opened` and `resolved` notifications of an incident, over runs of worker
checks and heartbeat pings.

A worker passes both dispatchers to the pipeline and the heartbeat route
passes neither, while either of them may resolve the incident; and a worker
opens an incident in silence while the monitor is flapping.  `nextCalls` is
the exact list of dispatcher calls of an incident step, and `Voiced` the
invariant that says of each open incident whether it was announced.
-/

namespace UptimeFlow.Monitoring

open Tables Runs

/-! ## the dispatcher calls of a step -/

/-- One call for each dispatcher that was passed in. -/
def ProcessOptions.calls (opts : ProcessOptions) (kind : AlertKind) (id : IncidentId) :
    List DispatchCall :=
  (if opts.alerts then [⟨.alerts, kind, id⟩] else []) ++
    if opts.integrations then [⟨.integrations, kind, id⟩] else []

/-- No dispatcher was passed in. -/
def ProcessOptions.isSilent (opts : ProcessOptions) : Bool := !opts.alerts && !opts.integrations

theorem calls_of_isSilent {opts : ProcessOptions} (h : opts.isSilent = true) (kind : AlertKind)
    (id : IncidentId) : opts.calls kind id = [] := by
  simp_all [ProcessOptions.calls, ProcessOptions.isSilent]

/-- Nothing that a resolution issues after the incident is resolved fails. -/
def Faults.SpareResolution (faults : Faults) (channels : List ChannelId) : Prop :=
  faults .auditLog = false ∧
    ∀ c ∈ channels, faults (.delivery c) = false ∧ faults (.alertJob c) = false

instance (faults : Faults) (channels : List ChannelId) :
    Decidable (faults.SpareResolution channels) := inferInstanceAs (Decidable (_ ∧ _))

section
variable (faults : Faults) (opts : ProcessOptions) (db : Db)

/-- The alert fan-out makes its call, and goes through when nothing fails in it. -/
theorem dispatchAlerts_calls (ctx : AlertContext)
    (h : ∀ c ∈ db.boundChannels ctx.monitorId,
      faults (.delivery c) = false ∧ faults (.alertJob c) = false) :
    ∃ n db', (dispatchAlerts faults opts ctx).run db = (.ok n, db') ∧
      db'.dispatched = db.dispatched ++
        if opts.alerts then [⟨.alerts, ctx.kind, ctx.incidentId⟩] else [] := by
  rw [dispatchAlerts]
  cases opts.alerts with
  | false => exact ⟨0, db, rfl, by simp⟩
  | true =>
      let called : Db :=
        { db with dispatched := db.dispatched ++ [⟨.alerts, ctx.kind, ctx.incidentId⟩] }
      obtain ⟨ds, -, -, hrun⟩ := dispatchEach_run ctx h called
      exact ⟨_, _, hrun, rfl⟩

/-- The integration fan-out makes its call, and always goes through. -/
theorem dispatchIntegration_calls (ctx : IncidentDispatchContext) :
    ∃ db', (dispatchIntegration faults opts ctx).run db = (.ok (), db') ∧
      db'.dispatched = db.dispatched ++
        if opts.integrations then [⟨.integrations, ctx.kind, ctx.incidentId⟩] else [] := by
  obtain ⟨db', hrun⟩ := dispatchIntegration_run faults opts ctx db
  refine ⟨db', hrun, ?_⟩
  have hdb' : db'.dispatched = ((dispatchIntegration faults opts ctx).run db).2.dispatched := by
    rw [hrun]
  rw [hdb', dispatchIntegration]
  cases opts.integrations with
  | false => simp
  | true =>
      simp only [if_true]
      rw [Eff.view_rescue Db.dispatched (fun _ => .pure _),
        Eff.view_bind Db.dispatched (fun _ => .pure _), dispatchIncident,
        Eff.view_bind Db.dispatched fun _ => frames_fanOut faults _ _ _ _ fun _ _ _ => rfl]
      rfl

variable {faults opts} {monitor : MonitorSnapshot} {id : IncidentId}

theorem announceOpened_calls (h : faults.SpareOpening (db.boundChannels monitor.id))
    (flapping : Bool) :
    ((announceOpened faults monitor opts flapping id).run db).2.dispatched =
      db.dispatched ++ if flapping then [] else opts.calls .opened id := by
  obtain ⟨-, he, haudit, hesc, hdel⟩ := h
  cases flapping with
  | true => simp [announceOpened, Eff.bind_run, addEvent, writeAudit, Faults.write, he, haudit]
  | false =>
      let audited : Db := { db with
        auditLogs := db.auditLogs ++ [auditOf monitor "incident.opened" "incident" (toString id)] }
      obtain ⟨n, sent, hsent, hcalls⟩ := dispatchAlerts_calls faults opts audited
        (alertContext monitor id .opened) hdel
      obtain ⟨escalated, hescalated⟩ := escalate_run monitor opts id hesc sent
      have hkept : escalated.dispatched = sent.dispatched := by
        have := frames_escalate Db.dispatched faults (fun _ _ => rfl) monitor opts id sent
        rw [hescalated] at this
        exact this
      obtain ⟨final, hfinal, hfcalls⟩ := dispatchIntegration_calls faults opts escalated
        (integrationContext monitor id .opened)
      rw [announceOpened, if_neg (by simp),
        Eff.bind_run_of_ok (a := ()) (t := audited) (by simp [writeAudit, Faults.write, haudit, audited]),
        Eff.bind_run_of_ok hsent, Eff.bind_run_of_ok hescalated, Eff.bind_run_of_ok hfinal]
      simp only [Eff.pure_run, hfcalls, hkept, hcalls, List.append_assoc, Bool.false_eq_true,
        if_false]
      rfl

theorem announceResolved_calls (h : faults.SpareResolution (db.boundChannels monitor.id)) :
    ((announceResolved faults monitor opts id).run db).2.dispatched =
      db.dispatched ++ opts.calls .resolved id := by
  obtain ⟨haudit, hdel⟩ := h
  let audited : Db := { db with
    auditLogs := db.auditLogs ++ [auditOf monitor "incident.resolved" "incident" (toString id)] }
  obtain ⟨n, sent, hsent, hcalls⟩ := dispatchAlerts_calls faults opts audited
    (alertContext monitor id .resolved) hdel
  obtain ⟨final, hfinal, hfcalls⟩ := dispatchIntegration_calls faults opts sent
    (integrationContext monitor id .resolved)
  rw [announceResolved,
    Eff.bind_run_of_ok (a := ()) (t := audited) (by simp [writeAudit, Faults.write, haudit, audited]),
    Eff.bind_run_of_ok hsent, Eff.bind_run_of_ok hfinal]
  simp only [Eff.pure_run, hfcalls, hcalls, List.append_assoc]
  rfl

/-- Without dispatchers a resolution is silent, whatever fails in it. -/
theorem announceResolved_silent (h : opts.isSilent = true) :
    ((announceResolved faults monitor opts id).run db).2.dispatched = db.dispatched := by
  simp only [ProcessOptions.isSilent, Bool.and_eq_true, Bool.not_eq_true'] at h
  have hframe : Eff.Frames Db.dispatched (announceResolved faults monitor opts id) := by
    refine .bind (frames_write faults fun _ => rfl) fun _ => ?_
    rw [dispatchAlerts, dispatchIntegration, h.1, h.2]
    exact .bind (.pure _) fun _ => .bind (.pure _) fun _ => .pure _
  exact hframe db

end

/-- The dispatcher calls of an incident step, in their order. -/
def nextCalls (faults : Faults) (monitor : MonitorSnapshot) (outcome : ProbeOutcome)
    (opts : ProcessOptions) (flapping : Bool) (action : Option IncidentAction)
    (rows : List Incident) : List DispatchCall :=
  match action with
  | none => []
  | some .open =>
      if faults .incidentCreate then []
      else match insertIncident monitor outcome opts.now rows with
        | none => []
        | some (_, id) => if flapping then [] else opts.calls .opened id
  | some .resolve =>
      if faults .incidentUpdate then []
      else match findOpen monitor.id rows with
        | none => []
        | some i => opts.calls .resolved i.id

/-- Nothing fails in the step between its incident write and its dispatches. -/
def Uncut (faults : Faults) (opts : ProcessOptions) (channels : List ChannelId) :
    Option IncidentAction → Prop
  | none => True
  | some .open => faults.SpareOpening channels
  | some .resolve => opts.isSilent = true ∨ faults.SpareResolution channels

instance (faults : Faults) (opts : ProcessOptions) (channels : List ChannelId)
    (action : Option IncidentAction) : Decidable (Uncut faults opts channels action) := by
  unfold Uncut
  split <;> infer_instance

/-- **Calls of the incident step**. -/
theorem incidentStep_calls {faults : Faults} (monitor : MonitorSnapshot) (outcome : ProbeOutcome)
    {opts : ProcessOptions} {db : Db} {decision : TransitionResult}
    (h : Uncut faults opts (db.boundChannels monitor.id) decision.incident) :
    ((incidentStep faults monitor outcome opts decision).run db).2.dispatched =
      db.dispatched ++ nextCalls faults monitor outcome opts (db.detectFlapping monitor.id opts.now)
        decision.incident db.incidents := by
  cases incidentStep_ends faults monitor outcome opts decision db with
  | nothing hact hrun => rw [hrun, hact, nextCalls, List.append_nil]
  | relapse hact hrun =>
      rw [hrun, hact, nextCalls, List.append_nil]
      exact frames_relapseStep Db.dispatched faults (fun _ _ _ => rfl) monitor opts db
  | notOpened hact hno hrun =>
      rw [hrun, hact]
      obtain hf | hins := hno <;> simp [nextCalls, *]
  | opened hact hf rows id hins hrun =>
      rw [hact] at h
      rw [hrun, hact, nextCalls, hf, hins]
      exact announceOpened_calls (db.opened outcome opts.now rows id) h _
  | notResolved hact hno hrun =>
      rw [hrun, hact]
      obtain hf | hfind := hno <;> simp [nextCalls, *]
  | resolved hact hf i hfind hrun =>
      rw [hact] at h
      rw [hrun, hact, nextCalls, hf, hfind]
      obtain hsilent | hspare := h
      · rw [announceResolved_silent _ hsilent]
        simp only [calls_of_isSilent hsilent, Bool.false_eq_true, if_false, List.append_nil]
        rfl
      · exact announceResolved_calls (db.resolved opts.now i) hspare

/-! ## contacts -/

/-- What reaches the pipeline: a worker's check, or a ping at the heartbeat route, which
passes no dispatcher. -/
inductive Contact where
  | worker (a : Attempt)
  | heartbeat (now : Instant) (faults : Faults)

def Db.contact (db : Db) : Contact → Db
  | .worker a => db.attempt a
  | .heartbeat now faults => ((recordHeartbeat faults now).run db).2

/-- The arguments of a pipeline call on a fresh snapshot. -/
structure PipelineCall where
  faults : Faults
  outcome : ProbeOutcome
  opts : ProcessOptions

/-- The pipeline call a contact leads to, if the monitor takes it. -/
def Contact.call (row : MonitorRow) : Contact → Option PipelineCall
  | .worker a => if row.isChecked then some ⟨a.faults, a.probe, a.opts⟩ else none
  | .heartbeat now faults =>
      if row.type = .heartbeat ∧ row.deletedAt = none then
        some ⟨faults, pingOutcome, pingOptions now false defaultRegion⟩
      else none

def PipelineCall.run (call : PipelineCall) (db : Db) : Db :=
  ((processCheckResult call.faults (toSnapshot db.monitor) call.outcome call.opts).run db).2

def PipelineCall.decision (call : PipelineCall) (db : Db) : TransitionResult :=
  db.decision (toSnapshot db.monitor) call.outcome call.opts

/-- The incident action of a call, if it gets as far as taking one. -/
def PipelineCall.action (call : PipelineCall) (db : Db) : Option IncidentAction :=
  if call.faults.reachesRow then (call.decision db).incident else none

theorem contact_eq (db : Db) (c : Contact) :
    db.contact c = match c.call db.monitor with
      | none => db
      | some call => call.run db := by
  cases c with
  | worker a =>
      cases hck : db.monitor.isChecked with
      | false => simp [Db.contact, Contact.call, hck, attempt_of_not_isChecked hck]
      | true =>
          simp only [Db.contact, Contact.call, hck, if_true, PipelineCall.run]
          exact attempt_of_isChecked hck
  | heartbeat now faults =>
      rw [Db.contact, recordHeartbeat_run, Contact.call]
      split
      · rw [Eff.map_run_snd]
        rfl
      · rfl

/-! ## the invariant -/

/-- An incident whose alert was suppressed has no dispatcher calls, and any other has an
`opened` call on both routes. -/
def VoicedAt (db : Db) (id : IncidentId) : Prop :=
  (Marked db id → ∀ call ∈ db.dispatched, call.incidentId ≠ id) ∧
    (¬ Marked db id → ∀ route, ⟨route, .opened, id⟩ ∈ db.dispatched)

/-- Every open incident of the monitor was announced or suppressed, and every call is
about an incident of the table. -/
structure Voiced (m : MonitorId) (db : Db) : Prop where
  notified : Notified m db
  knownCalls : ∀ call ∈ db.dispatched, call.incidentId ∈ db.incidents.map Incident.id
  voiced : ∀ i ∈ db.incidents, i.isOpen m = true → VoicedAt db i.id

/-- An incident that was announced on one route was announced on all, and is unmarked. -/
theorem VoicedAt.opened_iff {db : Db} {id : IncidentId} (h : VoicedAt db id) (route : Route) :
    ⟨route, .opened, id⟩ ∈ db.dispatched ↔ ¬ Marked db id :=
  ⟨fun hc hm => h.1 hm _ hc rfl, fun hm => h.2 hm route⟩

/-- What was said of an incident stays said, and nothing is added to it. -/
theorem VoicedAt.mono {db db' : Db} {id : IncidentId} (h : VoicedAt db id)
    (hn : db'.notices (· = id) = db.notices (· = id)) {calls : List DispatchCall}
    (hc : db'.dispatched = db.dispatched ++ calls) (hnew : ∀ call ∈ calls, call.incidentId ≠ id) :
    VoicedAt db' id := by
  rw [VoicedAt, marked_congr hn, hc]
  refine ⟨fun hm call hcall => ?_, fun hm route => List.mem_append_left _ (h.2 hm route)⟩
  rcases List.mem_append.mp hcall with hcall | hcall
  · exact h.1 hm call hcall
  · exact hnew call hcall

theorem mem_calls {opts : ProcessOptions} {kind : AlertKind} {id : IncidentId}
    {call : DispatchCall} (h : call ∈ opts.calls kind id) :
    call.kind = kind ∧ call.incidentId = id := by
  simp only [ProcessOptions.calls, List.mem_append] at h
  rcases h with h | h <;> split at h <;> simp_all

section
variable {faults : Faults} {monitor : MonitorSnapshot} {outcome : ProbeOutcome}
  {opts : ProcessOptions} {flapping : Bool} {action : Option IncidentAction}
  {rows : List Incident} {call : DispatchCall}

/-- A call says `opened` of the incident just created, or `resolved` of the one found open. -/
theorem nextCalls_cases (h : call ∈ nextCalls faults monitor outcome opts flapping action rows) :
    (action = some .open ∧ call.kind = .opened ∧ faults .incidentCreate = false ∧
      ∃ created, insertIncident monitor outcome opts.now rows = some created ∧
        call.incidentId = created.2) ∨
    (action = some .resolve ∧ call.kind = .resolved ∧ faults .incidentUpdate = false ∧
      ∃ i, findOpen monitor.id rows = some i ∧ call.incidentId = i.id) := by
  cases action with
  | none => simp [nextCalls] at h
  | some action =>
      cases action with
      | «open» =>
          cases hf : faults .incidentCreate with
          | true => simp [nextCalls, hf] at h
          | false =>
              cases hins : insertIncident monitor outcome opts.now rows with
              | none => simp [nextCalls, hf, hins] at h
              | some created =>
                  simp only [nextCalls, hf, hins, Bool.false_eq_true, if_false] at h
                  split at h
                  · simp at h
                  · obtain ⟨hkind, hid⟩ := mem_calls h
                    exact .inl ⟨rfl, hkind, rfl, created, rfl, hid⟩
      | resolve =>
          cases hf : faults .incidentUpdate with
          | true => simp [nextCalls, hf] at h
          | false =>
              cases hfind : findOpen monitor.id rows with
              | none => simp [nextCalls, hf, hfind] at h
              | some i =>
                  simp only [nextCalls, hf, hfind, Bool.false_eq_true, if_false] at h
                  obtain ⟨hkind, hid⟩ := mem_calls h
                  exact .inr ⟨rfl, hkind, rfl, i, rfl, hid⟩

/-- The calls of a step are about an incident of the table it leaves. -/
theorem mem_nextCalls (h : call ∈ nextCalls faults monitor outcome opts flapping action rows) :
    call.incidentId ∈ (nextIncidents faults monitor outcome opts.now action rows).map Incident.id := by
  obtain ⟨rfl, -, hf, created, hins, hid⟩ | ⟨rfl, -, -, i, hfind, hid⟩ := nextCalls_cases h
  · have hrows := insertIncident_eq_some hins
    simp [nextIncidents, hf, hins, hid, hrows, newIncident]
  · rw [hid]
    exact mem_ids_nextIncidents faults _ (List.mem_map_of_mem (findLatest_some hfind).1)

end

section
variable {faults : Faults} {monitor : MonitorSnapshot} {outcome : ProbeOutcome}
  {opts : ProcessOptions} {db : Db} {decision : TransitionResult}

/-- Where none was open, an opening calls both dispatchers about the new incident, or none
while the monitor is flapping. -/
theorem nextCalls_open {flapping : Bool} {rows : List Incident}
    (h : IncidentsOk monitor.id rows) (ho : ¬ OpenDown monitor.id rows)
    (hf : faults .incidentCreate = false) :
    nextCalls faults monitor outcome opts flapping (some .open) rows =
      if flapping then [] else opts.calls .opened (freshId Incident.id rows) := by
  simp only [nextCalls, hf, Bool.false_eq_true, if_false]
  rcases h.insertIncident_cases outcome opts.now with ⟨-, ho'⟩ | ⟨he, -⟩
  · exact absurd ho' ho
  · rw [he]

variable (monitor) in
/-- The incident an opening creates is announced on both routes or suppressed. -/
theorem Voiced.opened (h : Voiced monitor.id db) (hact : decision.incident = some .open)
    (hopts : opts.alerts = true ∧ opts.integrations = true)
    (hspare : faults.SpareOpening (db.boundChannels monitor.id)) {i : Incident}
    (hi : i ∈ ((incidentStep faults monitor outcome opts decision).run db).2.incidents)
    (hio : i.isOpen monitor.id = true) :
    VoicedAt ((incidentStep faults monitor outcome opts decision).run db).2 i.id := by
  have hrows := (incidentStep_rows faults monitor outcome opts decision db).2
  have hcalls := incidentStep_calls monitor outcome (hact ▸ hspare :
    Uncut faults opts (db.boundChannels monitor.id) decision.incident)
  obtain ⟨r, db', hrun, hcase⟩ := h.notified.openStep outcome hspare hopts.1
  have hstep : (incidentStep faults monitor outcome opts decision).run db = (.ok r, db') := by
    rw [incidentStep, hact]
    exact hrun
  rw [hstep] at hi hcalls hrows ⊢
  obtain ⟨-, rfl⟩ | ⟨ho, hnew⟩ := hcase
  · exact h.voiced i hi hio
  · rw [hrows, hact] at hi
    rw [h.notified.incidents.id_of_opened faults ho hspare.1 hi hio]
    rw [hact, nextCalls_open h.notified.incidents ho hspare.1] at hcalls
    cases hfl : db.detectFlapping monitor.id opts.now with
    | true =>
        rw [hfl, if_pos rfl, List.append_nil] at hcalls
        rw [hfl, if_pos rfl] at hnew
        refine ⟨fun _ call hcall hid => ?_, fun hm => absurd hnew hm⟩
        rw [hcalls] at hcall
        obtain ⟨j, hj, hjid⟩ := List.mem_map.mp (h.knownCalls call hcall)
        exact ne_freshId Incident.id hj (hjid.trans hid)
    | false =>
        rw [hfl, if_neg (by simp)] at hcalls hnew
        refine ⟨fun hm => absurd hm hnew.1, fun _ route => ?_⟩
        rw [hcalls]
        cases route <;> simp [ProcessOptions.calls, hopts]

variable (monitor) in
/-- **Step lemma**: an incident step that is not cut off keeps the invariant. -/
theorem Voiced.kept (h : Voiced monitor.id db)
    (hopts : decision.incident = some .open → opts.alerts = true ∧ opts.integrations = true)
    (hu : Uncut faults opts (db.boundChannels monitor.id) decision.incident) :
    Voiced monitor.id ((incidentStep faults monitor outcome opts decision).run db).2 := by
  have hspare : decision.incident = some .open →
      faults.SpareOpening (db.boundChannels monitor.id) := fun ho => by rw [ho] at hu; exact hu
  have hrows := (incidentStep_rows faults monitor outcome opts decision db).2
  have hcalls := incidentStep_calls monitor outcome hu
  refine ⟨h.notified.kept (fun ho => (hopts ho).1) hspare, ?_, ?_⟩
  · rw [hcalls, hrows]
    intro call hcall
    obtain hcall | hcall := List.mem_append.mp hcall
    · exact mem_ids_nextIncidents faults _ (h.knownCalls call hcall)
    · exact mem_nextCalls hcall
  · intro i hi hio
    cases hact : decision.incident with
    | none =>
        rw [hrows, hact] at hi
        rw [hact] at hcalls
        exact (h.voiced i hi hio).mono (incidentStep_notices faults monitor outcome opts decision db
          (by simp [hact]) (by simp [hact])) hcalls (by simp [nextCalls])
    | some action =>
        cases action with
        | «open» => exact h.opened monitor hact (hopts hact) (hspare hact) hi hio
        | resolve =>
            -- the calls are about the incident that was resolved, and `i` is another one
            rw [hrows, hact] at hi
            obtain ⟨hi, hne⟩ := mem_of_resolved faults hi hio
            refine (h.voiced i hi hio).mono (incidentStep_notices faults monitor outcome opts decision
              db (by simp [hact]) fun _ hf j hj => by simpa using hne hf j hj) hcalls ?_
            intro call hcall
            obtain ⟨ho, -⟩ | ⟨-, -, hf, j, hfind, hid⟩ := nextCalls_cases hcall
            · simp [hact] at ho
            · rw [hid]
              exact hne hf j hfind

end

/-! ## runs -/

/-- The incident a contact resolves. -/
def Contact.resolves (c : Contact) (db : Db) : Option Incident :=
  match c.call db.monitor with
  | none => none
  | some call =>
      if call.action db = some .resolve ∧ call.faults .incidentUpdate = false then
        findOpen db.monitor.id db.incidents
      else none

/-- The dispatcher calls a contact makes. -/
def Db.newCalls (db : Db) (c : Contact) : List DispatchCall :=
  (db.contact c).dispatched.drop db.dispatched.length

/-- The notifications of one contact are paired: it says `resolved` only of incidents of
which `opened` was said before, and says so, on the same routes, of every incident it
resolves that `opened` was said of. -/
def Paired (db : Db) (c : Contact) : Prop :=
  (∀ call ∈ db.newCalls c, call.kind = .resolved →
    ∃ route, ⟨route, .opened, call.incidentId⟩ ∈ db.dispatched) ∧
  ∀ i ∈ db.incidents, i.isOpen db.monitor.id = true →
    Race.statusOf i.id (db.contact c).incidents = some .resolved →
      ∀ route, ⟨route, .opened, i.id⟩ ∈ db.dispatched → ⟨route, .resolved, i.id⟩ ∈ db.newCalls c

/-- A worker resolves no incident whose alert was suppressed, and a heartbeat resolves
no other. -/
def TellsRight (db : Db) (c : Contact) : Prop :=
  ∀ i ∈ c.resolves db,
    match c with
    | .worker _ => ¬ Marked db i.id
    | .heartbeat _ _ => Marked db i.id

instance (db : Db) (c : Contact) : Decidable (TellsRight db c) := by
  cases c <;> unfold TellsRight <;> infer_instance

/-- Nothing fails in the contact between its incident write and its dispatches. -/
def GoesThrough (db : Db) (c : Contact) : Prop :=
  ∀ call, c.call db.monitor = some call →
    Uncut call.faults call.opts (db.boundChannels db.monitor.id) (call.action db)

section
variable {db : Db} {c : Contact} {call : PipelineCall}

theorem mem_resolves {i : Incident} :
    i ∈ c.resolves db ↔
      ∃ call, c.call db.monitor = some call ∧ call.action db = some .resolve ∧
        call.faults .incidentUpdate = false ∧ findOpen db.monitor.id db.incidents = some i := by
  rw [Contact.resolves, Option.mem_def]
  cases c.call db.monitor with
  | none => simp
  | some call =>
      simp only [Option.some.injEq, exists_eq_left']
      split
      · next h => simp [h]
      · next h => simpa using fun ha hf => absurd ⟨ha, hf⟩ h

/-- Whether a contact passes the dispatchers. -/
def Contact.passes : Contact → Bool
  | .worker _ => true
  | .heartbeat _ _ => false

/-- A contact passes both dispatchers or neither. -/
theorem call_opts (hc : c.call db.monitor = some call) :
    call.opts.alerts = c.passes ∧ call.opts.integrations = c.passes := by
  cases c <;> simp only [Contact.call] at hc <;> split at hc <;>
    simp only [Option.some.injEq, reduceCtorEq] at hc <;> subst hc <;> exact ⟨rfl, rfl⟩

/-- Only a worker's check opens an incident. -/
theorem passes_of_open (hc : c.call db.monitor = some call) (ho : call.action db = some .open) :
    c.passes = true := by
  cases c with
  | worker a => rfl
  | heartbeat now faults =>
      simp only [Contact.call] at hc
      split at hc
      · rw [← Option.some.inj hc, PipelineCall.action] at ho
        split at ho
        · have hfail := (transition_open_iff.mp ho).2.1
          simp [pingOutcome, isSuccessStatus] at hfail
        · simp at ho
      · simp at hc

/-- What a contact does to the incident table and the call log. -/
theorem contact_spec (h : Voiced db.monitor.id db) (hc : c.call db.monitor = some call)
    (hu : Uncut call.faults call.opts (db.boundChannels db.monitor.id) (call.action db)) :
    (db.contact c).monitor.id = db.monitor.id ∧
      (db.contact c).incidents = nextIncidents call.faults (toSnapshot db.monitor) call.outcome
        call.opts.now (call.action db) db.incidents ∧
      (db.contact c).dispatched = db.dispatched ++
        nextCalls call.faults (toSnapshot db.monitor) call.outcome call.opts
          (db.detectFlapping db.monitor.id call.opts.now) (call.action db) db.incidents ∧
      Voiced db.monitor.id (db.contact c) := by
  have heq : db.contact c = call.run db := by rw [contact_eq, hc]
  have hid : (db.contact c).monitor.id = db.monitor.id := by
    rw [heq]
    exact processCheckResult_id _ _ _ _ db
  refine ⟨hid, ?_⟩
  have hopen : call.action db = some .open → call.opts.alerts = true ∧ call.opts.integrations = true :=
    fun ho => by rw [← passes_of_open hc ho]; exact call_opts hc
  rw [heq, PipelineCall.run]
  cases hr : call.faults.reachesRow with
  | false =>
      obtain ⟨results, hrun⟩ := processCheckResult_unreached call.faults (toSnapshot db.monitor)
        call.outcome call.opts hr db
      simp only [hrun, PipelineCall.action, hr, Bool.false_eq_true, if_false]
      exact ⟨rfl, by simp [nextCalls], ⟨⟨h.notified.incidents, h.notified.known,
        h.notified.channels, h.notified.delivered⟩, h.knownCalls, h.voiced⟩⟩
  | true =>
      have hact : call.action db = (call.decision db).incident := by
        rw [PipelineCall.action, if_pos hr]
      rw [hact] at hu hopen ⊢
      rw [processCheckResult_reached _ _ _ _ hr, Eff.map_run_snd]
      have hrec : Voiced db.monitor.id (db.recorded (toSnapshot db.monitor) call.outcome call.opts
          (call.decision db)) := ⟨h.notified.recorded _ _ _ _, h.knownCalls, h.voiced⟩
      exact ⟨(incidentStep_rows _ _ _ _ _ _).2, incidentStep_calls (toSnapshot db.monitor) _ hu,
        Voiced.kept (toSnapshot db.monitor) hrec hopen hu⟩

/-- An open incident that is still in the table is not resolved. -/
theorem statusOf_ne_resolved {rows : List Incident} {m : MonitorId}
    (hn : (rows.map Incident.id).Nodup) {i : Incident} (hi : i ∈ rows) (hio : i.isOpen m = true) :
    Race.statusOf i.id rows ≠ some .resolved := by
  rw [Race.statusOf_of_mem hn hi]
  simpa using (Incident.isOpen_iff.mp hio).2

/-- A contact that resolves nothing is paired. -/
theorem paired_of_not_resolves
    (hcalls : ∀ call ∈ db.newCalls c, call.kind = .opened)
    (hok : ((db.contact c).incidents.map Incident.id).Nodup)
    (hkept : ∀ i ∈ db.incidents, i.isOpen db.monitor.id = true → i ∈ (db.contact c).incidents) :
    Paired db c := by
  constructor
  · intro call hcall hk
    rw [hcalls call hcall] at hk
    simp at hk
  · intro i hi hio hres
    exact absurd hres (statusOf_ne_resolved hok (hkept i hi hio) hio)

theorem newCalls_eq {calls : List DispatchCall}
    (h : (db.contact c).dispatched = db.dispatched ++ calls) : db.newCalls c = calls := by
  rw [Db.newCalls, h, List.drop_left]

/-- The one incident a contact resolves decides whether it tells right. -/
theorem tellsRight_iff {i : Incident} (hi : i ∈ c.resolves db) :
    TellsRight db c ↔ (c.passes = true ↔ ¬ Marked db i.id) := by
  have hone : ∀ j ∈ c.resolves db, j = i := fun j hj => Option.mem_unique hj hi
  cases c with
  | worker a =>
      have hpasses : (Contact.worker a).passes = true := rfl
      simp only [hpasses, true_iff]
      exact ⟨fun h => h i hi, fun h j hj => hone j hj ▸ h⟩
  | heartbeat now faults =>
      have hpasses : (Contact.heartbeat now faults).passes = false := rfl
      simp only [hpasses, Bool.false_eq_true, false_iff, not_not]
      exact ⟨fun h => h i hi, fun h j hj => hone j hj ▸ h⟩

/-- A contact that resolves an incident is paired exactly when it passes the dispatchers
and the incident was announced, or passes none and it was not. -/
theorem paired_resolve_iff (h : Voiced db.monitor.id db) {i : Incident}
    (hf : findOpen db.monitor.id db.incidents = some i) {now : Instant} {duration : Int}
    (hrows : (db.contact c).incidents = resolveRow i.id now duration db.incidents)
    {opts : ProcessOptions} {passes : Bool} (hopts : opts.alerts = passes ∧ opts.integrations = passes)
    (hcalls : db.newCalls c = opts.calls .resolved i.id) :
    Paired db c ↔ (passes = true ↔ ¬ Marked db i.id) := by
  obtain ⟨hi, hio⟩ := findLatest_some hf
  have hopened : ∀ route, ⟨route, .opened, i.id⟩ ∈ db.dispatched ↔ ¬ Marked db i.id :=
    (h.voiced i hi hio).opened_iff
  have hres : Race.statusOf i.id (db.contact c).incidents = some .resolved := by
    have hok := h.notified.incidents.resolveRow now i.id duration
    have hmem : i.resolve now duration ∈ resolveRow i.id now duration db.incidents :=
      mem_updateWhere.mpr (.inl ⟨i, hi, by simp, rfl⟩)
    rw [hrows]
    exact Race.statusOf_of_mem hok.ids hmem
  rw [Paired, hcalls]
  cases passes with
  | false =>
      have hnone : opts.calls .resolved i.id = [] :=
        calls_of_isSilent (by simp [ProcessOptions.isSilent, hopts]) _ _
      rw [hnone]
      constructor
      · rintro ⟨-, hp⟩
        refine ⟨fun h => by simp at h, fun hm => ?_⟩
        have hsaid := hp i hi hio hres .alerts ((hopened .alerts).mpr hm)
        simp at hsaid
      · intro hq
        have hm : Marked db i.id := by
          by_contra hm
          simpa using hq.mpr hm
        refine ⟨by simp, fun j hj hjo _ route hsaid => ?_⟩
        obtain rfl : i = j := h.notified.incidents.open_unique hi hj hio hjo
        exact absurd hm ((hopened route).mp hsaid)
  | true =>
      have hboth : ∀ route, ⟨route, .resolved, i.id⟩ ∈ opts.calls .resolved i.id := by
        intro route
        cases route <;> simp [ProcessOptions.calls, hopts]
      constructor
      · rintro ⟨hp, -⟩
        obtain ⟨route, hsaid⟩ := hp _ (hboth .alerts) rfl
        exact ⟨fun _ => (hopened route).mp hsaid, fun _ => rfl⟩
      · intro hq
        have hm := hq.mp rfl
        refine ⟨fun call hmem _ => ⟨.alerts, ?_⟩, fun j hj hjo _ route _ => ?_⟩
        · rw [(mem_calls hmem).2]
          exact (hopened .alerts).mpr hm
        · obtain rfl : i = j := h.notified.incidents.open_unique hi hj hio hjo
          exact hboth route

/-- A contact that resolves no incident rewrites no open one, and says `opened` at most. -/
theorem kept_of_not_resolves (h : Voiced db.monitor.id db) (hc : c.call db.monitor = some call)
    (hnot : ∀ i, i ∉ c.resolves db) (flapping : Bool) :
    (∀ d ∈ nextCalls call.faults (toSnapshot db.monitor) call.outcome call.opts flapping
        (call.action db) db.incidents, d.kind = .opened) ∧
      ∀ i ∈ db.incidents, i.isOpen db.monitor.id = true →
        i ∈ nextIncidents call.faults (toSnapshot db.monitor) call.outcome call.opts.now
          (call.action db) db.incidents := by
  constructor
  · intro d hd
    obtain ⟨-, hkind, -⟩ | ⟨hact, -, hf, i, hfind, -⟩ := nextCalls_cases hd
    · exact hkind
    · exact absurd (mem_resolves.mpr ⟨call, hc, hact, hf, hfind⟩) (hnot i)
  · intro i hi hio
    by_cases hact : call.action db = some .resolve
    · obtain ⟨j, hj⟩ := Option.ne_none_iff_exists'.mp fun hnone =>
        h.notified.incidents.findOpen_eq_none_iff.mp hnone
          (h.notified.incidents.openDown_iff.mpr ⟨i, hi, hio⟩)
      cases hf : call.faults .incidentUpdate with
      | true => simpa [nextIncidents, hact, hf] using hi
      | false => exact absurd (mem_resolves.mpr ⟨call, hc, hact, hf, hj⟩) (hnot j)
    · exact mem_nextIncidents _ _ hi hact

/-- **Step equivalence**: a contact is paired exactly when the one who resolves knows what
was said. -/
theorem paired_iff (h : Voiced db.monitor.id db) (hg : GoesThrough db c) :
    Paired db c ↔ TellsRight db c := by
  cases hc : c.call db.monitor with
  | none =>
      have heq : db.contact c = db := by rw [contact_eq, hc]
      have hnone : TellsRight db c := by
        intro i hi
        simp [Contact.resolves, hc] at hi
      refine iff_of_true (paired_of_not_resolves ?_ ?_ ?_) hnone
      · simp [Db.newCalls, heq]
      · rw [heq]; exact h.notified.incidents.ids
      · rw [heq]; exact fun i hi _ => hi
  | some call =>
      obtain ⟨-, hrows, hcalls, hvoiced⟩ := contact_spec h hc (hg call hc)
      have hnew := newCalls_eq hcalls
      by_cases hres : ∃ i, i ∈ c.resolves db
      · obtain ⟨i, hself⟩ := hres
        obtain ⟨call', hc', hact, hf, hfind⟩ := mem_resolves.mp hself
        obtain rfl : call = call' := by simpa [hc] using hc'
        have hfind' : findOpen (toSnapshot db.monitor).id db.incidents = some i := hfind
        simp only [hact, nextIncidents, nextCalls, hf, hfind', Bool.false_eq_true, if_false]
          at hrows hnew
        rw [paired_resolve_iff h hfind hrows (call_opts hc) hnew, tellsRight_iff hself]
      · rw [not_exists] at hres
        obtain ⟨hkind, hkept⟩ := kept_of_not_resolves h hc hres
          (db.detectFlapping db.monitor.id call.opts.now)
        refine iff_of_true (paired_of_not_resolves ?_ hvoiced.notified.incidents.ids ?_)
          (fun i hi => absurd hi (hres i))
        · rw [hnew]; exact hkind
        · rw [hrows]; exact hkept

/-- A contact that is not cut off keeps the invariant. -/
theorem voiced_contact (h : Voiced db.monitor.id db) (hg : GoesThrough db c) :
    Voiced (db.contact c).monitor.id (db.contact c) := by
  cases hc : c.call db.monitor with
  | none =>
      rw [contact_eq, hc]
      exact h
  | some call =>
      obtain ⟨hid, -, -, hvoiced⟩ := contact_spec h hc (hg call hc)
      rw [hid]
      exact hvoiced

end

/-- **Pairing**: from a freshly created monitor, in every run of checks and pings that are
not cut off, notifications are paired exactly when no worker resolves an incident whose
alert was suppressed and no ping resolves one whose alert was sent. -/
theorem paired_along_iff (db : Db) (contacts : List Contact) (hf : Fresh db) (hk : ForeignKeys db)
    (hlog : db.dispatched = []) (hg : Along Db.contact GoesThrough db contacts) :
    Along Db.contact Paired db contacts ↔ Along Db.contact TellsRight db contacts := by
  have hinv : Voiced db.monitor.id db :=
    { notified := (hf.told hk).notified
      knownCalls := by simp [hlog]
      voiced := fun i hi hio => absurd (Incident.isOpen_iff.mp hio).1 (hf.noIncidents i hi) }
  exact along_congr (I := fun db => Voiced db.monitor.id db) (fun _ _ h hg => voiced_contact h hg)
    (fun _ _ h hg => paired_iff h hg) hinv hg

def Contact.faults : Contact → Faults
  | .worker a => a.faults
  | .heartbeat _ faults => faults

/-- Where nothing fails, nothing is cut off. -/
theorem goesThrough_of_noFaults {contacts : List Contact}
    (h : ∀ c ∈ contacts, c.faults = noFaults) (db : Db) :
    Along Db.contact GoesThrough db contacts := by
  induction contacts generalizing db with
  | nil => trivial
  | cons c contacts ih =>
      refine ⟨fun call hc => ?_, ih (fun c hc => h c (by simp [hc])) _⟩
      have hcall : call.faults = noFaults := by
        have hc' := h c (by simp)
        cases c <;> simp only [Contact.call] at hc <;> split at hc <;>
          simp only [Option.some.injEq, reduceCtorEq] at hc <;> rw [← hc] <;> exact hc'
      rw [hcall]
      cases call.action db with
      | none => trivial
      | some action =>
          cases action with
          | «open» => exact ⟨rfl, rfl, rfl, rfl, fun _ _ => ⟨rfl, rfl⟩⟩
          | resolve => exact .inr ⟨rfl, fun _ _ => ⟨rfl, rfl⟩⟩

def workerAt (now : Instant) (status : CheckStatus) : Contact :=
  .worker { job := 0, now, probe := { status } }

/-- One outage, announced and resolved by the worker. -/
theorem paired_outage :
    Along Db.contact Paired pagedMonitor [workerAt 0 .down, workerAt 1 .up] :=
  (paired_along_iff pagedMonitor _ fresh_pagedMonitor foreignKeys_pagedMonitor rfl
    (goesThrough_of_noFaults (by simp [Contact.faults, workerAt]) _)).mpr (by decide)

/-- Three outages within half an hour, and a fourth one whose alert is suppressed. -/
def flappingOutages : List Contact :=
  [workerAt 0 .down, workerAt 1 .up, workerAt 2 .down, workerAt 3 .up, workerAt 4 .down,
    workerAt 5 .up, workerAt 6 .down]

/-- A heartbeat monitor. -/
def heartbeatMonitor : Db :=
  { monitor := { id := "m", organizationId := "o", name := "cron", type := .heartbeat } }

/-- A recovery is announced of an outage nobody was told about, and another one is not
announced to those who were. -/
theorem not_paired_flapping :
    ¬ Along Db.contact Paired pagedMonitor (flappingOutages ++ [workerAt 7 .up]) ∧
      ¬ Along Db.contact Paired heartbeatMonitor
        ([workerAt 0 .down] ++ [.heartbeat 1 noFaults]) := by
  constructor
  · rw [along_append]
    rintro ⟨-, ⟨hp, -⟩, -⟩
    obtain ⟨route, hopened⟩ := hp ⟨.alerts, .resolved, 3⟩ (by decide) rfl
    revert hopened
    cases route <;> decide
  · rw [along_append]
    rintro ⟨-, ⟨-, hp⟩, -⟩
    let opened := run Db.contact heartbeatMonitor [workerAt 0 .down]
    have hresolved := hp (newIncident (toSnapshot opened.monitor) { status := .down } 0 0)
      (by decide) (by decide) (by decide) .alerts (by decide)
    exact absurd hresolved (by decide)

end UptimeFlow.Monitoring
