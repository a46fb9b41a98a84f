import UptimeFlow.Monitoring.Incidents

/-!
# UptimeFlow.Monitoring.Interleaving

Check jobs of one monitor that run side by side, one for each region.

A job loads the monitor, runs its probe, writes the monitor row — health and
counters as absolute values computed from what it loaded — and then opens or
resolves the incident.  Nothing locks the row or checks its version, so jobs
interleave at will and an update can be lost.  The row write is where a job
takes effect: when every row write still finds what its job loaded, and the
incident steps that act follow one another as the row writes did, the run ends
where the jobs end when they run one after another in that order.
-/

namespace UptimeFlow.Monitoring

open Tables Runs

/-! ## jobs and their steps -/

/-- A check job: the outcome of its probe, and the options of its pipeline call. -/
structure CheckJob where
  outcome : ProbeOutcome
  opts : ProcessOptions
deriving DecidableEq, Repr

/-- The job on its own, start to end. -/
def Db.runJob (db : Db) (job : CheckJob) : Db :=
  ((checkProcessor noFaults job.outcome job.opts).run db).2

/-- A job that has loaded the monitor. -/
structure Loaded where
  job : CheckJob
  monitor : MonitorSnapshot
deriving DecidableEq, Repr

/-- A job that has written the monitor row and has its incident step to go. -/
structure Written where
  job : CheckJob
  monitor : MonitorSnapshot
  decision : TransitionResult
deriving DecidableEq, Repr

/-- The database and the jobs on their way, with the jobs that have taken effect so far. -/
structure Workers where
  db : Db
  loaded : List Loaded := []
  written : List Written := []
  order : List CheckJob := []
deriving DecidableEq, Repr

inductive JobStep where
  | load (job : CheckJob)
  /-- The `k`-th loaded job writes its check result and the monitor row. -/
  | write (k : Nat)
  /-- The `k`-th of the jobs that have written takes its incident step. -/
  | act (k : Nat)
deriving DecidableEq, Repr

def Workers.step (s : Workers) : JobStep → Workers
  | .load job =>
      if s.db.monitor.isChecked then
        { s with loaded := s.loaded ++ [⟨job, toSnapshot s.db.monitor⟩] }
      else { s with order := s.order ++ [job] }
  | .write k =>
      match s.loaded[k]? with
      | none => s
      | some l =>
          let decision := s.db.decision l.monitor l.job.outcome l.job.opts
          { db := ((recordCheck noFaults l.monitor l.job.outcome l.job.opts decision).run s.db).2
            loaded := s.loaded.eraseIdx k
            written := s.written ++ [⟨l.job, l.monitor, decision⟩]
            order := s.order ++ [l.job] }
  | .act k =>
      match s.written[k]? with
      | none => s
      | some w =>
          { s with
            db := ((incidentStep noFaults w.monitor w.job.outcome w.job.opts w.decision).run s.db).2
            written := s.written.eraseIdx k }

/-- The jobs that start in a run. -/
def jobsOf (steps : List JobStep) : List CheckJob :=
  steps.filterMap fun
    | .load job => some job
    | _ => none

/-- No job is under way any more. -/
def Workers.done (s : Workers) : Prop := s.loaded = [] ∧ s.written = []

instance (s : Workers) : Decidable s.done := inferInstanceAs (Decidable (_ ∧ _))

/-- The monitor's incidents that are not resolved. -/
def Db.openIncidents (db : Db) : List Incident :=
  db.incidents.filter (Incident.isOpen db.monitor.id)

/-- Same health, same counters, same open incidents. -/
def Agree (a b : Db) : Prop :=
  a.monitor.health = b.monitor.health ∧
    a.monitor.consecutiveFailures = b.monitor.consecutiveFailures ∧
    a.monitor.consecutiveSuccesses = b.monitor.consecutiveSuccesses ∧
    a.openIncidents = b.openIncidents

instance (a b : Db) : Decidable (Agree a b) := inferInstanceAs (Decidable (_ ∧ _ ∧ _ ∧ _))

/-- Once all its jobs are done, the run ends where they end one after another in some
order. -/
def Serializable (db : Db) (steps : List JobStep) : Prop :=
  (run Workers.step ⟨db, [], [], []⟩ steps).done →
    ∃ order : List CheckJob, order.Perm (jobsOf steps) ∧
      Agree (run Workers.step ⟨db, [], [], []⟩ steps).db (run Db.runJob db order)

/-! ## runs in which no update is lost -/

/-- A row write finds the monitor as its job loaded it, and a job acts on the incidents
after the jobs that wrote before it. -/
def InOrder (s : Workers) : JobStep → Prop
  | .load _ => True
  | .write k => ∀ l ∈ s.loaded[k]?, toSnapshot s.db.monitor = l.monitor
  | .act k => ∀ w ∈ s.written[k]?, w.decision.incident ≠ none →
      ∀ w' ∈ s.written.take k, w'.decision.incident = none

instance (s : Workers) (step : JobStep) : Decidable (InOrder s step) := by
  cases step <;> unfold InOrder <;> infer_instance

/-- What an incident step still to come does to the incident table. -/
def Written.act (rows : List Incident) (w : Written) : List Incident :=
  nextIncidents noFaults w.monitor w.job.outcome w.job.opts.now w.decision.incident rows

/-- The database is on its way to that of the serial run: the monitor row is there, and
the incidents will be when the pending incident steps have been taken. -/
structure Simulates (db : Db) (s : Workers) : Prop where
  monitor : s.db.monitor = (run Db.runJob db s.order).monitor
  windows : s.db.maintenanceWindows = (run Db.runJob db s.order).maintenanceWindows
  incidents : s.written.foldl Written.act s.db.incidents = (run Db.runJob db s.order).incidents
  checked : s.loaded ≠ [] → s.db.monitor.isChecked = true

theorem windows_incidentStep (w : Written) (db : Db) :
    ((incidentStep noFaults w.monitor w.job.outcome w.job.opts w.decision).run
      db).2.maintenanceWindows = db.maintenanceWindows :=
  incidentStep_config noFaults w.monitor w.job.outcome w.job.opts
    Db.maintenanceWindows (fun _ _ _ _ _ _ _ _ _ => rfl) (fun _ _ => rfl) w.decision db

/-- The job on its own, on a monitor that is checked. -/
theorem runJob_of_isChecked (job : CheckJob) (db : Db) (h : db.monitor.isChecked = true) :
    (db.runJob job).monitor = db.monitor.afterCheck (toSnapshot db.monitor) job.outcome job.opts
        (db.decision (toSnapshot db.monitor) job.outcome job.opts) ∧
      (db.runJob job).maintenanceWindows = db.maintenanceWindows ∧
      (db.runJob job).incidents = nextIncidents noFaults (toSnapshot db.monitor) job.outcome
        job.opts.now (db.decision (toSnapshot db.monitor) job.outcome job.opts).incident
          db.incidents := by
  have hrun : db.runJob job =
      ((processCheckResult noFaults (toSnapshot db.monitor) job.outcome job.opts).run db).2 := by
    rw [Db.runJob, checkProcessor_checks _ _ _ h, Eff.map_run_snd]
  obtain ⟨hm, hi⟩ := processCheckResult_rows noFaults (toSnapshot db.monitor) job.outcome job.opts db
  rw [hrun]
  refine ⟨hm, ?_, hi⟩
  exact processCheckResult_config noFaults (toSnapshot db.monitor) job.outcome job.opts
    Db.maintenanceWindows (fun _ _ _ _ _ _ _ _ _ => rfl) (fun _ _ => rfl)
    (fun _ _ _ => rfl) db

theorem runJob_of_not_isChecked (job : CheckJob) {db : Db} (h : db.monitor.isChecked = false) :
    db.runJob job = db := by
  obtain ⟨reason, hrun⟩ := checkProcessor_skips noFaults job.outcome job.opts h
  rw [Db.runJob, hrun]

theorem run_concat (db : Db) (order : List CheckJob) (job : CheckJob) :
    run Db.runJob db (order ++ [job]) = (run Db.runJob db order).runJob job := by
  rw [run_append]
  rfl

/-- The decision of a check depends on the maintenance windows alone. -/
theorem decision_congr {a b : Db} (h : a.maintenanceWindows = b.maintenanceWindows)
    (monitor : MonitorSnapshot) (outcome : ProbeOutcome) (opts : ProcessOptions) :
    a.decision monitor outcome opts = b.decision monitor outcome opts := by
  simp only [Db.decision, Db.isInMaintenance, h]

theorem act_of_none {w : Written} (h : w.decision.incident = none) (rows : List Incident) :
    w.act rows = rows := by
  rw [Written.act, h, nextIncidents_none]

/-- Incident steps that ask for nothing change nothing. -/
theorem foldl_act_of_none {ws : List Written} (h : ∀ w ∈ ws, w.decision.incident = none)
    (rows : List Incident) : ws.foldl Written.act rows = rows := by
  induction ws generalizing rows with
  | nil => rfl
  | cons w ws ih =>
      rw [List.foldl_cons, act_of_none (h w (by simp))]
      exact ih (fun w hw => h w (by simp [hw])) rows

/-- The entry at `k`, between those before and those after it. -/
theorem split_at {α : Type} {xs : List α} {k : Nat} {x : α} (h : xs[k]? = some x) :
    xs = xs.take k ++ x :: xs.drop (k + 1) ∧ xs.eraseIdx k = xs.take k ++ xs.drop (k + 1) := by
  obtain ⟨hk, rfl⟩ := List.getElem?_eq_some_iff.mp h
  refine ⟨?_, List.eraseIdx_eq_take_drop_succ xs k⟩
  rw [← List.drop_eq_getElem_cons hk, List.take_append_drop]

/-- **Simulation**: each step in order keeps the run on its way to the serial one. -/
theorem Simulates.step {db : Db} {s : Workers} (h : Simulates db s) {step : JobStep}
    (hs : InOrder s step) : Simulates db (s.step step) := by
  cases step with
  | load job =>
      rw [Workers.step]
      split
      · next hck => exact ⟨h.monitor, h.windows, h.incidents, fun _ => hck⟩
      · next hck =>
          have hserial : (run Db.runJob db s.order).monitor.isChecked = false := by
            rw [← h.monitor]
            simpa using hck
          have hrun := (run_concat db s.order job).trans (runJob_of_not_isChecked job hserial)
          exact ⟨by rw [hrun]; exact h.monitor, by rw [hrun]; exact h.windows,
            by rw [hrun]; exact h.incidents, h.checked⟩
  | write k =>
      rw [Workers.step]
      cases hk : s.loaded[k]? with
      | none => exact h
      | some l =>
          have hck : s.db.monitor.isChecked = true := h.checked fun hnil => by simp [hnil] at hk
          have hl : l.monitor = toSnapshot s.db.monitor := (hs l hk).symm
          obtain ⟨hm, hw, hi⟩ := runJob_of_isChecked l.job (run Db.runJob db s.order)
            (by rw [← h.monitor]; exact hck)
          rw [← h.monitor, ← decision_congr h.windows] at hm hi
          simp only [hl]
          refine ⟨?_, ?_, ?_, fun _ => hck⟩
          · rw [run_concat, hm]
            rfl
          · rw [run_concat, hw]
            exact h.windows
          · rw [run_concat, hi, List.foldl_append, List.foldl_cons, List.foldl_nil, ← h.incidents]
            rfl
  | act k =>
      rw [Workers.step]
      cases hk : s.written[k]? with
      | none => exact h
      | some w =>
          obtain ⟨hrow, hinc⟩ := incidentStep_rows noFaults w.monitor w.job.outcome w.job.opts
            w.decision s.db
          obtain ⟨hsplit, herase⟩ := split_at hk
          refine ⟨hrow.trans h.monitor, (windows_incidentStep w s.db).trans h.windows, ?_, ?_⟩
          · rw [← h.incidents, hinc]
            conv_rhs => rw [hsplit]
            rw [herase, List.foldl_append, List.foldl_append, List.foldl_cons]
            by_cases hnone : w.decision.incident = none
            · rw [act_of_none hnone, hnone, nextIncidents_none]
            · have hbefore := foldl_act_of_none (hs w hk hnone)
              rw [hbefore, hbefore]
              rfl
          · intro hne
            rw [hrow]
            exact h.checked hne

/-- A step loses no job: those that have taken effect and those still loaded are the jobs
started so far. -/
theorem perm_step (s : Workers) (step : JobStep) :
    ((s.step step).order ++ (s.step step).loaded.map Loaded.job).Perm
      (s.order ++ s.loaded.map Loaded.job ++ jobsOf [step]) := by
  cases step with
  | load job =>
      rw [Workers.step]
      split
      · simp [jobsOf]
      · have hswap : ([job] ++ s.loaded.map Loaded.job).Perm (s.loaded.map Loaded.job ++ [job]) :=
          List.perm_append_comm
        simpa [jobsOf] using hswap.append_left s.order
  | write k =>
      rw [Workers.step]
      cases hk : s.loaded[k]? with
      | none => simp [jobsOf]
      | some l =>
          obtain ⟨hsplit, herase⟩ := split_at hk
          simp only [jobsOf, List.filterMap_cons, List.filterMap_nil, List.append_nil, herase]
          conv_rhs => rw [hsplit]
          simp only [List.map_append, List.map_cons, List.append_assoc, List.singleton_append]
          refine List.Perm.append_left s.order ?_
          exact List.perm_middle.symm
  | act k =>
      rw [Workers.step]
      cases s.written[k]? <;> simp [jobsOf]

theorem perm_run (s : Workers) (steps : List JobStep) :
    ((run Workers.step s steps).order ++ (run Workers.step s steps).loaded.map Loaded.job).Perm
      (s.order ++ s.loaded.map Loaded.job ++ jobsOf steps) := by
  induction steps generalizing s with
  | nil => simp [jobsOf]
  | cons step steps ih =>
      have hsplit : jobsOf (step :: steps) = jobsOf [step] ++ jobsOf steps := by
        rw [jobsOf, jobsOf, jobsOf, ← List.filterMap_append]
        rfl
      rw [run_cons, hsplit, ← List.append_assoc]
      exact (ih (s.step step)).trans ((perm_step s step).append_right _)

/-- **Interleaving**: a run of jobs in which every row write finds the monitor as its job
loaded it, and the jobs act on the incidents in the order of their row writes, ends where
the jobs end one after another in that order. -/
theorem serial_of_inOrder (db : Db) (steps : List JobStep)
    (hdone : (run Workers.step ⟨db, [], [], []⟩ steps).done)
    (hs : Along Workers.step InOrder ⟨db, [], [], []⟩ steps) :
    (run Workers.step ⟨db, [], [], []⟩ steps).order.Perm (jobsOf steps) ∧
      Agree (run Workers.step ⟨db, [], [], []⟩ steps).db
        (run Db.runJob db (run Workers.step ⟨db, [], [], []⟩ steps).order) := by
  have hstart : Simulates db ⟨db, [], [], []⟩ := ⟨rfl, rfl, rfl, by simp⟩
  have hend : Simulates db (run Workers.step ⟨db, [], [], []⟩ steps) :=
    inv_run (I := Simulates db) (fun _ _ h hs => h.step hs) hstart hs
  have hperm := perm_run ⟨db, [], [], []⟩ steps
  obtain ⟨hloaded, hwritten⟩ := hdone
  refine ⟨by simpa [hloaded] using hperm, ?_⟩
  have hinc := hend.incidents
  rw [hwritten, List.foldl_nil] at hinc
  rw [Agree, Db.openIncidents, Db.openIncidents, hinc, hend.monitor]
  exact ⟨rfl, rfl, rfl, rfl⟩

/-- A monitor that two failures in a row take down. -/
def twoStrikes : Db :=
  { monitor :=
      { id := "m", organizationId := "o", name := "api", type := .http, failureThreshold := 2 } }

def failingJob (region : ProbeRegion) : CheckJob :=
  { outcome := { status := .down }, opts := { region, now := 0 } }

/-- The second job loads what the first one wrote, and acts after it. -/
theorem serial_twoStrikes :
    let steps := [.load (failingJob .naEast), .write 0, .load (failingJob .euWest), .write 0,
      .act 0, .act 0]
    (run Workers.step ⟨twoStrikes, [], [], []⟩ steps).order.Perm (jobsOf steps) ∧
      Agree (run Workers.step ⟨twoStrikes, [], [], []⟩ steps).db
        (run Db.runJob twoStrikes (run Workers.step ⟨twoStrikes, [], [], []⟩ steps).order) :=
  serial_of_inOrder twoStrikes _ (by decide) (by decide)

/-- Both jobs load the monitor before either of them writes. -/
def lostFailure : List JobStep :=
  [.load (failingJob .naEast), .load (failingJob .euWest), .write 0, .write 0, .act 0, .act 0]

/-- One of the two failures is lost: in either order they open an incident, and here they
count as one. -/
theorem not_serializable_lostFailure : ¬ Serializable twoStrikes lostFailure := by
  intro h
  obtain ⟨order, hperm, hagree⟩ := h (by decide)
  have hjobs : jobsOf lostFailure = [failingJob .naEast, failingJob .euWest] := rfl
  rw [hjobs] at hperm
  obtain ⟨x, y, rfl⟩ := List.length_eq_two.mp hperm.length_eq
  have hx : x ∈ [failingJob .naEast, failingJob .euWest] := hperm.subset (by simp)
  have hy : y ∈ [failingJob .naEast, failingJob .euWest] := hperm.subset (by simp)
  simp only [List.mem_cons, List.not_mem_nil, or_false] at hx hy
  revert hagree
  rcases hx with rfl | rfl <;> rcases hy with rfl | rfl <;> decide

end UptimeFlow.Monitoring
