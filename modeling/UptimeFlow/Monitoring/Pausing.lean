import UptimeFlow.Monitoring.Health
import UptimeFlow.Monitoring.Interleaving

/-!
# UptimeFlow.Monitoring.Pausing

A paused monitor, and the jobs and pings that do not know of it.

A check job looks at the monitor's state once, where it loads the monitor; a
heartbeat ping does not look at it at all.  Whatever writes the monitor row
while it is paused leaves a health that is not PAUSED, so a pause holds exactly
when nothing does, and when no job that wrote before still has an incident to
open or resolve (`pauseHolds_along_iff`).
-/

namespace UptimeFlow.Monitoring

open Tables Runs

/-! ## the operations -/

inductive PauseOp where
  /-- A step of a check job, or of a ping once it has loaded the monitor. -/
  | job (step : JobStep)
  /-- A heartbeat ping loads the monitor. -/
  | ping (now : Instant) (alerts : Bool) (region : ProbeRegion)
  | pause
  | resume
deriving DecidableEq, Repr

/-- A ping goes on as a check job does: it writes the row, and then takes its incident step. -/
def pingJob (now : Instant) (alerts : Bool) (region : ProbeRegion) : CheckJob :=
  ⟨pingOutcome, pingOptions now alerts region⟩

def Workers.pauseStep (s : Workers) : PauseOp → Workers
  | .job step => s.step step
  | .ping now alerts region =>
      if s.db.monitor.type = .heartbeat ∧ s.db.monitor.deletedAt = none then
        { s with loaded := s.loaded ++ [⟨pingJob now alerts region, toSnapshot s.db.monitor⟩] }
      else s
  | .pause => { s with db := s.db.pause }
  | .resume => { s with db := s.db.resume }

/-! ## the law -/

/-- The step of a job or a ping, as opposed to an operator's. -/
def PauseOp.isWork : PauseOp → Bool
  | .job _ | .ping .. => true
  | .pause | .resume => false

/-- Same health, same counters, same incidents. -/
def SameStanding (a b : Db) : Prop :=
  a.monitor.health = b.monitor.health ∧
    a.monitor.consecutiveFailures = b.monitor.consecutiveFailures ∧
    a.monitor.consecutiveSuccesses = b.monitor.consecutiveSuccesses ∧ a.incidents = b.incidents

theorem SameStanding.refl (db : Db) : SameStanding db db := ⟨rfl, rfl, rfl, rfl⟩

/-- While the monitor is paused its health says so, and no job or ping changes where it stands. -/
def PauseHolds (s : Workers) (op : PauseOp) : Prop :=
  s.db.monitor.state = .paused → s.db.monitor.health = .paused ∧
    (op.isWork = true → SameStanding (s.pauseStep op).db s.db)

/-- The decided check has no incident to open or to resolve. -/
def Written.idle (w : Written) (rows : List Incident) : Prop :=
  match w.decision.incident with
  | none => True
  | some .open => taken Incident.uniqueKey (some (w.monitor.id, downFingerprint w.monitor.id)) rows
  | some .resolve => findOpen w.monitor.id rows = none

/-- No job or ping writes the row of a paused monitor, and none of those that wrote before the
pause has an incident to open or to resolve. -/
def NothingInFlight (s : Workers) : PauseOp → Prop
  | .job (.write k) => s.db.monitor.state = .paused → s.loaded[k]? = none
  | .job (.act k) => s.db.monitor.state = .paused → ∀ w ∈ s.written[k]?, w.idle s.db.incidents
  | _ => True

instance (w : Written) (rows : List Incident) : Decidable (w.idle rows) := by
  unfold Written.idle
  split <;> infer_instance

instance (s : Workers) : (op : PauseOp) → Decidable (NothingInFlight s op)
  | .job (.load _) | .ping .. | .pause | .resume => inferInstanceAs (Decidable True)
  | .job (.write k) => inferInstanceAs (Decidable (_ → s.loaded[k]? = none))
  | .job (.act k) => inferInstanceAs (Decidable (_ → ∀ w ∈ s.written[k]?, _))

/-- A paused monitor shows it. -/
def ShowsPause (s : Workers) : Prop :=
  s.db.monitor.state = .paused → s.db.monitor.health = .paused

/-! ## what the steps do -/

/-- Loading the monitor changes nothing of it. -/
theorem pauseStep_ping (s : Workers) (now : Instant) (alerts : Bool) (region : ProbeRegion) :
    (s.pauseStep (.ping now alerts region)).db = s.db := by
  simp only [Workers.pauseStep]
  split <;> rfl

theorem pauseStep_load (s : Workers) (job : CheckJob) :
    (s.pauseStep (.job (.load job))).db = s.db := by
  simp only [Workers.pauseStep, Workers.step]
  split <;> rfl

theorem pauseStep_write {s : Workers} {k : Nat} {l : Loaded} (hl : s.loaded[k]? = some l) :
    (s.pauseStep (.job (.write k))).db.monitor =
      s.db.monitor.afterCheck l.monitor l.job.outcome l.job.opts
        (s.db.decision l.monitor l.job.outcome l.job.opts) := by
  simp [Workers.pauseStep, Workers.step, hl, recordCheck_run, noFaults, Db.recorded]

/-- An incident step leaves the monitor row alone. -/
theorem pauseStep_act {s : Workers} {k : Nat} {w : Written} (hw : s.written[k]? = some w) :
    (s.pauseStep (.job (.act k))).db.monitor = s.db.monitor ∧
      (s.pauseStep (.job (.act k))).db.incidents = w.act s.db.incidents := by
  have hrows := incidentStep_rows noFaults w.monitor w.job.outcome w.job.opts w.decision s.db
  simpa [Workers.pauseStep, Workers.step, hw, Written.act] using hrows

/-- The incident table stays exactly when there is nothing to do. -/
theorem act_eq_iff (w : Written) (rows : List Incident) : w.act rows = rows ↔ w.idle rows := by
  unfold Written.act Written.idle
  cases hact : w.decision.incident with
  | none => simp
  | some action =>
      cases action with
      | «open» =>
          simp only [nextIncidents, noFaults, insertIncident]
          by_cases htaken : taken Incident.uniqueKey
              (some (w.monitor.id, downFingerprint w.monitor.id)) rows = true
          · simp [htaken]
          · simp [htaken]
      | resolve =>
          simp only [nextIncidents, noFaults]
          cases hfind : findOpen w.monitor.id rows with
          | none => simp
          | some i =>
              obtain ⟨hi, hopen⟩ := findLatest_some hfind
              refine iff_of_false (fun hsame => ?_) (by simp)
              -- the incident that was found would be resolved already
              have hresolved : ∀ j ∈ rows, j.id = i.id → j.status = .resolved := by
                intro j hj hid
                have hmem : j ∈ resolveRow i.id w.job.opts.now
                    (durationSec i.startedAt w.job.opts.now) rows := by
                  simp only [Bool.false_eq_true, if_false] at hsame
                  rwa [hsame]
                obtain ⟨j₀, -, -, rfl⟩ | ⟨-, hne⟩ := mem_updateWhere.1 hmem
                · rfl
                · simp [hid] at hne
              exact (Incident.isOpen_iff.1 hopen).2 (hresolved i hi rfl)

/-- The health a check writes is never PAUSED. -/
theorem toHealth_ne_paused (state : MonitorState) : state.toHealth ≠ .paused := by
  cases state <;> decide

/-! ## runs -/

/-- **Step lemma**: on a monitor that shows its pause, the pause holds at an operation if and only
if nothing is in flight. -/
theorem pauseHolds_iff {s : Workers} (hshows : ShowsPause s) (op : PauseOp) :
    PauseHolds s op ↔ NothingInFlight s op := by
  have hsimple : (s.pauseStep op).db = s.db → PauseHolds s op := by
    intro hsame hpaused
    exact ⟨hshows hpaused, fun _ => hsame ▸ SameStanding.refl s.db⟩
  cases op with
  | pause => exact iff_of_true (fun hpaused => ⟨hshows hpaused, by simp [PauseOp.isWork]⟩) trivial
  | resume => exact iff_of_true (fun hpaused => ⟨hshows hpaused, by simp [PauseOp.isWork]⟩) trivial
  | ping now alerts region =>
      exact iff_of_true (hsimple (pauseStep_ping s now alerts region)) trivial
  | job step =>
      cases step with
      | load job =>
          exact iff_of_true (hsimple (pauseStep_load s job)) trivial
      | write k =>
          cases hl : s.loaded[k]? with
          | none =>
              refine iff_of_true (hsimple ?_) fun _ => hl
              simp [Workers.pauseStep, Workers.step, hl]
          | some l =>
              constructor
              · intro hholds hpaused
                obtain ⟨hhealth, hsame⟩ := hholds hpaused
                have hafter := (hsame rfl).1
                rw [pauseStep_write hl, hhealth] at hafter
                exact absurd hafter (toHealth_ne_paused _)
              · intro hnone hpaused
                simp [hnone hpaused] at hl
      | act k =>
          cases hw : s.written[k]? with
          | none =>
              refine iff_of_true (hsimple ?_) fun _ w hmem => by simp [hw] at hmem
              simp [Workers.pauseStep, Workers.step, hw]
          | some w =>
              obtain ⟨hmonitor, hincidents⟩ := pauseStep_act hw
              constructor
              · intro hholds hpaused w' hw'
                obtain rfl : w = w' := by simpa [hw] using hw'
                rw [← act_eq_iff, ← hincidents]
                exact ((hholds hpaused).2 rfl).2.2.2
              · intro hidle hpaused
                have hstays := (act_eq_iff w _).2 (hidle hpaused w hw)
                refine ⟨hshows hpaused, fun _ => ?_⟩
                rw [SameStanding, hmonitor, hincidents, hstays]
                exact ⟨rfl, rfl, rfl, rfl⟩

/-- A monitor goes on showing its pause while nothing is in flight. -/
theorem ShowsPause.pauseStep {s : Workers} (h : ShowsPause s) {op : PauseOp}
    (hnothing : NothingInFlight s op) : ShowsPause (s.pauseStep op) := by
  have hsimple : (s.pauseStep op).db = s.db → ShowsPause (s.pauseStep op) := by
    intro hsame
    rwa [ShowsPause, hsame]
  cases op with
  | pause =>
      simp only [ShowsPause, Workers.pauseStep, Db.pause]
      split
      · exact fun _ => rfl
      · exact h
  | resume =>
      simp only [ShowsPause, Workers.pauseStep, Db.resume]
      split
      · intro hpaused
        cases hpaused
      · exact h
  | ping now alerts region =>
      exact hsimple (pauseStep_ping s now alerts region)
  | job step =>
      cases step with
      | load job =>
          exact hsimple (pauseStep_load s job)
      | write k =>
          cases hl : s.loaded[k]? with
          | none => exact hsimple (by simp [Workers.pauseStep, Workers.step, hl])
          | some l =>
              rw [ShowsPause, pauseStep_write hl]
              intro hpaused
              simp [hnothing hpaused] at hl
      | act k =>
          cases hw : s.written[k]? with
          | none => exact hsimple (by simp [Workers.pauseStep, Workers.step, hw])
          | some w => rwa [ShowsPause, (pauseStep_act hw).1]

/-- **Over every run of jobs, pings, pauses and resumes, a pause holds if and only if no job or ping
is in flight while the monitor is paused.** -/
theorem pauseHolds_along_iff {s : Workers} (hshows : ShowsPause s) (ops : List PauseOp) :
    Along Workers.pauseStep PauseHolds s ops ↔ Along Workers.pauseStep NothingInFlight s ops :=
  along_iff (I := ShowsPause) (fun _ _ h hnothing => h.pauseStep hnothing)
    (fun _ op h => pauseHolds_iff h op) hshows

/-- A heartbeat monitor. -/
def beating : Workers where
  db := { monitor := { id := "hb", organizationId := "acme", name := "backup", type := .heartbeat
                       health := .up } }

/-- The monitor is pinged, paused and resumed. -/
def pausedBetweenPings : List PauseOp :=
  [.ping 100 false .naEast, .job (.write 0), .job (.act 0), .pause, .resume,
    .ping 200 false .naEast, .job (.write 0)]

theorem pauseHolds_between_pings :
    Along Workers.pauseStep PauseHolds beating pausedBetweenPings := by
  have hshows : ShowsPause beating := by
    intro hpaused
    cases hpaused
  exact (pauseHolds_along_iff hshows pausedBetweenPings).2 (by decide +kernel)

/-- A ping of a paused monitor brings it back to life. -/
theorem not_pauseHolds_pinged :
    ¬ Along Workers.pauseStep PauseHolds beating
        [.pause, .ping 100 false .naEast, .job (.write 0)] ∧
      (run Workers.pauseStep beating
        [.pause, .ping 100 false .naEast, .job (.write 0)]).db.monitor.health = .up := by
  refine ⟨?_, by decide +kernel⟩
  rintro ⟨-, -, hwrite, -⟩
  have hafter := ((hwrite (by decide +kernel)).2 rfl).1
  exact absurd hafter (by decide +kernel)

end UptimeFlow.Monitoring
