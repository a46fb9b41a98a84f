import UptimeFlow.Latest
import UptimeFlow.Monitoring.Pausing
import UptimeFlow.Monitors.Leftovers
import UptimeFlow.Past
import UptimeFlow.Security.Requests

/-!
# UptimeFlow.Monitors.Heartbeats

The dead man's switch: a heartbeat is fresh as long as it was pinged in time.

The instant of the last ping is kept in the column that checks of every other type
stamp as well, and the type of a monitor may change.  The probe is right at every
instant just if the column holds the latest ping (`sound_iff`); a change of type, a
check of another type that is still under way, and pings that overtake each other
are what can break this (`freshness_along_iff`).
-/

namespace UptimeFlow.Monitors

open Monitoring (Instant ProbeRegion PauseOp)
open Security (unreachable)
open Latest Past Runs

/-! ## the probe -/

/-- Extra slack beyond the interval before a missed heartbeat counts as down. -/
def heartbeatGraceMs : Int := 60000

/-- The deadline of a heartbeat, from its last ping. -/
def deadlineMs (intervalSeconds : Nat) : Int := intervalSeconds * 1000 + heartbeatGraceMs

def heartbeatProbe (intervalSeconds : Nat) (lastCheckedAt : Option Instant) (now : Instant) :
    ProbeSignal :=
  match lastCheckedAt with
  | none => unreachable 0 "no_ping" "No heartbeat received yet."
  | some last =>
      let ageMs := now - last
      if ageMs > deadlineMs intervalSeconds then
        -- `Math.round(ageMs / 1000)`
        let ageSeconds := (ageMs + 500) / 1000
        unreachable ageMs "timeout"
          s!"No heartbeat for {ageSeconds}s (expected every {intervalSeconds}s)."
      else { reachable := true, responseMs := ageMs }

/-- A heartbeat is reached if it was last pinged within its interval and the grace period. -/
theorem heartbeatProbe_reachable (intervalSeconds : Nat) (lastCheckedAt : Option Instant)
    (now : Instant) :
    (heartbeatProbe intervalSeconds lastCheckedAt now).reachable = true ↔
      ∃ last ∈ lastCheckedAt, now - deadlineMs intervalSeconds ≤ last := by
  cases lastCheckedAt with
  | none => simp [heartbeatProbe, unreachable]
  | some last =>
      have hage : ¬ now - last > deadlineMs intervalSeconds ↔
          now - deadlineMs intervalSeconds ≤ last := by
        constructor
        · intro h
          exact Int.sub_le_of_sub_le (Int.not_lt.1 h)
        · intro h
          exact Int.not_lt.2 (Int.sub_le_of_sub_le h)
      unfold heartbeatProbe
      dsimp only
      split_ifs with hlate
      · simp only [unreachable, Bool.false_eq_true, Option.mem_some_iff, exists_eq_left', false_iff]
        exact fun h => hage.2 h hlate
      · simpa using hage.1 hlate

/-! ## a monitor over time -/

/-- A monitor, with the checks and pings under way and those recorded. -/
structure Watch where
  /-- The columns that requests write. -/
  config : MonitorRow
  /-- The columns that checks and pings write, and those under way. -/
  workers : Monitoring.Workers
  /-- The instants of the pings recorded so far. -/
  pings : List Instant

/-- The last instant a check or a ping has stamped. -/
def Watch.lastCheckedAt (s : Watch) : Option Instant := s.workers.db.monitor.lastCheckedAt

/-- What requests write, in the columns that checks read. -/
def configured (config : MonitorRow) (row : Monitoring.MonitorRow) : Monitoring.MonitorRow :=
  { row with
    name := config.name
    type := config.type
    failureThreshold := config.failureThreshold
    successThreshold := config.successThreshold
    escalationPolicyId := config.escalationPolicyId }

/-- The columns that checks read, of a monitor that was just created. -/
def newMonitor (config : MonitorRow) : Monitoring.MonitorRow :=
  configured config
    { id := config.id, organizationId := config.organizationId, name := config.name
      type := config.type }

/-- A monitor that was just created, beside whatever else there is. -/
def created (config : MonitorRow) (db : Monitoring.Db) : Watch :=
  { config
    workers := { db := { db with monitor := newMonitor config } }
    pings := [] }

inductive WatchOp where
  /-- A worker takes a check: it loads the monitor, and its probe finds an outcome. -/
  | check (outcome : Monitoring.ProbeOutcome) (opts : Monitoring.ProcessOptions)
  /-- A ping is taken: it loads the monitor. -/
  | ping (now : Instant) (alerts : Bool) (region : ProbeRegion)
  /-- The `k`-th of the checks and pings under way is recorded. -/
  | write (k : Nat)
  /-- The `k`-th of those recorded takes its incident step. -/
  | act (k : Nat)
  | pause
  | resume
  | edit (input : UpdateMonitorInput) (actor : MonitorActor)

def Watch.work (s : Watch) (op : PauseOp) : Watch := { s with workers := s.workers.pauseStep op }

/-- The instant of the `k`-th of those under way, if it is a ping. -/
def Watch.pingAt (s : Watch) (k : Nat) : List Instant :=
  match s.workers.loaded[k]? with
  | some l => if l.job.opts.isHeartbeatPing then [l.job.opts.now] else []
  | none => []

section
variable (stored : Headers → Headers)

/-- An update whose references are in order; a target that is not leaves the monitor as it is. -/
def Watch.edit (s : Watch) (input : UpdateMonitorInput) (actor : MonitorActor) : Watch :=
  match checkTarget (mergedTarget s.config input) with
  | .error _ => s
  | .ok () =>
      let config := updatedRow stored s.config input actor
      let db := s.workers.db
      { s with
        config
        workers := { s.workers with db := { db with monitor := configured config db.monitor } } }

def Watch.step (s : Watch) : WatchOp → Watch
  -- a worker passes no `isHeartbeatPing`
  | .check outcome opts => s.work (.job (.load ⟨outcome, { opts with isHeartbeatPing := false }⟩))
  | .ping now alerts region => s.work (.ping now alerts region)
  | .write k => { s.work (.job (.write k)) with pings := s.pings ++ s.pingAt k }
  | .act k => s.work (.job (.act k))
  | .pause => s.work .pause
  | .resume => s.work .resume
  | .edit input actor => s.edit stored input actor

end

/-! ## what is meant -/

/-- The freshness of a heartbeat: at every instant its probe reaches it just if some ping was
recorded no earlier than its interval and the grace period before. -/
def Watch.Sound (s : Watch) : Prop :=
  s.config.type = .heartbeat → ∀ now,
    (heartbeatProbe s.config.intervalSeconds s.lastCheckedAt now).reachable = true ↔
      ∃ ping ∈ s.pings, now - s.config.intervalSeconds * 1000 - heartbeatGraceMs ≤ ping

/-- What an operation must not do to a heartbeat: become one with a check stamped since the
latest ping, record a check of another type, or record a ping after a later one. -/
def KeepsPings (s : Watch) : WatchOp → Prop
  | .write k =>
      ∀ l ∈ s.workers.loaded[k]?, s.config.type = .heartbeat →
        if l.job.opts.isHeartbeatPing then ∀ ping ∈ s.pings, ping ≤ l.job.opts.now
        else l.monitor.type ≠ .heartbeat → IsLatest s.pings (some l.job.opts.now)
  | .edit input _ =>
      s.config.type ≠ .heartbeat → input.type = some .heartbeat →
        IsLatest s.pings s.lastCheckedAt
  | _ => True

/-- Requests and checks agree on the columns both read. -/
def Watch.Synced (s : Watch) : Prop :=
  configured s.config s.workers.db.monitor = s.workers.db.monitor

/-- The column of a heartbeat holds its latest ping. -/
def Watch.Kept (s : Watch) : Prop :=
  s.config.type = .heartbeat → IsLatest s.pings s.lastCheckedAt

/-! ## the column -/

/-- The probe is right at every instant just if the column holds the latest ping. -/
theorem sound_iff (s : Watch) : s.Sound ↔ s.Kept := by
  unfold Watch.Sound Watch.Kept
  refine imp_congr_right fun _ => ?_
  simp only [heartbeatProbe_reachable]
  rw [isLatest_iff]
  have hdeadline : ∀ now : Instant, now - s.config.intervalSeconds * 1000 - heartbeatGraceMs =
      now - deadlineMs s.config.intervalSeconds := by
    intro now
    rw [deadlineMs]
    exact Int.sub_sub _ _ _
  constructor
  · intro h t
    have hnow := h (t + deadlineMs s.config.intervalSeconds)
    rwa [hdeadline, Int.add_sub_cancel] at hnow
  · intro h now
    rw [hdeadline]
    exact h _

section
variable (stored : Headers → Headers) (s : Watch)

/-- Nothing but a recorded check or ping stamps the column. -/
theorem lastCheckedAt_step {op : WatchOp} (h : ∀ k, op ≠ .write k) :
    (s.step stored op).lastCheckedAt = s.lastCheckedAt := by
  unfold Watch.lastCheckedAt
  cases op with
  | check outcome opts =>
      simp only [Watch.step, Watch.work]
      rw [Monitoring.pauseStep_load]
  | ping now alerts region =>
      simp only [Watch.step, Watch.work]
      rw [Monitoring.pauseStep_ping]
  | write k => exact absurd rfl (h k)
  | act k =>
      simp only [Watch.step, Watch.work]
      cases hw : s.workers.written[k]? with
      | none => simp [Monitoring.Workers.pauseStep, Monitoring.Workers.step, hw]
      | some w => rw [(Monitoring.pauseStep_act hw).1]
  | pause =>
      simp only [Watch.step, Watch.work, Monitoring.Workers.pauseStep, Monitoring.Db.pause]
      split <;> rfl
  | resume =>
      simp only [Watch.step, Watch.work, Monitoring.Workers.pauseStep, Monitoring.Db.resume]
      split <;> rfl
  | edit input actor =>
      simp only [Watch.step, Watch.edit]
      split <;> rfl

/-- Nothing but a recorded ping adds to the pings. -/
theorem pings_step {op : WatchOp} (h : ∀ k, op ≠ .write k) :
    (s.step stored op).pings = s.pings := by
  cases op with
  | write k => exact absurd rfl (h k)
  | check | ping | act | pause | resume => rfl
  | edit input actor =>
      simp only [Watch.step, Watch.edit]
      split <;> rfl

variable {s}

/-- What is recorded is stamped, but for a check of a heartbeat. -/
theorem lastCheckedAt_write {k : Nat} {l : Monitoring.Loaded} (hl : s.workers.loaded[k]? = some l) :
    (s.step stored (.write k)).lastCheckedAt =
      if l.monitor.type ≠ .heartbeat ∨ l.job.opts.isHeartbeatPing = true then
        some l.job.opts.now
      else s.lastCheckedAt := by
  simp only [Watch.lastCheckedAt, Watch.step, Watch.work]
  rw [Monitoring.pauseStep_write hl]
  rfl

theorem pings_write {k : Nat} {l : Monitoring.Loaded} (hl : s.workers.loaded[k]? = some l) :
    (s.step stored (.write k)).pings =
      s.pings ++ if l.job.opts.isHeartbeatPing then [l.job.opts.now] else [] := by
  simp only [Watch.step, Watch.pingAt, hl]

theorem step_write_none {k : Nat} (hl : s.workers.loaded[k]? = none) :
    s.step stored (.write k) = s := by
  simp [Watch.step, Watch.work, Watch.pingAt, Monitoring.Workers.pauseStep,
    Monitoring.Workers.step, hl]

/-! ## the type -/

/-- A heartbeat has no target that could be missing. -/
theorem checkTarget_heartbeat {t : Security.Target} (h : t.type = .heartbeat) :
    checkTarget t = .ok () := by
  simp [checkTarget, Security.validateTargetFields, h]

/-- A monitor becomes a heartbeat just if an update says so. -/
theorem type_edit_iff (input : UpdateMonitorInput) (actor : MonitorActor)
    (h : s.config.type ≠ .heartbeat) :
    (s.step stored (.edit input actor)).config.type = .heartbeat ↔
      input.type = some .heartbeat := by
  simp only [Watch.step, Watch.edit]
  constructor
  · intro hafter
    split at hafter
    · exact absurd hafter h
    · cases htype : input.type with
      | none =>
          simp only [updatedRow, htype, Option.getD_none] at hafter
          exact absurd hafter h
      | some type =>
          simp only [updatedRow, htype, Option.getD_some] at hafter
          rw [hafter]
  · intro htype
    have htarget : checkTarget (mergedTarget s.config input) = .ok () :=
      checkTarget_heartbeat (by rw [mergedTarget, htype]; rfl)
    rw [htarget]
    simp [updatedRow, htype]

/-- Only an update changes the type. -/
theorem config_step {op : WatchOp} (h : ∀ input actor, op ≠ .edit input actor) :
    (s.step stored op).config = s.config := by
  cases op with
  | edit input actor => exact absurd rfl (h input actor)
  | check | ping | write | act | pause | resume => rfl

/-! ## one operation -/

/-- Recording a check or a ping keeps the latest ping just if it is in its place. -/
theorem kept_write_iff (hkept : s.Kept) (k : Nat) :
    (s.step stored (.write k)).Kept ↔ KeepsPings s (.write k) := by
  cases hl : s.workers.loaded[k]? with
  | none => simp [step_write_none stored hl, hkept, KeepsPings, hl]
  | some l =>
      simp only [KeepsPings, hl, Option.mem_some_iff, forall_eq']
      unfold Watch.Kept
      rw [config_step stored (by simp), lastCheckedAt_write stored hl, pings_write stored hl]
      refine forall_congr' fun htype => ?_
      by_cases hping : l.job.opts.isHeartbeatPing = true
      · rw [if_pos hping, if_pos hping, if_pos (Or.inr hping)]
        exact isLatest_concat _
      · rw [if_neg hping, if_neg hping, List.append_nil]
        by_cases hcheck : l.monitor.type = .heartbeat
        · rw [if_neg (by simp [hcheck, hping])]
          exact ⟨fun _ hne => absurd hcheck hne, fun _ => hkept htype⟩
        · rw [if_pos (Or.inl hcheck)]
          exact ⟨fun h _ => h, fun h => h hcheck⟩

/-- **One operation** on a heartbeat whose column holds the latest ping keeps it so just if it
meets the condition. -/
theorem kept_step_iff (hkept : s.Kept) (op : WatchOp) :
    (s.step stored op).Kept ↔ KeepsPings s op := by
  cases op with
  | write k => exact kept_write_iff stored hkept k
  | check | ping | act | pause | resume =>
      unfold Watch.Kept
      rw [config_step stored (by simp), lastCheckedAt_step stored s (by simp),
        pings_step stored s (by simp)]
      exact ⟨fun _ => trivial, fun _ => hkept⟩
  | edit input actor =>
      unfold Watch.Kept KeepsPings
      rw [lastCheckedAt_step stored s (by simp), pings_step stored s (by simp)]
      by_cases htype : s.config.type = .heartbeat
      · exact ⟨fun _ hne => absurd htype hne, fun _ _ => hkept htype⟩
      · rw [type_edit_iff stored input actor htype]
        exact ⟨fun h _ => h, fun h => h htype⟩

/-- Requests and checks go on to agree on the columns both read. -/
theorem synced_step (h : s.Synced) (op : WatchOp) : (s.step stored op).Synced := by
  unfold Watch.Synced at h ⊢
  have hkeeps : ∀ f : Monitoring.MonitorRow → Monitoring.MonitorRow,
      (∀ row, configured s.config (f row) = f (configured s.config row)) →
        configured s.config (f s.workers.db.monitor) = f s.workers.db.monitor := by
    intro f hf
    rw [hf, h]
  cases op with
  | check outcome opts =>
      simp only [Watch.step, Watch.work]
      rwa [Monitoring.pauseStep_load]
  | ping now alerts region =>
      simp only [Watch.step, Watch.work]
      rwa [Monitoring.pauseStep_ping]
  | write k =>
      cases hl : s.workers.loaded[k]? with
      | none => rwa [step_write_none stored hl]
      | some l =>
          simp only [Watch.step, Watch.work]
          rw [Monitoring.pauseStep_write hl]
          exact hkeeps _ fun _ => rfl
  | act k =>
      simp only [Watch.step, Watch.work]
      cases hw : s.workers.written[k]? with
      | none => simpa [Monitoring.Workers.pauseStep, Monitoring.Workers.step, hw] using h
      | some w => rwa [(Monitoring.pauseStep_act hw).1]
  | pause =>
      simp only [Watch.step, Watch.work, Monitoring.Workers.pauseStep, Monitoring.Db.pause]
      split
      · exact hkeeps (fun row => { row with state := .paused, health := .paused }) fun _ => rfl
      · exact h
  | resume =>
      simp only [Watch.step, Watch.work, Monitoring.Workers.pauseStep, Monitoring.Db.resume]
      split
      · exact hkeeps (fun row => { row with
          state := .active, health := .pending, consecutiveFailures := 0
          consecutiveSuccesses := 0 }) fun _ => rfl
      · exact h
  | edit input actor =>
      simp only [Watch.step, Watch.edit]
      split
      · exact h
      · rfl

end

/-! ## runs -/

section
variable (stored : Headers → Headers) (config : MonitorRow) (db : Monitoring.Db)

theorem synced_created : (created config db).Synced := rfl

theorem synced_run (ops : List WatchOp) :
    (run (Watch.step stored) (created config db) ops).Synced :=
  inv_run_of_step (I := Watch.Synced) (fun _ op h => synced_step stored h op)
    (synced_created config db) ops

theorem kept_created : (created config db).Kept := fun _ => rfl

/-- **The freshness of a heartbeat** is right in every state of a run just if every operation
meets the condition. -/
theorem freshness_along_iff (ops : List WatchOp) :
    (∀ before, before <+: ops →
      (run (Watch.step stored) (created config db) before).Sound) ↔
      Along (Watch.step stored) KeepsPings (created config db) ops := by
  simp only [sound_iff]
  refine Past.prefixes_iff (J := fun before =>
    (run (Watch.step stored) (created config db) before).Kept)
    (kept_created config db) (kept_created config db) ?_ ?_ ops
  · intro before op hkept
    rw [run_concat]
    exact kept_step_iff stored hkept op
  · intro before op hkept hop
    rw [run_concat]
    exact (kept_step_iff stored hkept op).2 hop

end

/-- A site that was checked once is fresh as a heartbeat, without any ping. -/
theorem not_sound_changed :
    ¬ (run (Watch.step id)
      (created
        { id := "m", organizationId := "o", groupId := none, name := "site", type := .http
          url := some "https://one.example.com", host := none, port := none, requestBody := none
          keyword := none, escalationPolicyId := none }
        { monitor := { id := "m", organizationId := "o", name := "site", type := .http } })
      [.check { status := .up } { region := .naEast, now := 1000 }, .write 0,
        .edit { type := some .heartbeat } ⟨none, "user"⟩]).Sound := by
  rw [sound_iff]
  intro hkept
  have hlatest := hkept (by decide +kernel)
  revert hlatest
  decide +kernel

end UptimeFlow.Monitors
