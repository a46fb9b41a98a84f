import UptimeFlow.Escalation.Stages
import UptimeFlow.Escalation.System

/-!
# UptimeFlow.Escalation.Teams

The escalation system with the people it pages: members come and go, policies,
schedules and overrides are edited, and steps fire, in any order.

An edit is a call of a service.  It finds what it names, one statement after
another (`Edit.lines`), and writes once everything was found; between any two
of its statements, as between the stages of a job, others go on.  A `Call`
carries the proof that what it has found and what it has left to find are the
lines of its edit.
-/

namespace UptimeFlow.Escalation

open Tables OnCall
open Monitoring (Instant IncidentId OrganizationId MonitorId PolicyId ChannelId MonitorRow
  AlertJobData EscalationContext RaceOp)

/-! ## rows -/

/-- A row of `members`. -/
structure Member where
  organizationId : OrganizationId
  userId : UserId
deriving DecidableEq, Repr

/-- A row of `on_call_schedules`. -/
structure ScheduleRecord where
  id : ScheduleId
  organizationId : OrganizationId
  timezone : String
  rotationType : RotationType
  handoffMinute : Int
  deletedAt : Option Instant := none
deriving DecidableEq, Repr

/-- A row of `on_call_participants`. -/
structure ParticipantRow extends ParticipantRef where
  scheduleId : ScheduleId
deriving DecidableEq, Repr

/-- A row of `on_call_overrides`. -/
structure OverrideRow extends OverrideRef where
  id : Nat
  scheduleId : ScheduleId
deriving DecidableEq, Repr

/-! ## edits -/

structure ScheduleInput where
  timezone : String
  rotationType : RotationType
  handoffMinute : Int
  /-- User ids, in rotation order. -/
  participants : List UserId
deriving DecidableEq, Repr

/-- The calls that write what a step resolves to; rows are created under ids of the database. -/
inductive Edit where
  | createPolicy (id : PolicyId) (repeatCount : Option Nat) (steps : List StepInput)
  | updatePolicy (id : PolicyId) (repeatCount : Option Nat) (steps : List StepInput)
  | createSchedule (id : ScheduleId) (input : ScheduleInput)
  | updateSchedule (id : ScheduleId) (input : ScheduleInput)
  | addOverride (id : ScheduleId) (input : OverrideRef)
  | removeOverride (id : ScheduleId) (overrideId : Nat)
  | createMonitor (row : MonitorRow)
  | updateMonitor (id : MonitorId) (escalationPolicyId : Option (Option PolicyId))
deriving DecidableEq, Repr

/-- What a call looks for, in its own organization. -/
inductive Check where
  | input (ok : Bool)
  | timezone (timezone : String)
  | member (userId : UserId)
  | schedule (id : ScheduleId)
  | channel (id : ChannelId)
  | policy (id : PolicyId)
  | monitor (id : MonitorId)
deriving DecidableEq, Repr

/-- How a call ends that does not find what it looks for. -/
inductive Refusal where
  | notFound
  | badRequest (message : String)
  | invalidPolicy
deriving DecidableEq, Repr

structure Line where
  check : Check
  refusal : Refusal
deriving DecidableEq, Repr

def memberLine (userId : UserId) : Line :=
  ⟨.member userId, .badRequest ("User " ++ userId ++ " is not a member of this org.")⟩

/-- An id that has to be given, and then found. -/
def required (id : Option String) (message : String) (line : String → Line) : Line :=
  match id with
  | some id => if id.isEmpty then ⟨.input false, .badRequest message⟩ else line id
  | none => ⟨.input false, .badRequest message⟩

/-- `validateTargets`, for one target. -/
def targetLine (target : TargetRow) : Line :=
  match target.type with
  | .user => required target.userId "USER target requires userId." memberLine
  | .schedule => required target.scheduleId "SCHEDULE target requires scheduleId." fun id =>
      ⟨.schedule id, .badRequest ("Schedule " ++ id ++ " not found in this org.")⟩
  | .channel => required target.channelId "CHANNEL target requires channelId." fun id =>
      ⟨.channel id, .badRequest ("Channel " ++ id ++ " not found in this org.")⟩

/-- `validateTargets` -/
def validateTargets (steps : List StepInput) : List Line :=
  steps.flatMap fun step => step.targets.map targetLine

/-- `assertMembers`: each user once. -/
def assertMembers (userIds : List UserId) : List Line := userIds.eraseDups.map memberLine

/-- `assertValidTimezone` -/
def timezoneLine (tz : String) : Line :=
  ⟨.timezone tz, .badRequest ("Invalid IANA timezone: " ++ tz ++ ".")⟩

/-- `assertPolicyOwned`, where a policy is given. -/
def assertPolicyOwned (policyId : Option PolicyId) : List Line :=
  policyId.toList.map fun id => ⟨.policy id, .invalidPolicy⟩

/-- What a call looks for before it writes, in order; what else a monitor's form is checked for is
left out. -/
def Edit.lines : Edit → List Line
  | .createPolicy _ _ steps => validateTargets steps
  | .updatePolicy id _ steps => ⟨.policy id, .notFound⟩ :: validateTargets steps
  | .createSchedule _ input => timezoneLine input.timezone :: assertMembers input.participants
  | .updateSchedule id input =>
      ⟨.schedule id, .notFound⟩ :: timezoneLine input.timezone :: assertMembers input.participants
  | .addOverride id input =>
      ⟨.schedule id, .notFound⟩ :: assertMembers [input.userId] ++
        [⟨.input (input.startsAt < input.endsAt),
          .badRequest "Override endsAt must be after startsAt."⟩]
  | .removeOverride id _ => [⟨.schedule id, .notFound⟩]
  | .createMonitor row => assertPolicyOwned row.escalationPolicyId
  | .updateMonitor id escalationPolicyId =>
      ⟨.monitor id, .notFound⟩ :: assertPolicyOwned escalationPolicyId.join

/-- A call under way. -/
structure Call where
  organizationId : OrganizationId
  edit : Edit
  found : List Line
  left : List Line
  lines : edit.lines = found ++ left

/-- The call as it starts. -/
def Edit.called (edit : Edit) (organizationId : OrganizationId) : Call :=
  ⟨organizationId, edit, [], edit.lines, rfl⟩

/-- The call once it has found what its next line looks for. -/
def Call.pass (call : Call) : Call :=
  { call with
    found := call.found ++ call.left.take 1
    left := call.left.drop 1
    lines := by rw [call.lines, List.append_assoc, List.take_append_drop] }

/-! ## the state -/

structure Team where
  /-- The escalation system; its schedules are the tables below. -/
  system : System
  members : List Member
  schedules : List ScheduleRecord := []
  participants : List ParticipantRow := []
  overrides : List OverrideRow := []
  clock : Instant
  calls : List Call := []
  refusals : List Refusal := []
  /-- The monitors as checks have loaded them. -/
  loaded : List MonitorRow := []
  atWork : List AtWork := []

/-- What the system is wired with, and what the host says of a timezone. -/
structure Host extends Deps where
  validTimezone : String → Bool

inductive TeamOp where
  | ask (organizationId : OrganizationId) (edit : Edit)
  /-- The `n`-th call finds what its next line looks for, or is refused; with no line left, it
  writes. -/
  | goOn (n : Nat)
  /-- A policy, or a schedule, is removed in one statement. -/
  | removePolicy (organizationId : OrganizationId) (id : PolicyId)
  | removeSchedule (organizationId : OrganizationId) (id : ScheduleId)
  | addMember (organizationId : OrganizationId) (userId : UserId)
  | removeMember (organizationId : OrganizationId) (userId : UserId)
  | tick (elapsed : Nat)
  /-- A check loads its monitor. -/
  | load (monitorId : MonitorId)
  /-- The pipeline starts the escalation of an incident of the `n`-th monitor loaded. -/
  | start (n : Nat) (faults : Faults) (incidentId : IncidentId)
  | incident (m : MonitorId) (op : RaceOp m)
  /-- The worker takes the `n`-th job of the queue. -/
  | take (n : Nat)
  /-- The `k`-th job at work executes its next statements; a job that fails is given back if
  `retried`. -/
  | proceed (k : Nat) (faults : Faults) (retried : Bool)
  /-- The worker of the `k`-th job at work dies, and the job is handed out again. -/
  | stall (k : Nat)
  | elsewhere (users : List UserRow) (alertChannels : List ChannelRow)
      (alertQueue : List AlertJobData) (emailQueue : List QueuedEmail)

namespace Team

/-- A schedule with its participants and overrides. -/
def scheduleRow (s : Team) (r : ScheduleRecord) : ScheduleRow where
  id := r.id
  deletedAt := r.deletedAt
  timezone := r.timezone
  rotationType := r.rotationType
  handoffMinute := r.handoffMinute
  participants := (s.participants.filter (·.scheduleId = r.id)).map (·.toParticipantRef)
  overrides := (s.overrides.filter (·.scheduleId = r.id)).map (·.toOverrideRef)

/-- The store as the worker reads it. -/
def db (s : Team) : Db := { s.system.db with schedules := s.schedules.map s.scheduleRow }

/-- The check finds what it looks for. -/
def holds (host : Host) (s : Team) (organizationId : OrganizationId) : Check → Bool
  | .input ok => ok
  | .timezone tz => host.validTimezone tz
  | .member userId => s.members.any fun m => m.organizationId = organizationId && m.userId = userId
  | .schedule id => s.schedules.any fun r =>
      r.id = id && r.organizationId = organizationId && r.deletedAt.isNone
  | .channel id => s.system.db.alertChannels.any fun c =>
      c.id = id && c.organizationId = organizationId && c.deletedAt.isNone
  | .policy id => s.system.db.policies.any fun p =>
      p.id = id && p.organizationId = organizationId && p.deletedAt.isNone
  | .monitor id => s.system.db.monitors.any fun m =>
      m.id = id && m.organizationId = organizationId && m.deletedAt.isNone

/-! ## writes -/

/-- `participants: { create: … }` -/
def participantRows (id : ScheduleId) (participants : List UserId) : List ParticipantRow :=
  participants.mapIdx fun position userId => { scheduleId := id, userId, position }

def addPolicy (s : Team) (organizationId : OrganizationId) (id : PolicyId)
    (repeatCount : Option Nat) (steps : List StepInput) : Team :=
  { s with
    system.db.policies := s.system.db.policies ++
      [{ id, organizationId, repeatCount := repeatCount.getD 0 }]
    system.db.escalationSteps := s.system.db.escalationSteps ++ stepCreates id steps }

def rewritePolicy (s : Team) (id : PolicyId) (repeatCount : Option Nat) (steps : List StepInput) :
    Team :=
  { s with
    system.db.policies := updateWhere (·.id = id)
      (fun p => { p with repeatCount := repeatCount.getD 0 }) s.system.db.policies
    system.db.escalationSteps :=
      s.system.db.escalationSteps.filter (·.policyId ≠ id) ++ stepCreates id steps }

def addSchedule (s : Team) (organizationId : OrganizationId) (id : ScheduleId)
    (input : ScheduleInput) : Team :=
  { s with
    schedules := s.schedules ++ [{ id, organizationId, timezone := input.timezone
                                   rotationType := input.rotationType
                                   handoffMinute := input.handoffMinute }]
    participants := s.participants ++ participantRows id input.participants }

def rewriteSchedule (s : Team) (id : ScheduleId) (input : ScheduleInput) : Team :=
  { s with
    schedules := updateWhere (·.id = id) (fun r =>
      { r with timezone := input.timezone, rotationType := input.rotationType
               handoffMinute := input.handoffMinute }) s.schedules
    participants := s.participants.filter (·.scheduleId ≠ id) ++
      participantRows id input.participants }

/-- No row has this policy's id, or names it. -/
def policyUnused (s : Team) (id : PolicyId) : Bool :=
  s.system.db.policies.all (·.id ≠ id) && s.system.db.escalationSteps.all (·.policyId ≠ id)

/-- No row has this schedule's id, or names it. -/
def scheduleUnused (s : Team) (id : ScheduleId) : Bool :=
  s.schedules.all (·.id ≠ id) && s.participants.all (·.scheduleId ≠ id) &&
    s.overrides.all (·.scheduleId ≠ id)

/-- What a call writes.  The write fails where a row to be updated is gone, where the id of a row
to be created is in use, and where a user would be in a rotation twice. -/
def write (s : Team) (organizationId : OrganizationId) : Edit → Team
  | .createPolicy id repeatCount steps =>
      if s.policyUnused id then s.addPolicy organizationId id repeatCount steps else s
  | .updatePolicy id repeatCount steps =>
      if s.system.db.policies.any (·.id = id) then s.rewritePolicy id repeatCount steps else s
  | .createSchedule id input =>
      if s.scheduleUnused id && input.participants.Nodup then s.addSchedule organizationId id input
      else s
  | .updateSchedule id input =>
      if s.schedules.any (·.id = id) && input.participants.Nodup then s.rewriteSchedule id input
      else s
  | .addOverride id input =>
      { s with
        overrides := s.overrides ++
          [{ input with id := freshId OverrideRow.id s.overrides, scheduleId := id }] }
  | .removeOverride id overrideId =>
      { s with overrides := s.overrides.filter fun o => !(o.id = overrideId && o.scheduleId = id) }
  | .createMonitor row =>
      if s.system.db.monitors.all (·.id ≠ row.id) then
        { s with system.db.monitors := s.system.db.monitors ++ [{ row with organizationId }] }
      else s
  | .updateMonitor id escalationPolicyId =>
      { s with
        system.db.monitors := updateWhere (·.id = id) (fun m =>
          { m with escalationPolicyId := escalationPolicyId.getD m.escalationPolicyId })
          s.system.db.monitors }

/-! ## steps -/

variable (host : Host)

/-- The `n`-th call goes on. -/
def goOn (s : Team) (n : Nat) (call : Call) : Team :=
  match call.left.head? with
  | none => { s.write call.organizationId call.edit with calls := s.calls.eraseIdx n }
  | some line =>
      if s.holds host call.organizationId line.check then
        { s with calls := s.calls.set n call.pass }
      else { s with calls := s.calls.eraseIdx n, refusals := s.refusals ++ [line.refusal] }

/-- The `k`-th job at work goes on. -/
def proceed (s : Team) (k : Nat) (faults : Faults) (retried : Bool) (w : AtWork) : Team :=
  match (w.proceed host.toDeps faults).run s.db with
  | (.ok (.reached stage), db) =>
      { s with system.db := db, atWork := s.atWork.set k { w with stage } }
  | (.ok (.ended result), db) =>
      { s with
        system := { s.system with db, log := s.system.log ++ [⟨w.job, result⟩] }
        atWork := s.atWork.eraseIdx k }
  | (.error _, db) =>
      { s with system.db := db.giveBack retried w.job, atWork := s.atWork.eraseIdx k }

def step (s : Team) : TeamOp → Team
  | .ask organizationId edit => { s with calls := s.calls ++ [edit.called organizationId] }
  | .goOn n =>
      match s.calls[n]? with
      | none => s
      | some call => s.goOn host n call
  | .removePolicy organizationId id =>
      { s with system.db := s.system.db.removePolicy organizationId id s.clock }
  | .removeSchedule organizationId id =>
      { s with
        schedules := updateWhere
          (fun r => r.id = id && r.organizationId = organizationId && r.deletedAt.isNone)
          (fun r => { r with deletedAt := some s.clock }) s.schedules }
  | .addMember organizationId userId =>
      { s with members := s.members ++ [⟨organizationId, userId⟩] }
  | .removeMember organizationId userId =>
      { s with members := s.members.filter (· ≠ ⟨organizationId, userId⟩) }
  | .tick elapsed => { s with clock := s.clock + elapsed }
  | .load monitorId =>
      { s with loaded := s.loaded ++ (s.system.db.monitors.find? (·.id = monitorId)).toList }
  | .start n faults incidentId =>
      match s.loaded[n]? with
      | none => s
      | some m =>
          match m.escalationPolicyId with
          | none => s
          | some policyId =>
              { s with
                system := s.system.step host.toDeps
                  (.start faults ⟨incidentId, m.organizationId, m.id, policyId⟩) }
  | .incident m op => { s with system := s.system.step host.toDeps (.incident m op) }
  | .take n =>
      match s.system.db.escalationQueue[n]? with
      | none => s
      | some job =>
          { s with
            system.db := s.system.db.taken n, atWork := s.atWork ++ [⟨job, s.clock, .taken⟩] }
  | .proceed k faults retried =>
      match s.atWork[k]? with
      | none => s
      | some w => s.proceed host k faults retried w
  | .stall k =>
      match s.atWork[k]? with
      | none => s
      | some w =>
          { s with
            system.db := s.system.db.giveBack true w.job, atWork := s.atWork.eraseIdx k }
  | .elsewhere users alertChannels alertQueue emailQueue =>
      { s with
        system.db.users := users, system.db.alertChannels := alertChannels
        system.db.alertQueue := alertQueue, system.db.emailQueue := emailQueue }

end Team

end UptimeFlow.Escalation
