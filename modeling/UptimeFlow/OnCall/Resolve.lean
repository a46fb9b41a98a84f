import Mathlib.Data.List.Sort
import UptimeFlow.Monitoring.Schema

/-!
# UptimeFlow.OnCall.Resolve

Who is on call for a schedule at an instant.

An override that is active names the primary; otherwise the rotation does, by
the number of whole periods elapsed in the local time of the schedule.  The
offset of a timezone at an instant is the host's business and a parameter here.
-/

namespace UptimeFlow.OnCall

open Monitoring (Instant)

abbrev UserId := String
abbrev ScheduleId := String

inductive RotationType where
  | daily | weekly | biweekly | custom
deriving DecidableEq, Repr

/-- `PERIOD_DAYS` -/
def periodDays : RotationType → Int
  | .daily => 1
  | .weekly => 7
  | .biweekly => 14
  | .custom => 7

/-- `DAY_MS` -/
def dayMs : Int := 86400000

structure ParticipantRef where
  userId : UserId
  position : Int
deriving DecidableEq, Repr

structure OverrideRef where
  userId : UserId
  startsAt : Instant
  endsAt : Instant
deriving DecidableEq, Repr

structure ScheduleForResolve where
  timezone : String := "UTC"
  rotationType : RotationType := .weekly
  handoffMinute : Int := 540
  participants : List ParticipantRef
  overrides : List OverrideRef := []
deriving DecidableEq, Repr

inductive OnCallSource where
  | override | rotation | empty
deriving DecidableEq, Repr

def OnCallSource.label : OnCallSource → String
  | .override => "override"
  | .rotation => "rotation"
  | .empty => "empty"

structure OnCallResult where
  primaryUserId : Option UserId
  secondaryUserId : Option UserId
  source : OnCallSource
deriving DecidableEq, Repr

/-- Milliseconds from UTC to the wall clock of a timezone at an instant. -/
abbrev TzOffset := Instant → String → Int

/-- The rotation periods elapsed at `now`, modulo the participants; -1 without participants. -/
def rotationIndex (tzOffsetMs : TzOffset) (schedule : ScheduleForResolve) (now : Instant) : Int :=
  let n : Int := schedule.participants.length
  if n = 0 then -1
  else
    let periodMs := periodDays schedule.rotationType * dayMs
    let localMs := now + tzOffsetMs now schedule.timezone
    let shifted := localMs - schedule.handoffMinute * 60000
    let periods := shifted / periodMs
    (periods.tmod n + n).tmod n

def OverrideRef.active (now : Instant) (o : OverrideRef) : Bool :=
  o.startsAt ≤ now && now ≤ o.endsAt

/-- The participant in a slot of the rotation. -/
def slot (sorted : List ParticipantRef) (idx : Int) : Option UserId :=
  if 0 ≤ idx then (sorted[idx.toNat]?).map (·.userId) else none

def resolveOnCall (tzOffsetMs : TzOffset) (schedule : ScheduleForResolve) (now : Instant) :
    OnCallResult :=
  let sorted := schedule.participants.insertionSort fun a b => a.position ≤ b.position
  let override := schedule.overrides.find? (·.active now)
  if sorted.isEmpty && override.isNone then ⟨none, none, .empty⟩
  else
    let idx :=
      if sorted.isEmpty then -1
      else rotationIndex tzOffsetMs { schedule with participants := sorted } now
    let rotationPrimary := slot sorted idx
    let rotationSecondary :=
      if 0 ≤ idx && 1 < sorted.length then slot sorted ((idx + 1).tmod sorted.length) else none
    match override with
    | some o =>
        let secondary :=
          if rotationPrimary.any (· ≠ "") && rotationPrimary ≠ some o.userId then rotationPrimary
          else rotationSecondary
        ⟨some o.userId, secondary, .override⟩
    | none => ⟨rotationPrimary, rotationSecondary, .rotation⟩

structure ScheduleRow extends ScheduleForResolve where
  id : ScheduleId
  deletedAt : Option Instant := none
deriving DecidableEq, Repr

/-- Load a schedule with its active overrides and resolve who is on call. -/
def whoIsOnCall (tzOffsetMs : TzOffset) (schedules : List ScheduleRow) (scheduleId : ScheduleId)
    (now : Instant) : Option OnCallResult :=
  (schedules.find? fun s => s.id = scheduleId && s.deletedAt.isNone).map fun s =>
    resolveOnCall tzOffsetMs
      { s.toScheduleForResolve with overrides := s.overrides.filter (·.active now) } now

/-- A slot of the rotation is a participant. -/
theorem slot_mem {sorted : List ParticipantRef} {idx : Int} {userId : UserId}
    (h : slot sorted idx = some userId) : ∃ p ∈ sorted, p.userId = userId := by
  unfold slot at h
  split at h
  · obtain ⟨p, hp, rfl⟩ := Option.map_eq_some_iff.1 h
    exact ⟨p, List.mem_of_getElem? hp, rfl⟩
  · cases h

/-- Whoever is on call is a participant, or covers for one. -/
theorem resolveOnCall_primary {tzOffsetMs : TzOffset} {schedule : ScheduleForResolve}
    {now : Instant} {userId : UserId}
    (h : (resolveOnCall tzOffsetMs schedule now).primaryUserId = some userId) :
    (∃ p ∈ schedule.participants, p.userId = userId) ∨
      ∃ o ∈ schedule.overrides, o.active now = true ∧ o.userId = userId := by
  unfold resolveOnCall at h
  simp only at h
  split at h
  · cases h
  · cases hoverride : schedule.overrides.find? (·.active now) with
    | some o =>
        rw [hoverride] at h
        obtain rfl := Option.some.inj h
        exact .inr ⟨o, List.mem_of_find?_eq_some hoverride, List.find?_some hoverride, rfl⟩
    | none =>
        rw [hoverride] at h
        obtain ⟨p, hp, huser⟩ := slot_mem h
        exact .inl ⟨p, (List.mem_insertionSort _).1 hp, huser⟩

/-- Whoever a live schedule has on call is one of its participants, or covers for one. -/
theorem whoIsOnCall_primary {tzOffsetMs : TzOffset} {schedules : List ScheduleRow}
    {scheduleId : ScheduleId} {now : Instant} {result : OnCallResult} {userId : UserId}
    (h : whoIsOnCall tzOffsetMs schedules scheduleId now = some result)
    (hprimary : result.primaryUserId = some userId) :
    ∃ s ∈ schedules, s.id = scheduleId ∧ s.deletedAt = none ∧
      ((∃ p ∈ s.participants, p.userId = userId) ∨
        ∃ o ∈ s.overrides, o.active now = true ∧ o.userId = userId) := by
  obtain ⟨s, hs, rfl⟩ := Option.map_eq_some_iff.1 h
  have hfound := List.find?_some hs
  simp only [Bool.and_eq_true, decide_eq_true_eq, Option.isNone_iff_eq_none] at hfound
  refine ⟨s, List.mem_of_find?_eq_some hs, hfound.1, hfound.2, ?_⟩
  obtain hrotation | ⟨o, ho, hactive, huser⟩ := resolveOnCall_primary hprimary
  · exact .inl hrotation
  · exact .inr ⟨o, (List.mem_filter.1 ho).1, hactive, huser⟩

/-- Bob is first in the rotation at the epoch, and Alice covers for him. -/
example : resolveOnCall (fun _ _ => 0)
    { handoffMinute := 0, participants := [⟨"alice", 1⟩, ⟨"bob", 0⟩]
      overrides := [⟨"alice", 5, 9⟩] } 5 = ⟨some "alice", some "bob", .override⟩ := by
  decide

end UptimeFlow.OnCall
