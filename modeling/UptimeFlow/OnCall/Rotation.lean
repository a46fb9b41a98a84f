import UptimeFlow.OnCall.Resolve
import UptimeFlow.Turns

/-!
# UptimeFlow.OnCall.Rotation

The rotation of a schedule as turns on its wall clock.

A handoff falls once a rotation period, at the handoff minute of the local time,
and the participants take the periods between in the order of their positions
(`rotationIndex_eq`).  Whether the shifts follow one another in real time is then
a question about the clock: they do unless it is set back over a handoff
(`shiftsInOrder_iff`), and at one offset from UTC a round gives each participant
one whole period (`fairRotation`).  Whoever is on call, there is a second in line
where there is a second participant (`resolveOnCall_secondary`).
-/

namespace UptimeFlow.OnCall

open Monitoring (Instant)

/-! ## periods -/

/-- Handoffs fall a rotation period apart, at the handoff minute. -/
def ScheduleForResolve.handoffs (schedule : ScheduleForResolve) : Turns where
  origin := schedule.handoffMinute * 60000
  length := periodDays schedule.rotationType * dayMs
  length_pos := by cases schedule.rotationType <;> decide

/-- `localMs` -/
def localMs (tzOffsetMs : TzOffset) (schedule : ScheduleForResolve) (now : Instant) : Int :=
  now + tzOffsetMs now schedule.timezone

/-- `periods`: the whole rotation periods elapsed. -/
def periods (tzOffsetMs : TzOffset) (schedule : ScheduleForResolve) (now : Instant) : Int :=
  schedule.handoffs.turn (localMs tzOffsetMs schedule now)

variable {tzOffsetMs : TzOffset} {schedule : ScheduleForResolve} {now : Instant}

theorem participants_pos (h : schedule.participants ≠ []) :
    (0 : Int) < schedule.participants.length := by
  have hpos := List.length_pos_iff.2 h
  omega

theorem rotationIndex_eq (h : schedule.participants ≠ []) :
    rotationIndex tzOffsetMs schedule now =
      periods tzOffsetMs schedule now % schedule.participants.length := by
  have hpos := participants_pos h
  unfold rotationIndex
  simp only
  rw [if_neg (by omega), Turns.tmod_add_tmod hpos]
  rfl

theorem rotationIndex_nonneg (tzOffsetMs : TzOffset) (now : Instant)
    (h : schedule.participants ≠ []) :
    0 ≤ rotationIndex tzOffsetMs schedule now := by
  rw [rotationIndex_eq h]
  exact Int.emod_nonneg _ (participants_pos h).ne'

theorem rotationIndex_lt (tzOffsetMs : TzOffset) (now : Instant)
    (h : schedule.participants ≠ []) :
    rotationIndex tzOffsetMs schedule now < schedule.participants.length := by
  rw [rotationIndex_eq h]
  exact Int.emod_lt_of_pos _ (participants_pos h)

/-! ## seats -/

/-- `sorted`: the participants in the order of the rotation. -/
def sorted (schedule : ScheduleForResolve) : List ParticipantRef :=
  schedule.participants.insertionSort fun a b => a.position ≤ b.position

theorem sorted_perm (schedule : ScheduleForResolve) :
    (sorted schedule).Perm schedule.participants := List.perm_insertionSort _ _

@[simp] theorem length_sorted (schedule : ScheduleForResolve) :
    (sorted schedule).length = schedule.participants.length := (sorted_perm schedule).length_eq

theorem mem_sorted {p : ParticipantRef} : p ∈ sorted schedule ↔ p ∈ schedule.participants :=
  (sorted_perm schedule).mem_iff

theorem slot_eq (participants : List ParticipantRef) {idx : Int} (h : 0 ≤ idx) :
    slot participants idx = (participants.map (·.userId))[idx.toNat]? := by
  rw [slot, if_pos h, List.getElem?_map]

/-- Every seat is a participant's. -/
theorem exists_slot (participants : List ParticipantRef) {idx : Int} (h : 0 ≤ idx)
    (hlt : idx < participants.length) :
    ∃ p ∈ participants, slot participants idx = some p.userId := by
  have hget : idx.toNat < participants.length := by omega
  refine ⟨participants[idx.toNat], List.getElem_mem hget, ?_⟩
  rw [slot, if_pos h, List.getElem?_eq_getElem hget]
  rfl

/-- Distinct users are in distinct seats. -/
theorem slot_inj {participants : List ParticipantRef} {i j : Int}
    (hdistinct : (participants.map (·.userId)).Nodup) (hi : 0 ≤ i) (hlt : i < participants.length)
    (hj : 0 ≤ j) (h : slot participants i = slot participants j) : i = j := by
  rw [slot_eq _ hi, slot_eq _ hj] at h
  have hnat : i.toNat = j.toNat :=
    (List.getElem?_inj (by rw [List.length_map]; omega) hdistinct).1 h
  omega

/-- `rotationPrimary` -/
def rotationPrimary (tzOffsetMs : TzOffset) (schedule : ScheduleForResolve) (now : Instant) :
    Option UserId :=
  slot (sorted schedule) (rotationIndex tzOffsetMs schedule now)

/-- `rotationSecondary` -/
def rotationSecondary (tzOffsetMs : TzOffset) (schedule : ScheduleForResolve) (now : Instant) :
    Option UserId :=
  if 1 < schedule.participants.length then
    slot (sorted schedule)
      ((rotationIndex tzOffsetMs schedule now + 1) % schedule.participants.length)
  else none

/-- A schedule with participants is resolved by the first active override, else by the rotation. -/
theorem resolveOnCall_eq (h : schedule.participants ≠ []) :
    resolveOnCall tzOffsetMs schedule now =
      match schedule.overrides.find? (·.active now) with
      | some o =>
          let primary := rotationPrimary tzOffsetMs schedule now
          let secondary :=
            if primary.any (· ≠ "") && primary ≠ some o.userId then primary
            else rotationSecondary tzOffsetMs schedule now
          ⟨some o.userId, secondary, .override⟩
      | none =>
          ⟨rotationPrimary tzOffsetMs schedule now, rotationSecondary tzOffsetMs schedule now,
            .rotation⟩ := by
  have hsorted : (sorted schedule).isEmpty = false := by
    rw [List.isEmpty_eq_false_iff, ← List.length_pos_iff, length_sorted]
    exact List.length_pos_iff.2 h
  have hindex : rotationIndex tzOffsetMs { schedule with participants := sorted schedule } now =
      rotationIndex tzOffsetMs schedule now := by
    simp only [rotationIndex, length_sorted]
  have hnonneg := rotationIndex_nonneg tzOffsetMs now h
  have hnext := Int.tmod_eq_emod_of_nonneg (b := schedule.participants.length)
    (show 0 ≤ rotationIndex tzOffsetMs schedule now + 1 by omega)
  unfold resolveOnCall rotationSecondary
  simp only
  rw [← sorted, hsorted, hindex, length_sorted]
  simp only [Bool.false_and, Bool.false_eq_true, if_false, hnonneg, decide_true, Bool.true_and,
    decide_eq_true_eq, hnext]
  rfl

/-- The participant in the seat of a rotation period. -/
def onDuty (schedule : ScheduleForResolve) (k : Int) : Option UserId :=
  slot (sorted schedule) (k % schedule.participants.length)

theorem resolveOnCall_onDuty (h : schedule.participants ≠ []) (hnone : schedule.overrides = []) :
    (resolveOnCall tzOffsetMs schedule now).primaryUserId =
      onDuty schedule (periods tzOffsetMs schedule now) := by
  rw [resolveOnCall_eq h, hnone, onDuty, ← rotationIndex_eq h]
  rfl

/-! ## shifts in real time -/

/-- The instants of a rotation period: one shift. -/
def shift (tzOffsetMs : TzOffset) (schedule : ScheduleForResolve) (k : Int) : Set Instant :=
  {now | periods tzOffsetMs schedule now = k}

/-- The shifts follow one another, each is one stretch of time, and the participant in its seat is
on call throughout. -/
structure ShiftsInOrder (tzOffsetMs : TzOffset) (schedule : ScheduleForResolve) : Prop where
  forward : Monotone (periods tzOffsetMs schedule)
  contiguous : ∀ k, (shift tzOffsetMs schedule k).OrdConnected
  onCall : ∀ k, ∀ now ∈ shift tzOffsetMs schedule k,
    (resolveOnCall tzOffsetMs schedule now).primaryUserId = onDuty schedule k

/-- **Shifts in order**: a rotation never goes back to the participant before exactly where its
wall clock is never set back over a handoff. -/
theorem shiftsInOrder_iff (tzOffsetMs : TzOffset) (schedule : ScheduleForResolve)
    (h : schedule.participants ≠ []) (hnone : schedule.overrides = []) :
    ShiftsInOrder tzOffsetMs schedule ↔
      ∀ k, ¬ Turns.SetBackOver (localMs tzOffsetMs schedule) (schedule.handoffs.start k) := by
  rw [← schedule.handoffs.monotone_turn_iff]
  constructor
  · intro hshifts
    exact hshifts.forward
  · intro hforward
    refine ⟨hforward, schedule.handoffs.ordConnected_turn hforward, fun k now hnow => ?_⟩
    rw [resolveOnCall_onDuty h hnone]
    exact congrArg _ hnow

/-- The offset of a timezone that changes it once. -/
def changesOnce (change before after : Int) : TzOffset := fun now _ =>
  if now < change then before else after

/-- A change of the clocks gives a shift back only where a handoff falls within the stretch of
local time that is shown twice. -/
theorem periods_changesOnce (change before after : Int) (schedule : ScheduleForResolve) :
    Monotone (periods (changesOnce change before after) schedule) ↔
      ∀ k, ¬ (change + after < schedule.handoffs.start k ∧
        schedule.handoffs.start k < change + before) := by
  refine schedule.handoffs.monotone_turn_iff.trans (forall_congr' fun k => not_congr ?_)
  exact Turns.setBackOver_change

/-- Berlin around its change of October 2026. -/
def berlin : TzOffset := changesOnce 1792890000000 7200000 3600000

/-- Two take turns by the day, from half past two in the night. -/
def nights : ScheduleForResolve where
  timezone := "Europe/Berlin"
  rotationType := .daily
  handoffMinute := 150
  participants := [⟨"alice", 0⟩, ⟨"bob", 1⟩]

/-- Spring is in order: the clocks go forward. -/
theorem shiftsInOrder_nights :
    ShiftsInOrder (changesOnce 1774746000000 3600000 7200000) nights :=
  (shiftsInOrder_iff _ _ (by decide) rfl).2 fun k hback => by
    have hchange := Turns.setBackOver_change.1 hback
    omega

/-- The handoff to Bob is taken back half an hour later, and made again after another half. -/
theorem not_monotone_periods_nights :
    ¬ Monotone (periods berlin nights) ∧
      [1792888199000, 1792888200000, 1792890000000, 1792891800000].map
        (fun now => (resolveOnCall berlin nights now).primaryUserId) =
      [some "alice", some "bob", some "alice", some "bob"] := by
  refine ⟨fun hforward => ?_, by decide⟩
  have hback := hforward (show (1792888200000 : Int) ≤ 1792890000000 by decide)
  revert hback
  decide

/-! ## shifts at one offset -/

/-- The timezone keeps to one offset, on a clock read to the minute: `tzOffsetMs` reads it to the
second. -/
def Steady (tzOffsetMs : TzOffset) (timezone : String) (offset : Int) : Prop :=
  ∀ now, (now + tzOffsetMs now timezone) / 60000 = (now + offset) / 60000

/-- `tzOffsetMs` at one offset: the parts of the date it puts together stop at the second. -/
def fixedOffsetMs (offset : Int) : TzOffset := fun now _ => (now + offset) / 1000 * 1000 - now

theorem steady_const (timezone : String) (offset : Int) :
    Steady (fun _ _ => offset) timezone offset := fun _ => rfl

theorem steady_fixedOffsetMs (timezone : String) (offset : Int) :
    Steady (fixedOffsetMs offset) timezone offset := by
  intro (now : Int)
  show (now + ((now + offset) / 1000 * 1000 - now)) / 60000 = (now + offset) / 60000
  omega

variable {offset : Int}

theorem periods_steady (h : Steady tzOffsetMs schedule.timezone offset) :
    periods tzOffsetMs schedule now = schedule.handoffs.turn (now + offset) := by
  refine schedule.handoffs.turn_eq_of_ediv_eq (by decide) ?_ ?_ (h now)
  · exact Int.dvd_mul_left _ _
  · exact Dvd.dvd.mul_left (show (60000 : Int) ∣ dayMs by decide) _

theorem rotationIndex_steady (h : schedule.participants ≠ [])
    (hsteady : Steady tzOffsetMs schedule.timezone offset) :
    rotationIndex tzOffsetMs schedule now =
      schedule.handoffs.turn (now + offset) % schedule.participants.length := by
  rw [rotationIndex_eq h, periods_steady hsteady]

theorem rotationIndex_advances (h : schedule.participants ≠ [])
    (hsteady : Steady tzOffsetMs schedule.timezone offset) :
    rotationIndex tzOffsetMs schedule (now + periodDays schedule.rotationType * dayMs) =
      (rotationIndex tzOffsetMs schedule now + 1) % schedule.participants.length := by
  have hturn := schedule.handoffs.turn_add (now + offset) 1
  rw [rotationIndex_steady h hsteady, rotationIndex_steady h hsteady, Int.emod_add_emod, ← hturn,
    Int.add_right_comm, Int.one_mul]
  rfl

/-- The index changes only as the local time gets to the handoff minute. -/
theorem handoff_of_ne (h : schedule.participants ≠ [])
    (hsteady : Steady tzOffsetMs schedule.timezone offset)
    (hne : rotationIndex tzOffsetMs schedule now ≠ rotationIndex tzOffsetMs schedule (now - 1)) :
    (now + offset) % dayMs = schedule.handoffMinute * 60000 % dayMs := by
  rw [rotationIndex_steady h hsteady, rotationIndex_steady h hsteady] at hne
  rw [sub_add_eq_add_sub] at hne
  have hstart := schedule.handoffs.start_turn_of_ne fun heq => hne (by rw [heq])
  have hdays : dayMs ∣ schedule.handoffs.turn (now + offset) * schedule.handoffs.length :=
    Dvd.dvd.mul_left (Int.dvd_mul_left ..) _
  rw [← hstart, Turns.start, ← Int.add_emod_emod, Int.emod_eq_zero_of_dvd hdays, Int.add_zero]
  rfl

/-- In a round a seat is on call for one whole period. -/
theorem exists_shift (h : schedule.participants ≠ [])
    (hsteady : Steady tzOffsetMs schedule.timezone offset) {seat : Int} (hseat : 0 ≤ seat)
    (hlt : seat < schedule.participants.length) (first : Int) :
    ∃ k, (first ≤ k ∧ k < first + schedule.participants.length) ∧
      ∀ now, schedule.handoffs.start first ≤ now + offset →
        now + offset < schedule.handoffs.start (first + schedule.participants.length) →
        (rotationIndex tzOffsetMs schedule now = seat ↔
          schedule.handoffs.start k ≤ now + offset ∧
            now + offset < schedule.handoffs.start (k + 1)) := by
  obtain ⟨k, hk, hturn⟩ := Turns.exists_turn_of_seat hseat hlt first
  refine ⟨k, hk, fun now hfirst hlast => ?_⟩
  rw [Turns.start_le_iff] at hfirst
  rw [Turns.lt_start_iff] at hlast
  rw [rotationIndex_steady h hsteady, hturn _ hfirst hlast, Turns.turn_eq_iff]

/-- A participant has a seat, and is the rotation's primary exactly when the index is on it. -/
theorem exists_seat (tzOffsetMs : TzOffset) (h : schedule.participants ≠ [])
    (hdistinct : (schedule.participants.map (·.userId)).Nodup) {p : ParticipantRef}
    (hp : p ∈ schedule.participants) :
    ∃ seat : Int, 0 ≤ seat ∧ seat < schedule.participants.length ∧
      ∀ now, rotationPrimary tzOffsetMs schedule now = some p.userId ↔
        rotationIndex tzOffsetMs schedule now = seat := by
  obtain ⟨i, hi, rfl⟩ := List.mem_iff_getElem.1 (mem_sorted.2 hp)
  have hslot : slot (sorted schedule) i = some (sorted schedule)[i].userId := by
    rw [slot, if_pos (by omega), Int.toNat_natCast, List.getElem?_eq_getElem hi]
    rfl
  rw [length_sorted] at hi
  refine ⟨i, by omega, by omega, fun now => ⟨fun hprimary => ?_, ?_⟩⟩
  · rw [← hslot, rotationPrimary] at hprimary
    refine slot_inj ?_ (rotationIndex_nonneg tzOffsetMs now h) ?_ (by omega) hprimary
    · exact ((sorted_perm schedule).map _).nodup_iff.2 hdistinct
    · rw [length_sorted]
      exact rotationIndex_lt tzOffsetMs now h
  · intro hindex
    rw [rotationPrimary, hindex, hslot]

/-- What a rotation is to the participants while the clock keeps to one offset. -/
structure FairRotation (tzOffsetMs : TzOffset) (schedule : ScheduleForResolve) (offset : Int) :
    Prop where
  inRange : ∀ now, 0 ≤ rotationIndex tzOffsetMs schedule now ∧
    rotationIndex tzOffsetMs schedule now < schedule.participants.length
  advances : ∀ now,
    rotationIndex tzOffsetMs schedule (now + periodDays schedule.rotationType * dayMs) =
      (rotationIndex tzOffsetMs schedule now + 1) % schedule.participants.length
  /-- The index changes only as the local time gets to the handoff minute. -/
  changes : ∀ now,
    rotationIndex tzOffsetMs schedule now ≠ rotationIndex tzOffsetMs schedule (now - 1) →
      (now + offset) % dayMs = schedule.handoffMinute * 60000 % dayMs
  /-- Of as many periods as there are participants, each seat has one, and is on call for it. -/
  seats : ∀ first seat : Int, 0 ≤ seat → seat < schedule.participants.length →
    ∃ k : Int, (first ≤ k ∧ k < first + schedule.participants.length) ∧
      ∀ now, schedule.handoffs.start first ≤ now + offset →
        now + offset < schedule.handoffs.start (first + schedule.participants.length) →
        (rotationIndex tzOffsetMs schedule now = seat ↔
          schedule.handoffs.start k ≤ now + offset ∧ now + offset < schedule.handoffs.start (k + 1))
  /-- So has each participant, where no override takes a shift. -/
  people : schedule.overrides = [] → (schedule.participants.map (·.userId)).Nodup →
    ∀ p ∈ schedule.participants, ∀ first : Int,
      ∃ k : Int, (first ≤ k ∧ k < first + schedule.participants.length) ∧
        ∀ now, schedule.handoffs.start first ≤ now + offset →
          now + offset < schedule.handoffs.start (first + schedule.participants.length) →
          ((resolveOnCall tzOffsetMs schedule now).primaryUserId = some p.userId ↔
            schedule.handoffs.start k ≤ now + offset ∧
              now + offset < schedule.handoffs.start (k + 1))

/-- **A fair rotation**: at one offset from UTC the index stays in range, advances by one a period,
changes at handoffs only, and gives each participant one whole period a round. -/
theorem fairRotation (tzOffsetMs : TzOffset) (schedule : ScheduleForResolve) (offset : Int)
    (h : schedule.participants ≠ []) (hsteady : Steady tzOffsetMs schedule.timezone offset) :
    FairRotation tzOffsetMs schedule offset where
  inRange now := ⟨rotationIndex_nonneg tzOffsetMs now h, rotationIndex_lt tzOffsetMs now h⟩
  advances now := rotationIndex_advances h hsteady
  changes now hne := handoff_of_ne h hsteady hne
  seats first seat hseat hlt := exists_shift h hsteady hseat hlt first
  people hnone hdistinct p hp first := by
    obtain ⟨seat, hseat, hlt, hduty⟩ := exists_seat tzOffsetMs h hdistinct hp
    obtain ⟨k, hk, hshift⟩ := exists_shift h hsteady hseat hlt first
    refine ⟨k, hk, fun now hfirst hlast => ?_⟩
    rw [← hshift now hfirst hlast, ← hduty now, resolveOnCall_eq h, hnone]
    rfl

/-- Two take turns, on a clock an hour ahead that is read to the second. -/
theorem fairRotation_nights : FairRotation (fixedOffsetMs 3600000) nights 3600000 :=
  fairRotation _ _ _ (by decide) (steady_fixedOffsetMs _ _)

/-! ## the second in line -/

/-- The participants are users: their ids, which are keys of users, are distinct and not empty. -/
structure Users (participants : List ParticipantRef) : Prop where
  distinct : (participants.map (·.userId)).Nodup
  named : ∀ p ∈ participants, p.userId ≠ ""

theorem exists_rotationPrimary (tzOffsetMs : TzOffset) (now : Instant)
    (h : schedule.participants ≠ []) :
    ∃ p ∈ schedule.participants, rotationPrimary tzOffsetMs schedule now = some p.userId := by
  obtain ⟨p, hp, hslot⟩ := exists_slot (sorted schedule) (rotationIndex_nonneg tzOffsetMs now h)
    (by rw [length_sorted]; exact rotationIndex_lt tzOffsetMs now h)
  exact ⟨p, mem_sorted.1 hp, hslot⟩

/-- The next in the rotation is another participant, where there is one. -/
theorem rotationSecondary_ne (h : schedule.participants ≠ [])
    (husers : Users schedule.participants) {primary : UserId}
    (hprimary : rotationPrimary tzOffsetMs schedule now = some primary) :
    rotationSecondary tzOffsetMs schedule now ≠ some primary ∧
      (rotationSecondary tzOffsetMs schedule now = none ↔
        ∀ p ∈ schedule.participants, p.userId = primary) := by
  have hdistinct := ((sorted_perm schedule).map (·.userId)).nodup_iff.2 husers.distinct
  have hnonneg := rotationIndex_nonneg tzOffsetMs now h
  have hlt := rotationIndex_lt tzOffsetMs now h
  unfold rotationSecondary
  by_cases hmany : 1 < schedule.participants.length
  · rw [if_pos hmany]
    have hnext := Turns.succ_emod_ne (by omega) hnonneg hlt
    have hnext_nonneg := Int.emod_nonneg (rotationIndex tzOffsetMs schedule now + 1)
      (participants_pos h).ne'
    obtain ⟨q, hq, hslot⟩ := exists_slot (sorted schedule) hnext_nonneg
      (by rw [length_sorted]; exact Int.emod_lt_of_pos _ (participants_pos h))
    have hother : q.userId ≠ primary := by
      rintro rfl
      rw [← hslot, rotationPrimary] at hprimary
      exact hnext (slot_inj hdistinct hnonneg (by rwa [length_sorted]) hnext_nonneg hprimary).symm
    rw [hslot]
    refine ⟨by simpa using hother, by simp, fun hall => ?_⟩
    exact absurd (hall q (mem_sorted.1 hq)) hother
  · rw [if_neg hmany]
    obtain ⟨p, hp, hslot⟩ := exists_rotationPrimary tzOffsetMs now h
    obtain rfl : p.userId = primary := Option.some.inj (hslot.symm.trans hprimary)
    obtain ⟨only, honly⟩ := List.length_eq_one_iff.1
      (show schedule.participants.length = 1 by have := List.length_pos_iff.2 h; omega)
    rw [honly, List.mem_singleton] at hp
    subst hp
    refine ⟨by simp, fun _ q hq => ?_, fun _ => rfl⟩
    rw [honly, List.mem_singleton] at hq
    rw [hq]

/-- **A second in line**: there is a primary, the secondary is someone else, and there is none only
where no other participant is. -/
theorem resolveOnCall_secondary (tzOffsetMs : TzOffset) (schedule : ScheduleForResolve)
    (now : Instant) (h : schedule.participants ≠ []) (husers : Users schedule.participants) :
    ∃ primary, (resolveOnCall tzOffsetMs schedule now).primaryUserId = some primary ∧
      (resolveOnCall tzOffsetMs schedule now).secondaryUserId ≠ some primary ∧
      ((resolveOnCall tzOffsetMs schedule now).secondaryUserId = none ↔
        ∀ p ∈ schedule.participants, p.userId = primary) := by
  obtain ⟨p, hp, hprimary⟩ := exists_rotationPrimary tzOffsetMs now h
  have hnext := rotationSecondary_ne h husers hprimary
  rw [resolveOnCall_eq h]
  cases schedule.overrides.find? (·.active now) with
  | none => exact ⟨p.userId, hprimary, hnext⟩
  | some o =>
      refine ⟨o.userId, rfl, ?_⟩
      have hnamed := husers.named p hp
      simp only [hprimary, Option.any_some]
      by_cases hcovered : p.userId = o.userId
      · -- the override names the participant on duty: the next in the rotation is second
        rw [hcovered] at hnext
        simpa [hcovered] using hnext
      · simpa [hnamed, hcovered] using ⟨p, hp, hcovered⟩

/-- Alice covers for Bob, and would have been the second. -/
theorem resolveOnCall_secondary_nights :
    ∃ primary,
      (resolveOnCall berlin { nights with overrides := [⟨"alice", 0, 10⟩] } 5).primaryUserId =
        some primary ∧
      (resolveOnCall berlin { nights with overrides := [⟨"alice", 0, 10⟩] } 5).secondaryUserId ≠
        some primary ∧
      ((resolveOnCall berlin { nights with overrides := [⟨"alice", 0, 10⟩] } 5).secondaryUserId =
        none ↔ ∀ p ∈ nights.participants, p.userId = primary) :=
  resolveOnCall_secondary berlin { nights with overrides := [⟨"alice", 0, 10⟩] } 5 (by decide)
    ⟨by decide, by decide⟩

end UptimeFlow.OnCall
