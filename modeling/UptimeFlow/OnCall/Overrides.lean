import UptimeFlow.Escalation.Members
import UptimeFlow.OnCall.Rotation

/-!
# UptimeFlow.OnCall.Overrides

Who is on call where overrides overlap.

The rows of `on_call_overrides` are read without an order, and the first that is
active names the primary (`whoIsOnCall_eq`).  `addOverride` takes overrides that
overlap, and both ends of one count, so the answer can depend on the order the
rows come in: it does exactly where two that are active name different users
(`anyOrder_iff`).
-/

namespace UptimeFlow.OnCall

open Tables Runs
open Monitoring (Instant)
open Escalation (Team TeamOp OverrideRow ScheduleRecord acmeHost acmeTeam)

variable {tzOffsetMs : TzOffset} {now : Instant}

/-- The schedule with one user to cover the shift, or none. -/
def covered (schedule : ScheduleForResolve) (now : Instant) (user : Option UserId) :
    ScheduleForResolve :=
  { schedule with overrides := user.toList.map fun userId => ⟨userId, now, now⟩ }

@[simp] theorem find?_covered (schedule : ScheduleForResolve) (user : Option UserId) :
    (covered schedule now user).overrides.find? (·.active now) =
      user.map fun userId => ⟨userId, now, now⟩ := by
  cases user <;> simp [covered, OverrideRef.active]

/-- The overrides name who covers, and nothing else. -/
theorem resolveOnCall_covered (schedule : ScheduleForResolve) :
    resolveOnCall tzOffsetMs schedule now =
      resolveOnCall tzOffsetMs
        (covered schedule now ((schedule.overrides.find? (·.active now)).map (·.userId))) now := by
  unfold resolveOnCall
  rw [find?_covered]
  cases schedule.overrides.find? (·.active now) <;> rfl

theorem primary_covered (schedule : ScheduleForResolve) (userId : UserId) :
    (resolveOnCall tzOffsetMs (covered schedule now (some userId)) now).primaryUserId =
      some userId := by
  simp [resolveOnCall]

theorem source_covered (schedule : ScheduleForResolve) (user : Option UserId) :
    (resolveOnCall tzOffsetMs (covered schedule now user) now).source = .override ↔
      user.isSome = true := by
  simp only [resolveOnCall, find?_covered]
  cases user with
  | none => split <;> simp
  | some userId => simp

/-- The answer tells who covers. -/
theorem covered_inj (schedule : ScheduleForResolve) {a b : Option UserId}
    (h : resolveOnCall tzOffsetMs (covered schedule now a) now =
      resolveOnCall tzOffsetMs (covered schedule now b) now) : a = b := by
  have hsome : a.isSome = true ↔ b.isSome = true := by
    rw [← source_covered schedule a, h, source_covered]
  cases a with
  | none =>
      cases b with
      | none => rfl
      | some b => simp at hsome
  | some a =>
      cases b with
      | none => simp at hsome
      | some b =>
          have hprimary := congrArg OnCallResult.primaryUserId h
          rwa [primary_covered, primary_covered] at hprimary

/-! ## rows in any order -/

/-- The schedule, unless it was deleted. -/
def live (s : Team) (id : ScheduleId) : Option ScheduleRecord :=
  s.schedules.find? fun r => r.id = id && r.deletedAt.isNone

/-- The row is an override of the schedule, and active. -/
def covers (id : ScheduleId) (now : Instant) (o : OverrideRow) : Bool :=
  o.scheduleId = id && o.active now

/-- The first active override decides. -/
theorem whoIsOnCall_eq (s : Team) (id : ScheduleId) :
    whoIsOnCall tzOffsetMs s.db.schedules id now =
      (live s id).map fun r =>
        resolveOnCall tzOffsetMs
          (covered (s.scheduleRow r).toScheduleForResolve now
            ((s.overrides.find? (covers id now)).map (·.userId))) now := by
  have hlive : s.db.schedules.find? (fun r => r.id = id && r.deletedAt.isNone) =
      (live s id).map s.scheduleRow := List.find?_map ..
  rw [whoIsOnCall, hlive]
  cases hfound : live s id with
  | none => rfl
  | some r =>
      have hid : r.id = id := by
        have hmatch := List.find?_some hfound
        simp only [Bool.and_eq_true, decide_eq_true_eq] at hmatch
        exact hmatch.1
      have hread : (((s.scheduleRow r).overrides.filter (·.active now)).find? (·.active now)).map
          (·.userId) = (s.overrides.find? (covers id now)).map (·.userId) := by
        rw [Team.scheduleRow, List.find?_filter, List.find?_map, List.find?_filter, Option.map_map]
        refine congrArg _ (congrArg (List.find? · _) (funext fun o => ?_))
        simp [covers, hid]
      rw [Option.map_some, Option.map_some, Option.map_some, resolveOnCall_covered]
      simp only [hread]
      rfl

/-- The same answer for every order of the rows. -/
def AnyOrder (tzOffsetMs : TzOffset) (s : Team) (id : ScheduleId) (now : Instant) : Prop :=
  ∀ rows : List OverrideRow, rows.Perm s.overrides →
    whoIsOnCall tzOffsetMs { s with overrides := rows }.db.schedules id now =
      whoIsOnCall tzOffsetMs s.db.schedules id now

/-- **No order is needed** exactly where the active overrides of the schedule name one user. -/
theorem anyOrder_iff (tzOffsetMs : TzOffset) (s : Team) (id : ScheduleId) (now : Instant) :
    AnyOrder tzOffsetMs s id now ↔
      live s id = none ∨
        ∀ a ∈ s.overrides, ∀ b ∈ s.overrides,
          covers id now a = true → covers id now b = true → a.userId = b.userId := by
  unfold AnyOrder
  simp only [whoIsOnCall_eq]
  cases hfound : live s id with
  | none =>
      have hsame : ∀ rows, live { s with overrides := rows } id = none := fun _ => hfound
      simp [hsame]
  | some r =>
      have hsame : ∀ rows, live { s with overrides := rows } id = some r := fun _ => hfound
      simp only [hsame, Option.map_some, Option.some.injEq, reduceCtorEq, false_or]
      rw [← find?_perm_iff]
      refine forall₂_congr fun rows _ => ?_
      exact ⟨covered_inj _, fun h => congrArg (fun user => resolveOnCall tzOffsetMs
        (covered (s.scheduleRow r).toScheduleForResolve now user) now) h⟩

/-- A rotation of Carol, and two overrides that are accepted one after the other: Alice covers until
ten, and Bob from five on. -/
def coverTwice : List TeamOp :=
  [.ask "acme" (.createSchedule "s" ⟨"UTC", .daily, 0, ["carol"]⟩), .goOn 0, .goOn 0, .goOn 0,
   .ask "acme" (.addOverride "s" ⟨"alice", 0, 10⟩), .goOn 0, .goOn 0, .goOn 0, .goOn 0,
   .ask "acme" (.addOverride "s" ⟨"bob", 5, 15⟩), .goOn 0, .goOn 0, .goOn 0, .goOn 0]

/-- Between five and ten Alice is on call, or Bob. -/
theorem not_anyOrder_coverTwice :
    (run (Team.step acmeHost) acmeTeam coverTwice).overrides.map (·.toOverrideRef) =
        [⟨"alice", 0, 10⟩, ⟨"bob", 5, 15⟩] ∧
      ¬ AnyOrder acmeHost.tzOffsetMs (run (Team.step acmeHost) acmeTeam coverTwice) "s" 7 := by
  refine ⟨by decide +kernel, fun hany => ?_⟩
  have hreverse := hany _ (List.reverse_perm _)
  revert hreverse
  decide +kernel

end UptimeFlow.OnCall
