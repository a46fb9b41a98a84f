import UptimeFlow.Escalation.Reliance

/-!
# UptimeFlow.Escalation.Members

Who is paged is a member.

A step of the system relies on nothing new that is not there (`relies_step`),
and what is there stays, but for a member who is removed (`kept_step`,
`members_step`).  So everyone paged is a member as long as no one is removed
whom something still names; no statement of the worker looks a member up.
-/

namespace UptimeFlow.Escalation

open Runs Tables OnCall
open Monitoring (Instant OrganizationId PolicyId MonitorRow)

namespace Team

variable {host : Host} {s : Team}

/-! ## writes -/

theorem mem_stepCreates {id : PolicyId} {steps : List StepInput} {row : StepRow}
    (h : row ∈ stepCreates id steps) :
    row.policyId = id ∧ ∃ input ∈ steps, row.targets = input.targets := by
  obtain ⟨n, hn, rfl⟩ := List.mem_mapIdx.1 h
  exact ⟨rfl, steps[n], List.getElem_mem hn, rfl⟩

theorem mem_participantRows {id : ScheduleId} {participants : List UserId} {row : ParticipantRow}
    (h : row ∈ participantRows id participants) :
    row.scheduleId = id ∧ row.userId ∈ participants := by
  obtain ⟨n, hn, rfl⟩ := List.mem_mapIdx.1 h
  exact ⟨rfl, List.getElem_mem hn⟩

/-- What a target needs is what is looked for, unless the target is refused as it stands. -/
theorem targetLine_check {t : TargetRow} {c : Check} (h : t.needs = some c) :
    (targetLine t).check = c ∨ (targetLine t).check = .input false := by
  obtain ⟨type, userId, scheduleId, channelId⟩ := t
  cases type with
  | user =>
      obtain ⟨userId, rfl, rfl⟩ := Option.map_eq_some_iff.1 h
      by_cases hempty : userId.isEmpty = true
      · exact .inr (by simp [targetLine, required, hempty])
      · exact .inl (by simp [targetLine, required, hempty, memberLine])
  | schedule =>
      obtain ⟨scheduleId, rfl, rfl⟩ := Option.map_eq_some_iff.1 h
      by_cases hempty : scheduleId.isEmpty = true
      · exact .inr (by simp [targetLine, required, hempty])
      · exact .inl (by simp [targetLine, required, hempty])
  | channel => cases h

/-- What the rows of a step need, its call has found. -/
theorem relies_validated (h : s.Sound) {organizationId : OrganizationId} {id : PolicyId}
    {steps : List StepInput}
    (hfound : ∀ line ∈ validateTargets steps, s.Relies organizationId line.check) {row : StepRow}
    (hrow : row ∈ stepCreates id steps) {t : TargetRow} (ht : t ∈ row.targets) {c : Check}
    (hc : t.needs = some c) : s.Relies organizationId c := by
  obtain ⟨-, input, hinput, htargets⟩ := mem_stepCreates hrow
  have hline : targetLine t ∈ validateTargets steps :=
    List.mem_flatMap.2 ⟨input, hinput, List.mem_map_of_mem (htargets ▸ ht)⟩
  have hrelies := hfound _ hline
  obtain hcheck | hcheck := targetLine_check hc
  · rwa [hcheck] at hrelies
  · rw [hcheck] at hrelies
    have hmet := h.met _ _ hrelies
    cases hmet

/-- A rotation's members, its call has found. -/
theorem relies_asserted {organizationId : OrganizationId} {participants : List UserId}
    (hfound : ∀ line ∈ assertMembers participants, s.Relies organizationId line.check)
    {userId : UserId} (huser : userId ∈ participants) :
    s.Relies organizationId (.member userId) :=
  hfound _ (List.mem_map_of_mem (List.mem_eraseDups.2 huser))

section
variable {organizationId owner : OrganizationId} {c : Check}

/-- The rows of a policy under an id not in use rely on what its call has found. -/
theorem relies_addPolicy (h : s.Sound) {id : PolicyId} (hunused : s.policyUnused id = true)
    {repeatCount : Option Nat} {steps : List StepInput}
    (hfound : ∀ line ∈ validateTargets steps, s.Relies organizationId line.check)
    (hc : (s.addPolicy organizationId id repeatCount steps).Relies owner c) :
    s.Relies owner c := by
  obtain ⟨part, hc⟩ := hc
  by_cases hpart : part = .policies
  · subst hpart
    simp only [policyUnused, Bool.and_eq_true, List.all_eq_true, decide_eq_true_eq] at hunused
    obtain ⟨p, hp, rfl, hlive, row, hrow, hpolicy, t, ht, hneeds⟩ := hc
    obtain hrow | hrow := List.mem_append.1 hrow
    · obtain hp | hp := List.mem_append.1 hp
      · exact ⟨.policies, p, hp, rfl, hlive, row, hrow, hpolicy, t, ht, hneeds⟩
      · rw [List.mem_singleton.1 hp] at hpolicy
        exact absurd hpolicy (hunused.2 row hrow)
    · obtain hp | hp := List.mem_append.1 hp
      · exact absurd (hpolicy.symm.trans (mem_stepCreates hrow).1) (hunused.1 p hp)
      · rw [List.mem_singleton.1 hp]
        exact relies_validated h hfound hrow ht hneeds
  · exact ⟨part, by cases part with | policies => contradiction | _ => exact hc⟩

/-- The new steps of a policy of the organization rely on what their call has found. -/
theorem relies_rewritePolicy (h : s.Sound) {id : PolicyId}
    (hown : s.Met organizationId (.policy id)) {repeatCount : Option Nat} {steps : List StepInput}
    (hfound : ∀ line ∈ validateTargets steps, s.Relies organizationId line.check)
    (hc : (s.rewritePolicy id repeatCount steps).Relies owner c) : s.Relies owner c := by
  obtain ⟨part, hc⟩ := hc
  by_cases hpart : part = .policies
  · subst hpart
    obtain ⟨p, hp, rfl, hlive, row, hrow, hpolicy, t, ht, hneeds⟩ := hc
    -- the policy as it was, under the same id and owner
    obtain ⟨old, hold, hkey⟩ := exists_of_mem_updateWhere
      (fun p : PolicyRow => (p.id, p.organizationId, p.deletedAt)) hp fun _ => rfl
    obtain ⟨hid, howner, hdeleted⟩ := by simpa only [Prod.mk.injEq] using hkey
    obtain hrow | hrow := List.mem_append.1 hrow
    · exact ⟨.policies, old, hold, howner, hdeleted.trans hlive, row, (List.mem_filter.1 hrow).1,
        hpolicy.trans hid.symm, t, ht, hneeds⟩
    · obtain ⟨own, hown, hownId, hownOwner⟩ := hown
      have hsame : old = own := eq_of_id_eq h.policies hold hown
        (hid.trans (hpolicy.symm.trans ((mem_stepCreates hrow).1.trans hownId.symm)))
      rw [← howner, hsame, hownOwner]
      exact relies_validated h hfound hrow ht hneeds
  · exact ⟨part, by cases part with | policies => contradiction | _ => exact hc⟩

theorem relies_addSchedule {id : ScheduleId} (hunused : s.scheduleUnused id = true)
    {input : ScheduleInput}
    (hfound : ∀ line ∈ assertMembers input.participants, s.Relies organizationId line.check)
    (hc : (s.addSchedule organizationId id input).Relies owner c) : s.Relies owner c := by
  obtain ⟨part, hc⟩ := hc
  by_cases hpart : part = .schedules
  · subst hpart
    simp only [scheduleUnused, Bool.and_eq_true, List.all_eq_true, decide_eq_true_eq] at hunused
    obtain ⟨r, hr, rfl, hlive, hnames⟩ := hc
    obtain hr | hr := List.mem_append.1 hr
    · refine ⟨.schedules, r, hr, rfl, hlive, ?_⟩
      obtain ⟨p, hp, hschedule, hc⟩ | hcovers := hnames
      · obtain hp | hp := List.mem_append.1 hp
        · exact .inl ⟨p, hp, hschedule, hc⟩
        · exact absurd (hschedule.symm.trans (mem_participantRows hp).1) (hunused.1.1 r hr)
      · exact .inr hcovers
    · rw [List.mem_singleton.1 hr] at hnames ⊢
      obtain ⟨p, hp, hschedule, rfl⟩ | ⟨o, ho, hschedule, -⟩ := hnames
      · obtain hp | hp := List.mem_append.1 hp
        · exact absurd hschedule (hunused.1.2 p hp)
        · exact relies_asserted hfound (mem_participantRows hp).2
      · exact absurd hschedule (hunused.2 o ho)
  · exact ⟨part, by cases part with | schedules => contradiction | _ => exact hc⟩

theorem relies_rewriteSchedule (h : s.Sound) {id : ScheduleId}
    (hown : s.Met organizationId (.schedule id)) {input : ScheduleInput}
    (hfound : ∀ line ∈ assertMembers input.participants, s.Relies organizationId line.check)
    (hc : (s.rewriteSchedule id input).Relies owner c) : s.Relies owner c := by
  obtain ⟨part, hc⟩ := hc
  by_cases hpart : part = .schedules
  · subst hpart
    obtain ⟨r, hr, rfl, hlive, hnames⟩ := hc
    obtain ⟨old, hold, hkey⟩ := exists_of_mem_updateWhere
      (fun r : ScheduleRecord => (r.id, r.organizationId, r.deletedAt)) hr fun _ => rfl
    obtain ⟨hid, howner, hdeleted⟩ := by simpa only [Prod.mk.injEq] using hkey
    obtain ⟨p, hp, hschedule, rfl⟩ | ⟨o, ho, hschedule, hcovers⟩ := hnames
    · obtain hp | hp := List.mem_append.1 hp
      · exact ⟨.schedules, old, hold, howner, hdeleted.trans hlive,
          .inl ⟨p, (List.mem_filter.1 hp).1, hschedule.trans hid.symm, rfl⟩⟩
      · obtain ⟨own, hown, hownId, hownOwner⟩ := hown
        have hsame : old = own := eq_of_id_eq h.schedules hold hown
          (hid.trans (hschedule.symm.trans ((mem_participantRows hp).1.trans hownId.symm)))
        rw [← howner, hsame, hownOwner]
        exact relies_asserted hfound (mem_participantRows hp).2
    · exact ⟨.schedules, old, hold, howner, hdeleted.trans hlive,
        .inr ⟨o, ho, hschedule.trans hid.symm, hcovers⟩⟩
  · exact ⟨part, by cases part with | schedules => contradiction | _ => exact hc⟩

/-- The overrides changed: a new one is of a schedule of the organization, for a user the state
relies on. -/
theorem relies_overrides (h : s.Sound) {id : ScheduleId} {overrides : List OverrideRow}
    (hown : s.Met organizationId (.schedule id))
    (hnew : ∀ o ∈ overrides, o ∈ s.overrides ∨
      o.scheduleId = id ∧ s.Relies organizationId (.member o.userId))
    (hc : Team.Relies { s with overrides } owner c) : s.Relies owner c := by
  obtain ⟨part, hc⟩ := hc
  by_cases hpart : part = .schedules
  · subst hpart
    obtain ⟨r, hr, rfl, hlive, hparticipant | ⟨o, ho, hschedule, hahead, rfl⟩⟩ := hc
    · exact ⟨.schedules, r, hr, rfl, hlive, .inl hparticipant⟩
    · obtain hold | ⟨hid, hrelies⟩ := hnew o ho
      · exact ⟨.schedules, r, hr, rfl, hlive, .inr ⟨o, hold, hschedule, hahead, rfl⟩⟩
      · obtain ⟨own, hown, hownId, hownOwner⟩ := hown
        have hsame : r = own := eq_of_id_eq h.schedules hr hown
          (hschedule.symm.trans (hid.trans hownId.symm))
        rwa [hsame, hownOwner]
  · exact ⟨part, by cases part with | schedules => contradiction | _ => exact hc⟩

/-- The monitors changed: where a policy was set, the state relies on it. -/
theorem relies_monitors {monitors : List MonitorRow}
    (hnew : ∀ m ∈ monitors, ∀ policyId, m.escalationPolicyId = some policyId →
      s.Relies m.organizationId (.policy policyId))
    (hc : Team.Relies { s with system.db.monitors := monitors } owner c) : s.Relies owner c := by
  obtain ⟨part, hc⟩ := hc
  by_cases hpart : part = .monitors
  · subst hpart
    obtain ⟨m, hm, rfl, hpolicy⟩ := hc
    obtain hm | hm := List.mem_append.1 hm
    · obtain ⟨policyId, hset, rfl⟩ := Option.map_eq_some_iff.1 hpolicy
      exact hnew m hm policyId hset
    · exact ⟨.monitors, m, List.mem_append_right _ hm, rfl, hpolicy⟩
  · exact ⟨part, by cases part with | monitors => contradiction | _ => exact hc⟩

end

/-- The policy of a monitor. -/
theorem relies_set {m : MonitorRow} (hm : m ∈ s.system.db.monitors) {policyId : PolicyId}
    (h : m.escalationPolicyId = some policyId) : s.Relies m.organizationId (.policy policyId) :=
  ⟨.monitors, m, List.mem_append_left _ hm, rfl, by rw [h]; rfl⟩

/-- The policy a monitor is given, its call has found. -/
theorem relies_assigned {organizationId : OrganizationId} {assigned : Option PolicyId}
    (hfound : ∀ line ∈ assertPolicyOwned assigned, s.Relies organizationId line.check)
    {policyId : PolicyId} (h : assigned = some policyId) :
    s.Relies organizationId (.policy policyId) :=
  hfound _ (List.mem_map.2 ⟨policyId, Option.mem_toList.2 h, rfl⟩)

/-- The rows that a write makes rely on nothing that its call has not found. -/
theorem relies_write (h : s.Sound) {organizationId : OrganizationId} {edit : Edit}
    (hfound : ∀ line ∈ edit.lines, s.Relies organizationId line.check) {owner : OrganizationId}
    {c : Check} (hc : (s.write organizationId edit).Relies owner c) : s.Relies owner c := by
  cases edit with
  | createPolicy id repeatCount steps =>
      rw [Team.write] at hc
      split at hc
      · next hunused => exact relies_addPolicy h hunused hfound hc
      · exact hc
  | updatePolicy id repeatCount steps =>
      rw [Edit.lines, List.forall_mem_cons] at hfound
      rw [Team.write] at hc
      split at hc
      · exact relies_rewritePolicy h (h.met _ _ hfound.1) hfound.2 hc
      · exact hc
  | createSchedule id input =>
      rw [Edit.lines, List.forall_mem_cons] at hfound
      rw [Team.write] at hc
      split at hc
      · next hfree =>
        rw [Bool.and_eq_true] at hfree
        exact relies_addSchedule hfree.1 hfound.2 hc
      · exact hc
  | updateSchedule id input =>
      rw [Edit.lines, List.forall_mem_cons, List.forall_mem_cons] at hfound
      rw [Team.write] at hc
      split at hc
      · exact relies_rewriteSchedule h (h.met _ _ hfound.1) hfound.2.2 hc
      · exact hc
  | addOverride id input =>
      rw [Edit.lines, List.cons_append, List.forall_mem_cons, List.forall_mem_append] at hfound
      refine relies_overrides h (h.met _ _ hfound.1) (fun o ho => ?_) hc
      obtain hold | hnew := List.mem_append.1 ho
      · exact .inl hold
      · rw [List.mem_singleton.1 hnew]
        exact .inr ⟨rfl, relies_asserted hfound.2.1 (List.mem_singleton_self _)⟩
  | removeOverride id overrideId =>
      exact relies_overrides h (h.met _ _ (hfound _ (List.mem_singleton_self _)))
        (fun o ho => .inl (List.mem_filter.1 ho).1) hc
  | createMonitor row =>
      rw [Team.write] at hc
      split at hc
      · refine relies_monitors (fun m hm policyId hpolicy => ?_) hc
        obtain hold | hnew := List.mem_append.1 hm
        · exact relies_set hold hpolicy
        · rw [List.mem_singleton.1 hnew] at hpolicy ⊢
          exact relies_assigned hfound hpolicy
      · exact hc
  | updateMonitor id escalationPolicyId =>
      rw [Edit.lines, List.forall_mem_cons] at hfound
      refine relies_monitors (fun m hm policyId hpolicy => ?_) hc
      obtain ⟨old, hold, hid, rfl⟩ | ⟨hold, -⟩ := mem_updateWhere.1 hm
      · rw [decide_eq_true_eq] at hid
        cases escalationPolicyId with
        | none => exact relies_set hold hpolicy
        | some assigned =>
            obtain ⟨own, hown, hownId, hownOwner⟩ := h.met _ _ hfound.1
            have hsame : old = own := eq_of_id_eq h.monitors hold hown (hid.trans hownId.symm)
            have hrelies := relies_assigned hfound.2 hpolicy
            rwa [← hownOwner, ← hsame] at hrelies
      · exact relies_set hold hpolicy

/-! ## tables -/

/-- Rows that own others stay, and stay with their organization. -/
structure Kept (s s' : Team) : Prop where
  policies : Grows PolicyRow.id PolicyRow.organizationId s.system.db.policies
    s'.system.db.policies
  schedules : Grows ScheduleRecord.id ScheduleRecord.organizationId s.schedules s'.schedules
  monitors : Grows MonitorRow.id MonitorRow.organizationId s.system.db.monitors
    s'.system.db.monitors

theorem Kept.same : Kept s s := ⟨.refl, .refl, .refl⟩

theorem Kept.met {s' : Team} (h : Kept s s') {organizationId : OrganizationId} {c : Check}
    (hmember : ∀ userId, c = .member userId → ⟨organizationId, userId⟩ ∈ s.members →
      ⟨organizationId, userId⟩ ∈ s'.members)
    (hc : s.Met organizationId c) : s'.Met organizationId c := by
  cases c with
  | input ok => exact hc
  | timezone tz => trivial
  | channel id => trivial
  | member userId => exact hmember userId rfl hc
  | policy id =>
      obtain ⟨p, hp, rfl, rfl⟩ := hc
      exact h.policies.mem hp
  | schedule id =>
      obtain ⟨r, hr, rfl, rfl⟩ := hc
      exact h.schedules.mem hr
  | monitor id =>
      obtain ⟨m, hm, rfl, rfl⟩ := hc
      exact h.monitors.mem hm

theorem kept_write (s : Team) (organizationId : OrganizationId) (edit : Edit) :
    Kept s (s.write organizationId edit) := by
  cases edit with
  | createPolicy id repeatCount steps =>
      rw [Team.write]
      split
      · next hunused =>
        simp only [policyUnused, Bool.and_eq_true, List.all_eq_true, decide_eq_true_eq] at hunused
        exact ⟨.added _ hunused.1, .refl, .refl⟩
      · exact .same
  | updatePolicy id repeatCount steps =>
      rw [Team.write]
      split
      · exact ⟨.updateWhere fun _ => ⟨rfl, rfl⟩, .refl, .refl⟩
      · exact .same
  | createSchedule id input =>
      rw [Team.write]
      split
      · next hfree =>
        simp only [scheduleUnused, Bool.and_eq_true, List.all_eq_true, decide_eq_true_eq] at hfree
        exact ⟨.refl, .added _ hfree.1.1.1, .refl⟩
      · exact .same
  | updateSchedule id input =>
      rw [Team.write]
      split
      · exact ⟨.refl, .updateWhere fun _ => ⟨rfl, rfl⟩, .refl⟩
      · exact .same
  | addOverride id input => exact ⟨.refl, .refl, .refl⟩
  | removeOverride id overrideId => exact ⟨.refl, .refl, .refl⟩
  | createMonitor row =>
      rw [Team.write]
      split
      · next hunused =>
        simp only [List.all_eq_true, decide_eq_true_eq] at hunused
        exact ⟨.refl, .refl, .added _ hunused⟩
      · exact .same
  | updateMonitor id escalationPolicyId =>
      exact ⟨.refl, .refl, .updateWhere fun _ => ⟨rfl, rfl⟩⟩

theorem write_members (s : Team) (organizationId : OrganizationId) (edit : Edit) :
    (s.write organizationId edit).members = s.members := by
  cases edit with
  | addOverride | removeOverride | updateMonitor => rfl
  | createPolicy | updatePolicy | createSchedule | updateSchedule | createMonitor =>
      rw [Team.write]
      split <;> rfl

theorem JobsMove.kept {system : System} {atWork : List AtWork} (h : JobsMove s system atWork) :
    Kept s { s with system, atWork } :=
  ⟨h.policies ▸ .refl, .refl, h.monitors ▸ .refl⟩

/-! ## what a step does -/

section
variable {organizationId : OrganizationId} {c : Check}

/-- The calls changed: what they have found is met. -/
theorem relies_calls {calls : List Call}
    (hfound : ∀ call ∈ calls, ∀ line ∈ call.found,
      s.Relies call.organizationId line.check ∨ s.Met call.organizationId line.check)
    (hc : Team.Relies { s with calls } organizationId c) :
    s.Relies organizationId c ∨ s.Met organizationId c := by
  obtain ⟨part, hc⟩ := hc
  by_cases hpart : part = .calls
  · subst hpart
    obtain ⟨call, hcall, rfl, line, hline, rfl⟩ := hc
    exact hfound call hcall line hline
  · exact .inl ⟨part, by cases part with | calls => contradiction | _ => exact hc⟩

theorem relies_found {call : Call} (hcall : call ∈ s.calls) {line : Line}
    (hline : line ∈ call.found) : s.Relies call.organizationId line.check :=
  ⟨.calls, call, hcall, rfl, line, hline, rfl⟩

/-- A call that goes on relies on what it finds; what it writes relies on what it found. -/
theorem relies_goOn (h : s.Sound) {n : Nat} {call : Call} (hcall : s.calls[n]? = some call)
    (hc : (s.goOn host n call).Relies organizationId c) :
    s.Relies organizationId c ∨ s.Met organizationId c := by
  have hmem := List.mem_of_getElem? hcall
  unfold Team.goOn at hc
  split at hc
  · next hleft =>
    have hlines : call.edit.lines = call.found := by
      rw [call.lines, List.head?_eq_none_iff.1 hleft, List.append_nil]
    have hfound : ∀ line ∈ call.edit.lines, s.Relies call.organizationId line.check :=
      fun line hline => relies_found hmem (hlines ▸ hline)
    obtain ⟨part, hc⟩ := hc
    by_cases hpart : part = .calls
    · subst hpart
      obtain ⟨other, hother, rfl, line, hline, rfl⟩ := hc
      exact .inl (relies_found (List.mem_of_mem_eraseIdx hother) hline)
    · refine .inl (relies_write h hfound ⟨part, ?_⟩)
      cases part with
      | calls => contradiction
      | _ => exact hc
  · next line hleft =>
    split at hc
    · next hholds =>
      refine relies_calls (fun other hother found hfound => ?_) hc
      obtain hold | rfl := List.mem_or_eq_of_mem_set hother
      · exact .inl (relies_found hold hfound)
      · obtain hfound | hfound := List.mem_append.1 hfound
        · exact .inl (relies_found hmem hfound)
        · rw [List.take_one, hleft, Option.toList_some, List.mem_singleton] at hfound
          exact .inr (hfound ▸ met_of_holds hholds)
    · have hrest : Team.Relies { s with calls := s.calls.eraseIdx n } organizationId c := hc
      exact relies_calls (fun other hother found hfound =>
        .inl (relies_found (List.mem_of_mem_eraseIdx hother) hfound)) hrest

/-- A policy that is removed is relied on by nothing. -/
theorem relies_removePolicy {id : PolicyId} {now : Instant} {owner : OrganizationId}
    (hc : Team.Relies { s with system.db := s.system.db.removePolicy owner id now }
      organizationId c) : s.Relies organizationId c := by
  obtain ⟨part, hc⟩ := hc
  by_cases hpart : part = .policies
  · subst hpart
    obtain ⟨p, hp, howner, hlive, hrest⟩ := hc
    obtain ⟨old, -, -, rfl⟩ | ⟨hold, -⟩ := mem_updateWhere.1 hp
    · cases hlive
    · exact ⟨.policies, p, hold, howner, hlive, hrest⟩
  · exact ⟨part, by cases part with | policies => contradiction | _ => exact hc⟩

theorem relies_removeSchedule {p : ScheduleRecord → Bool} {now : Instant}
    (hc : Team.Relies { s with
      schedules := updateWhere p (fun r => { r with deletedAt := some now }) s.schedules }
      organizationId c) : s.Relies organizationId c := by
  obtain ⟨part, hc⟩ := hc
  by_cases hpart : part = .schedules
  · subst hpart
    obtain ⟨r, hr, howner, hlive, hrest⟩ := hc
    obtain ⟨old, -, -, rfl⟩ | ⟨hold, -⟩ := mem_updateWhere.1 hr
    · cases hlive
    · exact ⟨.schedules, r, hold, howner, hlive, hrest⟩
  · exact ⟨part, by cases part with | schedules => contradiction | _ => exact hc⟩

theorem relies_removeMember {owner : OrganizationId} {userId : UserId}
    (hc : (s.step host (.removeMember owner userId)).Relies organizationId c) :
    s.Relies organizationId c := by
  obtain ⟨part, hc⟩ := hc
  exact ⟨part, by cases part <;> exact hc⟩

/-- Time passes, and overrides come to their end. -/
theorem relies_tick {elapsed : Nat}
    (hc : Team.Relies { s with clock := s.clock + elapsed } organizationId c) :
    s.Relies organizationId c := by
  obtain ⟨part, hc⟩ := hc
  by_cases hpart : part = .schedules
  · subst hpart
    obtain ⟨r, hr, howner, hlive, hparticipant | ⟨o, ho, hschedule, hahead, hc⟩⟩ := hc
    · exact ⟨.schedules, r, hr, howner, hlive, .inl hparticipant⟩
    · refine ⟨.schedules, r, hr, howner, hlive, .inr ⟨o, ho, hschedule, ?_, hc⟩⟩
      simp only [ahead, Bool.or_eq_true, decide_eq_true_eq] at hahead ⊢
      obtain hclock | hwork := hahead
      · exact .inl (Int.le_trans (Int.le_add_of_nonneg_right (Int.natCast_nonneg elapsed)) hclock)
      · exact .inr hwork
  · exact ⟨part, by cases part with | schedules => contradiction | _ => exact hc⟩

/-- A monitor that is loaded is one that is there. -/
theorem relies_load {p : MonitorRow → Bool}
    (hc : Team.Relies { s with loaded := s.loaded ++ (s.system.db.monitors.find? p).toList }
      organizationId c) : s.Relies organizationId c := by
  obtain ⟨part, hc⟩ := hc
  by_cases hpart : part = .monitors
  · subst hpart
    obtain ⟨m, hm, hrest⟩ := hc
    rw [← List.append_assoc, List.mem_append] at hm
    obtain hm | hm := hm
    · exact ⟨.monitors, m, hm, hrest⟩
    · exact ⟨.monitors, m,
        List.mem_append_left _ (List.mem_of_find?_eq_some (Option.mem_toList.1 hm)), hrest⟩
  · exact ⟨part, by cases part with | monitors => contradiction | _ => exact hc⟩

variable (host) in
/-- **A step relies on nothing new that is not there.** -/
theorem relies_step (h : s.Sound) (op : TeamOp) (hc : (s.step host op).Relies organizationId c) :
    s.Relies organizationId c ∨ s.Met organizationId c := by
  by_cases hjobs : op.ofJobs = true
  · obtain ⟨system, atWork, hstep, hmove⟩ := step_jobs host h hjobs
    rw [hstep] at hc
    exact .inl (hmove.relies hc)
  · cases op with
    | start | incident | take | proceed | stall => exact absurd rfl hjobs
    | ask owner edit =>
        refine relies_calls (fun call hcall line hline => ?_) hc
        obtain hold | hnew := List.mem_append.1 hcall
        · exact .inl (relies_found hold hline)
        · rw [List.mem_singleton.1 hnew] at hline
          cases hline
    | goOn n =>
        rw [Team.step] at hc
        split at hc
        · exact .inl hc
        · next call hcall => exact relies_goOn h hcall hc
    | removePolicy owner id => exact .inl (relies_removePolicy hc)
    | removeSchedule owner id => exact .inl (relies_removeSchedule hc)
    | tick elapsed => exact .inl (relies_tick hc)
    | load monitorId => exact .inl (relies_load hc)
    | addMember | removeMember | elsewhere =>
        obtain ⟨part, hc⟩ := hc
        exact .inl ⟨part, by cases part <;> exact hc⟩

variable (host) in
/-- **Rows stay with their organization.** -/
theorem kept_step (h : s.Sound) (op : TeamOp) : Kept s (s.step host op) := by
  by_cases hjobs : op.ofJobs = true
  · obtain ⟨system, atWork, hstep, hmove⟩ := step_jobs host h hjobs
    rw [hstep]
    exact hmove.kept
  · cases op with
    | start | incident | take | proceed | stall => exact absurd rfl hjobs
    | ask | addMember | removeMember | tick | load | elsewhere => exact ⟨.refl, .refl, .refl⟩
    | removePolicy => exact ⟨.updateWhere fun _ => ⟨rfl, rfl⟩, .refl, .refl⟩
    | removeSchedule => exact ⟨.refl, .updateWhere fun _ => ⟨rfl, rfl⟩, .refl⟩
    | goOn n =>
        rw [Team.step]
        split
        · exact .same
        · next call hcall =>
          unfold Team.goOn
          split
          · obtain ⟨hpolicies, hschedules, hmonitors⟩ := kept_write s call.organizationId call.edit
            exact ⟨hpolicies, hschedules, hmonitors⟩
          · split <;> exact ⟨.refl, .refl, .refl⟩

variable (host) in
/-- A member stays one until they are removed. -/
theorem members_step (h : s.Sound) {m : Member} (hm : m ∈ s.members) {op : TeamOp}
    (hop : ∀ owner userId, op = .removeMember owner userId → m ≠ ⟨owner, userId⟩) :
    m ∈ (s.step host op).members := by
  by_cases hjobs : op.ofJobs = true
  · obtain ⟨system, atWork, hstep, -⟩ := step_jobs host h hjobs
    rw [hstep]
    exact hm
  · cases op with
    | start | incident | take | proceed | stall => exact absurd rfl hjobs
    | ask | removePolicy | removeSchedule | tick | load | elsewhere => exact hm
    | addMember => exact List.mem_append_left _ hm
    | removeMember owner userId =>
        exact List.mem_filter.2 ⟨hm, decide_eq_true (hop owner userId rfl)⟩
    | goOn n =>
        rw [Team.step]
        split
        · exact hm
        · next call hcall =>
          unfold Team.goOn
          split
          · exact (write_members s call.organizationId call.edit).symm ▸ hm
          · split <;> exact hm

end

/-! ## runs -/

/-- No member is removed whom something still names: a step of a live policy, the rotation of a
live schedule or an override of it that is not over, a call under way, or a job at work. -/
def Unnamed (s : Team) : TeamOp → Prop
  | .removeMember organizationId userId => ¬ s.Relies organizationId (.member userId)
  | _ => True

/-- Everyone paged is a member of the organization of the incident. -/
def MembersPaged (host : Host) (s : Team) : TeamOp → Prop
  | .proceed k faults _ => ∀ w ∈ s.atWork[k]?, ∀ user ∈ w.pages host.toDeps faults s.db,
      ⟨w.job.organizationId, user.id⟩ ∈ s.members
  | _ => True

instance (s : Team) : DecidablePred s.Unnamed := by
  intro op
  unfold Unnamed
  split <;> infer_instance

instance (host : Host) (s : Team) : DecidablePred (MembersPaged host s) := by
  intro op
  unfold MembersPaged
  split <;> infer_instance

variable (host) in
theorem sound_step (h : s.Sound) {op : TeamOp} (hop : s.Unnamed op) :
    (s.step host op).Sound := by
  have hkept := kept_step host h op
  refine ⟨hkept.policies.nodup h.policies, hkept.schedules.nodup h.schedules,
    hkept.monitors.nodup h.monitors, fun organizationId c hc => ?_⟩
  refine hkept.met (fun userId hmember hm => ?_) ?_
  · subst hmember
    refine members_step host h hm fun owner removed hremoved hsame => ?_
    -- whoever is removed is relied on neither after the step nor, by `hop`, before it
    subst hremoved
    cases hsame
    exact hop (relies_removeMember hc)
  · obtain hrelies | hmet := relies_step host h op hc
    · exact h.met organizationId c hrelies
    · exact hmet

/-- In a state that has all it relies on, everyone paged is a member. -/
theorem membersPaged_of_sound (h : s.Sound) (op : TeamOp) : s.MembersPaged host op := by
  cases op with
  | proceed k faults retried =>
      intro w hw user huser
      have hmem : w ∈ s.atWork := List.mem_of_getElem? hw
      obtain ⟨job, now, stage⟩ := w
      cases stage with
      | taken => cases huser
      | loaded l => cases huser
      | resolved l found =>
          obtain ⟨ref, href, hid⟩ := mem_reached huser
          exact h.met _ (.member user.id)
            (relies_work hmem ⟨rfl, .inr (.inr ⟨ref, href, by rw [hid]⟩)⟩)
  | _ => trivial

/-- No policy, schedule or monitor is there yet, and nothing is under way. -/
structure Fresh (s : Team) : Prop where
  policies : s.system.db.policies = []
  schedules : s.schedules = []
  monitors : s.system.db.monitors = []
  calls : s.calls = []
  loaded : s.loaded = []
  queue : s.system.db.escalationQueue = []
  atWork : s.atWork = []

theorem Fresh.sound (h : s.Fresh) : s.Sound := by
  refine ⟨by simp [h.policies], by simp [h.schedules], by simp [h.monitors], ?_⟩
  rintro organizationId c ⟨part, hc⟩
  cases part <;>
    simp [reliesIn, h.policies, h.schedules, h.monitors, h.calls, h.loaded, h.queue, h.atWork] at hc

end Team

/-! ## a member who leaves -/

def acmeHost : Host where
  tzOffsetMs _ _ := 0
  responders := some "https://app.test"
  validTimezone tz := tz = "UTC"

/-- An open incident, and three members. -/
def acmeTeam : Team where
  system := { db := {
    incidents := [{ id := 7, organizationId := "acme", monitorId := "api", status := .open
                    severity := .major, title := "api is down", summary := none, cause := none
                    fingerprint := none, startedAt := 0, createdAt := 0 }]
    users := [⟨"alice", "alice@acme.test", "Alice"⟩, ⟨"bob", "bob@acme.test", "Bob"⟩] } }
  members := [⟨"acme", "alice"⟩, ⟨"acme", "bob"⟩, ⟨"acme", "carol"⟩]
  clock := 0

/-- A rotation of Alice, a policy that pages Bob and whoever is on call, a monitor under it, and
the escalation of its incident. -/
def setUp : List TeamOp :=
  [.ask "acme" (.createSchedule "s" ⟨"UTC", .daily, 0, ["alice"]⟩), .goOn 0, .goOn 0, .goOn 0,
   .ask "acme" (.createPolicy "p" none [⟨0, [{ type := .user, userId := "bob" },
     { type := .schedule, scheduleId := "s" }]⟩]), .goOn 0, .goOn 0, .goOn 0,
   .ask "acme" (.createMonitor { id := "api", organizationId := "acme", name := "api"
                                 type := .http, escalationPolicyId := "p" }), .goOn 0, .goOn 0,
   .load "api", .start 0 noFaults 7]

/-- The worker takes the job, reads it, resolves it, and pages. -/
def pageAll : List TeamOp :=
  [.take 0, .proceed 0 noFaults true, .proceed 0 noFaults true, .proceed 0 noFaults true]

end UptimeFlow.Escalation
