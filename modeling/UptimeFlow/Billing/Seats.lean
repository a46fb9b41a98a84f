import UptimeFlow.Billing.Creations

/-!
# UptimeFlow.Billing.Seats

The seats of one organization: its members and its pending invitations.

An invite counts the two in two queries.  An accept that lands after the
members are counted and before the invitations are moves a seat from the one to
the other behind the counts' back, and the invite takes it for a free one.  The
seats stay within the limit along a run exactly where what the counts missed
still fits (`seatsHold_along_iff`).
-/

namespace UptimeFlow.Billing

open Runs
open Monitoring (Instant)

inductive InvitationStatus where
  | pending | accepted | canceled
deriving DecidableEq, Repr

structure Invitation where
  status : InvitationStatus := .pending
  expiresAt : Instant
deriving DecidableEq, Repr

/-- Pending and unexpired: it holds a seat. -/
def Invitation.holdsSeat (now : Instant) (i : Invitation) : Bool :=
  i.status = .pending && now < i.expiresAt

/-- `invitationExpiresIn`: seven days, in milliseconds. -/
def invitationExpiresIn : Nat := 7 * 24 * 3600 * 1000

/-- An invite under way, with the counts it has taken. -/
structure Invite where
  members : Option Reading := none
  pending : Option Reading := none
deriving DecidableEq, Repr

structure Seats where
  now : Instant
  members : List String
  invitations : List Invitation
  invite : Option Invite := none
  /-- The accepts that have passed their check. -/
  accepts : Nat := 0
deriving DecidableEq, Repr

/-- `countPendingInvitations` -/
def Seats.countPendingInvitations (s : Seats) : Nat :=
  s.invitations.countP (·.holdsSeat s.now)

/-- The refusal of the invite gate, with its details. -/
structure SeatsTaken where
  message : String
  limit : Int
  used : Nat
  members : Nat
  pendingInvitations : Nat
  tier : PlanTier
deriving DecidableEq, Repr

/-- The seat gate of an invite, given the two counts. -/
def assertSeatAvailableForInvite (limits : EffectiveLimits) (members pending : Nat) :
    Except SeatsTaken Unit :=
  match limits.seatLimit with
  | none => .ok ()
  | some limit =>
      let committed := members + pending
      if committed ≥ limit then
        .error {
          message := "Your " ++ limits.planName ++ " plan allows " ++ toString limit ++ " " ++
            LimitedResource.seat.label ++ " (" ++ toString members ++ " in use, " ++
            toString pending ++ " invited). Upgrade your plan to add more."
          limit, used := committed, members, pendingInvitations := pending, tier := limits.tier }
      else .ok ()

/-! ## steps -/

inductive SeatOp where
  /-- An invite begins; another one begins after it has ended. -/
  | invite
  /-- The two counts of the invite, issued together and answered in either order. -/
  | countMembers
  | countPending
  /-- The invite is refused, or inserts its invitation. -/
  | insert
  /-- An accept checks the member count. -/
  | accept
  /-- An accept that has passed turns the invitation `i` into a member. -/
  | convert (i : Nat) (userId : String)
  | cancel (i : Nat)
  | removeMember (userId : String)
  | tick (elapsed : Nat)
deriving DecidableEq, Repr

/-! What an invite's counts miss. -/

/-- The counts have missed a conversion. -/
def Invite.converted (v : Invite) : Invite :=
  { members := v.members.map (·.gain 1), pending := v.pending.map (·.lose 1) }

/-- The pending count has missed `k` invitations that no longer hold a seat. -/
def Invite.lapsed (k : Nat) (v : Invite) : Invite :=
  { v with pending := v.pending.map (·.lose k) }

/-- The member count has missed a departure. -/
def Invite.departed (v : Invite) : Invite :=
  { v with members := v.members.map (·.lose 1) }

/-- Go on in `later`, where fewer invitations hold a seat. -/
def Seats.lapse (s later : Seats) : Seats :=
  { later with
    invite := s.invite.map
      (·.lapsed (s.countPendingInvitations - later.countPendingInvitations)) }

/-- The invite ends with an invitation. -/
def Seats.invited (s : Seats) : Seats :=
  { s with
    invitations := s.invitations ++ [{ expiresAt := s.now + invitationExpiresIn }]
    invite := none }

/-- The end of an invite whose gate has all it needs. -/
def Seats.finishInvite (limits : EffectiveLimits) (s : Seats) (v : Invite) : Seats :=
  if limits.seatLimit.isNone then s.invited
  else
    match v.members, v.pending with
    | some members, some pending =>
        match assertSeatAvailableForInvite limits members.value pending.value with
        | .ok () => s.invited
        | .error _ => { s with invite := none }
    | _, _ => s

def Seats.step (limits : EffectiveLimits) (s : Seats) : SeatOp → Seats
  | .invite => if s.invite.isNone then { s with invite := some {} } else s
  | .countMembers =>
      { s with invite := s.invite.map fun v =>
          if v.members.isNone then { v with members := some { value := s.members.length } } else v }
  | .countPending =>
      { s with invite := s.invite.map fun v =>
          if v.pending.isNone then { v with pending := some { value := s.countPendingInvitations } }
          else v }
  | .insert =>
      match s.invite with
      | none => s
      | some v => s.finishInvite limits v
  | .accept =>
      match assertWithinLimit limits .seat s.members.length with
      | .ok () => { s with accepts := s.accepts + 1 }
      | .error _ => s
  | .convert i userId =>
      match s.accepts, s.invitations[i]? with
      | accepts + 1, some invitation =>
          if invitation.holdsSeat s.now then
            { s with
              members := s.members ++ [userId]
              invitations := s.invitations.set i { invitation with status := .accepted }
              invite := s.invite.map (·.converted)
              accepts }
          else s
      | _, _ => s
  | .cancel i =>
      match s.invitations[i]? with
      | none => s
      | some invitation =>
          if invitation.status = .pending then
            s.lapse { s with
              invitations := s.invitations.set i { invitation with status := .canceled } }
          else s
  | .removeMember userId =>
      if userId ∈ s.members then
        { s with members := s.members.erase userId, invite := s.invite.map (·.departed) }
      else s
  | .tick elapsed => s.lapse { s with now := s.now + elapsed }

/-! ## the law -/

/-- Members and pending invitations are within the seat limit, and so are the members alone. -/
def SeatsHold (limits : EffectiveLimits) (s : Seats) : Prop :=
  ∀ limit ∈ limits.seatLimit,
    ((s.members.length + s.countPendingInvitations : Nat) : Int) ≤ limit ∧
      (s.members.length : Int) ≤ limit

/-- An invite that finds a seat free would find it free if it had not missed what came and went
after its counts. -/
def NothingMissed (limits : EffectiveLimits) (s : Seats) : SeatOp → Prop
  | .insert =>
      ∀ v ∈ s.invite, ∀ limit ∈ limits.seatLimit, ∀ m ∈ v.members, ∀ p ∈ v.pending,
        (m.value : Int) + p.value < limit →
          (m.value : Int) + m.gained + (p.value + p.gained) < limit + m.lost + p.lost
  | _ => True

instance (limits : EffectiveLimits) (s : Seats) : (op : SeatOp) → Decidable (NothingMissed limits s op)
  | .insert =>
      inferInstanceAs (Decidable (∀ v ∈ s.invite, ∀ limit ∈ limits.seatLimit, ∀ m ∈ v.members,
        ∀ p ∈ v.pending, (m.value : Int) + p.value < limit →
          (m.value : Int) + m.gained + (p.value + p.gained) < limit + m.lost + p.lost))
  | .invite | .countMembers | .countPending | .accept | .convert .. | .cancel _
  | .removeMember _ | .tick _ => inferInstanceAs (Decidable True)

/-- The counts an invite has taken account for the seats. -/
structure Invite.Accounts (v : Invite) (members pending : Nat) : Prop where
  members : ∀ r ∈ v.members, r.Accounts members
  pending : ∀ r ∈ v.pending, r.Accounts pending

/-- An invite under way accounts for the seats. -/
def Seats.Accounted (s : Seats) : Prop :=
  ∀ v ∈ s.invite, v.Accounts s.members.length s.countPendingInvitations

/-! ## counting -/

section
variable {s : Seats} {i : Nat} {invitation : Invitation}

/-- An invitation that is not pending holds no seat. -/
theorem holdsSeat_settled (h : invitation.status ≠ .pending) (now : Instant) :
    invitation.holdsSeat now = false := by
  simp [Invitation.holdsSeat, h]

/-- An accepted invitation gives up the seat it held. -/
theorem countPending_accepted (hi : s.invitations[i]? = some invitation)
    (hholds : invitation.holdsSeat s.now = true) :
    ({ s with
        invitations := s.invitations.set i { invitation with status := .accepted } } :
      Seats).countPendingInvitations + 1 = s.countPendingInvitations := by
  obtain ⟨hlt, hget⟩ := List.getElem?_eq_some_iff.1 hi
  have hpos : 0 < s.invitations.countP (·.holdsSeat s.now) :=
    List.countP_pos_iff.2 ⟨invitation, List.mem_of_getElem? hi, hholds⟩
  have hsettled : ({ invitation with status := .accepted } : Invitation).holdsSeat s.now = false :=
    holdsSeat_settled (by simp) _
  simp only [Seats.countPendingInvitations]
  rw [List.countP_set hlt, hget, hsettled, hholds]
  simp only [if_true, Bool.false_eq_true, if_false]
  omega

/-- A canceled invitation holds no seat. -/
theorem countPending_canceled (hi : s.invitations[i]? = some invitation) :
    ({ s with
        invitations := s.invitations.set i { invitation with status := .canceled } } :
      Seats).countPendingInvitations ≤ s.countPendingInvitations := by
  obtain ⟨hlt, hget⟩ := List.getElem?_eq_some_iff.1 hi
  have hsettled : ({ invitation with status := .canceled } : Invitation).holdsSeat s.now = false :=
    holdsSeat_settled (by simp) _
  simp only [Seats.countPendingInvitations]
  rw [List.countP_set hlt, hsettled]
  simp

/-- Time frees seats and takes none. -/
theorem countPending_later (elapsed : Nat) :
    ({ s with now := s.now + elapsed } : Seats).countPendingInvitations ≤
      s.countPendingInvitations := by
  refine List.countP_mono_left fun invitation _ hholds => ?_
  simp only [Invitation.holdsSeat, Bool.and_eq_true, decide_eq_true_eq] at hholds ⊢
  obtain ⟨hpending, hunexpired⟩ := hholds
  exact ⟨hpending, lt_of_le_of_lt (Int.le_add_of_nonneg_right (by simp)) hunexpired⟩

/-- A new invitation holds a seat. -/
theorem countPending_invited (s : Seats) :
    s.invited.countPendingInvitations = s.countPendingInvitations + 1 := by
  have hlater : s.now < s.now + invitationExpiresIn := Int.lt_add_of_pos_right _ (by decide)
  have hnew : ({ expiresAt := s.now + invitationExpiresIn } : Invitation).holdsSeat s.now = true := by
    simp [Invitation.holdsSeat, hlater]
  show (s.invitations ++ [_]).countP _ = s.invitations.countP _ + 1
  rw [List.countP_append, List.countP_singleton]
  simp only [Seats.invited, hnew, if_true]

/-! ## one step -/

/-- Where fewer invitations hold a seat and the members are the same, the seats hold. -/
theorem SeatsHold.lapse {limits : EffectiveLimits} {later : Seats} (hholds : SeatsHold limits s)
    (hmembers : later.members = s.members)
    (hfewer : later.countPendingInvitations ≤ s.countPendingInvitations) :
    SeatsHold limits (s.lapse later) := by
  intro limit hlimit
  obtain ⟨hboth, hmembersLe⟩ := hholds limit hlimit
  have hcount : (s.lapse later).countPendingInvitations = later.countPendingInvitations := rfl
  rw [hcount]
  simp only [Seats.lapse, hmembers]
  exact ⟨by omega, hmembersLe⟩

/-- The invite takes note of the invitations that no longer hold a seat. -/
theorem Seats.Accounted.lapse {later : Seats} (haccounted : s.Accounted)
    (hmembers : later.members = s.members)
    (hfewer : later.countPendingInvitations ≤ s.countPendingInvitations) :
    (s.lapse later).Accounted := by
  intro v hv
  obtain ⟨v₀, hv₀, rfl⟩ := Option.map_eq_some_iff.1 hv
  obtain ⟨hm, hp⟩ := haccounted v₀ hv₀
  constructor
  · rw [← hmembers] at hm
    exact hm
  · intro r hr
    obtain ⟨r₀, hr₀, rfl⟩ := Option.map_eq_some_iff.1 hr
    have haccounts := hp r₀ hr₀
    rw [← Nat.add_sub_of_le hfewer] at haccounts
    exact haccounts.lose

section
variable {limits : EffectiveLimits}

/-- Only the end of an invite can take a seat that was free. -/
theorem SeatsHold.step (hholds : SeatsHold limits s) {op : SeatOp}
    (hop : op ≠ .insert) : SeatsHold limits (s.step limits op) := by
  cases op with
  | insert => exact absurd rfl hop
  | invite =>
      simp only [Seats.step]
      split <;> exact hholds
  | countMembers | countPending => exact hholds
  | accept =>
      simp only [Seats.step]
      split <;> exact hholds
  | convert i userId =>
      simp only [Seats.step]
      split
      · rename_i accepts invitation haccepts hi
        by_cases hseat : invitation.holdsSeat s.now = true
        · intro limit hlimit
          obtain ⟨hboth, hmembers⟩ := hholds limit hlimit
          have hcount := countPending_accepted hi hseat
          simp only [hseat, if_true, List.length_append, List.length_singleton,
            Seats.countPendingInvitations] at hcount hboth ⊢
          omega
        · simp only [hseat, Bool.false_eq_true, if_false]
          exact hholds
      · exact hholds
  | cancel i =>
      simp only [Seats.step]
      split
      · exact hholds
      · rename_i invitation hi
        split
        · exact hholds.lapse (by rfl) (countPending_canceled hi)
        · exact hholds
  | removeMember userId =>
      simp only [Seats.step]
      split
      · intro limit hlimit
        obtain ⟨hboth, hmembers⟩ := hholds limit hlimit
        have hle : (s.members.erase userId).length ≤ s.members.length := List.length_erase_le
        simp only [Seats.countPendingInvitations] at hboth ⊢
        omega
      · exact hholds
  | tick elapsed =>
      exact hholds.lapse (by rfl) (countPending_later elapsed)

/-- The gate lets an invite through where its counts leave room. -/
theorem assertSeatAvailable_of_lt {limit : Int} (hlimit : limits.seatLimit = some limit)
    {members pending : Nat} (h : (members : Int) + pending < limit) :
    assertSeatAvailableForInvite limits members pending = .ok () := by
  have hroom : ¬ ((members + pending : Nat) : Int) ≥ limit := by omega
  simp only [assertSeatAvailableForInvite, hlimit, hroom, if_false]

/-- The gate refuses an invite otherwise. -/
theorem assertSeatAvailable_of_not_lt {limit : Int} (hlimit : limits.seatLimit = some limit)
    {members pending : Nat} (h : ¬ (members : Int) + pending < limit) :
    ∃ e, assertSeatAvailableForInvite limits members pending = .error e := by
  have hfull : ((members + pending : Nat) : Int) ≥ limit := by omega
  exact ⟨_, by simp only [assertSeatAvailableForInvite, hlimit, hfull, if_true]; rfl⟩

/-- The seats after an invite that inserts. -/
theorem seatsHold_invited_iff {limit : Int} (hlimit : limits.seatLimit = some limit) :
    SeatsHold limits s.invited ↔
      ((s.members.length + s.countPendingInvitations : Nat) : Int) < limit := by
  have hmembers : s.invited.members = s.members := rfl
  simp only [SeatsHold, hlimit, Option.mem_some_iff, forall_eq', countPending_invited, hmembers]
  omega

/-- The end of an invite leaves the seats within the limit if and only if its counts did not miss
too much. -/
theorem seatsHold_finishInvite_iff (hholds : SeatsHold limits s) {v : Invite}
    (hv : s.invite = some v) (haccounts : v.Accounts s.members.length s.countPendingInvitations) :
    SeatsHold limits (s.finishInvite limits v) ↔ NothingMissed limits s .insert := by
  simp only [NothingMissed, hv, Option.mem_some_iff, forall_eq']
  cases hlimit : limits.seatLimit with
  | none =>
      refine iff_of_true ?_ (by simp)
      intro limit hmem
      simp [hlimit] at hmem
  | some limit =>
      cases hmembers : v.members with
      | none => simpa [Seats.finishInvite, hlimit, hmembers] using hholds
      | some m =>
          cases hpending : v.pending with
          | none => simpa [Seats.finishInvite, hlimit, hmembers, hpending] using hholds
          | some p =>
              have hfits : _ < limit + _ + _ ↔ _ := (haccounts.members m hmembers).add_fits_iff
                (haccounts.pending p hpending)
              by_cases hroom : (m.value : Int) + p.value < limit
              · have hgate := assertSeatAvailable_of_lt hlimit hroom
                have hfinish : s.finishInvite limits v = s.invited := by
                  simp [Seats.finishInvite, hlimit, hmembers, hpending, hgate]
                rw [hfinish, seatsHold_invited_iff hlimit, ← hfits]
                simp [hroom]
              · obtain ⟨e, hgate⟩ := assertSeatAvailable_of_not_lt hlimit hroom
                have hfinish : s.finishInvite limits v = { s with invite := none } := by
                  simp [Seats.finishInvite, hlimit, hmembers, hpending, hgate]
                rw [hfinish]
                refine iff_of_true hholds ?_
                simp [hroom]

/-- **Step lemma**: an operation leaves the seats within the limit if and only if it is not the end
of an invite whose counts missed too much. -/
theorem seatsHold_iff (hholds : SeatsHold limits s) (haccounted : s.Accounted) (op : SeatOp) :
    SeatsHold limits (s.step limits op) ↔ NothingMissed limits s op := by
  by_cases hop : op = .insert
  · subst hop
    cases hv : s.invite with
    | none => simpa [Seats.step, NothingMissed, hv] using hholds
    | some v =>
        rw [← seatsHold_finishInvite_iff hholds hv (haccounted v hv)]
        simp [Seats.step, hv]
  · refine iff_of_true (hholds.step hop) ?_
    cases op <;> trivial

/-- The invite goes on accounting for the seats. -/
theorem Seats.Accounted.step (haccounted : s.Accounted) (op : SeatOp) :
    (s.step limits op).Accounted := by
  cases op with
  | invite =>
      simp only [Seats.step]
      split
      · intro v hv
        obtain rfl := Option.some.inj hv
        exact ⟨by simp, by simp⟩
      · exact haccounted
  | countMembers =>
      intro v hv
      obtain ⟨v₀, hv₀, rfl⟩ := Option.map_eq_some_iff.1 hv
      obtain ⟨hm, hp⟩ := haccounted v₀ hv₀
      split
      · refine ⟨fun r hr => ?_, hp⟩
        obtain rfl := Option.some.inj hr
        exact .read _
      · exact ⟨hm, hp⟩
  | countPending =>
      intro v hv
      obtain ⟨v₀, hv₀, rfl⟩ := Option.map_eq_some_iff.1 hv
      obtain ⟨hm, hp⟩ := haccounted v₀ hv₀
      split
      · refine ⟨hm, fun r hr => ?_⟩
        obtain rfl := Option.some.inj hr
        exact .read _
      · exact ⟨hm, hp⟩
  | insert =>
      simp only [Seats.step]
      split
      · exact haccounted
      · unfold Seats.finishInvite
        -- the invite is over, unless it is still counting
        repeat' split
        all_goals first
          | exact haccounted
          | intro v hv; cases hv
  | accept =>
      simp only [Seats.step]
      split <;> exact haccounted
  | convert i userId =>
      simp only [Seats.step]
      split
      · rename_i accepts invitation haccepts hi
        split
        · rename_i hseat
          intro v hv
          obtain ⟨v₀, hv₀, rfl⟩ := Option.map_eq_some_iff.1 hv
          obtain ⟨hm, hp⟩ := haccounted v₀ hv₀
          constructor
          · intro r hr
            obtain ⟨r₀, hr₀, rfl⟩ := Option.map_eq_some_iff.1 hr
            simpa using (hm r₀ hr₀).gain 1
          · intro r hr
            obtain ⟨r₀, hr₀, rfl⟩ := Option.map_eq_some_iff.1 hr
            have haccounts := hp r₀ hr₀
            rw [← countPending_accepted hi hseat] at haccounts
            exact haccounts.lose
        · exact haccounted
      · exact haccounted
  | cancel i =>
      simp only [Seats.step]
      split
      · exact haccounted
      · rename_i invitation hi
        split
        · exact haccounted.lapse (by rfl) (countPending_canceled hi)
        · exact haccounted
  | removeMember userId =>
      simp only [Seats.step]
      split
      · rename_i hmember
        intro v hv
        obtain ⟨v₀, hv₀, rfl⟩ := Option.map_eq_some_iff.1 hv
        obtain ⟨hm, hp⟩ := haccounted v₀ hv₀
        refine ⟨fun r hr => ?_, hp⟩
        obtain ⟨r₀, hr₀, rfl⟩ := Option.map_eq_some_iff.1 hr
        have haccounts := hm r₀ hr₀
        rw [← Nat.sub_add_cancel (List.length_pos_of_mem hmember),
          ← List.length_erase_of_mem hmember] at haccounts
        exact haccounts.lose
      · exact haccounted
  | tick elapsed =>
      exact haccounted.lapse (by rfl) (countPending_later elapsed)

/-- No accept converts its invitation after an invite has counted the members and before it has
counted the invitations. -/
def Undisturbed (s : Seats) : SeatOp → Prop
  | .convert .. => ∀ v ∈ s.invite, v.members.isSome = true → v.pending.isSome = true
  | _ => True

/-- What undisturbed counts have missed: every conversion after the one is one after the other. -/
structure Invite.Even (v : Invite) : Prop where
  fresh : ∀ m ∈ v.members, v.pending = none → m.gained = 0
  balanced : ∀ m ∈ v.members, ∀ p ∈ v.pending, m.gained ≤ p.lost
  steady : ∀ p ∈ v.pending, p.gained = 0

theorem Invite.Even.lapsed {v : Invite} (h : v.Even) (k : Nat) : (v.lapsed k).Even where
  fresh := fun m hm hnone => h.fresh m hm (by simpa [Invite.lapsed] using hnone)
  balanced := by
    intro m hm p hp
    obtain ⟨p₀, hp₀, rfl⟩ := Option.map_eq_some_iff.1 hp
    exact Nat.le_trans (h.balanced m hm p₀ hp₀) (Nat.le_add_right _ _)
  steady := by
    intro p hp
    obtain ⟨p₀, hp₀, rfl⟩ := Option.map_eq_some_iff.1 hp
    exact h.steady p₀ hp₀

theorem Invite.Even.converted {v : Invite} (h : v.Even)
    (hcounted : v.members.isSome = true → v.pending.isSome = true) : v.converted.Even where
  fresh := by
    intro m hm hnone
    obtain ⟨m₀, hm₀, rfl⟩ := Option.map_eq_some_iff.1 hm
    have hsome := hcounted (by rw [hm₀]; rfl)
    rw [Option.map_eq_none_iff.1 hnone] at hsome
    cases hsome
  balanced := by
    intro m hm p hp
    obtain ⟨m₀, hm₀, rfl⟩ := Option.map_eq_some_iff.1 hm
    obtain ⟨p₀, hp₀, rfl⟩ := Option.map_eq_some_iff.1 hp
    exact Nat.add_le_add_right (h.balanced m₀ hm₀ p₀ hp₀) 1
  steady := by
    intro p hp
    obtain ⟨p₀, hp₀, rfl⟩ := Option.map_eq_some_iff.1 hp
    exact h.steady p₀ hp₀

/-- The counts stay even while they are undisturbed. -/
theorem even_step (h : ∀ v ∈ s.invite, v.Even) {op : SeatOp} (hop : Undisturbed s op) :
    ∀ v ∈ (s.step limits op).invite, v.Even := by
  have hlapse : ∀ later : Seats, ∀ v ∈ (s.lapse later).invite, v.Even := by
    intro later v hv
    obtain ⟨v₀, hv₀, rfl⟩ := Option.map_eq_some_iff.1 hv
    exact (h v₀ hv₀).lapsed _
  cases op with
  | invite =>
      simp only [Seats.step]
      split
      · intro v hv
        obtain rfl := Option.some.inj hv
        exact ⟨by simp, by simp, by simp⟩
      · exact h
  | countMembers =>
      intro v hv
      obtain ⟨v₀, hv₀, rfl⟩ := Option.map_eq_some_iff.1 hv
      split
      · refine ⟨?_, ?_, (h v₀ hv₀).steady⟩
        · intro m hm _
          obtain rfl := Option.some.inj hm
          rfl
        · intro m hm p _
          obtain rfl := Option.some.inj hm
          exact Nat.zero_le _
      · exact h v₀ hv₀
  | countPending =>
      intro v hv
      obtain ⟨v₀, hv₀, rfl⟩ := Option.map_eq_some_iff.1 hv
      split
      · rename_i hnone
        refine ⟨by simp, ?_, ?_⟩
        · intro m hm p hp
          obtain rfl := Option.some.inj hp
          exact Nat.le_of_eq ((h v₀ hv₀).fresh m hm (Option.isNone_iff_eq_none.1 hnone))
        · intro p hp
          obtain rfl := Option.some.inj hp
          rfl
      · exact h v₀ hv₀
  | insert =>
      simp only [Seats.step]
      split
      · exact h
      · unfold Seats.finishInvite
        repeat' split
        all_goals first
          | exact h
          | intro v hv; cases hv
  | accept =>
      simp only [Seats.step]
      split <;> exact h
  | convert i userId =>
      simp only [Seats.step]
      split
      · split
        · intro v hv
          obtain ⟨v₀, hv₀, rfl⟩ := Option.map_eq_some_iff.1 hv
          exact (h v₀ hv₀).converted (hop v₀ hv₀)
        · exact h
      · exact h
  | cancel i =>
      simp only [Seats.step]
      split
      · exact h
      · split
        · exact hlapse _
        · exact h
  | removeMember userId =>
      simp only [Seats.step]
      split
      · intro v hv
        obtain ⟨v₀, hv₀, rfl⟩ := Option.map_eq_some_iff.1 hv
        have heven := h v₀ hv₀
        refine ⟨?_, ?_, heven.steady⟩
        · intro m hm hnone
          obtain ⟨m₀, hm₀, rfl⟩ := Option.map_eq_some_iff.1 hm
          exact heven.fresh m₀ hm₀ hnone
        · intro m hm p hp
          obtain ⟨m₀, hm₀, rfl⟩ := Option.map_eq_some_iff.1 hm
          exact heven.balanced m₀ hm₀ p hp
      · exact h
  | tick elapsed => exact hlapse _

/-- **While no accept converts between the two counts of an invite, members and pending invitations
stay within the seat limit.** -/
theorem seatsHold_along_of_undisturbed (hholds : SeatsHold limits s) (hnone : s.invite = none)
    {ops : List SeatOp} (hops : Along (Seats.step limits) Undisturbed s ops) :
    Along (Seats.step limits) (fun s op => SeatsHold limits (s.step limits op)) s ops := by
  have hmissed : ∀ {s : Seats} (op : SeatOp), (∀ v ∈ s.invite, v.Even) →
      NothingMissed limits s op := by
    intro s op heven
    cases op with
    | insert =>
        intro v hv limit _ m hm p hp hroom
        have hbalanced := (heven v hv).balanced m hm p hp
        have hsteady := (heven v hv).steady p hp
        omega
    | _ => trivial
  refine Along.of_inv
    (I := fun s => SeatsHold limits s ∧ s.Accounted ∧ ∀ v ∈ s.invite, v.Even) ?_ ?_
    ⟨hholds, by simp [Seats.Accounted, hnone], by simp [hnone]⟩ hops
  · intro s op h hop
    exact ⟨(seatsHold_iff h.1 h.2.1 op).2 (hmissed op h.2.2), h.2.1.step op,
      even_step h.2.2 hop⟩
  · intro s op h _
    exact (seatsHold_iff h.1 h.2.1 op).2 (hmissed op h.2.2)

end

end

/-! ## an accept between the counts -/

/-- A plan of three seats. -/
def threeSeats : EffectiveLimits := { freeFallback with seatLimit := some 3 }

/-- One member and two invitations. -/
def full : Seats := {
  now := 0, members := ["ada"]
  invitations := [{ expiresAt := 1000 }, { expiresAt := 1000 }] }

/-- An invitation is accepted and a member leaves before the next invite counts; another accept
comes after both counts. -/
def counted : List SeatOp :=
  [.accept, .convert 0 "ben", .removeMember "ada", .invite, .countMembers, .countPending,
    .accept, .convert 1 "cy", .insert]

/-- An accept lands between the two counts of an invite, and the accepts that follow make four
members of three seats. -/
def acceptedBetween : List SeatOp :=
  [.invite, .countMembers, .accept, .convert 0 "ben", .countPending, .insert, .accept, .accept,
    .convert 1 "cy", .convert 2 "dee"]

end UptimeFlow.Billing
