import UptimeFlow.Escalation.System

/-!
# UptimeFlow.Escalation.Termination

A chain of jobs under a policy that is edited while it runs.

Each job reads the policy anew, so the step its index meant may be gone or be
another one.  What survives every edit is the order of the places
(round, step index): a successor lies strictly after its job
(`successor_place`).  With at most `K` steps and `R` repeats at all times the
places are bounded, and so is the chain: `chain_terminates`.
-/

namespace UptimeFlow.Escalation

open Runs
open Monitoring (IncidentId PolicyId EscalationContext EscalationJobData)

/-! ## places in order -/

/-- The number of a job's place, with at most `K + 1` places in a round. -/
def rank (K : Nat) (job : EscalationJobData) : Nat := job.round * (K + 1) + job.stepIndex

/-- Jobs of one chain: their places increase, and lie within the bounds. -/
structure Ordered (K R : Nat) (policyId : PolicyId) (jobs : List EscalationJobData) : Prop where
  increasing : (jobs.map (rank K)).Pairwise (· < ·)
  inside : ∀ job ∈ jobs, job.policyId = policyId ∧ job.round ≤ R ∧ job.stepIndex ≤ K

namespace Ordered

variable {K R : Nat} {policyId : PolicyId} {jobs : List EscalationJobData}

theorem sublist {jobs' : List EscalationJobData} (h : Ordered K R policyId jobs)
    (hsub : jobs'.Sublist jobs) : Ordered K R policyId jobs' :=
  ⟨h.increasing.sublist (hsub.map _), fun job hjob => h.inside job (hsub.subset hjob)⟩

/-- A job at a later place than the last one continues the chain. -/
theorem concat {job next : EscalationJobData} (h : Ordered K R policyId (jobs ++ [job]))
    (hlater : rank K job < rank K next)
    (hinside : next.policyId = policyId ∧ next.round ≤ R ∧ next.stepIndex ≤ K) :
    Ordered K R policyId (jobs ++ [job] ++ [next]) := by
  constructor
  · rw [List.map_append, List.pairwise_append]
    refine ⟨h.increasing, List.pairwise_singleton _ _, fun a ha b hb => ?_⟩
    rw [List.map_singleton, List.mem_singleton] at hb
    subst hb
    have hincreasing := h.increasing
    rw [List.map_append, List.pairwise_append] at hincreasing
    rw [List.map_append, List.mem_append] at ha
    obtain ha | ha := ha
    · exact (hincreasing.2.2 a ha (rank K job) (by simp)).trans hlater
    · rw [List.map_singleton, List.mem_singleton] at ha
      rwa [ha]
  · intro j hj
    rw [List.mem_append, List.mem_singleton] at hj
    obtain hj | rfl := hj
    · exact h.inside j hj
    · exact hinside

theorem rank_lt (h : Ordered K R policyId jobs) :
    ∀ n ∈ jobs.map (rank K), n < (R + 1) * (K + 1) := by
  intro n hn
  obtain ⟨job, hjob, rfl⟩ := List.mem_map.1 hn
  obtain ⟨-, hround, hstep⟩ := h.inside job hjob
  have hrounds : job.round * (K + 1) ≤ R * (K + 1) := Nat.mul_le_mul_right (K + 1) hround
  rw [rank, Nat.add_mul, Nat.one_mul]
  omega

/-- No place is met twice, so there are no more jobs than places. -/
theorem length_le (h : Ordered K R policyId jobs) : jobs.length ≤ (R + 1) * (K + 1) := by
  have hnodup : (jobs.map (rank K)).Nodup := h.increasing.imp fun hlt => Nat.ne_of_lt hlt
  have hsubset : jobs.map (rank K) ⊆ List.range ((R + 1) * (K + 1)) := by
    intro n hn
    exact List.mem_range.2 (h.rank_lt n hn)
  have hlength := (List.subperm_of_subset hnodup hsubset).length_le
  rwa [List.length_map, List.length_range] at hlength

theorem nodup (h : Ordered K R policyId jobs) :
    (jobs.map fun job => (job.round, job.stepIndex)).Nodup := by
  have hnodup : (jobs.map (rank K)).Nodup := h.increasing.imp fun hlt => Nat.ne_of_lt hlt
  have hrank : jobs.map (rank K) =
      (jobs.map fun job => (job.round, job.stepIndex)).map fun p => p.1 * (K + 1) + p.2 := by
    rw [List.map_map]
    rfl
  rw [hrank] at hnodup
  exact hnodup.of_map _

end Ordered

/-! ## one chain -/

/-- All jobs of an incident so far, those done first. -/
def System.chain (s : System) (id : IncidentId) : List EscalationJobData :=
  (s.processed id).map (·.job) ++ s.pending id

/-- The policy, where it is live, has at most `K` steps and `R` repeats. -/
def Bounded (policyId : PolicyId) (K R : Nat) (s : System) (_ : Op) : Prop :=
  ∀ policy ∈ s.db.loadPolicy policyId, policy.steps.length ≤ K ∧ policy.repeatCount ≤ R

instance (policyId : PolicyId) (K R : Nat) (s : System) (op : Op) :
    Decidable (Bounded policyId K R s op) :=
  inferInstanceAs (Decidable (∀ policy ∈ s.db.loadPolicy policyId, _))

/-- One job of the incident waits at most, and its places are in order. -/
structure InOrder (id : IncidentId) (policyId : PolicyId) (K R : Nat) (s : System) : Prop where
  one : (s.pending id).length ≤ 1
  ordered : Ordered K R policyId (s.chain id)

/-- A successor has a later place, still within the bounds. -/
theorem next_rank {policyId : PolicyId} {K R : Nat} {s : System} {op : Op}
    (hbounds : Bounded policyId K R s op) {job next : EscalationJobData}
    (hjob : job.policyId = policyId ∧ job.round ≤ R ∧ job.stepIndex ≤ K)
    (h : s.db.next job = some next) :
    rank K job < rank K next ∧ next.policyId = policyId ∧ next.round ≤ R ∧ next.stepIndex ≤ K := by
  obtain ⟨hpolicyId, hround, hstep⟩ := hjob
  obtain ⟨⟨incident, policy⟩, hactive, hnext⟩ := Option.bind_eq_some_iff.1 h
  obtain ⟨-, -, hpolicy, -⟩ := active_eq_some hactive
  rw [hpolicyId] at hpolicy
  obtain ⟨hsteps, hrepeats⟩ := hbounds policy hpolicy
  change successor policy job = some next at hnext
  have hchain := (successor_chain hnext).2.trans hpolicyId
  obtain ⟨⟨hsame, hindex⟩ | ⟨hlater, hindex, hless⟩, hplace⟩ := successor_place hnext
  · refine ⟨?_, hchain, by omega, by omega⟩
    rw [rank, rank, hsame, hindex]
    omega
  · refine ⟨?_, hchain, by omega, by omega⟩
    rw [rank, rank, hlater, hindex, Nat.add_mul]
    omega

theorem pending_singleton {job : EscalationJobData} {rest pending : List EscalationJobData}
    (hone : pending.length ≤ 1) (hperm : (job :: rest).Perm pending) :
    pending = [job] ∧ rest = [] := by
  have hlength := hperm.length_eq
  rw [List.length_cons] at hlength
  have hrest : rest = [] := List.eq_nil_of_length_eq_zero (by omega)
  rw [hrest] at hperm
  exact ⟨List.perm_singleton.1 hperm.symm, hrest⟩

/-- **Step lemma**: whatever an operation is, the chain stays in order. -/
theorem InOrder.step {id : IncidentId} {policyId : PolicyId} {K R : Nat} {s : System}
    (h : InOrder id policyId K R s) (deps : Deps) {op : Op} (hbounds : Bounded policyId K R s op)
    (hstarts : op.starts id = false) : InOrder id policyId K R (s.step deps op) := by
  obtain ⟨hone, hordered⟩ := h
  cases step_moves deps id s op with
  | still hpending hprocessed =>
      constructor
      · rwa [hpending]
      · rwa [System.chain, hpending, hprocessed]
  | started hstarts' => simp [hstarts] at hstarts'
  | @finished job result rest hperm hpending hprocessed hfired =>
      obtain ⟨hjob, rfl⟩ := pending_singleton hone hperm
      rw [System.chain, hjob] at hordered
      rw [List.nil_append] at hpending
      cases hnext : s.db.next job with
      | none =>
          rw [hnext, Option.toList_none] at hpending
          constructor
          · simp [hpending]
          · simpa [System.chain, hpending, hprocessed] using hordered
      | some next =>
          rw [hnext, Option.toList_some] at hpending
          obtain ⟨hlater, hinside⟩ := next_rank hbounds (hordered.inside job (by simp)) hnext
          constructor
          · simp [hpending]
          · simpa [System.chain, hpending, hprocessed] using hordered.concat hlater hinside
  | @failed job rest hfails hperm hpending hprocessed =>
      obtain ⟨hjob, rfl⟩ := pending_singleton hone hperm
      obtain hpending | hpending := hpending
      · constructor
        · simp [hpending]
        · refine hordered.sublist ?_
          rw [System.chain, System.chain, hpending, hprocessed, List.append_nil]
          exact List.sublist_append_left _ _
      · rw [List.nil_append] at hpending
        constructor
        · simp [hpending]
        · rwa [System.chain, hpending, hprocessed, ← hjob]

/-- A start of the chain. -/
theorem InOrder.start (deps : Deps) (faults : Faults) {ctx : EscalationContext} {s : System}
    (hpending : s.pending ctx.incidentId = []) (hprocessed : s.processed ctx.incidentId = [])
    (K R : Nat) :
    InOrder ctx.incidentId ctx.policyId K R (s.step deps (.start faults ctx)) := by
  have hnone : InOrder ctx.incidentId ctx.policyId K R s := by
    constructor
    · simp [hpending]
    · constructor <;> simp [System.chain, hpending, hprocessed]
  rw [System.step, escalationStarter_run]
  split
  · exact hnone
  · exact hnone
  · exact hnone
  · next first _ _ =>
    constructor
    · rw [System.pending] at hpending ⊢
      simp [hpending, firstJob]
    · rw [System.pending] at hpending
      rw [System.processed] at hprocessed
      constructor <;> simp [System.chain, System.pending, System.processed, hpending, hprocessed,
        firstJob]

/-- A job that fires a step finds it at the index it carries, in the policy as it is then. -/
def StepFound (deps : Deps) (s : System) : Op → Prop
  | .process n faults now _ =>
      ∀ job result position, s.db.escalationQueue[n]? = some job →
        ((escalationProcessor deps faults now job).run (s.db.taken n)).1 = .ok result →
        result.stepFired = some position →
        ∃ policy step, s.db.loadPolicy job.policyId = some policy ∧
          policy.steps[job.stepIndex]? = some step ∧ step.position = position
  | _ => True

theorem stepFound (deps : Deps) (s : System) (op : Op) : StepFound deps s op := by
  cases op with
  | process n faults now retried =>
      intro job result position hjob hok hposition
      obtain ⟨r, db, hrun, hends, -⟩ := step_process deps hjob faults now retried
      rw [hrun] at hok
      change r = .ok result at hok
      subst hok
      obtain ⟨-, hfired⟩ := hends.queue_ok
      rw [hposition, eq_comm, Option.map_eq_some_iff] at hfired
      obtain ⟨step, hstep, hfired⟩ := hfired
      obtain ⟨⟨incident, policy⟩, hactive, hfound⟩ := Option.bind_eq_some_iff.1 hstep
      exact ⟨policy, step, (active_eq_some hactive).2.2.1, hfound, hfired⟩
  | start | incident | updatePolicy | removePolicy | elsewhere => trivial

/-- **A chain ends under any edits of its policy**: with at most `K` steps and `R` repeats at all
times, no place is processed twice, a step is fired only where it exists, and at most
`(R + 1) * (K + 1)` jobs are ever enqueued. -/
theorem chain_terminates (deps : Deps) {faults : Faults} {ctx : EscalationContext} {K R : Nat}
    {s : System} {ops : List Op} (hpending : s.pending ctx.incidentId = [])
    (hprocessed : s.processed ctx.incidentId = [])
    (hbounds : Along (System.step deps) (Bounded ctx.policyId K R) s (.start faults ctx :: ops))
    (honce : ∀ op ∈ ops, op.starts ctx.incidentId = false) :
    let s' := run (System.step deps) s (.start faults ctx :: ops)
    ((s'.processed ctx.incidentId).map fun p => (p.job.round, p.job.stepIndex)).Nodup ∧
      Along (System.step deps) (StepFound deps) s (.start faults ctx :: ops) ∧
      (s'.processed ctx.incidentId).length + (s'.pending ctx.incidentId).length ≤
        (R + 1) * (K + 1) := by
  intro s'
  have hinorder : InOrder ctx.incidentId ctx.policyId K R s' := by
    have hlater := hbounds.2.and (Along.of_forall (fun op hop _ => honce op hop) _)
    exact inv_run (s := s.step deps (.start faults ctx))
      (C := fun s op => Bounded ctx.policyId K R s op ∧ op.starts ctx.incidentId = false)
      (fun s op h hop => h.step deps hop.1 hop.2)
      (InOrder.start deps faults hpending hprocessed K R) hlater
  refine ⟨?_, Along.of_forall (fun op _ s => stepFound deps s op) s, ?_⟩
  · have hnodup := hinorder.ordered.nodup
    rw [System.chain, List.map_append, List.map_map] at hnodup
    exact hnodup.of_append_left
  · have hlength := hinorder.ordered.length_le
    rwa [System.chain, List.length_append, List.length_map] at hlength

/-- The second step goes before its job is processed; the policy goes before the next. -/
def editedMeanwhile : List Op :=
  [.process 0 noFaults 300000 true, .updatePolicy "acme" "p" (some 2) [⟨15, []⟩],
    .process 0 noFaults 900000 true, .removePolicy "acme" "p" 1000000,
    .process 0 noFaults 1800000 true]

theorem chain_terminates_edited :
    let s' := run (System.step ⟨fun _ _ => 0, none⟩) escalated
      (.start noFaults apiDown :: editedMeanwhile)
    ((s'.processed 7).map fun p => (p.job.round, p.job.stepIndex)).Nodup ∧
      Along (System.step ⟨fun _ _ => 0, none⟩) (StepFound ⟨fun _ _ => 0, none⟩) escalated
        (.start noFaults apiDown :: editedMeanwhile) ∧
      (s'.processed 7).length + (s'.pending 7).length ≤ (2 + 1) * (2 + 1) :=
  chain_terminates ⟨fun _ _ => 0, none⟩ rfl rfl (by decide +kernel) (by decide)

end UptimeFlow.Escalation
