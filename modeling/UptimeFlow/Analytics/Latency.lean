import Mathlib.Algebra.BigOperators.Ring.Finset
import UptimeFlow.Analytics.Agreement
import UptimeFlow.WeightedMeans

/-!
# UptimeFlow.Analytics.Latency

The average latency the readers report, and the mean over the checks.

The roll-up averages the response times of a day's successful checks; the
readers combine the days' averages weighed by all checks of the day.  So the
average reported is that over the checks, up to rounding, exactly where these
weights are in proportion to the numbers of times averaged (`close_iff`): on days
with failed checks next to days without, it is not.
-/

namespace UptimeFlow.Analytics

open IsoDate Grouping WeightedMeans
open Monitoring (Instant CheckStatus ProbeRegion OrganizationId)

variable {μ : Type} [DecidableEq μ] {ρ : Type}

/-! ## what is to be reported -/

/-- The average reported lies within 1 ms of the mean. -/
def Near : Option Int → Option ℚ → Prop
  | none, none => True
  | some reported, some mean => |(reported : ℚ) - mean| ≤ 1
  | _, _ => False

instance : ∀ reported mean, Decidable (Near reported mean)
  | none, none => inferInstanceAs (Decidable True)
  | some _, some _ => inferInstanceAs (Decidable (_ ≤ _))
  | none, some _ => inferInstanceAs (Decidable False)
  | some _, none => inferInstanceAs (Decidable False)

/-- The checks an organization, or one monitor of it, made in a range. -/
def checkInScope (organizationId : OrganizationId) (monitorId : Option μ) (range : AnalyticsRange)
    (c : CheckRow μ) : Bool :=
  c.organizationId = organizationId && monitorId.all (c.monitorId = ·) &&
    coversDay (dayOf range.since) (dayOf range.stop + 1) (dayOf c.checkedAt)

/-- The mean over the successful checks, of those that satisfy a condition. -/
def meanOf (src : Source μ) (p : CheckRow μ → Bool) : Option ℚ := avg (latencies (src.checks.filter p))

/-- The averages of the range, of its days and of its regions are near the means. -/
structure Close (src : Source μ) (stats : List (StatRow μ)) (organizationId : OrganizationId)
    (monitorId : Option μ) (range : AnalyticsRange) : Prop where
  total : Near
    (totals stats (resolveScope stats organizationId range monitorId)).avgResponseMs
    (meanOf src (checkInScope organizationId monitorId range))
  daily : ∀ p ∈ dailySeries (fun _ _ => ()) stats
      (resolveScope stats organizationId range monitorId) range,
    Near p.avgResponseMs (meanOf src fun c =>
      checkInScope organizationId monitorId range c && dayOf c.checkedAt = p.day)
  regional : ∀ s ∈ regionStats (fun _ _ => ()) stats
      (resolveScope stats organizationId range monitorId),
    Near s.avgResponseMs (meanOf src fun c =>
      checkInScope organizationId monitorId range c && some c.region = s.region)

/-- A check with another response time, if it has one. -/
def retimed (f : CheckRow μ → ℕ) (c : CheckRow μ) : CheckRow μ :=
  { c with responseMs := c.responseMs.map fun _ => (f c : Int) }

/-- The same checks, answered in other times. -/
def Source.retime (src : Source μ) (f : CheckRow μ → ℕ) : Source μ :=
  { src with
    checks := src.checks.map (retimed f)
    owned := fun c hc => by
      obtain ⟨c', hc', rfl⟩ := List.mem_map.1 hc
      exact src.owned c' hc' }

/-- The response times averaged under a key. -/
def answered (src : Source μ) (k : Key μ) : Nat := (latencies (src.checksOf k)).length

/-- Under all keys with response times, these are the same share of the checks. -/
def EqualShares (src : Source μ) (ks : List (Key μ)) : Prop :=
  ∀ k ∈ ks, ∀ l ∈ ks, 0 < answered src k → 0 < answered src l →
    answered src k * (src.checksOf l).length = answered src l * (src.checksOf k).length

instance (src : Source μ) (ks : List (Key μ)) : Decidable (EqualShares src ks) :=
  inferInstanceAs (Decidable (∀ k ∈ ks, ∀ l ∈ ks, _ → _ → _))

/-- The monitors, regions and days of a range that have checks in the scope. -/
def scopeKeys (src : Source μ) (organizationId : OrganizationId) (monitorId : Option μ)
    (range : AnalyticsRange) : List (Key μ) :=
  (coveredKeys src (coversDay (dayOf range.since) (dayOf range.stop + 1))).filter fun k =>
    src.owner k.1 = organizationId && monitorId.all (k.1 = ·)

/-! ## rounding -/

theorem abs_round_sub_le (q : ℚ) : |(round q : ℚ) - q| ≤ 1 / 2 := by
  have hnear : ∀ x : ℚ, |(⌊x + 1 / 2⌋ : ℚ) - x| ≤ 1 / 2 := fun x => by
    have hle := Int.floor_le (x + 1 / 2)
    have hlt := Int.lt_floor_add_one (x + 1 / 2)
    rw [abs_le]
    constructor <;> linarith
  unfold round
  split
  · exact hnear q
  · have hneg := hnear (-q)
    rw [Int.cast_neg, show (-(⌊-q + 1 / 2⌋ : ℚ) - q) = -((⌊-q + 1 / 2⌋ : ℚ) - -q) by ring, abs_neg]
    exact hneg

theorem round_intCast (n : Int) : round (n : ℚ) = n := by
  have hnear := abs_round_sub_le n
  have hcast : |((round (n : ℚ) - n : Int) : ℚ)| ≤ 1 / 2 := by
    rw [Int.cast_sub]
    exact hnear
  rw [← Int.cast_abs] at hcast
  have hlt : |round (n : ℚ) - n| < 1 := by
    have : ((|round (n : ℚ) - n| : Int) : ℚ) < 1 := lt_of_le_of_lt hcast (by norm_num)
    exact_mod_cast this
  exact sub_eq_zero.1 (Int.abs_lt_one_iff.1 hlt)

/-! ## sums over the checks of a key -/

/-- The response time of a successful check. -/
def timed (c : CheckRow μ) : Option Int := if isUp c.status then c.responseMs else none

omit [DecidableEq μ] in
theorem latencies_spec (checks : List (CheckRow μ)) :
    (latencies checks).length = (checks.map fun c => if (timed c).isSome then 1 else 0).sum ∧
      (latencies checks).sum = (checks.map fun c => (timed c).getD 0).sum := by
  induction checks with
  | nil => exact ⟨rfl, rfl⟩
  | cons c checks ih =>
      have hcons : latencies (c :: checks) = (timed c).toList ++ latencies checks := by
        unfold latencies timed
        cases hup : isUp c.status with
        | false => simp [hup]
        | true => cases hms : c.responseMs <;> simp [hup, hms]
      rw [hcons, List.length_append, List.sum_append, List.map_cons, List.map_cons, List.sum_cons,
        List.sum_cons, ih.1, ih.2]
      cases htimed : timed c <;> simp

/-- The checks of some keys, key by key. -/
theorem sum_checks {M : Type} [AddCommMonoid M] (src : Source μ) (f : CheckRow μ → M)
    {ks : List (Key μ)} (hks : ks.Nodup) {p : CheckRow μ → Bool}
    (hp : ∀ c ∈ src.checks, p c = true ↔ checkKey c ∈ ks) :
    ((src.checks.filter p).map f).sum = (ks.map fun k => ((src.checksOf k).map f).sum).sum := by
  have hgroups : (ks.map fun k => ((group checkKey (src.checks.filter p) k).map f).sum).sum =
      ((src.checks.filter p).map f).sum := sum_groups f hks fun c hc =>
    (hp c (List.mem_filter.1 hc).1).1 (List.mem_filter.1 hc).2
  rw [← hgroups]
  refine congrArg List.sum (List.map_congr_left fun k hk => ?_)
  rw [group, List.filter_filter, Source.checksOf]
  refine congrArg (fun l => (List.map f l).sum) (List.filter_congr fun c hc => ?_)
  by_cases hck : checkKey c = k
  · have hpc : p c = true := (hp c hc).2 (hck ▸ hk)
    simp [hck, hpc]
  · simp [hck]

/-! ## the two means, key by key -/

section
variable (src : Source μ)

/-- The keys with response times. -/
def timedKeys (ks : List (Key μ)) : List (Key μ) := ks.filter fun k => 0 < answered src k

def countOf (k : Key μ) : ℚ := answered src k

def sumOf (k : Key μ) : ℚ := (latencies (src.checksOf k)).sum

/-- The weight the readers give a key. -/
def weightOf (k : Key μ) : ℚ := (src.checksOf k).length

/-- The average the roll-up stores. -/
def averageOf (k : Key μ) : ℚ := round (sumOf src k / countOf src k)

variable {src} {ks : List (Key μ)} {percentileCont : ℚ → List Int → Option Int}

theorem countOf_pos : ∀ k ∈ timedKeys src ks, 0 < countOf src k := fun k hk => by
  have hpos := (List.mem_filter.1 hk).2
  exact Nat.cast_pos.2 (of_decide_eq_true hpos)

theorem answered_le (k : Key μ) : answered src k ≤ (src.checksOf k).length := by
  unfold answered latencies
  exact (List.length_filterMap_le _ _).trans (List.length_filter_le _ _)

theorem weightOf_pos : ∀ k ∈ timedKeys src ks, 0 < weightOf src k := fun k hk => by
  have hpos := of_decide_eq_true (List.mem_filter.1 hk).2
  have hle : answered src k ≤ (src.checksOf k).length := answered_le k
  unfold weightOf
  exact_mod_cast lt_of_lt_of_le hpos hle

/-- Keys without response times add nothing. -/
theorem sum_timedKeys {M : Type} [AddCommMonoid M] (f : Key μ → M)
    (hf : ∀ k, answered src k = 0 → f k = 0) :
    ((timedKeys src ks).map f).sum = (ks.map f).sum := by
  induction ks with
  | nil => rfl
  | cons k ks ih =>
      rw [timedKeys, List.filter_cons, ← timedKeys, List.map_cons, List.sum_cons, ← ih]
      by_cases hk : 0 < answered src k
      · simp [hk]
      · simp [hk, hf k (Nat.eq_zero_of_not_pos hk)]

theorem avg_eq (xs : List Int) :
    avg xs = if xs.length = 0 then none else some ((xs.sum : ℚ) / xs.length) := by
  simp only [avg, List.length_eq_zero_iff]

/-- What the readers make of the rows of some keys. -/
theorem avgResponseMsOf_freshRows (ks : List (Key μ)) :
    avgResponseMsOf (ks.map (freshRow percentileCont src)) =
      if timedKeys src ks = [] then none
      else some (round (((timedKeys src ks).map fun k => averageOf src k * weightOf src k).sum /
        ((timedKeys src ks).map (weightOf src)).sum)) := by
  have hweighed : (ks.map (freshRow percentileCont src)).filterMap
      (fun r => r.avgResponseMs.map fun avg => (avg, r.totalChecks)) =
      (timedKeys src ks).map fun k =>
        (round (sumOf src k / countOf src k), (src.checksOf k).length) := by
    rw [List.filterMap_map]
    induction ks with
    | nil => rfl
    | cons k ks ih =>
        rw [timedKeys, List.filterMap_cons, List.filter_cons, ← timedKeys, ih]
        have hrow : ((freshRow percentileCont src k).avgResponseMs) =
            (avg (latencies (src.checksOf k))).map round := rfl
        rw [Function.comp_apply, hrow, avg_eq]
        by_cases hk : 0 < answered src k
        · have hne : (latencies (src.checksOf k)).length ≠ 0 := Nat.pos_iff_ne_zero.1 hk
          rw [if_neg hne]
          simp only [hk, decide_true, if_true, List.map_cons, Option.map_some]
          rfl
        · have hzero : (latencies (src.checksOf k)).length = 0 := Nat.eq_zero_of_not_pos hk
          rw [if_pos hzero]
          simp only [hk, decide_false, Bool.false_eq_true, if_false, Option.map_none]
  simp only [avgResponseMsOf, hweighed, List.map_map]
  have hchecks : ((((timedKeys src ks).map ((fun w : Int × Nat => w.2) ∘ fun k =>
      (round (sumOf src k / countOf src k), (src.checksOf k).length))).sum : Nat) : ℚ) =
      ((timedKeys src ks).map (weightOf src)).sum := by
    rw [Nat.cast_list_sum, List.map_map]
    rfl
  have hnum : ((timedKeys src ks).map ((fun w : Int × Nat => ((w.1 : ℚ) * (w.2 : ℚ))) ∘ fun k =>
      (round (sumOf src k / countOf src k), (src.checksOf k).length))).sum =
      ((timedKeys src ks).map fun k => averageOf src k * weightOf src k).sum := rfl
  rw [hchecks, hnum]
  by_cases hnil : timedKeys src ks = []
  · simp [hnil]
  · have hpos := sum_pos hnil weightOf_pos
    rw [← hchecks] at hpos
    have hne : ((timedKeys src ks).map ((fun w : Int × Nat => w.2) ∘ fun k =>
        (round (sumOf src k / countOf src k), (src.checksOf k).length))).sum ≠ 0 := by
      intro hzero
      rw [hzero] at hpos
      exact absurd hpos (by norm_num)
    rw [if_neg hne, if_neg hnil]

/-- The mean over the checks of some keys. -/
theorem meanOf_keys (hks : ks.Nodup) {p : CheckRow μ → Bool}
    (hp : ∀ c ∈ src.checks, p c = true ↔ checkKey c ∈ ks) :
    meanOf src p =
      if timedKeys src ks = [] then none
      else some (((timedKeys src ks).map (sumOf src)).sum /
        ((timedKeys src ks).map (countOf src)).sum) := by
  have hlength : (latencies (src.checks.filter p)).length =
      ((timedKeys src ks).map (answered src)).sum := by
    rw [(latencies_spec _).1, sum_checks src _ hks hp, sum_timedKeys _ fun _ h => h]
    exact congrArg List.sum (List.map_congr_left fun k _ => (latencies_spec _).1.symm)
  have hsum : (latencies (src.checks.filter p)).sum =
      ((timedKeys src ks).map fun k => (latencies (src.checksOf k)).sum).sum := by
    rw [(latencies_spec _).2, sum_checks src _ hks hp, sum_timedKeys]
    · exact congrArg List.sum (List.map_congr_left fun k _ => (latencies_spec _).2.symm)
    · intro k hk
      rw [List.length_eq_zero_iff.1 hk, List.sum_nil]
  have hcount : (((latencies (src.checks.filter p)).length : Nat) : ℚ) =
      ((timedKeys src ks).map (countOf src)).sum := by
    rw [hlength, Nat.cast_list_sum, List.map_map]
    rfl
  have hvalues : (((latencies (src.checks.filter p)).sum : Int) : ℚ) =
      ((timedKeys src ks).map (sumOf src)).sum := by
    rw [hsum, Int.cast_list_sum, List.map_map]
    rfl
  rw [meanOf, avg_eq, hcount, hvalues]
  by_cases hnil : timedKeys src ks = []
  · rw [if_pos hnil, if_pos (by rw [hlength, hnil]; rfl)]
  · have hpos := sum_pos hnil countOf_pos
    rw [← hcount] at hpos
    rw [if_neg hnil, if_neg (by exact_mod_cast hpos.ne')]

/-- **Equal shares keep the averages near.** -/
theorem near_of_equalShares (hks : ks.Nodup) {p : CheckRow μ → Bool}
    (hp : ∀ c ∈ src.checks, p c = true ↔ checkKey c ∈ ks) (hshares : EqualShares src ks) :
    Near (avgResponseMsOf (ks.map (freshRow percentileCont src))) (meanOf src p) := by
  rw [avgResponseMsOf_freshRows, meanOf_keys hks hp]
  by_cases hnil : timedKeys src ks = []
  · rw [if_pos hnil, if_pos hnil]
    trivial
  · rw [if_neg hnil, if_neg hnil]
    have hproportional : Proportional (timedKeys src ks) (countOf src) (weightOf src) := by
      intro k hk l hl
      obtain ⟨hk, hkpos⟩ := List.mem_filter.1 hk
      obtain ⟨hl, hlpos⟩ := List.mem_filter.1 hl
      unfold countOf weightOf
      exact_mod_cast hshares k hk l hl (of_decide_eq_true hkpos) (of_decide_eq_true hlpos)
    have hmean := recombined_near (s := sumOf src) (r := averageOf src) hnil countOf_pos
      weightOf_pos hproportional fun k _ => abs_round_sub_le _
    have hround := abs_round_sub_le
      (((timedKeys src ks).map fun k => averageOf src k * weightOf src k).sum /
        ((timedKeys src ks).map (weightOf src)).sum)
    have hsum := (abs_add_le _ _).trans (add_le_add hround hmean)
    rw [sub_add_sub_cancel] at hsum
    exact hsum.trans (by norm_num)

/-! ## the rows of a scope -/

variable {organizationId : OrganizationId} {monitorId : Option μ} {range : AnalyticsRange}
  {windows : List RollupWindow}

omit [DecidableEq μ] in
theorem avgResponseMsOf_perm {rows rows' : List (StatRow μ)} (h : rows.Perm rows') :
    avgResponseMsOf rows = avgResponseMsOf rows' := by
  have hweighed := h.filterMap fun r => r.avgResponseMs.map fun avg => (avg, r.totalChecks)
  unfold avgResponseMsOf
  dsimp only
  rw [(hweighed.map (·.2)).sum_eq, (hweighed.map fun w => ((w.1 : ℚ) * (w.2 : ℚ))).sum_eq]

theorem nodup_scopeKeys : (scopeKeys src organizationId monitorId range).Nodup :=
  (List.nodup_dedup _).filter _

theorem owner_of_mem {c : CheckRow μ} (hc : c ∈ src.checks) :
    src.owner c.monitorId = c.organizationId := by
  obtain ⟨m, -, hmonitor, horg⟩ := filter_monitors src hc
  rw [Source.owner, hmonitor, Option.map_some, Option.getD_some, horg]

/-- A check lies in the scope when its key does. -/
theorem checkInScope_iff {c : CheckRow μ} (hc : c ∈ src.checks) :
    checkInScope organizationId monitorId range c = true ↔
      checkKey c ∈ scopeKeys src organizationId monitorId range := by
  have howner := owner_of_mem hc
  rw [scopeKeys, List.mem_filter, mem_coveredKeys]
  simp only [checkInScope, checkKey, howner, Bool.and_eq_true, decide_eq_true_eq]
  constructor
  · rintro ⟨⟨horg, hmonitor⟩, hday⟩
    exact ⟨⟨hday, c, hc, rfl⟩, horg, hmonitor⟩
  · rintro ⟨⟨hday, -⟩, horg, hmonitor⟩
    exact ⟨⟨horg, hmonitor⟩, hday⟩

/-- After a roll-up of its days, the rows of a scope are those of its keys. -/
theorem scopedRows_perm (percentileCont : ℚ → List Int → Option Int) (src : Source μ)
    (organizationId : OrganizationId) (monitorId : Option μ) (hyears : ∀ w ∈ windows, w.InYears)
    (hcover : ∀ d, dayOf range.since ≤ d → d ≤ dayOf range.stop → covered windows d = true) :
    (∀ r ∈ runWindows percentileCont src windows [], r.region.isSome) ∧
    (scopedRows (runWindows percentileCont src windows [])
      (resolveScope (runWindows percentileCont src windows []) organizationId range
        monitorId)).Perm
      ((scopeKeys src organizationId monitorId range).map (freshRow percentileCont src)) := by
  have hperm : (runWindows percentileCont src windows []).Perm
      ((coveredKeys src (covered windows)).map (freshRow percentileCont src)) := by
    rw [← Upserts.refreshed_nil ]
    exact runWindows_perm src hyears []
  have hregion : ∀ r ∈ runWindows percentileCont src windows [], r.region.isSome := by
    intro r hr
    obtain ⟨k, -, rfl⟩ := List.mem_map.1 (hperm.mem_iff.1 hr)
    rfl
  refine ⟨hregion, ?_⟩
  rw [← scopedRows_perRegion _ _ hregion, scopedRows]
  refine (hperm.filter _).trans ?_
  rw [List.filter_map]
  have hkeys : (coveredKeys src (covered windows)).Nodup := List.nodup_dedup _
  refine List.Perm.map _ ((List.perm_ext_iff_of_nodup (hkeys.filter _) nodup_scopeKeys).2
    fun k => ?_)
  rw [List.mem_filter, scopeKeys, List.mem_filter, mem_coveredKeys, mem_coveredKeys]
  simp only [Function.comp_apply, scopeSql, freshRow, resolveScope, coversDay, if_true,
    Option.isSome_some, Bool.and_true, Bool.and_eq_true, decide_eq_true_eq]
  constructor
  · rintro ⟨⟨-, hc⟩, ⟨⟨horg, hlow⟩, hhigh⟩, hmonitor⟩
    have hle : k.2.2 ≤ dayOf range.stop := of_decide_eq_true hhigh
    exact ⟨⟨⟨of_decide_eq_true hlow, by omega⟩, hc⟩, of_decide_eq_true horg, hmonitor⟩
  · rintro ⟨⟨⟨hlow, hhigh⟩, hc⟩, horg, hmonitor⟩
    have hle : k.2.2 ≤ dayOf range.stop := by omega
    exact ⟨⟨hcover _ hlow hle, hc⟩,
      ⟨⟨decide_eq_true horg, decide_eq_true hlow⟩, decide_eq_true hle⟩, hmonitor⟩

theorem EqualShares.filter (h : EqualShares src ks) (p : Key μ → Bool) :
    EqualShares src (ks.filter p) := fun k hk l hl =>
  h k (List.mem_filter.1 hk).1 l (List.mem_filter.1 hl).1

/-- The rows of some keys, as far as they satisfy a condition. -/
theorem filter_freshRows {rows : List (StatRow μ)}
    (hrows : rows.Perm (ks.map (freshRow percentileCont src))) (p : StatRow μ → Bool) :
    (rows.filter p).Perm ((ks.filter fun k => p (freshRow percentileCont src k)).map
      (freshRow percentileCont src)) := by
  refine (hrows.filter p).trans ?_
  rw [List.filter_map]
  rfl

/-- **Equal shares keep all averages near**: of the range, of its days and of its regions. -/
theorem close_of_equalShares (hyears : ∀ w ∈ windows, w.InYears)
    (hcover : ∀ d, dayOf range.since ≤ d → d ≤ dayOf range.stop → covered windows d = true)
    (hshares : EqualShares src (scopeKeys src organizationId monitorId range)) :
    Close src (runWindows percentileCont src windows []) organizationId monitorId range := by
  obtain ⟨hregion, hrows⟩ := scopedRows_perm percentileCont src organizationId monitorId hyears hcover
  -- a condition on checks that is one on their keys selects the checks of these keys
  have hnear : ∀ (p : CheckRow μ → Bool) (q : StatRow μ → Bool),
      (∀ c ∈ src.checks, p c = q (freshRow percentileCont src (checkKey c))) →
      Near (avgResponseMsOf ((scopedRows (runWindows percentileCont src windows [])
        (resolveScope (runWindows percentileCont src windows []) organizationId range
          monitorId)).filter q))
        (meanOf src fun c => checkInScope organizationId monitorId range c && p c) := by
    intro p q hpq
    rw [avgResponseMsOf_perm (filter_freshRows hrows q)]
    refine near_of_equalShares (nodup_scopeKeys.filter _) (fun c hc => ?_) (hshares.filter _)
    rw [List.mem_filter, Bool.and_eq_true, checkInScope_iff hc, hpq c hc]
  constructor
  · have hall := hnear (fun _ => true) (fun _ => true) fun _ _ => rfl
    simp only [List.filter_true, Bool.and_true] at hall
    exact hall
  · intro point hpoint
    obtain ⟨d, -, rfl⟩ := List.mem_map.1 hpoint
    have hday := hnear (fun c => dayOf c.checkedAt = d) (fun r => r.day = d) fun _ _ => rfl
    rw [← group, ← (byDay_eq _ d).2.2.2] at hday
    exact hday
  · intro s hs
    rw [regionStats, List.mem_insertionSort] at hs
    obtain ⟨row, hrow, rfl⟩ := List.mem_map.1 hs
    rw [regionRows, scopedRows_perRegion _ _ hregion] at hrow
    obtain ⟨region, -, rfl⟩ := List.mem_map.1 hrow
    exact hnear (fun c => some c.region = region) (fun r => r.region = region) fun _ _ => rfl

end

/-! ## other response times -/

section
variable {src : Source μ} {f : CheckRow μ → ℕ} {organizationId : OrganizationId}
  {monitorId : Option μ} {range : AnalyticsRange} {ks : List (Key μ)}

theorem checksOf_retime (k : Key μ) :
    (src.retime f).checksOf k = (src.checksOf k).map (retimed f) := by
  rw [Source.checksOf, Source.retime, List.filter_map]
  rfl

omit [DecidableEq μ] in
theorem timed_retimed (c : CheckRow μ) :
    timed (retimed f c) = (timed c).map fun _ => (f c : Int) := by
  unfold timed retimed
  dsimp only
  split <;> rfl

theorem answered_retime (k : Key μ) : answered (src.retime f) k = answered src k := by
  rw [answered, answered, checksOf_retime, (latencies_spec _).1, (latencies_spec _).1, List.map_map]
  refine congrArg List.sum (List.map_congr_left fun c _ => ?_)
  simp only [Function.comp_apply, timed_retimed, Option.isSome_map]

theorem weightOf_retime (k : Key μ) : weightOf (src.retime f) k = weightOf src k := by
  rw [weightOf, weightOf, checksOf_retime, List.length_map]

theorem countOf_retime (k : Key μ) : countOf (src.retime f) k = countOf src k := by
  rw [countOf, countOf, answered_retime]

theorem timedKeys_retime : timedKeys (src.retime f) ks = timedKeys src ks := by
  simp only [timedKeys, answered_retime]

theorem scopeKeys_retime :
    scopeKeys (src.retime f) organizationId monitorId range =
      scopeKeys src organizationId monitorId range := by
  have hcovered : ∀ cover, coveredKeys (src.retime f) cover = coveredKeys src cover := fun cover => by
    rw [coveredKeys, coveredKeys, Source.retime, List.filter_map, List.map_map]
    rfl
  rw [scopeKeys, scopeKeys, hcovered]
  rfl

theorem equalShares_retime : EqualShares (src.retime f) ks ↔ EqualShares src ks := by
  simp only [EqualShares, answered_retime, checksOf_retime, List.length_map]

/-- Where the checks of a key all take the same time, this is their sum's rate. -/
theorem sumOf_retime {k : Key μ} {x : ℕ} (hx : ∀ c ∈ src.checksOf k, f c = x) :
    sumOf (src.retime f) k = x * countOf src k := by
  have hsum : ((latencies ((src.retime f).checksOf k)).sum : Int) = x * answered src k := by
    rw [checksOf_retime, (latencies_spec _).2, List.map_map, answered, (latencies_spec _).1]
    revert hx
    generalize src.checksOf k = checks
    intro hx
    induction checks with
    | nil => rfl
    | cons c checks ih =>
        have hhead := hx c List.mem_cons_self
        rw [List.map_cons, List.sum_cons, List.map_cons, List.sum_cons,
          ih fun c' hc' => hx c' (List.mem_cons_of_mem c hc'), Function.comp_apply, timed_retimed,
          hhead]
        cases timed c with
        | none => simp
        | some ms => simp [mul_add]
  rw [sumOf, hsum, countOf]
  push_cast
  rfl

variable {percentileCont : ℚ → List Int → Option Int} {windows : List RollupWindow}

/-- **Averages that stay near for all response times** need equal shares. -/
theorem equalShares_of_close (hyears : ∀ w ∈ windows, w.InYears)
    (hcover : ∀ d, dayOf range.since ≤ d → d ≤ dayOf range.stop → covered windows d = true)
    (h : ∀ f : CheckRow μ → ℕ, Close (src.retime f)
      (runWindows percentileCont (src.retime f) windows []) organizationId monitorId range) :
    EqualShares src (scopeKeys src organizationId monitorId range) := by
  obtain ⟨ks, hks⟩ : ∃ ks, ks = scopeKeys src organizationId monitorId range := ⟨_, rfl⟩
  have hnodup : ks.Nodup := hks ▸ nodup_scopeKeys
  have hproportional : Proportional (timedKeys src ks) (countOf src) (weightOf src) := by
    refine proportional_of_near countOf_pos weightOf_pos (c := 3 / 2) fun k hk x => ?_
    -- the checks of the key take `x` ms, all others none
    obtain ⟨f, hf⟩ : ∃ f : CheckRow μ → ℕ, f = fun c => if checkKey c = k then x else 0 := ⟨_, rfl⟩
    have hone : ∀ l, sumOf (src.retime f) l = (if l = k then (x : ℚ) else 0) * countOf src l := by
      intro l
      have hconst : ∀ c ∈ src.checksOf l, f c = if l = k then x else 0 := by
        intro c hc
        rw [hf, ← of_decide_eq_true (List.mem_filter.1 hc).2]
      rw [sumOf_retime hconst]
      push_cast
      rfl
    have haverage : ∀ l ∈ timedKeys src ks,
        averageOf (src.retime f) l = if l = k then (x : ℚ) else 0 := by
      intro l hl
      have hpos := countOf_pos l hl
      rw [averageOf, hone, countOf_retime, mul_div_cancel_right₀ _ hpos.ne']
      split
      · have hround := round_intCast x
        rw [Int.cast_natCast] at hround
        rw [hround, Int.cast_natCast]
      · have hzero := round_intCast 0
        rw [Int.cast_zero] at hzero
        rw [hzero, Int.cast_zero]
    have htimed : (timedKeys src ks).Nodup := hnodup.filter _
    have hreported : ((timedKeys src ks).map fun l =>
        averageOf (src.retime f) l * weightOf src l).sum = x * weightOf src k := by
      rw [List.map_congr_left fun l hl => congrArg (· * weightOf src l) (haverage l hl),
        sum_single htimed hk fun l _ hne => by simp [hne]]
      simp
    have hmean : ((timedKeys src ks).map (sumOf (src.retime f))).sum = x * countOf src k := by
      rw [sum_single htimed hk fun l _ hne => by simp [hone, hne], hone]
      simp
    have hnear := (h f).total
    obtain ⟨-, hrows⟩ := scopedRows_perm percentileCont (src.retime f) organizationId monitorId
      hyears hcover
    rw [totals] at hnear
    dsimp only at hnear
    rw [avgResponseMsOf_perm hrows, avgResponseMsOf_freshRows,
      meanOf_keys nodup_scopeKeys fun c hc => checkInScope_iff hc, scopeKeys_retime, ← hks,
      timedKeys_retime, if_neg (List.ne_nil_of_mem hk), if_neg (List.ne_nil_of_mem hk)] at hnear
    simp only [funext weightOf_retime, funext countOf_retime, hmean, hreported] at hnear
    have hround := abs_round_sub_le (x * weightOf src k / ((timedKeys src ks).map (weightOf src)).sum)
    have hsplit : (x : ℚ) * (weightOf src k / ((timedKeys src ks).map (weightOf src)).sum -
        countOf src k / ((timedKeys src ks).map (countOf src)).sum) =
        x * weightOf src k / ((timedKeys src ks).map (weightOf src)).sum -
          x * countOf src k / ((timedKeys src ks).map (countOf src)).sum := by ring
    rw [hsplit]
    simp only [Near] at hnear
    rw [abs_le] at hnear hround ⊢
    constructor <;> linarith [hnear.1, hnear.2, hround.1, hround.2]
  rw [← hks]
  intro k hk l hl hkpos hlpos
  have hprop := hproportional k (List.mem_filter.2 ⟨hk, decide_eq_true hkpos⟩) l
    (List.mem_filter.2 ⟨hl, decide_eq_true hlpos⟩)
  unfold countOf weightOf at hprop
  exact_mod_cast hprop

/-- **The averages are near for all response times** just where the keys have equal shares. -/
theorem close_iff (percentileCont : ℚ → List Int → Option Int) (src : Source μ)
    (organizationId : OrganizationId) (monitorId : Option μ) {range : AnalyticsRange}
    {windows : List RollupWindow} (hyears : ∀ w ∈ windows, w.InYears)
    (hcover : ∀ d, dayOf range.since ≤ d → d ≤ dayOf range.stop → covered windows d = true) :
    ((∀ times : CheckRow μ → ℕ, Close (src.retime times)
        (runWindows percentileCont (src.retime times) windows []) organizationId monitorId range) ↔
      EqualShares src (scopeKeys src organizationId monitorId range)) ∧
    (EqualShares src (scopeKeys src organizationId monitorId range) →
      Close src (runWindows percentileCont src windows []) organizationId monitorId range) := by
  refine ⟨⟨equalShares_of_close hyears hcover, fun hshares times => ?_⟩,
    close_of_equalShares hyears hcover⟩
  refine close_of_equalShares hyears hcover ?_
  rw [scopeKeys_retime]
  exact equalShares_retime.2 hshares

end

/-- Two days of one monitor: ten checks a day, of which the first day only one succeeds. -/
def twoDays : Source Nat where
  monitors := [{ id := 1, organizationId := "acme", intervalSeconds := 60 }]
  checks :=
    { organizationId := "acme", monitorId := 1, region := .naEast, status := .up
      responseMs := some 100, checkedAt := 1704110400000 } ::
    List.replicate 9
      { organizationId := "acme", monitorId := 1, region := .naEast, status := .down
        responseMs := none, checkedAt := 1704110400000 } ++
    List.replicate 10
      { organizationId := "acme", monitorId := 1, region := .naEast, status := .up
        responseMs := some 200, checkedAt := 1704196800000 }
  monitors_nodup := oneCheck.monitors_nodup
  owned := by decide

/-- The week up to the second of the days. -/
def week : AnalyticsRange := rangeForDays 7 1704200000000

/-- The average reported is 150 ms, that of the eleven checks 191 ms. -/
theorem not_close_twoDays :
    ¬ Close twoDays (runWindows (fun _ _ => none) twoDays
      [{ start := 1703635200000, stop := 1704240000000 }] []) "acme" none week := by
  intro h
  have hnot : ¬ Near
      (totals (runWindows (fun _ _ => none) twoDays
          [{ start := 1703635200000, stop := 1704240000000 }] [])
        (resolveScope (runWindows (fun _ _ => none) twoDays
          [{ start := 1703635200000, stop := 1704240000000 }] []) "acme" week none)).avgResponseMs
      (meanOf twoDays (checkInScope "acme" none week)) := by decide +kernel
  exact hnot h.total

theorem close_iff_oneCheck :
    Close oneCheck (runWindows (fun _ _ => none) oneCheck
      [{ start := 1703635200000, stop := 1704240000000 }] []) "acme" none week :=
  (close_iff (fun _ _ => none) oneCheck "acme" none
    (by simp only [List.mem_singleton, forall_eq]
        exact ⟨by decide +kernel, by decide +kernel⟩)
    (fun d hsince hstop => by
      have hlow : dayOf week.since = 19718 := by decide +kernel
      have hhigh : dayOf week.stop = 19724 := by decide +kernel
      rw [hlow] at hsince
      rw [hhigh] at hstop
      have hcovers : RollupWindow.covers { start := 1703635200000, stop := 1704240000000 } =
          coversDay 19718 19725 := by
        unfold RollupWindow.covers
        have hstart : dayOf 1703635200000 = 19718 := by decide +kernel
        have hend : dayOf 1704240000000 = 19725 := by decide +kernel
        simp only [hstart, hend]
      simp only [covered, List.any_cons, List.any_nil, Bool.or_false, hcovers, coversDay,
        Bool.and_eq_true, decide_eq_true_eq]
      omega)).2 (by decide +kernel)

end UptimeFlow.Analytics
