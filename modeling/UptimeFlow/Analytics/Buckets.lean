import Mathlib.Algebra.Order.Floor.Ring
import Mathlib.Data.Rat.Floor
import UptimeFlow.Analytics.Days
import UptimeFlow.Grouping
import UptimeFlow.Numerals
import UptimeFlow.Weeks

/-!
# UptimeFlow.Analytics.Buckets

The charts' daily series, rolled up into weeks or months.

Days are grouped by a key, in order of first appearance.  The key of a month is
the front of the day's text; that of a week is the text of its ISO year and
number, which names the week (`isoWeekKey_iff`).  Dates that no `Date` can hold
are NaN, and share one key.
-/

namespace UptimeFlow.Analytics.Buckets

open IsoDate Grouping
open Monitoring (Instant)

/-! ## texts of numbers -/

/-- `String(n)`, where `none` is NaN. -/
def numberText : Option Int → List Char
  | none => "NaN".toList
  | some n => if n < 0 then '-' :: Js.toString 10 (-n) else Js.toString 10 n

def padStart (width : Nat) (c : Char) (cs : List Char) : List Char :=
  List.replicate (width - cs.length) c ++ cs

def readNumber : List Char → Int
  | '-' :: cs => -(Js.parseDecimal cs : Int)
  | cs => Js.parseDecimal cs

/-! ## dates -/

/-- The instant, if a `Date` can hold it. -/
def timeClip (t : Int) : Option Instant := if t.natAbs ≤ 8640000000000000 then some t else none

/-- `Math.round(q)`: halves go up. -/
def mathRound (q : ℚ) : Int := ⌊q + 1 / 2⌋

/-- `d.setUTCDate(d.getUTCDate() - dayNr + 3)`, with `dayNr = (d.getUTCDay() + 6) % 7`. -/
def setThursday (d : Instant) : Option Instant :=
  timeClip (d + (3 - (weekday (dayOf d) + 6) % 7) * millisPerDay)

section
-- what `Date` makes of texts that `toISOString` does not write
variable (legacy : List Char → Option Instant)

/-- `new Date(isoDay + "T00:00:00Z")` -/
def midnight (isoDay : List Char) : Option Instant :=
  (readDate isoDay).bind (fun day => timeClip (day * millisPerDay)) <|>
    legacy (isoDay ++ "T00:00:00Z".toList)

/-- Year+ISO-week key (e.g. "2026-W26") used to bucket a daily series weekly. -/
def isoWeekKey (isoDay : List Char) : List Char :=
  let target := (midnight legacy isoDay).bind setThursday
  let year := target.map fun t => (dateOfDay (dayOf t)).year
  let firstThursday := (year.bind fun y => timeClip (utc ⟨y, 1, 4⟩)).bind setThursday
  let week := target.bind fun t => firstThursday.map fun first =>
    1 + mathRound ((t - first : Int) / (7 * millisPerDay : Int))
  numberText year ++ '-' :: 'W' :: padStart 2 '0' (numberText week)

end

/-! ## buckets -/

inductive Bucket where
  | day | week | month
deriving DecidableEq, Repr

structure DailyPoint (ρ : Type) where
  day : List Char
  uptimePct : Option ρ
  avgResponseMs : Option Int
  totalChecks : Nat
  failedChecks : Nat
deriving DecidableEq, Repr

/-- The groups, and the order their keys were set in. -/
structure Groups (ρ : Type) where
  groups : List (List Char × List (DailyPoint ρ)) := []
  order : List (List Char) := []

variable {ρ : Type}

def Groups.get (g : Groups ρ) (key : List Char) : List (DailyPoint ρ) :=
  ((g.groups.find? (·.1 = key)).map (·.2)).getD []

def Groups.push (keyOf : DailyPoint ρ → List Char) (g : Groups ρ) (p : DailyPoint ρ) : Groups ρ :=
  let key := keyOf p
  let g := if g.groups.any (·.1 = key) then g
    else { groups := g.groups ++ [(key, [])], order := g.order ++ [key] }
  { g with groups := g.groups.map fun e => if e.1 = key then (e.1, e.2 ++ [p]) else e }

section
-- what `Date` makes of texts that `toISOString` does not write, and
-- `round2((up / total) * 100)`, in the numbers of the host
variable (legacy : List Char → Option Instant) (percent : Int → Nat → ρ)

def bucketKey (bucket : Bucket) (p : DailyPoint ρ) : List Char :=
  if bucket = .month then p.day.take 7 else isoWeekKey legacy p.day

/-- The point of one bucket. -/
def summary (days : List (DailyPoint ρ)) : DailyPoint ρ :=
  let totalChecks := (days.map (·.totalChecks)).sum
  let failedChecks := (days.map (·.failedChecks)).sum
  let upChecks : Int := totalChecks - failedChecks
  let responseDays := days.filterMap (·.avgResponseMs)
  { -- a bucket is made for a day, so there is a first one
    day := (days.head?.map (·.day)).getD []
    uptimePct := if 0 < totalChecks then some (percent upChecks totalChecks) else none
    avgResponseMs := if 0 < responseDays.length then
        some (mathRound ((responseDays.sum : Int) / responseDays.length))
      else none
    totalChecks, failedChecks }

/-- Roll a daily series up into weekly or monthly buckets. -/
def bucketDaily (points : List (DailyPoint ρ)) (bucket : Bucket) : List (DailyPoint ρ) :=
  if bucket = .day ∨ points.length = 0 then points
  else
    let groups := points.foldl (Groups.push (bucketKey legacy bucket)) {}
    groups.order.map fun key => summary percent (groups.get key)

end

/-! ## texts that give the number back -/

theorem digits_replicate_zero (pad : Nat) (cs : List Char) :
    Js.parseDecimal (List.replicate pad '0' ++ cs) = Js.parseDecimal cs := by
  induction pad with
  | zero => rfl
  | succ pad ih =>
      rw [List.replicate_succ, List.cons_append, ← ih]
      rfl

theorem readNumber_of_notMem {cs : List Char} (h : '-' ∉ cs) :
    readNumber cs = Js.parseDecimal cs := by
  unfold readNumber
  split
  · exact absurd List.mem_cons_self h
  · rfl

theorem isDigit_toDigits (n : Nat) : ∀ c ∈ Nat.toDigits 10 n, c.isDigit = true :=
  Js.mem_toDigits (by decide) (by decide) n

theorem parseDecimal_toDigits (n : Nat) : Js.parseDecimal (Nat.toDigits 10 n) = n :=
  Js.digits_toDigits (by decide) (by decide) n

theorem numberText_neg {n : Int} (h : n < 0) :
    numberText (some n) = '-' :: Nat.toDigits 10 (-n).toNat := if_pos h

theorem numberText_of_nonneg {n : Int} (h : ¬ n < 0) :
    numberText (some n) = Nat.toDigits 10 n.toNat := if_neg h

theorem readNumber_numberText {width : Nat} (hwidth : width ≤ 2) (n : Int) :
    readNumber (padStart width '0' (numberText (some n))) = n := by
  by_cases hneg : n < 0
  · -- a sign and a digit are two characters, so there is nothing to pad
    have hlength := Nat.length_toDigits_pos (b := 10) (n := (-n).toNat)
    have hpad : width - (numberText (some n)).length = 0 := by
      rw [numberText_neg hneg, List.length_cons]
      omega
    rw [padStart, hpad, List.replicate_zero, List.nil_append, numberText_neg hneg, readNumber,
      parseDecimal_toDigits]
    omega
  · rw [numberText_of_nonneg hneg, padStart, readNumber_of_notMem, digits_replicate_zero,
      parseDecimal_toDigits]
    · omega
    · intro hmem
      obtain hpad | hdigit := List.mem_append.1 hmem
      · exact absurd (List.eq_of_mem_replicate hpad) (by decide)
      · exact absurd (isDigit_toDigits _ _ hdigit) (by decide)

theorem notMem_numberText (n : Int) : 'W' ∉ numberText (some n) := by
  have hdigits : ∀ m : Nat, 'W' ∉ Nat.toDigits 10 m := fun m hmem =>
    absurd (isDigit_toDigits m _ hmem) (by decide)
  by_cases hneg : n < 0
  · rw [numberText_neg hneg, List.mem_cons, not_or]
    exact ⟨by decide, hdigits _⟩
  · rw [numberText_of_nonneg hneg]
    exact hdigits _

def keyText (year week : Option Int) : List Char :=
  numberText year ++ '-' :: 'W' :: padStart 2 '0' (numberText week)

/-- Year and number are read back from the key. -/
theorem keyText_inj {year week year' week' : Int}
    (h : keyText (some year) (some week) = keyText (some year') (some week')) :
    year = year' ∧ week = week' := by
  have hsplit : ∀ year week : Int, keyText (some year) (some week) =
      (numberText (some year) ++ ['-']) ++ 'W' :: padStart 2 '0' (numberText (some week)) := by
    intro year week
    rw [keyText, List.append_assoc]
    rfl
  have hyear : 'W' ∉ numberText (some year) ++ ['-'] := by
    rw [List.mem_append, not_or]
    exact ⟨notMem_numberText year, by decide⟩
  have hweek : 'W' ∉ padStart 2 '0' (numberText (some week)) := by
    rw [padStart, List.mem_append, not_or]
    exact ⟨fun hmem => absurd (List.eq_of_mem_replicate hmem) (by decide), notMem_numberText week⟩
  rw [hsplit, hsplit, List.append_cons_inj_of_notMem hyear hweek, List.append_left_inj] at h
  obtain ⟨hyears, -, hweeks⟩ := h
  have hread := readNumber_numberText (Nat.zero_le 2)
  constructor
  · rw [← hread year, ← hread year', hyears]
  · rw [← readNumber_numberText le_rfl week, ← readNumber_numberText le_rfl week', hweeks]

/-! ## weeks -/

/-- The day lies in the years 1000 to 9999. -/
def FourDigits (day : Int) : Prop := 1000 ≤ (dateOfDay day).year ∧ (dateOfDay day).year ≤ 9999

instance (day : Int) : Decidable (FourDigits day) := inferInstanceAs (Decidable (_ ∧ _))

theorem FourDigits.bounds {day : Int} (h : FourDigits day) : -354286 < day ∧ day < 2932897 := by
  constructor
  · by_contra hle
    have hyear := year_mono (not_lt.1 hle)
    have hlast : dateOfDay (-354286) = ⟨999, 12, 31⟩ := by decide
    rw [hlast] at hyear
    exact absurd (h.1.trans hyear) (by decide)
  · by_contra hle
    have hyear := year_mono (not_lt.1 hle)
    have hnext : dateOfDay 2932897 = ⟨10000, 1, 1⟩ := by decide
    rw [hnext] at hyear
    exact absurd (hyear.trans h.2) (by decide)

/-- The Thursday of a week may lie in the year before or behind. -/
theorem FourDigits.year_thursday {day : Int} (h : FourDigits day) :
    999 ≤ (dateOfDay (thursday day)).year ∧ (dateOfDay (thursday day)).year ≤ 10000 := by
  obtain ⟨hlower, hupper⟩ := h.bounds
  obtain ⟨hbefore, hbehind⟩ := thursday_sub_le day
  have hfirst : dateOfDay (-354289) = ⟨999, 12, 28⟩ := by decide
  have hlast : dateOfDay 2932900 = ⟨10000, 1, 4⟩ := by decide
  have hle := year_mono (show (-354289 : Int) ≤ thursday day by omega)
  have hge := year_mono (show thursday day ≤ 2932900 by omega)
  rw [hfirst] at hle
  rw [hlast] at hge
  exact ⟨hle, hge⟩

theorem timeClip_mul {day : Int} (h : -100000000 ≤ day ∧ day ≤ 100000000) :
    timeClip (day * millisPerDay) = some (day * millisPerDay) := by
  refine if_pos ?_
  unfold millisPerDay
  omega

theorem setThursday_mul {day : Int} (h : -99999000 ≤ day ∧ day ≤ 99999000) :
    setThursday (day * millisPerDay) = some (thursday day * millisPerDay) := by
  have hthursday : day * millisPerDay + (3 - (weekday day + 6) % 7) * millisPerDay =
      thursday day * millisPerDay := by
    rw [thursday]
    ring
  have hnear := thursday_sub_le day
  rw [setThursday, dayOf_mul, hthursday, timeClip_mul (by omega)]

theorem dayOfDate_bounds {year : Int} (h : 999 ≤ year ∧ year ≤ 10000) :
    -99999000 ≤ dayOfDate ⟨year, 1, 4⟩ ∧ dayOfDate ⟨year, 1, 4⟩ ≤ 99999000 := by
  have hjanuary : (1 : Nat) < 3 := by decide
  simp only [dayOfDate, hjanuary, if_true, startOfYear, startOfMonth]
  omega

/-- The first Thursday of a year is found from 4 January. -/
theorem setThursday_utc {year : Int} (h : 999 ≤ year ∧ year ≤ 10000) :
    (timeClip (utc ⟨year, 1, 4⟩)).bind setThursday = some (firstThursday year * millisPerDay) := by
  have hlate : ¬ (0 ≤ year ∧ year ≤ 99) := by omega
  have hutc : utc ⟨year, 1, 4⟩ = dayOfDate ⟨year, 1, 4⟩ * millisPerDay := by
    rw [utc, if_neg hlate]
  have hdays := dayOfDate_bounds h
  rw [hutc, timeClip_mul (by omega), Option.bind_some, setThursday_mul hdays, firstThursday]

theorem mathRound_intCast (n : Int) : mathRound n = n := by
  rw [mathRound, Int.floor_eq_iff]
  constructor <;> linarith

section
variable (legacy : List Char → Option Instant)

theorem midnight_dateText {day : Int} (h : FourDigits day) :
    midnight legacy (dateText (dateOfDay day)) = some (day * millisPerDay) := by
  obtain ⟨h0, h1⟩ := h
  have hbounds := FourDigits.bounds ⟨h0, h1⟩
  rw [midnight, readDate_dateText (by omega) (by omega), Option.bind_some, timeClip_mul (by omega)]
  rfl

/-- The key of a day is the text of its ISO week. -/
theorem isoWeekKey_dateText {day : Int} (h : FourDigits day) :
    isoWeekKey legacy (dateText (dateOfDay day)) =
      keyText (some (isoWeek day).year) (some (isoWeek day).week) := by
  have hbounds := h.bounds
  have hyear := h.year_thursday
  have hfirst : (timeClip (utc ⟨(isoWeek day).year, 1, 4⟩)).bind setThursday =
      some (firstThursday (isoWeek day).year * millisPerDay) := setThursday_utc hyear
  have hthursday : (midnight legacy (dateText (dateOfDay day))).bind setThursday =
      some (thursday day * millisPerDay) := by
    rw [midnight_dateText legacy h, Option.bind_some, setThursday_mul (by omega)]
  have hweek : 1 + mathRound ((thursday day * millisPerDay -
      firstThursday (isoWeek day).year * millisPerDay : Int) / (7 * millisPerDay : Int)) =
        (isoWeek day).week := by
    have hdistance : thursday day * millisPerDay - firstThursday (isoWeek day).year * millisPerDay =
        ((isoWeek day).week - 1) * (7 * millisPerDay) := by
      have hday := thursday_eq day
      rw [hday]
      ring
    have hseven : ((7 * millisPerDay : Int) : ℚ) ≠ 0 := by
      norm_num [millisPerDay]
    rw [hdistance, Int.cast_mul, mul_div_cancel_right₀ _ hseven, mathRound_intCast]
    omega
  have hyears : (dateOfDay (thursday day)).year = (isoWeek day).year := rfl
  rw [isoWeekKey, keyText]
  simp only [hthursday, Option.map_some, Option.bind_some, dayOf_mul, hyears, hfirst, hweek]

/-- **Two dates have one key if and only if they lie in one week.** -/
theorem isoWeekKey_iff {a b : Int} (ha : FourDigits a) (hb : FourDigits b) :
    isoWeekKey legacy (dateText (dateOfDay a)) = isoWeekKey legacy (dateText (dateOfDay b)) ↔
      SameWeek a b := by
  rw [isoWeekKey_dateText legacy ha, isoWeekKey_dateText legacy hb, ← isoWeek_eq_iff]
  constructor
  · intro h
    obtain ⟨hyear, hweek⟩ := keyText_inj h
    exact IsoWeek.ext hyear hweek
  · intro h
    rw [h]

end

/-! ## the fold -/

/-- What the fold has gathered of these points. -/
def collected (keyOf : DailyPoint ρ → List Char) (points : List (DailyPoint ρ)) : Groups ρ :=
  { groups := (firstKeys keyOf points).map fun key => (key, group keyOf points key)
    order := firstKeys keyOf points }

variable {keyOf : DailyPoint ρ → List Char} {points : List (DailyPoint ρ)}

/-- The entry of a key, after one more point. -/
theorem entry_concat (keyOf : DailyPoint ρ → List Char) (points : List (DailyPoint ρ))
    (p : DailyPoint ρ) (key : List Char) :
    (if key = keyOf p then (key, group keyOf points key ++ [p]) else (key, group keyOf points key)) =
      (key, group keyOf (points ++ [p]) key) := by
  rw [group_concat]
  by_cases h : key = keyOf p
  · rw [if_pos h, if_pos h.symm]
  · rw [if_neg h, if_neg (Ne.symm h)]

/-- One more point goes to the group of its key, and to no other. -/
theorem push_collected (p : DailyPoint ρ) :
    (collected keyOf points).push keyOf p = collected keyOf (points ++ [p]) := by
  have hany : (collected keyOf points).groups.any (·.1 = keyOf p) = true ↔
      keyOf p ∈ points.map keyOf := by
    rw [List.any_eq_true]
    constructor
    · rintro ⟨e, he, hkey⟩
      obtain ⟨key, hmem, rfl⟩ := List.mem_map.1 he
      exact of_decide_eq_true hkey ▸ mem_firstKeys.1 hmem
    · intro hmem
      exact ⟨_, List.mem_map_of_mem (mem_firstKeys.2 hmem), decide_eq_true rfl⟩
  unfold Groups.push
  by_cases hmem : keyOf p ∈ points.map keyOf
  · simp only [hany.2 hmem, if_true]
    simp only [collected, firstKeys_concat, if_pos hmem, List.map_map, Groups.mk.injEq, and_true]
    exact List.map_congr_left fun key _ => entry_concat keyOf points p key
  · -- the key is new, and its group starts empty
    simp only [Bool.eq_false_iff.2 (mt hany.1 hmem), Bool.false_eq_true, if_false]
    simp only [collected, firstKeys_concat, if_neg hmem, List.map_append, List.map_map,
      List.map_cons, List.map_nil, if_true, Groups.mk.injEq, and_true]
    have hnew := entry_concat keyOf points p (keyOf p)
    rw [group_eq_nil hmem, if_pos rfl] at hnew
    refine congrArg₂ _ (List.map_congr_left fun key _ => entry_concat keyOf points p key) ?_
    exact congrArg (fun e => [e]) hnew

theorem foldl_push (points : List (DailyPoint ρ)) :
    points.foldl (Groups.push keyOf) {} = collected keyOf points := by
  induction points using List.reverseRecOn with
  | nil => rfl
  | append_singleton points p ih =>
      rw [List.foldl_concat, ih, push_collected]

theorem get_collected {key : List Char} (h : key ∈ firstKeys keyOf points) :
    (collected keyOf points).get key = group keyOf points key := by
  have hfind : (firstKeys keyOf points).find? (fun k => decide (k = key)) = some key := by
    cases hfound : (firstKeys keyOf points).find? fun k => decide (k = key) with
    | none => exact absurd (decide_eq_true rfl) (List.find?_eq_none.1 hfound key h)
    | some k =>
        have hkey := List.find?_some hfound
        rw [of_decide_eq_true hkey]
  have hcomp : (fun e : List Char × List (DailyPoint ρ) => decide (e.1 = key)) ∘
      (fun k => (k, group keyOf points k)) = fun k => decide (k = key) := rfl
  rw [Groups.get, collected, List.find?_map, hcomp, hfind]
  rfl

section
variable (legacy : List Char → Option Instant) (percent : Int → Nat → ρ)

/-- One bucket for each key, with the days of that key. -/
theorem bucketDaily_of_ne_day {bucket : Bucket} (h : bucket ≠ .day) (points : List (DailyPoint ρ)) :
    bucketDaily legacy percent points bucket =
      (firstKeys (bucketKey legacy bucket) points).map fun key =>
        summary percent (group (bucketKey legacy bucket) points key) := by
  unfold bucketDaily
  by_cases hempty : points.length = 0
  · rw [if_pos (.inr hempty), List.length_eq_zero_iff.1 hempty]
    rfl
  · rw [if_neg (not_or.2 ⟨h, hempty⟩), foldl_push]
    refine List.map_congr_left fun key hkey => ?_
    rw [get_collected hkey]

/-- What a bucket sums up, the buckets together sum up of all days. -/
theorem sum_bucketDaily (f : DailyPoint ρ → Nat)
    (hf : ∀ days, f (summary percent days) = (days.map f).sum) (points : List (DailyPoint ρ))
    (bucket : Bucket) :
    ((bucketDaily legacy percent points bucket).map f).sum = (points.map f).sum := by
  by_cases h : bucket = .day
  · rw [bucketDaily, if_pos (.inl h)]
  · have hgroups : ((firstKeys (bucketKey legacy bucket) points).map fun key =>
        ((group (bucketKey legacy bucket) points key).map f).sum).sum = (points.map f).sum :=
      sum_firstKeys f
    rw [bucketDaily_of_ne_day legacy percent h, List.map_map, ← hgroups]
    exact congrArg List.sum (List.map_congr_left fun key _ => hf _)

/-- **Rolling up**: no check is lost or counted twice, every day lies in the bucket of its key, the
buckets stand in order of first appearance, and the key of a date is that of its week. -/
theorem bucketDaily_conserves :
    (∀ (points : List (DailyPoint ρ)) (bucket : Bucket),
      ((bucketDaily legacy percent points bucket).map (·.totalChecks)).sum =
          (points.map (·.totalChecks)).sum ∧
        ((bucketDaily legacy percent points bucket).map (·.failedChecks)).sum =
          (points.map (·.failedChecks)).sum) ∧
    (∀ points : List (DailyPoint ρ), bucketDaily legacy percent points .day = points) ∧
    (∀ (points : List (DailyPoint ρ)) (bucket : Bucket), bucket ≠ .day →
      ∃ keys, FirstAppearance (bucketKey legacy bucket) points keys ∧
        bucketDaily legacy percent points bucket = keys.map fun key =>
          summary percent (points.filter fun p => bucketKey legacy bucket p = key)) ∧
    (∀ a b : Int, FourDigits a → FourDigits b →
      (isoWeekKey legacy (dateText (dateOfDay a)) = isoWeekKey legacy (dateText (dateOfDay b)) ↔
        SameWeek a b)) := by
  refine ⟨fun points bucket => ⟨?_, ?_⟩, fun points => if_pos (.inl rfl), fun points bucket h => ?_,
    fun a b => isoWeekKey_iff legacy⟩
  · exact sum_bucketDaily legacy percent _ (fun _ => rfl) points bucket
  · exact sum_bucketDaily legacy percent _ (fun _ => rfl) points bucket
  · exact ⟨_, firstAppearance_firstKeys, bucketDaily_of_ne_day legacy percent h points⟩

end

/-- A day with one failure in ten checks. -/
def tenChecks (day : String) : DailyPoint Nat :=
  { day := day.toList, uptimePct := some 90, avgResponseMs := none, totalChecks := 10,
    failedChecks := 1 }

/-- A week over the turn of the year, and the Monday behind it. -/
theorem bucketDaily_conserves_newYear :
    isoWeekKey (fun _ => none) (dateText (dateOfDay 18624)) =
        isoWeekKey (fun _ => none) (dateText (dateOfDay 18630)) ∧
      isoWeekKey (fun _ => none) (dateText (dateOfDay 18630)) ≠
        isoWeekKey (fun _ => none) (dateText (dateOfDay 18631)) ∧
      ((bucketDaily (fun _ => none) (fun _ total => total)
        [tenChecks "2020-12-28", tenChecks "2021-01-03", tenChecks "2021-01-04"] .week).map
          (·.failedChecks)).sum = 3 := by
  obtain ⟨hsums, -, -, hweeks⟩ := bucketDaily_conserves (fun _ => none) fun _ total => total
  have hmonday : FourDigits 18624 := by decide
  have hsunday : FourDigits 18630 := by decide
  have hnext : FourDigits 18631 := by decide
  have hdiffer : ¬ SameWeek 18630 18631 := by
    rw [sameWeek_iff]
    decide
  refine ⟨(hweeks _ _ hmonday hsunday).2 ⟨18624, by decide, by decide, by decide⟩,
    mt (hweeks _ _ hsunday hnext).1 hdiffer, ?_⟩
  exact (hsums _ .week).2

end UptimeFlow.Analytics.Buckets
