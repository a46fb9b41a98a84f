import UptimeFlow.IsoDate
import UptimeFlow.Monitoring.Schema

/-!
# UptimeFlow.Analytics.Days

UTC days, and the texts they are bound to queries as.

Days are compared as the texts `YYYY-MM-DD` and handed to the database as such.
In the years 100 to 9999 text and day are one (`castDate_dayParam`,
`dayParam_lt_iff`).  Outside they are not: `Date.UTC` takes the years 0 to 99
for those of the twentieth century, and the first ten characters of a year with
a sign are no date.
-/

namespace UptimeFlow.Analytics

open IsoDate
open Monitoring (Instant)

/-- The day of an instant. -/
def dayOf (t : Instant) : Int := t / millisPerDay

/-- `Date.UTC(year, month, day)`; the years 0 to 99 are 1900 to 1999. -/
def utc (d : Date) : Instant :=
  dayOfDate { d with year := if 0 ≤ d.year ∧ d.year ≤ 99 then 1900 + d.year else d.year } *
    millisPerDay

/-- Midnight UTC on the day containing `d`. -/
def utcDayStart (d : Instant) : Instant := utc (dateOfDay (dayOf d))

/-- `YYYY-MM-DD` in UTC — the form the SQL binds and casts to `date`. -/
def dayParam (d : Instant) : List Char := (toISOString (utcDayStart d)).take 10

/-- `text::date`; there is no year 0, and a text that is no date is an error. -/
def castDate (text : List Char) : Option Int :=
  (readDate text).filter fun day => 1 ≤ (dateOfDay day).year

/-- The instant lies in the years 100 to 9999. -/
def InYears (t : Instant) : Prop :=
  100 ≤ (dateOfDay (dayOf t)).year ∧ (dateOfDay (dayOf t)).year < 10000

instance (t : Instant) : Decidable (InYears t) := inferInstanceAs (Decidable (_ ∧ _))

example : utcDayStart (-60589296000000) = -631152000000 := by decide +kernel

theorem dayOf_mul (day : Int) : dayOf (day * millisPerDay) = day :=
  Int.mul_ediv_cancel _ (by decide)

theorem utcDayStart_eq {t : Instant} (h : InYears t) : utcDayStart t = dayOf t * millisPerDay := by
  have hyear : ¬ (0 ≤ (dateOfDay (dayOf t)).year ∧ (dateOfDay (dayOf t)).year ≤ 99) := by
    have := h.1
    omega
  rw [utcDayStart, utc, if_neg hyear, dayOfDate_dateOfDay]

theorem dayParam_eq {t : Instant} (h : InYears t) : dayParam t = dateText (dateOfDay (dayOf t)) := by
  have hday : utcDayStart t / millisPerDay = dayOf t := by
    rw [utcDayStart_eq h]
    exact dayOf_mul _
  have htake := take_toISOString (t := utcDayStart t) (by rw [hday]; have := h.1; omega)
    (by rw [hday]; exact h.2)
  rw [dayParam, htake, hday]

/-- The database finds the day again. -/
theorem castDate_dayParam {t : Instant} (h : InYears t) :
    castDate (dayParam t) = some (dayOf t) := by
  have h0 := h.1
  rw [castDate, dayParam_eq h, readDate_dateText (by omega) h.2, Option.filter_some_pos]
  simp only [decide_eq_true_eq]
  omega

/-- **Texts of days compare like the days.** -/
theorem dayParam_lt_iff {a b : Instant} (ha : InYears a) (hb : InYears b) :
    dayParam a < dayParam b ↔ dayOf a < dayOf b := by
  have hlt : ∀ {a b : Instant}, InYears a → InYears b → dayOf a < dayOf b →
      dayParam a < dayParam b := by
    intro a b ha hb hab
    have hfields := dateOfDay_lt (dayOf b)
    have h0 := ha.1
    rw [dayParam_eq ha, dayParam_eq hb]
    exact dateText_lt (dateOfDay_before hab) (by omega) hb.2 hfields.1 hfields.2
  constructor
  · intro h
    by_contra hnot
    rcases (not_lt.1 hnot).lt_or_eq with hba | heq
    · exact List.lt_asymm h (hlt hb ha hba)
    · rw [dayParam_eq ha, dayParam_eq hb, heq] at h
      exact List.lt_irrefl _ h
  · exact hlt ha hb

end UptimeFlow.Analytics
