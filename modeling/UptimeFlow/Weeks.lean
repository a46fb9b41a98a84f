import UptimeFlow.IsoDate

/-!
# UptimeFlow.Weeks

Weeks of ISO 8601: they run from Monday to Sunday, and belong to the year their
Thursday lies in.

A week is numbered within its year, and the first is the one with the year's
first Thursday.  The number is taken from the distance of two Thursdays, so year
and number give back the Thursday, and with it the week (`isoWeek_eq_iff`).
-/

namespace UptimeFlow.IsoDate

/-- The day of the week, from Sunday on; the epoch is a Thursday. -/
def weekday (day : Int) : Int := (day + 4) % 7

/-- The Thursday of a day's week. -/
def thursday (day : Int) : Int := day - (weekday day + 6) % 7 + 3

/-- The Thursday of the week of 4 January, which is the first of the year. -/
def firstThursday (year : Int) : Int := thursday (dayOfDate ⟨year, 1, 4⟩)

@[ext]
structure IsoWeek where
  year : Int
  week : Int
deriving DecidableEq, Repr

def isoWeek (day : Int) : IsoWeek :=
  let year := (dateOfDay (thursday day)).year
  { year, week := 1 + (thursday day - firstThursday year) / 7 }

/-- Both days lie between one Monday and the Sunday behind it. -/
def SameWeek (a b : Int) : Prop :=
  ∃ monday, weekday monday = 1 ∧ (monday ≤ a ∧ a < monday + 7) ∧ monday ≤ b ∧ b < monday + 7

variable {a b : Int}

/-- Thursdays are the days whose number is a multiple of seven. -/
theorem thursday_emod (day : Int) : thursday day % 7 = 0 := by
  unfold thursday weekday
  omega

theorem thursday_sub_le (day : Int) : day - 3 ≤ thursday day ∧ thursday day ≤ day + 3 := by
  unfold thursday weekday
  omega

theorem sameWeek_iff : SameWeek a b ↔ thursday a = thursday b := by
  unfold SameWeek thursday weekday
  constructor
  · rintro ⟨monday, hmonday, ha, hb⟩
    omega
  · intro h
    exact ⟨a - (a + 3) % 7, by omega, by omega, by omega⟩

/-- The number of a week is exact, so the Thursday is found again. -/
theorem thursday_eq (day : Int) :
    thursday day = firstThursday (isoWeek day).year + 7 * ((isoWeek day).week - 1) := by
  have hday := thursday_emod day
  have hfirst := thursday_emod (dayOfDate ⟨(isoWeek day).year, 1, 4⟩)
  rw [← firstThursday] at hfirst
  have hweek : (isoWeek day).week = 1 + (thursday day - firstThursday (isoWeek day).year) / 7 := rfl
  omega

theorem year_mono (h : a ≤ b) : (dateOfDay a).year ≤ (dateOfDay b).year := by
  obtain rfl | hlt := h.eq_or_lt
  · exact le_rfl
  · obtain hyear | ⟨hyear, -⟩ := dateOfDay_before hlt
    · exact hyear.le
    · exact hyear.le

/-- **Year and number name the week.** -/
theorem isoWeek_eq_iff : isoWeek a = isoWeek b ↔ SameWeek a b := by
  rw [sameWeek_iff]
  constructor
  · intro h
    rw [thursday_eq a, thursday_eq b, h]
  · intro h
    rw [isoWeek, isoWeek, h]

-- 2020 has 53 weeks, and the last of them ends in 2021
example : isoWeek (dayOfDate ⟨2021, 1, 3⟩) = ⟨2020, 53⟩ ∧
    isoWeek (dayOfDate ⟨2021, 1, 4⟩) = ⟨2021, 1⟩ := by decide

end UptimeFlow.IsoDate
