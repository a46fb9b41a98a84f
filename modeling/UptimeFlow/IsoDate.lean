import Mathlib.Tactic.IntervalCases
import Mathlib.Data.Nat.Digits.Defs

/-!
# UptimeFlow.IsoDate

Instants as the texts `toISOString` writes, `YYYY-MM-DDTHH:mm:ss.sssZ`.

An instant is a number of milliseconds since the epoch.  A year outside 0 to
9999 is written with a sign and six digits; instants beyond the range of a
`Date` have years of more digits still.  `read` takes exactly the texts
`toISOString` writes.
-/

namespace UptimeFlow.IsoDate

/-! ## days and dates -/

structure Date where
  year : Int
  month : Nat
  day : Nat
deriving DecidableEq, Repr

/-- The year, counted from 1 March and within its 400 years, of a day of them. -/
def yearOfEra (day : Nat) : Nat := (day - day / 1460 + day / 36524 - day / 146096) / 365

/-- The days of the 400 years before a year of them. -/
def startOfYear (year : Nat) : Nat := 365 * year + year / 4 - year / 100

/-- The month, counted from March, of a day of a year. -/
def monthOfYear (day : Nat) : Nat := (5 * day + 2) / 153

/-- The days of a year before a month, counted from March. -/
def startOfMonth (month : Nat) : Nat := (153 * month + 2) / 5

/-- The date of a day since the epoch; 719468 days lie between 1 March of the year 0 and it. -/
def dateOfDay (day : Int) : Date :=
  let dayOfEra := ((day + 719468) % 146097).toNat
  let year := yearOfEra dayOfEra
  let dayOfYear := dayOfEra - startOfYear year
  let month := monthOfYear dayOfYear
  { year := (day + 719468) / 146097 * 400 + year + (if month < 10 then 0 else 1)
    month := if month < 10 then month + 3 else month - 9
    day := dayOfYear - startOfMonth month + 1 }

def dayOfDate (d : Date) : Int :=
  let year := if d.month < 3 then d.year - 1 else d.year
  let month := if d.month < 3 then d.month + 9 else d.month - 3
  year / 400 * 146097 + startOfYear (year % 400).toNat + startOfMonth month + (d.day - 1) - 719468

example : dateOfDay 19782 = ⟨2024, 2, 29⟩ := by decide

theorem yearOfEra_lt {day : Nat} (h : day < 146097) : yearOfEra day < 400 := by
  unfold yearOfEra
  omega

/-- The century of a day's year is that of the day, but for the leap day the 400 years end with. -/
theorem century_yearOfEra {day q c e year : Nat} (h : day < 146097) (hq : q = day / 1460)
    (hc : c = day / 36524) (he : e = day / 146096) (hyear : year = (day - q + c - e) / 365) :
    year / 100 = min c 3 ∧ (e = 0 ∧ c ≤ 4 ∨ e = 1 ∧ c = 4) := by
  have hlast : e = 0 ∧ c ≤ 4 ∨ e = 1 ∧ c = 4 := by omega
  refine ⟨?_, hlast⟩
  rcases hlast with ⟨rfl, hc4⟩ | ⟨rfl, rfl⟩
  · interval_cases c <;> omega
  · omega

theorem startOfYear_yearOfEra {day : Nat} (h : day < 146097) :
    startOfYear (yearOfEra day) ≤ day ∧ day - startOfYear (yearOfEra day) ≤ 365 := by
  obtain ⟨q, hq⟩ : ∃ q, q = day / 1460 := ⟨_, rfl⟩
  obtain ⟨c, hc⟩ : ∃ c, c = day / 36524 := ⟨_, rfl⟩
  obtain ⟨e, he⟩ : ∃ e, e = day / 146096 := ⟨_, rfl⟩
  obtain ⟨year, hyear⟩ : ∃ year, year = (day - q + c - e) / 365 := ⟨_, rfl⟩
  obtain ⟨d, hd⟩ : ∃ d, d = year / 100 := ⟨_, rfl⟩
  obtain ⟨hcentury, hlast⟩ := century_yearOfEra h hq hc he hyear
  unfold yearOfEra startOfYear
  rw [← hq, ← hc, ← he, ← hyear, ← hd]
  -- the centuries of the era, one by one, and its last day
  rcases hlast with ⟨rfl, hc4⟩ | ⟨rfl, rfl⟩
  · interval_cases c <;> omega
  · omega

theorem startOfMonth_monthOfYear {day : Nat} (h : day ≤ 365) :
    monthOfYear day < 12 ∧ startOfMonth (monthOfYear day) ≤ day ∧
      day - startOfMonth (monthOfYear day) < 31 := by
  unfold monthOfYear startOfMonth
  omega

/-- The date's fields stay within their two digits. -/
theorem dateOfDay_lt (day : Int) : (dateOfDay day).month < 100 ∧ (dateOfDay day).day < 100 := by
  have hera : ((day + 719468) % 146097).toNat < 146097 := by omega
  have hmonth := startOfMonth_monthOfYear (startOfYear_yearOfEra hera).2
  unfold dateOfDay
  dsimp only
  split <;> omega

/-- **Round trip**: a day is found again from its date. -/
theorem dayOfDate_dateOfDay (day : Int) : dayOfDate (dateOfDay day) = day := by
  obtain ⟨dayOfEra, hera⟩ : ∃ d, d = ((day + 719468) % 146097).toNat := ⟨_, rfl⟩
  have hlt : dayOfEra < 146097 := by omega
  obtain ⟨year, hyear⟩ : ∃ y, y = yearOfEra dayOfEra := ⟨_, rfl⟩
  have hyearlt : year < 400 := hyear ▸ yearOfEra_lt hlt
  have hstart := startOfYear_yearOfEra hlt
  obtain ⟨dayOfYear, hday⟩ : ∃ d, d = dayOfEra - startOfYear year := ⟨_, rfl⟩
  have hdayle : dayOfYear ≤ 365 := by
    rw [hday, hyear]
    exact hstart.2
  have hmonths := startOfMonth_monthOfYear hdayle
  obtain ⟨month, hmonth⟩ : ∃ m, m = monthOfYear dayOfYear := ⟨_, rfl⟩
  rw [← hyear] at hstart
  rw [← hmonth] at hmonths
  simp only [dayOfDate, dateOfDay, ← hera, ← hyear, ← hday, ← hmonth]
  by_cases h : month < 10
  · have h3 : ¬ month + 3 < 3 := by omega
    simp only [h, h3, if_true, if_false]
    have hmod : (((day + 719468) / 146097 * 400 + (year : Int) + 0) % 400).toNat = year := by omega
    have hsub : month + 3 - 3 = month := by omega
    rw [hmod, hsub]
    omega
  · have h3 : month - 9 < 3 := by omega
    simp only [h, h3, if_true, if_false]
    have hmod : (((day + 719468) / 146097 * 400 + (year : Int) + 1 - 1) % 400).toNat = year := by
      omega
    have hadd : month - 9 + 9 = month := by omega
    rw [hmod, hadd]
    omega

/-! ## the order of dates -/

/-- `a` is an earlier date than `b`. -/
def Date.Before (a b : Date) : Prop :=
  a.year < b.year ∨ a.year = b.year ∧ (a.month < b.month ∨ a.month = b.month ∧ a.day < b.day)

theorem startOfYear_mono : Monotone startOfYear :=
  monotone_nat_of_le_succ fun year => by
    unfold startOfYear
    omega

/-- A day lies before the next year, but for the leap day the 400 years end with. -/
theorem lt_startOfYear {day : Nat} (h : day < 146097) :
    day < startOfYear (yearOfEra day + 1) ∨ yearOfEra day = 399 := by
  obtain ⟨q, hq⟩ : ∃ q, q = day / 1460 := ⟨_, rfl⟩
  obtain ⟨c, hc⟩ : ∃ c, c = day / 36524 := ⟨_, rfl⟩
  obtain ⟨e, he⟩ : ∃ e, e = day / 146096 := ⟨_, rfl⟩
  obtain ⟨year, hyear⟩ : ∃ year, year = (day - q + c - e) / 365 := ⟨_, rfl⟩
  obtain ⟨d, hd⟩ : ∃ d, d = (year + 1) / 100 := ⟨_, rfl⟩
  obtain ⟨hcentury, hlast⟩ := century_yearOfEra h hq hc he hyear
  have hnext : d = min c 3 ∨ d = min c 3 + 1 := by omega
  unfold yearOfEra startOfYear
  rw [← hq, ← hc, ← he, ← hyear, ← hd]
  rcases hlast with ⟨rfl, hc4⟩ | ⟨rfl, rfl⟩
  · interval_cases c <;> rcases hnext with rfl | rfl <;> omega
  · omega

theorem yearOfEra_mono {a b : Nat} (hab : a < b) (hb : b < 146097) : yearOfEra a ≤ yearOfEra b := by
  by_contra hnot
  have ha := startOfYear_yearOfEra (hab.trans hb)
  have hyear := yearOfEra_lt (hab.trans hb)
  have hmono := startOfYear_mono (show yearOfEra b + 1 ≤ yearOfEra a by omega)
  rcases lt_startOfYear hb with hlt | hlast <;> omega

/-- Years run from March here, so the order of their months is that of the calendar's. -/
theorem before_of_march {ya yb : Int} {ma mb da db : Nat} (hma : ma < 12) (hmb : mb < 12)
    (h : ya < yb ∨ ya = yb ∧ (ma < mb ∨ ma = mb ∧ da < db)) :
    (Date.mk (ya + if ma < 10 then 0 else 1) (if ma < 10 then ma + 3 else ma - 9) da).Before
      (Date.mk (yb + if mb < 10 then 0 else 1) (if mb < 10 then mb + 3 else mb - 9) db) := by
  unfold Date.Before
  dsimp only
  split <;> split <;> omega

/-- **Later days have later dates.** -/
theorem dateOfDay_before {a b : Int} (hab : a < b) : (dateOfDay a).Before (dateOfDay b) := by
  obtain ⟨ea, hea⟩ : ∃ d, d = ((a + 719468) % 146097).toNat := ⟨_, rfl⟩
  obtain ⟨eb, heb⟩ : ∃ d, d = ((b + 719468) % 146097).toNat := ⟨_, rfl⟩
  have halt : ea < 146097 := by omega
  have hblt : eb < 146097 := by omega
  have hya := yearOfEra_lt halt
  have hyb := yearOfEra_lt hblt
  have hsa := startOfYear_yearOfEra halt
  have hsb := startOfYear_yearOfEra hblt
  have hma := startOfMonth_monthOfYear hsa.2
  have hmb := startOfMonth_monthOfYear hsb.2
  simp only [dateOfDay, ← hea, ← heb]
  refine before_of_march hma.1 hmb.1 ?_
  by_cases hera : (a + 719468) / 146097 = (b + 719468) / 146097
  · have hlt : ea < eb := by omega
    have hyear := yearOfEra_mono hlt hblt
    by_cases heq : yearOfEra ea = yearOfEra eb
    · rw [heq] at hsa hma ⊢
      have hday : ea - startOfYear (yearOfEra eb) < eb - startOfYear (yearOfEra eb) := by omega
      have hmonth : monthOfYear (ea - startOfYear (yearOfEra eb)) ≤
          monthOfYear (eb - startOfYear (yearOfEra eb)) := by
        unfold monthOfYear
        omega
      refine .inr ⟨by rw [hera], ?_⟩
      rcases hmonth.lt_or_eq with hmonth | hmonth
      · exact .inl hmonth
      · refine .inr ⟨hmonth, ?_⟩
        rw [hmonth] at hma ⊢
        omega
    · exact .inl (by omega)
  · exact .inl (by omega)

/-! ## numbers of a fixed width -/

/-- The last `width` decimal digits of a number. -/
def fixed : Nat → Nat → List Char
  | 0, _ => []
  | width + 1, n => fixed width (n / 10) ++ [Char.ofNat ('0'.toNat + n % 10)]

def digitValue (c : Char) : Nat := c.toNat - '0'.toNat

def decimal (cs : List Char) : Nat := cs.foldl (fun n c => n * 10 + digitValue c) 0

theorem length_fixed (width n : Nat) : (fixed width n).length = width := by
  induction width generalizing n with
  | zero => rfl
  | succ width ih => simp [fixed, ih]

theorem digit_of_lt : ∀ n < 10, (Char.ofNat ('0'.toNat + n)).isDigit = true ∧
    digitValue (Char.ofNat ('0'.toNat + n)) = n := by decide

theorem isDigit_fixed (width n : Nat) : ∀ c ∈ fixed width n, c.isDigit = true := by
  induction width generalizing n with
  | zero => simp [fixed]
  | succ width ih =>
      intro c hc
      rw [fixed, List.mem_append, List.mem_singleton] at hc
      rcases hc with hc | rfl
      · exact ih _ c hc
      · exact (digit_of_lt _ (Nat.mod_lt _ (by decide))).1

theorem decimal_fixed {width n : Nat} (h : n < 10 ^ width) : decimal (fixed width n) = n := by
  induction width generalizing n with
  | zero =>
      have : n = 0 := by simpa using h
      rw [this]
      rfl
  | succ width ih =>
      have hdiv : n / 10 < 10 ^ width := by
        rw [Nat.pow_succ] at h
        omega
      have hlast := (digit_of_lt _ (Nat.mod_lt n (by decide : 10 > 0))).2
      have hstep : decimal (fixed (width + 1) n) = decimal (fixed width (n / 10)) * 10 + n % 10 := by
        simp [decimal, fixed, List.foldl_append] at hlast ⊢
        exact hlast
      rw [hstep, ih hdiv]
      omega

/-! ## reading -/

/-- A number of a fixed width, and the text behind it. -/
def readFixed (width : Nat) (cs : List Char) : Nat × List Char :=
  (decimal (cs.take width), cs.drop width)

theorem readFixed_fixed {width n : Nat} (h : n < 10 ^ width) (rest : List Char) :
    readFixed width (fixed width n ++ rest) = (n, rest) := by
  have hlen := length_fixed width n
  simp [readFixed, hlen, decimal_fixed h]

/-- The width a signed year is written with. -/
def yearWidth (year : Nat) : Nat := max 6 (Nat.digits 10 year).length

theorem lt_pow_yearWidth (year : Nat) : year < 10 ^ yearWidth year :=
  lt_of_lt_of_le (Nat.lt_base_pow_length_digits (by decide))
    (Nat.pow_le_pow_right (by decide) (le_max_right _ _))

def writeYear (year : Int) : List Char :=
  if 0 ≤ year ∧ year < 10000 then fixed 4 year.toNat
  else (if year < 0 then '-' else '+') :: fixed (yearWidth year.natAbs) year.natAbs

/-- The digits at the front, as a number, and the text behind them. -/
def readDigits (cs : List Char) : Nat × List Char :=
  (decimal (cs.takeWhile Char.isDigit), cs.dropWhile Char.isDigit)

def readYear : List Char → Int × List Char
  | '+' :: cs => ((readDigits cs).1, (readDigits cs).2)
  | '-' :: cs => (-((readDigits cs).1 : Int), (readDigits cs).2)
  | cs => ((readFixed 4 cs).1, (readFixed 4 cs).2)

theorem readDigits_fixed {width n : Nat} (h : n < 10 ^ width) (rest : List Char) :
    readDigits (fixed width n ++ '-' :: rest) = (n, '-' :: rest) := by
  have hall := isDigit_fixed width n
  have htake : (fixed width n ++ '-' :: rest).takeWhile Char.isDigit = fixed width n := by
    rw [List.takeWhile_append_of_pos hall]
    simp
  have hdrop : (fixed width n ++ '-' :: rest).dropWhile Char.isDigit = '-' :: rest := by
    rw [List.dropWhile_append_of_pos hall]
    simp
  rw [readDigits, htake, hdrop, decimal_fixed h]

theorem readYear_writeYear (year : Int) (rest : List Char) :
    readYear (writeYear year ++ '-' :: rest) = (year, '-' :: rest) := by
  unfold writeYear
  split
  · next h =>
      have hlt : year.toNat < 10 ^ 4 := by omega
      have hread := readFixed_fixed hlt ('-' :: rest)
      have hdigits := isDigit_fixed 4 year.toNat
      have hyear : (year.toNat : Int) = year := by omega
      cases hcs : fixed 4 year.toNat with
      | nil =>
          have := length_fixed 4 year.toNat
          simp [hcs] at this
      | cons c cs =>
          rw [hcs] at hdigits hread
          have hc := hdigits c List.mem_cons_self
          have hplus : c ≠ '+' := by rintro rfl; exact absurd hc (by decide)
          have hminus : c ≠ '-' := by rintro rfl; exact absurd hc (by decide)
          rw [List.cons_append] at hread ⊢
          rw [readYear, hread, hyear]
          · intro cs' h'
            exact hplus (List.cons.inj h').1
          · intro cs' h'
            exact hminus (List.cons.inj h').1
  · have hread := readDigits_fixed (lt_pow_yearWidth year.natAbs) rest
    by_cases hneg : year < 0
    · simp only [hneg, if_true, List.cons_append, readYear, hread]
      have : -(year.natAbs : Int) = year := by omega
      rw [this]
    · simp only [hneg, if_false, List.cons_append, readYear, hread]
      have : (year.natAbs : Int) = year := by omega
      rw [this]

/-! ## instants -/

def millisPerDay : Int := 86400000

/-- `new Date(t).toISOString()`. -/
def toISOString (t : Int) : List Char :=
  let d := dateOfDay (t / millisPerDay)
  let ms := (t % millisPerDay).toNat
  writeYear d.year ++ '-' :: (fixed 2 d.month ++ '-' :: (fixed 2 d.day ++ 'T' ::
    (fixed 2 (ms / 3600000) ++ ':' :: (fixed 2 (ms / 60000 % 60) ++ ':' ::
      (fixed 2 (ms / 1000 % 60) ++ '.' :: (fixed 3 (ms % 1000) ++ ['Z']))))))

/-- The instant a text of this form would be of; what stands between the numbers is skipped. -/
def candidate (cs : List Char) : Int :=
  let year := readYear cs
  let month := readFixed 2 (year.2.drop 1)
  let day := readFixed 2 (month.2.drop 1)
  let hour := readFixed 2 (day.2.drop 1)
  let minute := readFixed 2 (hour.2.drop 1)
  let second := readFixed 2 (minute.2.drop 1)
  let milli := readFixed 3 (second.2.drop 1)
  dayOfDate ⟨year.1, month.1, day.1⟩ * millisPerDay +
    (hour.1 * 3600000 + minute.1 * 60000 + second.1 * 1000 + milli.1)

/-- The instant whose text this is. -/
def read (cs : List Char) : Option Int :=
  if toISOString (candidate cs) = cs then some (candidate cs) else none

theorem candidate_toISOString (t : Int) : candidate (toISOString t) = t := by
  obtain ⟨day, hday⟩ : ∃ day, day = t / millisPerDay := ⟨_, rfl⟩
  obtain ⟨ms, hms⟩ : ∃ ms, ms = (t % millisPerDay).toNat := ⟨_, rfl⟩
  have hms86 : ms < 86400000 := by
    simp only [millisPerDay] at hms
    omega
  have hdate := dateOfDay_lt day
  have htext : toISOString t = writeYear (dateOfDay day).year ++ '-' ::
      (fixed 2 (dateOfDay day).month ++ '-' :: (fixed 2 (dateOfDay day).day ++ 'T' ::
        (fixed 2 (ms / 3600000) ++ ':' :: (fixed 2 (ms / 60000 % 60) ++ ':' ::
          (fixed 2 (ms / 1000 % 60) ++ '.' :: (fixed 3 (ms % 1000) ++ ['Z'])))))) := by
    rw [hday, hms]
    rfl
  have hmonth : (dateOfDay day).month < 10 ^ 2 := hdate.1
  have hdayOf : (dateOfDay day).day < 10 ^ 2 := hdate.2
  have hhour : ms / 3600000 < 10 ^ 2 := by omega
  have hminute : ms / 60000 % 60 < 10 ^ 2 := by omega
  have hsecond : ms / 1000 % 60 < 10 ^ 2 := by omega
  have hmilli : ms % 1000 < 10 ^ 3 := by omega
  unfold candidate
  simp only [htext, readYear_writeYear, readFixed_fixed hmonth, readFixed_fixed hdayOf,
    readFixed_fixed hhour, readFixed_fixed hminute, readFixed_fixed hsecond,
    readFixed_fixed hmilli, List.drop_succ_cons, List.drop_zero]
  have hback : dayOfDate ⟨(dateOfDay day).year, (dateOfDay day).month, (dateOfDay day).day⟩ = day :=
    dayOfDate_dateOfDay day
  rw [hback]
  simp only [millisPerDay] at hday hms ⊢
  omega

/-- **Round trip**: an instant is read back from its text. -/
theorem read_toISOString (t : Int) : read (toISOString t) = some t := by
  rw [read, candidate_toISOString, if_pos rfl]

/-! ## the first ten characters -/

/-- `YYYY-MM-DD` of a date in the years of four digits. -/
def dateText (d : Date) : List Char :=
  fixed 4 d.year.toNat ++ ('-' :: (fixed 2 d.month ++ ('-' :: fixed 2 d.day)))

theorem take_toISOString {t : Int} (h0 : 0 ≤ (dateOfDay (t / millisPerDay)).year)
    (h1 : (dateOfDay (t / millisPerDay)).year < 10000) :
    (toISOString t).take 10 = dateText (dateOfDay (t / millisPerDay)) := by
  have hlen : (dateText (dateOfDay (t / millisPerDay))).length = 10 := by
    simp [dateText, length_fixed]
  have htext : ∃ rest, toISOString t = dateText (dateOfDay (t / millisPerDay)) ++ rest := by
    rw [toISOString, writeYear, if_pos ⟨h0, h1⟩, dateText]
    exact ⟨_, by simp only [List.append_assoc, List.cons_append]; rfl⟩
  obtain ⟨rest, hrest⟩ := htext
  rw [hrest, ← hlen, List.take_left']
  rfl

theorem toISOString_midnight {day : Int} (h0 : 0 ≤ (dateOfDay day).year)
    (h1 : (dateOfDay day).year < 10000) :
    toISOString (day * millisPerDay) = dateText (dateOfDay day) ++ "T00:00:00.000Z".toList := by
  have hday : day * millisPerDay / millisPerDay = day := Int.mul_ediv_cancel _ (by decide)
  have hms : (day * millisPerDay % millisPerDay).toNat = 0 := by simp
  have hzero : 'T' :: (fixed 2 (0 / 3600000) ++ ':' :: (fixed 2 (0 / 60000 % 60) ++
      ':' :: (fixed 2 (0 / 1000 % 60) ++ '.' :: (fixed 3 (0 % 1000) ++ ['Z'])))) =
      "T00:00:00.000Z".toList := by decide
  rw [toISOString, hday, hms, writeYear, if_pos ⟨h0, h1⟩, dateText]
  simp only [hzero, List.append_assoc, List.cons_append]

/-- The day of a text `YYYY-MM-DD`. -/
def readDate (cs : List Char) : Option Int :=
  (read (cs ++ "T00:00:00.000Z".toList)).map (· / millisPerDay)

theorem readDate_dateText {day : Int} (h0 : 0 ≤ (dateOfDay day).year)
    (h1 : (dateOfDay day).year < 10000) : readDate (dateText (dateOfDay day)) = some day := by
  rw [readDate, ← toISOString_midnight h0 h1, read_toISOString, Option.map_some,
    Int.mul_ediv_cancel _ (by decide)]

theorem append_lt_append {xs ys : List Char} (hlen : xs.length = ys.length) (h : xs < ys)
    (as bs : List Char) : xs ++ as < ys ++ bs := by
  induction xs generalizing ys with
  | nil =>
      rw [List.length_nil, eq_comm, List.length_eq_zero_iff] at hlen
      subst hlen
      exact absurd h (List.not_lt_nil _)
  | cons x xs ih =>
      cases ys with
      | nil => simp at hlen
      | cons y ys =>
          rw [List.cons_append, List.cons_append, List.cons_lt_cons_iff]
          rcases List.cons_lt_cons_iff.1 h with hlt | ⟨heq, hlt⟩
          · exact .inl hlt
          · exact .inr ⟨heq, ih (by simpa using hlen) hlt⟩

theorem digit_lt_digit : ∀ b < 10, ∀ a < b,
    Char.ofNat ('0'.toNat + a) < Char.ofNat ('0'.toNat + b) := by decide

/-- Numbers of one width compare like their digits. -/
theorem fixed_lt_fixed {width a b : Nat} (hab : a < b) (hb : b < 10 ^ width) :
    fixed width a < fixed width b := by
  induction width generalizing a b with
  | zero =>
      have : b < 1 := by simpa using hb
      omega
  | succ width ih =>
      have hdiv : b / 10 < 10 ^ width := by
        rw [Nat.pow_succ] at hb
        omega
      rcases Nat.lt_or_ge (a / 10) (b / 10) with hlt | hge
      · exact append_lt_append (by simp [length_fixed]) (ih hlt hdiv) _ _
      · have heq : a / 10 = b / 10 := by omega
        rw [fixed, fixed, heq]
        refine List.append_left_lt (List.cons_lt_cons_iff.2 (.inl ?_))
        exact digit_lt_digit _ (Nat.mod_lt _ (by decide)) _ (by omega)

/-- **Texts of dates compare like the dates**, in the years of four digits. -/
theorem dateText_lt {a b : Date} (h : a.Before b) (ha : 0 ≤ a.year) (hb : b.year < 10000)
    (hmonth : b.month < 100) (hday : b.day < 100) : dateText a < dateText b := by
  unfold Date.Before at h
  unfold dateText
  rcases h with hyear | ⟨hyear, hmonths | ⟨hmonths, hdays⟩⟩
  · exact append_lt_append (by simp [length_fixed]) (fixed_lt_fixed (by omega) (by omega)) _ _
  · rw [hyear]
    refine List.append_left_lt (List.cons_lt_cons_iff.2 (.inr ⟨rfl, ?_⟩))
    exact append_lt_append (by simp [length_fixed]) (fixed_lt_fixed hmonths (by omega)) _ _
  · rw [hyear, hmonths]
    refine List.append_left_lt (List.cons_lt_cons_iff.2 (.inr ⟨rfl, ?_⟩))
    refine List.append_left_lt (List.cons_lt_cons_iff.2 (.inr ⟨rfl, ?_⟩))
    exact fixed_lt_fixed hdays (by omega)

theorem toISOString_ne_nil (t : Int) : toISOString t ≠ [] := by
  unfold toISOString
  simp

end UptimeFlow.IsoDate
