import CandleFeed.Calendar
import Mathlib.Algebra.Order.Group.Int

/-!
# Days and dates

`dateOfDay` counts the dates of the Gregorian calendar one after the other, and `dayOfDate` is its
inverse.
-/

namespace CandleFeed.Calendar

/-! ## The Gregorian rules -/

def IsLeap (year : Int) : Prop :=
  4 ∣ year ∧ (100 ∣ year → 400 ∣ year)

instance (year : Int) : Decidable (IsLeap year) :=
  inferInstanceAs (Decidable (_ ∧ _))

def monthLength (year : Int) : Int → Int
  | 2 => if IsLeap year then 29 else 28
  | 4 | 6 | 9 | 11 => 30
  | _ => 31

structure Date.Exists (date : Date) : Prop where
  month_pos : 1 ≤ date.month
  month_le : date.month ≤ 12
  day_pos : 1 ≤ date.day
  day_le : date.day ≤ monthLength date.year date.month

def Date.startOfMonth (date : Date) : Date :=
  { date with day := 1 }

def Date.startOfNextMonth (date : Date) : Date :=
  if date.month = 12 then ⟨date.year + 1, 1, 1⟩ else ⟨date.year, date.month + 1, 1⟩

def Date.next (date : Date) : Date :=
  if date.day < monthLength date.year date.month then { date with day := date.day + 1 }
  else date.startOfNextMonth

/-- Day 0 is 1970-01-01, every day has a date, and the next day has the next date. -/
structure IsGregorian (calendar : Int → Date) : Prop where
  epoch : calendar 0 = ⟨1970, 1, 1⟩
  exist : ∀ day, (calendar day).Exists
  next : ∀ day, calendar (day + 1) = (calendar day).next

theorem isLeapYear_iff (year : Int) : isLeapYear year = true ↔ IsLeap year := by
  simp only [isLeapYear, IsLeap, Bool.or_eq_true, Bool.and_eq_true, decide_eq_true_eq]
  omega

theorem month_cases {month : Int} (low : 1 ≤ month) (high : month ≤ 12) :
    month = 1 ∨ month = 2 ∨ month = 3 ∨ month = 4 ∨ month = 5 ∨ month = 6 ∨ month = 7 ∨ month = 8 ∨
      month = 9 ∨ month = 10 ∨ month = 11 ∨ month = 12 := by
  omega

theorem daysInMonth_eq {year month : Int} (low : 1 ≤ month) (high : month ≤ 12) :
    daysInMonth year month = monthLength year month := by
  rcases month_cases low high with rfl | rfl | rfl | rfl | rfl | rfl | rfl | rfl | rfl | rfl | rfl | rfl
  case inr.inl => simp [daysInMonth, monthLength, ← isLeapYear_iff]
  all_goals rfl

/-! ## Years of a cycle -/

def yearOfCycle (n : Int) : Int :=
  (n - n / 1460 + n / 36524 - n / 146096) / 365

def cycleYearLength (y : Int) : Int :=
  if y % 4 = 3 ∧ (y % 100 = 99 → y = 399) then 366 else 365

theorem yearOfCycle_eq {c q r d : Int} (hc : 0 ≤ c ∧ c ≤ 3) (hq : 0 ≤ q ∧ q ≤ 24)
    (hr : 0 ≤ r ∧ r ≤ 3) (low : 0 ≤ d) (high : d < if r = 3 ∧ (q = 24 → c = 3) then 366 else 365) :
    yearOfCycle (36524 * c + 1461 * q + 365 * r + d) = 100 * c + 4 * q + r := by
  obtain ⟨n, hn⟩ : ∃ n, n = 36524 * c + 1461 * q + 365 * r + d := ⟨_, rfl⟩
  have short : d ≤ 365 := by split at high <;> omega
  have leap : d = 365 → r = 3 ∧ (q = 24 → c = 3) := by split at high <;> omega
  -- The divisors of the formula are one day short of the periods they stand for.
  have centuries : n / 36524 - n / 146096 = c := by
    by_cases last : n = 146096
    · omega
    · have whole : n / 146096 = 0 := by omega
      omega
  have carry : n / 1460 = 25 * c + q + (24 * c + q + 365 * r + d) / 1460 := by omega
  have carried : (24 * c + q + 365 * r + d) / 1460 = 0 ∨
      (24 * c + q + 365 * r + d) / 1460 = 1 ∧ r = 3 ∧ 1 ≤ d := by omega
  have days : n - n / 1460 + n / 36524 - n / 146096 =
      365 * (100 * c + 4 * q + r) + (d - (24 * c + q + 365 * r + d) / 1460) := by omega
  have within : 0 ≤ d - (24 * c + q + 365 * r + d) / 1460 ∧
      d - (24 * c + q + 365 * r + d) / 1460 < 365 := by omega
  rw [← hn, yearOfCycle, days]
  omega

theorem yearOfCycle_daysBeforeYear {y d : Int} (hy : 0 ≤ y ∧ y ≤ 399) (low : 0 ≤ d)
    (high : d < cycleYearLength y) : yearOfCycle (daysBeforeYear y + d) = y := by
  unfold cycleYearLength at high
  have parts := yearOfCycle_eq (c := y / 100) (q := y % 100 / 4) (r := y % 4) (d := d)
    (by omega) (by omega) (by omega) low (by split at high <;> split <;> omega)
  have days : daysBeforeYear y + d =
      36524 * (y / 100) + 1461 * (y % 100 / 4) + 365 * (y % 4) + d := by
    unfold daysBeforeYear
    omega
  rw [days, parts]
  omega

theorem exists_yearOfCycle {n : Int} (low : 0 ≤ n) (high : n < cycleDays) :
    ∃ y d, (0 ≤ y ∧ y ≤ 399) ∧ 0 ≤ d ∧ d < cycleYearLength y ∧ n = daysBeforeYear y + d := by
  unfold cycleDays at high
  obtain ⟨c, hc⟩ : ∃ c, c = min (n / 36524) 3 := ⟨_, rfl⟩
  obtain ⟨q, hq⟩ : ∃ q, q = (n - 36524 * c) / 1461 := ⟨_, rfl⟩
  obtain ⟨r, hr⟩ : ∃ r, r = min ((n - 36524 * c - 1461 * q) / 365) 3 := ⟨_, rfl⟩
  have ofCentury : 0 ≤ n - 36524 * c ∧ n - 36524 * c ≤ 36524 ∧
      (n - 36524 * c = 36524 → c = 3) := by omega
  have ofFour : 0 ≤ n - 36524 * c - 1461 * q ∧ n - 36524 * c - 1461 * q ≤ 1460 := by omega
  have ofYear : 0 ≤ r ∧ r ≤ 3 := by omega
  have few : 0 ≤ q ∧ q ≤ 24 := by omega
  refine ⟨100 * c + 4 * q + r, n - 36524 * c - 1461 * q - 365 * r, by omega, by omega, ?_, ?_⟩
  · unfold cycleYearLength
    split <;> omega
  · have fours : (100 * c + 4 * q + r) / 4 = 25 * c + q := by omega
    have centuries : (100 * c + 4 * q + r) / 100 = c := by omega
    rw [daysBeforeYear, fours, centuries]
    omega

/-! ## Places in the cycle -/

/-- A date in a year that starts in March, years and months counted from 0 and days too. -/
structure Place where
  cycle : Int
  year : Int
  month : Int
  day : Int
  year_range : 0 ≤ year ∧ year ≤ 399
  month_range : 0 ≤ month ∧ month ≤ 11
  day_nonneg : 0 ≤ day
  day_lt : day < daysBeforeMonth (month + 1) - daysBeforeMonth month
  fits : daysBeforeMonth month + day < cycleYearLength year

namespace Place

def toDay (p : Place) : Int :=
  p.cycle * cycleDays + daysBeforeYear p.year + daysBeforeMonth p.month + p.day - epochShift

def toDate (p : Place) : Date where
  year := p.cycle * 400 + p.year + if p.month < 10 then 0 else 1
  month := if p.month < 10 then p.month + 3 else p.month - 9
  day := p.day + 1

theorem dayOfDate_toDate (p : Place) : dayOfDate p.toDate = p.toDay := by
  have years := p.year_range
  have months := p.month_range
  unfold dayOfDate toDate toDay
  dsimp only
  by_cases spring : p.month < 10
  · have late : ¬ p.month + 3 ≤ 2 := by omega
    have month : (p.month + 3 + 9) % 12 = p.month := by omega
    have cycle : (p.cycle * 400 + p.year) / 400 = p.cycle := by omega
    have year : (p.cycle * 400 + p.year) % 400 = p.year := by omega
    simp only [spring, if_true, late, if_false, Int.add_zero, month, cycle, year]
    omega
  · have early : p.month - 9 ≤ 2 := by omega
    have month : (p.month - 9 + 9) % 12 = p.month := by omega
    have cycle : (p.cycle * 400 + p.year + 1 - 1) / 400 = p.cycle := by omega
    have year : (p.cycle * 400 + p.year + 1 - 1) % 400 = p.year := by omega
    simp only [spring, if_false, early, if_true, month, cycle, year]
    omega

theorem monthLength_toDate (p : Place) : p.day < monthLength p.toDate.year p.toDate.month := by
  have years := p.year_range
  have months := p.month_range
  have short := p.day_lt
  have fits := p.fits
  unfold daysBeforeMonth at short fits
  by_cases february : p.month = 11
  · -- February takes what is left of the year.
    unfold cycleYearLength at fits
    simp only [toDate, february, monthLength, IsLeap, Int.reduceLT, Int.reduceSub, if_false]
    split <;> split at fits <;> omega
  · have named : p.month = 0 ∨ p.month = 1 ∨ p.month = 2 ∨ p.month = 3 ∨ p.month = 4 ∨
        p.month = 5 ∨ p.month = 6 ∨ p.month = 7 ∨ p.month = 8 ∨ p.month = 9 ∨ p.month = 10 := by
      omega
    rcases named with h | h | h | h | h | h | h | h | h | h | h
    all_goals
      simp only [toDate, h, monthLength, Int.reduceLT, Int.reduceAdd, Int.reduceSub, if_true,
        if_false]
      omega

theorem exists_toDate (p : Place) : p.toDate.Exists := by
  have months := p.month_range
  have days := p.day_nonneg
  have short := p.monthLength_toDate
  constructor
  · simp only [toDate]
    split <;> omega
  · simp only [toDate]
    split <;> omega
  · simp only [toDate]
    omega
  · simp only [toDate] at short ⊢
    omega

theorem dateOfDay_toDay (p : Place) : dateOfDay p.toDay = p.toDate := by
  have years := p.year_range
  have months := p.month_range
  have days := p.day_nonneg
  have short := p.day_lt
  have start : 0 ≤ daysBeforeMonth p.month := by
    unfold daysBeforeMonth
    omega
  have before : 0 ≤ daysBeforeYear p.year ∧
      daysBeforeYear p.year + daysBeforeMonth p.month + p.day < cycleDays := by
    have fits := p.fits
    unfold daysBeforeYear cycleDays
    unfold cycleYearLength at fits
    split at fits <;> omega
  have shifted : p.toDay + epochShift =
      p.cycle * cycleDays + (daysBeforeYear p.year + daysBeforeMonth p.month + p.day) := by
    unfold toDay
    omega
  have cycle : (p.toDay + epochShift) / cycleDays = p.cycle := by
    rw [shifted]
    unfold cycleDays at before ⊢
    omega
  have ofCycle : (p.toDay + epochShift) % cycleDays =
      daysBeforeYear p.year + (daysBeforeMonth p.month + p.day) := by
    rw [shifted]
    unfold cycleDays at before ⊢
    omega
  have year := yearOfCycle_daysBeforeYear years (Int.add_nonneg start days) p.fits
  rw [yearOfCycle] at year
  have month : (5 * (daysBeforeMonth p.month + p.day) + 2) / 153 = p.month := by
    unfold daysBeforeMonth at short ⊢
    omega
  have ofYear : daysBeforeYear p.year + (daysBeforeMonth p.month + p.day) -
      daysBeforeYear p.year = daysBeforeMonth p.month + p.day := by omega
  unfold dateOfDay toDate
  simp only [cycle, ofCycle, year, ofYear, month]
  congr 1
  · split <;> split <;> omega
  · omega

end Place

theorem exists_month {n : Int} (low : 0 ≤ n) (high : n < 366) :
    ∃ m, (0 ≤ m ∧ m ≤ 11) ∧ daysBeforeMonth m ≤ n ∧ n < daysBeforeMonth (m + 1) := by
  refine ⟨(5 * n + 2) / 153, by omega, ?_, ?_⟩
  all_goals
    unfold daysBeforeMonth
    omega

theorem exists_toDay (day : Int) : ∃ p : Place, p.toDay = day := by
  have split := Int.mul_ediv_add_emod (day + epochShift) cycleDays
  have low := Int.emod_nonneg (day + epochShift) (show cycleDays ≠ 0 by decide)
  have high := Int.emod_lt_of_pos (day + epochShift) (show 0 < cycleDays by decide)
  obtain ⟨y, d, hy, hd, fits, ofCycle⟩ := exists_yearOfCycle low high
  have short : d < 366 := by
    unfold cycleYearLength at fits
    split at fits <;> omega
  obtain ⟨m, hm, start, stop⟩ := exists_month hd short
  refine ⟨⟨(day + epochShift) / cycleDays, y, m, d - daysBeforeMonth m, hy, hm, by omega, by omega,
    by omega⟩, ?_⟩
  unfold Place.toDay
  dsimp only
  have comm := Int.mul_comm cycleDays ((day + epochShift) / cycleDays)
  omega

theorem exists_toDate_eq {date : Date} (exist : date.Exists) : ∃ p : Place, p.toDate = date := by
  obtain ⟨year, month, day⟩ := date
  obtain ⟨low, high, first, last⟩ := exist
  dsimp only at low high first last
  have february : month = 2 → day ≤ 28 ∨ IsLeap year ∧ day ≤ 29 := by
    rintro rfl
    simp only [monthLength] at last
    split at last
    · exact .inr ⟨‹_›, last⟩
    · exact .inl last
  have shorter : month = 4 ∨ month = 6 ∨ month = 9 ∨ month = 11 → day ≤ 30 := by
    rintro (rfl | rfl | rfl | rfl) <;> exact last
  have longest : day ≤ 31 := by
    unfold monthLength at last
    split at last <;> [split at last; skip; skip; skip; skip; skip] <;> omega
  obtain ⟨y, hy⟩ : ∃ y, y = if month ≤ 2 then year - 1 else year := ⟨_, rfl⟩
  refine ⟨⟨y / 400, y % 400, (month + 9) % 12, day - 1, by omega, by omega, by omega, ?_, ?_⟩, ?_⟩
  · unfold daysBeforeMonth
    rcases month_cases low high with
      rfl | rfl | rfl | rfl | rfl | rfl | rfl | rfl | rfl | rfl | rfl | rfl <;> omega
  · unfold daysBeforeMonth cycleYearLength
    by_cases leap : month = 2 ∧ day = 29
    · have ofFebruary := february leap.1
      unfold IsLeap at ofFebruary
      rw [if_pos (by omega)]
      omega
    · split <;> omega
  · simp only [Place.toDate, Date.mk.injEq]
    refine ⟨?_, ?_, by omega⟩
    · split <;> omega
    · split <;> omega

/-! ## The conversions -/

theorem exists_dateOfDay (day : Int) : (dateOfDay day).Exists := by
  obtain ⟨p, rfl⟩ := exists_toDay day
  rw [p.dateOfDay_toDay]
  exact p.exists_toDate

theorem dayOfDate_dateOfDay (day : Int) : dayOfDate (dateOfDay day) = day := by
  obtain ⟨p, rfl⟩ := exists_toDay day
  rw [p.dateOfDay_toDay, p.dayOfDate_toDate]

theorem dateOfDay_dayOfDate {date : Date} (exist : date.Exists) :
    dateOfDay (dayOfDate date) = date := by
  obtain ⟨p, rfl⟩ := exists_toDate_eq exist
  rw [p.dayOfDate_toDate, p.dateOfDay_toDay]

theorem dayOfDate_add (year month day more : Int) :
    dayOfDate ⟨year, month, day + more⟩ = dayOfDate ⟨year, month, day⟩ + more := by
  unfold dayOfDate
  dsimp only
  omega

theorem dayOfDate_startOfNextMonth {date : Date} (exist : date.Exists) :
    dayOfDate date.startOfNextMonth =
      dayOfDate date.startOfMonth + monthLength date.year date.month := by
  obtain ⟨year, month, day⟩ := date
  obtain ⟨low, high, -, -⟩ := exist
  dsimp only at low high
  rcases month_cases low high with rfl | rfl | rfl | rfl | rfl | rfl | rfl | rfl | rfl | rfl | rfl | rfl
  case inr.inl =>
    by_cases leap : IsLeap year
    all_goals
      simp only [Date.startOfNextMonth, Date.startOfMonth, dayOfDate, monthLength, leap,
        daysBeforeYear, daysBeforeMonth, cycleDays, ↓reduceIte, Int.reduceEq, Int.reduceLE]
      unfold IsLeap at leap
      omega
  all_goals
    simp only [Date.startOfNextMonth, Date.startOfMonth, dayOfDate, monthLength, daysBeforeMonth,
      ↓reduceIte, Int.reduceEq, Int.reduceLE, Int.reduceAdd, Int.add_sub_cancel]
    omega

theorem dayOfDate_startOfMonth (date : Date) :
    dayOfDate date.startOfMonth = dayOfDate date - (date.day - 1) := by
  obtain ⟨year, month, day⟩ := date
  have whole := dayOfDate_add year month 1 (day - 1)
  have same : (1 : Int) + (day - 1) = day := by omega
  rw [same] at whole
  dsimp only [Date.startOfMonth]
  omega

theorem dayOfDate_next {date : Date} (exist : date.Exists) :
    dayOfDate date.next = dayOfDate date + 1 := by
  unfold Date.next
  split
  · exact dayOfDate_add date.year date.month date.day 1
  · have last := exist.day_le
    rw [dayOfDate_startOfNextMonth exist, dayOfDate_startOfMonth]
    omega

theorem one_le_monthLength (year month : Int) : 1 ≤ monthLength year month := by
  unfold monthLength
  split <;> [split; skip; skip; skip; skip; skip] <;> omega

theorem exists_startOfMonth {date : Date} (exist : date.Exists) : date.startOfMonth.Exists :=
  ⟨exist.month_pos, exist.month_le, Int.le_refl 1, one_le_monthLength _ _⟩

theorem exists_startOfNextMonth {date : Date} (exist : date.Exists) :
    date.startOfNextMonth.Exists := by
  have low := exist.month_pos
  have high := exist.month_le
  unfold Date.startOfNextMonth
  split
  · exact ⟨Int.le_refl 1, by simp, Int.le_refl 1, one_le_monthLength _ _⟩
  · exact ⟨by dsimp only; omega, by dsimp only; omega, Int.le_refl 1, one_le_monthLength _ _⟩

theorem exists_next {date : Date} (exist : date.Exists) : date.next.Exists := by
  unfold Date.next
  split
  · rename_i room
    have first := exist.day_pos
    exact ⟨exist.month_pos, exist.month_le, by dsimp only; omega, by dsimp only; omega⟩
  · exact exists_startOfNextMonth exist

theorem isGregorian_dateOfDay : IsGregorian dateOfDay where
  epoch := by decide
  exist := exists_dateOfDay
  next day := by
    have exist := exists_dateOfDay day
    rw [← dateOfDay_dayOfDate (exists_next exist), dayOfDate_next exist, dayOfDate_dateOfDay]

theorem eq_dateOfDay_of_isGregorian {calendar : Int → Date} (gregorian : IsGregorian calendar) :
    calendar = dateOfDay := by
  have numbered (day : Int) : dayOfDate (calendar day) = day := by
    induction day using Int.induction_on with
    | zero =>
        rw [gregorian.epoch]
        decide
    | succ day ih => rw [gregorian.next, dayOfDate_next (gregorian.exist _), ih]
    | pred day ih =>
        have next := dayOfDate_next (gregorian.exist (-day - 1))
        rw [← gregorian.next, Int.sub_add_cancel, ih] at next
        omega
  funext day
  rw [← dateOfDay_dayOfDate (gregorian.exist day), numbered]

theorem isGregorian_iff {calendar : Int → Date} : IsGregorian calendar ↔ calendar = dateOfDay := by
  constructor
  · exact eq_dateOfDay_of_isGregorian
  · rintro rfl
    exact isGregorian_dateOfDay

end CandleFeed.Calendar
