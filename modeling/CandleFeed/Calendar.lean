

namespace CandleFeed.Calendar

structure Date where
  year : Int
  month : Int
  day : Int
deriving DecidableEq, Repr

def isLeapYear (year : Int) : Bool :=
  year % 4 = 0 && year % 100 ≠ 0 || year % 400 = 0

def daysInMonth (year month : Int) : Int :=
  if month = 4 ∨ month = 6 ∨ month = 9 ∨ month = 11 then 30
  else if month = 2 then if isLeapYear year then 29 else 28
  else 31

def Date.isValid (date : Date) : Bool :=
  1 ≤ date.month && date.month ≤ 12 && 1 ≤ date.day
    && date.day ≤ daysInMonth date.year date.month

def cycleDays : Int := 146097

def epochShift : Int := 719468

/-- The days before month `m` of a year that starts in March, `m` counted from 0. -/
def daysBeforeMonth (m : Int) : Int :=
  (153 * m + 2) / 5

def daysBeforeYear (y : Int) : Int :=
  365 * y + y / 4 - y / 100

def dayOfDate (date : Date) : Int :=
  let year := if date.month ≤ 2 then date.year - 1 else date.year
  let month := (date.month + 9) % 12
  year / 400 * cycleDays + daysBeforeYear (year % 400) + daysBeforeMonth month + (date.day - 1)
    - epochShift

def dateOfDay (day : Int) : Date :=
  let shifted := day + epochShift
  let ofCycle := shifted % cycleDays
  let year := (ofCycle - ofCycle / 1460 + ofCycle / 36524 - ofCycle / 146096) / 365
  let ofYear := ofCycle - daysBeforeYear year
  let month := (5 * ofYear + 2) / 153
  let civilMonth := if month < 10 then month + 3 else month - 9
  { year := shifted / cycleDays * 400 + year + if civilMonth ≤ 2 then 1 else 0
    month := civilMonth
    day := ofYear - daysBeforeMonth month + 1 }

/-- Days since Monday, from 0 to 6. -/
def weekday (day : Int) : Int :=
  (day + 3) % 7

example : dayOfDate ⟨1970, 1, 1⟩ = 0 ∧ weekday 0 = 3 := by decide
example : dateOfDay (-1) = ⟨1969, 12, 31⟩ := by decide
example : dateOfDay (dayOfDate ⟨2024, 2, 29⟩) = ⟨2024, 2, 29⟩ := by decide
example : dateOfDay (dayOfDate ⟨-1, 3, 1⟩ - 1) = ⟨-1, 2, 28⟩ := by decide

end CandleFeed.Calendar
