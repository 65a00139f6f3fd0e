/-!
# The calendar

The proleptic Gregorian calendar. Days are counted from 1 January 1970; the calendar repeats every
400 years, which are 146097 days. Within such an era years are counted from March, so that the
leap day is the last day of its year.
-/

namespace Scaffold.Calendar

structure Date where
  /-- The year; the year before 1 is 0. -/
  year : Int
  month : Nat
  day : Nat
  deriving DecidableEq, Repr

def daysPerEra : Nat := 146097

/-- Days from 1 March of the year 0 to 1 January 1970. -/
def epochShift : Nat := 719468

/-- The year of an era that a day of the era lies in, years beginning in March. -/
def yearOfEra (day : Nat) : Nat :=
  (day - day / 1460 + day / 36524 - day / 146096) / 365

def firstDayOfYear (year : Nat) : Nat :=
  365 * year + year / 4 - year / 100

/-- The month of a day of the year, counted from March as 0. -/
def monthFromMarch (dayOfYear : Nat) : Nat :=
  (5 * dayOfYear + 2) / 153

def firstDayOfMonth (month : Nat) : Nat :=
  (153 * month + 2) / 5

def Date.ofDays (days : Int) : Date :=
  let shifted := days + epochShift
  let era := shifted / (daysPerEra : Int)
  let dayOfEra := (shifted % (daysPerEra : Int)).toNat
  let year := yearOfEra dayOfEra
  let dayOfYear := dayOfEra - firstDayOfYear year
  let march := monthFromMarch dayOfYear
  let month := if march < 10 then march + 3 else march - 9
  { year := 400 * era + year + (if month ≤ 2 then 1 else 0)
    month := month
    day := dayOfYear - firstDayOfMonth march + 1 }

def Date.toDays (date : Date) : Int :=
  let year := if date.month ≤ 2 then date.year - 1 else date.year
  let era := year / 400
  let march := if date.month ≤ 2 then date.month + 9 else date.month - 3
  era * daysPerEra + firstDayOfYear (year % 400).toNat + firstDayOfMonth march + (date.day : Int) -
    1 - epochShift

end Scaffold.Calendar
