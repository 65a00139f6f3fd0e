import Scaffold.Calendar
/-!
# Run timestamps

The stamp of an instant of universal time is fourteen digits, year first, so that stamps of the
years 0 to 9999 sort as the instants do. A later year is written with a plus sign, a negative one
with a minus sign. The resolution is a second: all instants of one second have one stamp.
-/

namespace Scaffold

def firstSecond : Int :=
  (Calendar.Date.toDays ⟨-262143, 1, 1⟩) * 86400

def lastSecond : Int :=
  (Calendar.Date.toDays ⟨262142, 12, 31⟩) * 86400 + 86399

/-- An instant of universal time, counted in nanoseconds from the beginning of 1970, in the years
that have a stamp. -/
structure Instant where
  nanoseconds : Int
  inRange : firstSecond ≤ nanoseconds / 1000000000 ∧ nanoseconds / 1000000000 ≤ lastSecond
  deriving DecidableEq, Repr

def Instant.seconds (t : Instant) : Int :=
  t.nanoseconds / 1000000000

def Instant.ofSeconds? (seconds : Int) : Option Instant :=
  if h : firstSecond ≤ seconds * 1000000000 / 1000000000 ∧
      seconds * 1000000000 / 1000000000 ≤ lastSecond then
    some ⟨seconds * 1000000000, h⟩
  else none

/-- A number in decimal digits with at least the given number of places. -/
def padded (places n : Nat) : List Char :=
  let digits := Nat.toDigits 10 n
  List.replicate (places - digits.length) '0' ++ digits

def yearDigits (year : Int) : List Char :=
  if year < 0 then '-' :: padded 4 year.natAbs
  else if year ≤ 9999 then padded 4 year.toNat
  else '+' :: padded 4 year.toNat

/-- The text that marks all files of one run. -/
structure Stamp where
  text : String
  deriving DecidableEq, Repr

/-- The characters of an instant's stamp: year, month, day, hour, minute and second. -/
def Instant.digits (t : Instant) : List Char :=
  let date := Calendar.Date.ofDays (t.seconds / 86400)
  let second := (t.seconds % 86400).toNat
  yearDigits date.year ++ padded 2 date.month ++ padded 2 date.day ++ padded 2 (second / 3600) ++
    padded 2 (second / 60 % 60) ++ padded 2 (second % 60)

def Instant.stamp (t : Instant) : Stamp :=
  ⟨String.ofList t.digits⟩

end Scaffold
