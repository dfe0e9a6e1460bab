/-
# Calendar -- instants and their text

An instant is a count of seconds since 1970-01-01 00:00:00 UTC.  This module turns
one into a date of the proleptic Gregorian calendar and into the text under which
timestamps are stored and compared, `YYYY-MM-DD HH:MM:SS`.

The calendar repeats every 400 years, which are 146097 days.  Years are counted from
the first of March, so that a leap day is the last day of its year.
-/
import CatalogListing.Text.Number

namespace CatalogListing

set_option autoImplicit false

/-- Seconds since 1970-01-01 00:00:00 UTC. -/
abbrev Instant := Int

/-- A day of the proleptic Gregorian calendar. -/
structure Date where
  year : Int
  month : Nat
  day : Nat
  deriving DecidableEq, Repr

namespace Calendar

/-- The days from 0000-03-01 to 1970-01-01. -/
def epochShift : Int :=
  719468

/-- The days of a cycle of 400 years. -/
def cycleDays : Int :=
  146097

/-- The year of a cycle that holds the day, both counted from zero. -/
def yearOfCycle (day : Nat) : Nat :=
  (day - day / 1460 + day / 36524 - day / 146096) / 365

/-- The days of a cycle before one of its years. -/
def daysBeforeYear (year : Nat) : Nat :=
  365 * year + year / 4 - year / 100

/-- The days of a year before one of its months, the first of which is March. -/
def daysBeforeMonth (month : Nat) : Nat :=
  (153 * month + 2) / 5

/-- The date of a day counted from 1970-01-01. -/
def dateOfDay (day : Int) : Date :=
  let shifted := day + epochShift
  let cycle := shifted / cycleDays
  let dayOfCycle := (shifted % cycleDays).toNat
  let yearInCycle := yearOfCycle dayOfCycle
  let dayOfYear := dayOfCycle - daysBeforeYear yearInCycle
  let marchMonth := (5 * dayOfYear + 2) / 153
  let month := if marchMonth < 10 then marchMonth + 3 else marchMonth - 9
  let year := 400 * cycle + yearInCycle
  ⟨if month ≤ 2 then year + 1 else year, month, dayOfYear - daysBeforeMonth marchMonth + 1⟩

/-- The first instant of the earliest year that has a date, -262143. -/
def earliest : Instant :=
  -8334601228800

/-- The last instant of the latest year that has a date, 262142. -/
def latest : Instant :=
  8210266876799

/-- The instant lies in a year that has dates. -/
def inRange (instant : Instant) : Bool :=
  earliest ≤ instant && instant ≤ latest

/-- A year in four digits, and with a sign outside of 0 to 9999. -/
def yearText (year : Int) : Text :=
  let digits := Text.padLeft 4 (Text.ofNat year.natAbs)
  if year < 0 then '-' :: digits
  else if 9999 < year then '+' :: digits
  else digits

/-- A number below one hundred in two digits. -/
def twoDigits (n : Nat) : Text :=
  Text.padLeft 2 (Text.ofNat n)

/-- A date as `YYYY-MM-DD`. -/
def dateText (date : Date) : Text :=
  yearText date.year ++ '-' :: twoDigits date.month ++ '-' :: twoDigits date.day

/-- An instant as `YYYY-MM-DD HH:MM:SS`. -/
def timestamp (instant : Instant) : Text :=
  let second := (instant % 86400).toNat
  dateText (dateOfDay (instant / 86400)) ++ ' ' :: twoDigits (second / 3600) ++
    ':' :: twoDigits (second / 60 % 60) ++ ':' :: twoDigits (second % 60)

end Calendar

end CatalogListing
