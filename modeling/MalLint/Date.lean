/-! Calendar dates: days of the Gregorian calendar, with their weeks and names. -/
namespace MalLint

/-- A day of the Gregorian calendar. Months and days count from 1. -/
structure Date where
  year : Nat
  month : Nat
  day : Nat
  deriving DecidableEq, Repr

namespace Date

/-- Whether a year has 366 days. -/
def isLeap (year : Nat) : Bool :=
  year % 4 = 0 && (year % 100 ≠ 0 || year % 400 = 0)

/-- The days of each month. -/
def monthLengths (year : Nat) : List Nat :=
  [31, if isLeap year then 29 else 28, 31, 30, 31, 30, 31, 31, 30, 31, 30, 31]

/-- The day within the year, counted from 1. -/
def dayOfYear (d : Date) : Nat :=
  ((monthLengths d.year).take (d.month - 1)).foldl (· + ·) d.day

/-- The number of the day, counted from 1 for the first day of the year 1. -/
def ordinal (d : Date) : Nat :=
  let years := d.year - 1
  years * 365 + years / 4 - years / 100 + years / 400 + d.dayOfYear

/-- The day within the week, counted from 0 for Monday. The first day of the year 1 was a Monday. -/
def weekday (d : Date) : Nat :=
  (d.ordinal + 6) % 7

/-- The day within the week, counted from 0 for Sunday. -/
def weekdayFromSunday (d : Date) : Nat :=
  d.ordinal % 7

/-- The week within the year, where weeks start on Monday and the days before the first Monday are
in week 0. -/
def mondayWeek (d : Date) : Nat :=
  (d.dayOfYear + 6 - d.weekday) / 7

/-- The week within the year, where weeks start on Sunday and the days before the first Sunday are
in week 0. -/
def sundayWeek (d : Date) : Nat :=
  (d.dayOfYear + 6 - d.weekdayFromSunday) / 7

/-- How many weeks a year has if a week belongs to the year that its Thursday lies in: 53 if the
year starts on a Thursday or, being a leap year, on a Wednesday. -/
def thursdays (year : Nat) : Nat :=
  let first := weekday ⟨year, 1, 1⟩
  if first = 3 ∨ (first = 2 ∧ isLeap year) then 53 else 52

/-- The year that the week of the day belongs to, and the week within that year. Weeks start on
Monday and belong to the year that their Thursday lies in. -/
def yearAndWeek (d : Date) : Nat × Nat :=
  let week := (d.dayOfYear + 9 - d.weekday) / 7
  if week = 0 then (d.year - 1, thursdays (d.year - 1))
  else if week > thursdays d.year then (d.year + 1, 1)
  else (d.year, week)

/-- The seconds from the start of 1970 to midnight of the day. -/
def seconds (d : Date) : Int :=
  ((d.ordinal : Int) - 719163) * 86400

/-- The names of the months. -/
def monthNames : List String :=
  ["January", "February", "March", "April", "May", "June", "July", "August", "September",
   "October", "November", "December"]

/-- The names of the days, from Monday on. -/
def weekdayNames : List String :=
  ["Monday", "Tuesday", "Wednesday", "Thursday", "Friday", "Saturday", "Sunday"]

/-- The name of the month. -/
def monthName (d : Date) : List Char :=
  (monthNames.getD (d.month - 1) "").toList

/-- The name of the day. -/
def weekdayName (d : Date) : List Char :=
  (weekdayNames.getD d.weekday "").toList

end Date

end MalLint
