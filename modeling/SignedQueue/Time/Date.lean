/-!
**Dates.** A moment is told by the seconds since the beginning of 1970 and the nanoseconds of the
last one. Its date is that of universal time and the Gregorian calendar.

* `Date.ofSeconds`: the date and time of day of a moment;
* `Date.http`: the form of the `Date` header, `Fri, 01 Jan 2021 00:00:00 GMT`;
* `Date.iso`: the form in logs, `2021-01-01T00:00:00Z` or `2021-01-01T00:00:00.250Z`.
-/

namespace SignedQueue

/-- A day of the calendar and a time of day. -/
structure Date where
  /-- The year; 0 is the year before 1. -/
  year : Int
  month : Nat
  day : Nat
  /-- The day of the week, 0 is Sunday. -/
  weekday : Nat
  hour : Nat
  minute : Nat
  /-- The second, 60 in a leap second. -/
  second : Nat
  nanosecond : Nat
  deriving Repr, DecidableEq

namespace Date

/-- The year, month and day that lie `days` days after the first of January 1970. Years are counted
from March on, so that a leap day is the last day of its year, in cycles of 400 years. -/
def civil (days : Int) : Int × Nat × Nat :=
  let shifted := days + 719468
  let cycle := shifted.fdiv 146097
  let dayOfCycle := (shifted.fmod 146097).toNat
  let yearOfCycle :=
    (dayOfCycle - dayOfCycle / 1460 + dayOfCycle / 36524 - dayOfCycle / 146096) / 365
  let dayOfYear := dayOfCycle - (365 * yearOfCycle + yearOfCycle / 4 - yearOfCycle / 100)
  let monthFromMarch := (5 * dayOfYear + 2) / 153
  let day := dayOfYear - (153 * monthFromMarch + 2) / 5 + 1
  let month := if monthFromMarch < 10 then monthFromMarch + 3 else monthFromMarch - 9
  let year := Int.ofNat yearOfCycle + cycle * 400
  (if month ≤ 2 then year + 1 else year, month, day)

/-- The date of a moment. A thousand million nanoseconds or more stand for the second that is
inserted after it. -/
def ofSeconds (seconds : Int) (nanoseconds : Nat) : Date :=
  let days := seconds.fdiv 86400
  let time := (seconds.fmod 86400).toNat
  let (year, month, day) := civil days
  { year, month, day
    weekday := ((days + 4).fmod 7).toNat
    hour := time / 3600
    minute := time / 60 % 60
    second := time % 60 + nanoseconds / 1000000000
    nanosecond := nanoseconds % 1000000000 }

/-- A number with at least `width` figures. -/
def figures (width number : Nat) : String :=
  let digits := toString number
  String.ofList (List.replicate (width - digits.length) '0') ++ digits

/-- A year has at least four figures, and a sign where it is not one of the years 0 to 9999. -/
def yearText (year : Int) : String :=
  if year < 0 then "-" ++ figures 4 year.natAbs
  else if 9999 < year then "+" ++ figures 4 year.natAbs
  else figures 4 year.natAbs

/-- The short name of a weekday. -/
def weekdayName (weekday : Nat) : String :=
  ["Sun", "Mon", "Tue", "Wed", "Thu", "Fri", "Sat"].getD weekday ""

/-- The short name of a month. -/
def monthName (month : Nat) : String :=
  ["Jan", "Feb", "Mar", "Apr", "May", "Jun", "Jul", "Aug", "Sep", "Oct", "Nov", "Dec"].getD
    (month - 1) ""

/-- The time of day, `hh:mm:ss`. -/
def clock (date : Date) : String :=
  figures 2 date.hour ++ ":" ++ figures 2 date.minute ++ ":" ++ figures 2 date.second

/-- The form of the `Date` header. -/
def http (date : Date) : String :=
  weekdayName date.weekday ++ ", " ++ figures 2 date.day ++ " " ++ monthName date.month ++ " " ++
    yearText date.year ++ " " ++ date.clock ++ " GMT"

/-- The part of the second that has passed: nothing, or milliseconds, microseconds or nanoseconds,
the first of them that tells it in full. -/
def fraction (date : Date) : String :=
  if date.nanosecond = 0 then ""
  else if date.nanosecond % 1000000 = 0 then "." ++ figures 3 (date.nanosecond / 1000000)
  else if date.nanosecond % 1000 = 0 then "." ++ figures 6 (date.nanosecond / 1000)
  else "." ++ figures 9 date.nanosecond

/-- The form in logs. -/
def iso (date : Date) : String :=
  yearText date.year ++ "-" ++ figures 2 date.month ++ "-" ++ figures 2 date.day ++ "T" ++
    date.clock ++ date.fraction ++ "Z"

end Date

end SignedQueue
