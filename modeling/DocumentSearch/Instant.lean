/-!
Points in time and their ISO 8601 text in UTC. Days are counted in the Gregorian calendar, carried
back before its introduction and forward without end.
-/

namespace DocumentSearch

/-- A point in time: seconds since the start of 1970, and nanoseconds. A leap second is the second
before it with a thousand million nanoseconds and more. -/
structure Instant where
  seconds : Int
  nanos : Nat
deriving DecidableEq

structure Day where
  year : Int
  month : Nat
  day : Nat
deriving DecidableEq

namespace Day

/-- The calendar day that lies this many days after the first day of 1970. Years are taken to start
in March, so that the leap day ends a year, and are grouped by 400, the period of the calendar. -/
def ofEpochDays (days : Int) : Day :=
  let shifted := days + 719468
  let era := shifted / 146097
  let dayOfEra := (shifted % 146097).toNat
  let yearOfEra := (dayOfEra - dayOfEra / 1460 + dayOfEra / 36524 - dayOfEra / 146096) / 365
  let dayOfYear := dayOfEra - (365 * yearOfEra + yearOfEra / 4 - yearOfEra / 100)
  let marchMonth := (5 * dayOfYear + 2) / 153
  let month := if marchMonth < 10 then marchMonth + 3 else marchMonth - 9
  { year := yearOfEra + era * 400 + if month ≤ 2 then 1 else 0
    month := month
    day := dayOfYear - (153 * marchMonth + 2) / 5 + 1 }

end Day

namespace Instant

/-- A number with zeros in front, up to a width. -/
def padded (width n : Nat) : String :=
  let digits := Nat.toDigits 10 n
  String.ofList (List.replicate (width - digits.length) '0' ++ digits)

/-- Four digits; a year outside of those has a sign in front and may have more digits. -/
def yearText (year : Int) : String :=
  if 0 ≤ year ∧ year ≤ 9999 then padded 4 year.toNat
  else (if year < 0 then "-" else "+") ++ padded 4 year.natAbs

/-- The text `YYYY-MM-DDTHH:MM:SS.mmmZ`, with the milliseconds cut off; a leap second reads 60. -/
def text (t : Instant) : String :=
  let day := Day.ofEpochDays (t.seconds / 86400)
  let second := (t.seconds % 86400).toNat
  yearText day.year ++ "-" ++ padded 2 day.month ++ "-" ++ padded 2 day.day
    ++ "T" ++ padded 2 (second / 3600) ++ ":" ++ padded 2 (second / 60 % 60)
    ++ ":" ++ padded 2 (second % 60 + t.nanos / 1000000000)
    ++ "." ++ padded 3 (t.nanos % 1000000000 / 1000000) ++ "Z"

end Instant

end DocumentSearch
