/-!
# Moments

A moment is a number of seconds since the start of 1970 and a fraction of a
second.  It is written by the calendar and clock of UTC.
-/

namespace TreeSieve

/-- A point in time. -/
structure Moment where
  seconds : Int
  nanoseconds : Nat := 0
  deriving DecidableEq, Inhabited

/-- A day of the calendar. -/
structure CalendarDay where
  year : Int
  month : Nat
  day : Nat

namespace CalendarDay

/-- The day that lies `days` after the first one of 1970.  The count goes by
eras of four centuries that begin in March, so that a leap day is the last of
its year. -/
def ofDays (days : Int) : CalendarDay :=
  let shifted := days + 719468
  let era := shifted.fdiv 146097
  let dayOfEra := (shifted - era * 146097).toNat
  let yearOfEra :=
    (dayOfEra - dayOfEra / 1460 + dayOfEra / 36524 - dayOfEra / 146096) / 365
  let dayOfYear := dayOfEra - (365 * yearOfEra + yearOfEra / 4 - yearOfEra / 100)
  let monthFromMarch := (5 * dayOfYear + 2) / 153
  let month := if monthFromMarch < 10 then monthFromMarch + 3 else monthFromMarch - 9
  { year := era * 400 + yearOfEra + (if month ≤ 2 then 1 else 0)
    month
    day := dayOfYear - (153 * monthFromMarch + 2) / 5 + 1 }

end CalendarDay

/-- A number with zeros in front up to a width. -/
def padded (width value : Nat) : String :=
  let digits := toString value
  String.ofList (List.replicate (width - digits.length) '0') ++ digits

namespace Moment

/-- The day of a moment. -/
def date (moment : Moment) : String :=
  let day := CalendarDay.ofDays (moment.seconds.fdiv 86400)
  let sign := if day.year < 0 then "-" else if 9999 < day.year then "+" else ""
  sign ++ padded 4 day.year.natAbs ++ "-" ++ padded 2 day.month ++ "-" ++ padded 2 day.day

/-- The time of day of a moment, in whole seconds. -/
def time (moment : Moment) : String :=
  let second := (moment.seconds.fmod 86400).toNat
  padded 2 (second / 3600) ++ ":" ++ padded 2 (second / 60 % 60) ++ ":" ++ padded 2 (second % 60)

/-- The fraction of a second with three, six or nine digits, whatever it needs. -/
def fraction (moment : Moment) : String :=
  let nanoseconds := moment.nanoseconds
  if nanoseconds = 0 then ""
  else if nanoseconds % 1000000 = 0 then "." ++ padded 3 (nanoseconds / 1000000)
  else if nanoseconds % 1000 = 0 then "." ++ padded 6 (nanoseconds / 1000)
  else "." ++ padded 9 nanoseconds

/-- Date, time and distance from UTC. -/
def stamp (moment : Moment) : String :=
  moment.date ++ "T" ++ moment.time ++ moment.fraction ++ "+00:00"

/-- The milliseconds from one moment to a later one; zero if it is not later. -/
def millisecondsTo (first second : Moment) : Nat :=
  let nanoseconds := fun moment : Moment => moment.seconds * 1000000000 + moment.nanoseconds
  ((nanoseconds second - nanoseconds first).toNat) / 1000000

end Moment

/-- When a run began and ended, as reports put it. -/
structure RunTimes where
  started : String
  completed : String
  /-- Beginning and end in one line. -/
  line : String

/-- The texts for a run between two moments. -/
def RunTimes.between (started completed : Moment) : RunTimes where
  started := started.stamp
  completed := completed.stamp
  line :=
    started.date ++ " " ++ started.time ++ " UTC - " ++ completed.time ++ " UTC"

end TreeSieve
