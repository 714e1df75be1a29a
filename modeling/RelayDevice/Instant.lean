import RelayDevice.Text.Quoted

/-!
# Instants and their written form

An `Instant` counts seconds from the beginning of 1970 and nanoseconds within the second. It is
written as a date and a time of day in coordinated universal time by `Instant.text`.

* `Instant.civil` — year, month and day of a day count;
* `Instant.fraction` — three, six or nine digits, whichever are the fewest that lose nothing;
* `Instant.yearText` — four digits, or a sign and at least four digits outside 0 to 9999.
-/

namespace RelayDevice

/-- A point in time. -/
structure Instant where
  /-- Whole seconds since the beginning of 1970, downwards before it. -/
  seconds : Int
  /-- Nanoseconds within the second; from a thousand million on they are those of a leap second
  that follows it. -/
  nanos : Nat
deriving DecidableEq, Repr

namespace Instant

/-- A day of the calendar. -/
structure Civil where
  year : Int
  month : Nat
  day : Nat
deriving DecidableEq, Repr

/-- The calendar day that lies `days` after the first of January 1970. Years are counted from
March, so that the day that comes and goes is their last, and periods of four hundred years, which
all have 146097 days, are split off first. -/
def civil (days : Int) : Civil :=
  let fromMarch := days + 719468
  let period := fromMarch / 146097
  let dayOfPeriod := (fromMarch - period * 146097).toNat
  let yearOfPeriod :=
    (dayOfPeriod - dayOfPeriod / 1460 + dayOfPeriod / 36524 - dayOfPeriod / 146096) / 365
  let dayOfYear := dayOfPeriod - (365 * yearOfPeriod + yearOfPeriod / 4 - yearOfPeriod / 100)
  let monthFromMarch := (5 * dayOfYear + 2) / 153
  let month := if monthFromMarch < 10 then monthFromMarch + 3 else monthFromMarch - 9
  { year := period * 400 + yearOfPeriod + if month ≤ 2 then 1 else 0
    month
    day := dayOfYear - (153 * monthFromMarch + 2) / 5 + 1 }

/-- A year in four digits, with a sign outside 0 to 9999. -/
def yearText (year : Int) : String :=
  if year < 0 then "-" ++ Column.zeros 4 year.natAbs
  else if year ≤ 9999 then Column.zeros 4 year.toNat
  else "+" ++ Column.zeros 4 year.toNat

/-- The fraction of a second behind its point, or nothing for a whole second. -/
def fraction (nanos : Nat) : String :=
  if nanos = 0 then ""
  else if nanos % 1000000 = 0 then "." ++ Column.zeros 3 (nanos / 1000000)
  else if nanos % 1000 = 0 then "." ++ Column.zeros 6 (nanos / 1000)
  else "." ++ Column.zeros 9 nanos

/-- Date, time of day and the offset zero. -/
def text (t : Instant) : String :=
  let days := t.seconds / 86400
  let ofDay := (t.seconds % 86400).toNat
  let date := civil days
  let second := ofDay % 60 + t.nanos / 1000000000
  yearText date.year ++ "-" ++ Column.zeros 2 date.month ++ "-" ++ Column.zeros 2 date.day
    ++ "T" ++ Column.zeros 2 (ofDay / 3600) ++ ":" ++ Column.zeros 2 (ofDay / 60 % 60)
    ++ ":" ++ Column.zeros 2 second ++ fraction (t.nanos % 1000000000) ++ "+00:00"

/-- The instant rounded down to a whole second, which is all that travels. -/
def wholeSecond (t : Instant) : Instant := { t with nanos := 0 }

end Instant

end RelayDevice
