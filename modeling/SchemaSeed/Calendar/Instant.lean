import SchemaSeed.Calendar.Date
import SchemaSeed.Calendar.Time

/-!
Instants: seconds from the start of 1970 in universal time, and nanoseconds in the second.
-/

set_option autoImplicit false
set_option relaxedAutoImplicit false

namespace SchemaSeed.Calendar

/-- A point in universal time. -/
structure Instant where
  seconds : Int
  nanoseconds : Nat
  deriving DecidableEq, Repr, Inhabited

namespace Instant

/-- The day of an instant. -/
def date (i : Instant) : Date := Date.ofDays (i.seconds.fdiv 86400)

/-- The time of day of an instant. -/
def time (i : Instant) : Time :=
  let s := (i.seconds.fmod 86400).toNat
  ⟨s / 3600, s / 60 % 60, s % 60, i.nanoseconds⟩

/-- The instant of a time on a day. -/
def ofParts (d : Date) (t : Time) : Instant :=
  ⟨d.toDays * 86400 + (t.hour * 3600 + t.minute * 60 + t.second : Nat), t.nanosecond⟩

/-- The instant so many seconds later, or earlier for a negative number. -/
def addSeconds (i : Instant) (n : Int) : Instant := { i with seconds := i.seconds + n }

/-- Date and time joined by a `T`, with the offset of universal time. -/
def print (i : Instant) : String := i.date.print ++ "T" ++ i.time.print ++ "+00:00"

/-- Date and time joined by a blank, to the microsecond. -/
def printPlain (i : Instant) : String := i.date.print ++ " " ++ i.time.toMicroseconds.print

/-- Fourteen digits from the year to the second. -/
def printStamp (i : Instant) : String :=
  let d := i.date
  let t := i.time
  Date.printYear d.year ++ Number.padded 2 d.month ++ Number.padded 2 d.day ++
    Number.padded 2 t.hour ++ Number.padded 2 t.minute ++ Number.padded 2 t.second

/-- A date and a time of the calendar, joined by a blank. -/
def ofText? (s : String) : Option Instant :=
  match s.splitOn " " with
  | [d, t] => do return ofParts (← Date.ofText? d) (← Time.ofText? t)
  | _ => none

end Instant

end SchemaSeed.Calendar
