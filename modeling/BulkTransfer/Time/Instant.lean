import BulkTransfer.Time.Calendar
/-!
# Instants

A point in time as whole seconds since 1970 and nanoseconds. A second of nanoseconds beyond the
first marks a leap second, which only the last second of a minute may carry.
-/
namespace BulkTransfer

structure Instant where
  seconds : Int
  nanos : Nat
  deriving DecidableEq, Repr, Inhabited

/-- A time of day; a leap second has nanoseconds from a thousand million. -/
structure TimeOfDay where
  hour : Nat
  minute : Nat
  second : Nat
  nanos : Nat
  deriving DecidableEq, Repr, Inhabited

namespace TimeOfDay

def secondsFromMidnight (t : TimeOfDay) : Nat := t.hour * 3600 + t.minute * 60 + t.second

/-- The second as it is shown: 60 in a leap second. -/
def shownSecond (t : TimeOfDay) : Nat := t.second + t.nanos / 1000000000

def shownNanos (t : TimeOfDay) : Nat := t.nanos % 1000000000

/-- Whether it is afternoon, and the hour from 1 to 12. -/
def hour12 (t : TimeOfDay) : Bool × Nat :=
  let h := t.hour % 12
  (t.hour ≥ 12, if h = 0 then 12 else h)

end TimeOfDay

/-- A date and a time of day without an offset. -/
structure LocalTime where
  date : Date
  time : TimeOfDay
  deriving DecidableEq, Repr, Inhabited

/-- Seconds since 1970, as if the local time were UTC. -/
def LocalTime.seconds (l : LocalTime) : Int :=
  l.date.toDays * 86400 + l.time.secondsFromMidnight

namespace Instant

def secondOfDay (i : Instant) : Nat := (i.seconds % 86400).toNat

/-- The instant of stored parts: within the calendar, with leap nanoseconds only at the end of a
minute. -/
def ofParts? (seconds : Int) (nanos : Nat) : Option Instant :=
  let inDay := (seconds % 86400).toNat
  if (Date.ofDays? (Int.fdiv seconds 86400)).isSome && nanos < 2000000000 &&
      (nanos < 1000000000 || inDay % 60 == 59) then
    some ⟨seconds, nanos⟩
  else none

/-- The instant read on a clock that shows UTC. -/
def toLocal (i : Instant) : LocalTime :=
  let s := i.secondOfDay
  ⟨Date.ofDays (Int.fdiv i.seconds 86400), ⟨s / 3600, s / 60 % 60, s % 60, i.nanos⟩⟩

def ofLocal (l : LocalTime) : Instant := ⟨l.seconds, l.time.nanos⟩

/-- The instant of a local time at an offset of some seconds east of UTC. -/
def ofOffset? (l : LocalTime) (offset : Int) : Option Instant :=
  let seconds := l.seconds - offset
  if (Date.ofDays? (Int.fdiv seconds 86400)).isSome then some ⟨seconds, l.time.nanos⟩ else none

def padded (width n : Nat) : String :=
  let digits := toString n
  String.ofList (List.replicate (width - digits.length) '0') ++ digits

def yearText (year : Int) : String :=
  if 0 ≤ year ∧ year ≤ 9999 then padded 4 year.toNat
  else (if year < 0 then "-" else "+") ++ padded 4 year.natAbs

/-- A point and three, six or nine digits, or nothing for a whole second. -/
def fractionText (nanos : Nat) : String :=
  if nanos = 0 then ""
  else if nanos % 1000000 = 0 then "." ++ padded 3 (nanos / 1000000)
  else if nanos % 1000 = 0 then "." ++ padded 6 (nanos / 1000)
  else "." ++ padded 9 nanos

def dateText (d : Date) : String :=
  yearText d.year ++ "-" ++ padded 2 d.month ++ "-" ++ padded 2 d.day

def timeText (t : TimeOfDay) : String :=
  padded 2 t.hour ++ ":" ++ padded 2 t.minute ++ ":" ++ padded 2 t.shownSecond ++
    fractionText t.shownNanos

/-- The RFC 3339 text with the given word for UTC. -/
def rfc3339 (i : Instant) (zone : String) : String :=
  let l := i.toLocal
  dateText l.date ++ "T" ++ timeText l.time ++ zone

/-- The text of an instant as a cell. -/
def cellText (i : Instant) : String :=
  let l := i.toLocal
  dateText l.date ++ " " ++ timeText l.time ++ " UTC"

end Instant

end BulkTransfer
