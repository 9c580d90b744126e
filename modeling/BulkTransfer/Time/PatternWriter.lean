import BulkTransfer.Time.Instant
import BulkTransfer.Time.Pattern
/-!
# Instants written by a pattern

An instant is written in UTC. A pattern with a fault item, or with the free form of the offset,
writes nothing.
-/
namespace BulkTransfer

namespace Pattern

def fill (c : Char) (width : Nat) (text : String) : String :=
  String.ofList (List.replicate (width - text.length) c) ++ text

/-- A number in a width of `n`; with `signed` the sign is always shown and adds to the width. -/
def wide (n : Nat) (value : Int) (pad : Pad) (signed : Bool) : String :=
  let sign := if value < 0 then "-" else if signed then "+" else ""
  let digits := toString value.natAbs
  let width := if signed then n + 1 else n
  match pad with
  | .none => sign ++ digits
  | .zero => sign ++ fill '0' (width - sign.length) digits
  | .space => fill ' ' width (sign ++ digits)

/-- A number of one byte in two places. The tens place is a single character, also for numbers
from a hundred. -/
def two (value : Int) (pad : Pad) : String :=
  let byte := (value % 256).toNat
  let tens := match byte / 10, pad with
    | 0, .none => ""
    | 0, .space => " "
    | n, _ => String.singleton (Char.ofNat (48 + n))
  tens ++ toString (byte % 10)

def yearText (year : Int) (pad : Pad) : String :=
  if 1000 ≤ year ∧ year ≤ 9999 then toString year
  else wide 4 year pad (year < 0 || year ≥ 10000)

def numberText (part : NumberPart) (pad : Pad) (i : Instant) : String :=
  let date := i.toLocal.date
  let time := i.toLocal.time
  match part with
  | .year => yearText date.year pad
  | .century => two (Int.fdiv date.year 100) pad
  | .yearOfCentury => two (Int.fmod date.year 100) pad
  | .isoYear => yearText date.isoWeek.1 pad
  | .isoYearOfCentury => two (Int.fmod date.isoWeek.1 100) pad
  | .quarter => toString date.quarter
  | .month => two date.month pad
  | .day => two date.day pad
  | .weekFromSunday => two (date.weeksFrom .sun) pad
  | .weekFromMonday => two (date.weeksFrom .mon) pad
  | .isoWeek => two date.isoWeek.2 pad
  | .daysFromSunday => toString date.weekday.fromSunday
  | .weekdayFromMonday => toString (date.weekday.fromMonday + 1)
  | .ordinal => wide 3 date.ordinal pad false
  | .hour => two time.hour pad
  | .hour12 => two time.hour12.2 pad
  | .minute => two time.minute pad
  | .second => two time.shownSecond pad
  | .nanosecond => wide 9 time.shownNanos pad false
  | .timestamp => wide 9 i.seconds pad false

def monthName (date : Date) : String := monthNames.getD (date.month - 1) ""

def short (name : String) : String := (name.take 3).toString

def fractionOf (nanos digits : Nat) : String :=
  fill '0' digits (toString (nanos / Nat.pow 10 (9 - digits)))

def offsetText : OffsetStyle → String
  | .plain => "+0000"
  | .colon => "+00:00"
  | .doubleColon => "+00:00:00"
  | .hoursOnly => "+00"

def namedText? (part : NamedPart) (i : Instant) : Option String :=
  let date := i.toLocal.date
  let time := i.toLocal.time
  match part with
  | .shortMonth => some (short (monthName date))
  | .longMonth => some (monthName date)
  | .shortWeekday => some (short date.weekday.name)
  | .longWeekday => some date.weekday.name
  | .lowerAmPm => some (if time.hour12.1 then "pm" else "am")
  | .upperAmPm => some (if time.hour12.1 then "PM" else "AM")
  | .fraction => some (Instant.fractionText time.shownNanos)
  | .fixedFraction digits => some ("." ++ fractionOf time.shownNanos digits)
  | .bareFraction digits => some (fractionOf time.shownNanos digits)
  | .zoneName => some "UTC"
  | .offset style => some (offsetText style)
  | .freeOffset => none
  | .rfc3339 => some (i.rfc3339 "+00:00")

def itemText? (item : PatternItem) (i : Instant) : Option String :=
  match item with
  | .literal text | .blank text => some text
  | .number part pad => some (numberText part pad i)
  | .named part => namedText? part i
  | .fault => none

/-- The text of an instant, if every item of the pattern can be written. -/
def write? (pattern : Pattern) (i : Instant) : Option String :=
  (pattern.mapM fun item => itemText? item i).map String.join

end Pattern

end BulkTransfer
