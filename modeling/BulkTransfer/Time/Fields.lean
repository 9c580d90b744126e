import BulkTransfer.Time.Instant
import BulkTransfer.Time.Pattern
/-!
# Fields of a time

The parts of a date and time that a text gave, each at most once with one value, and how they are
resolved to a date, a time of day and an instant. Several sets of parts fix a date; the remaining
ones must agree with it.
-/
namespace BulkTransfer

inductive TimeFault where
  | outOfRange
  | impossible
  | notEnough
  | invalid
  | tooShort
  | tooLong
  | badPattern
  deriving DecidableEq, Repr

def TimeFault.message : TimeFault → String
  | outOfRange => "input is out of range"
  | impossible => "no possible date and time matching input"
  | notEnough => "input is not enough for unique date and time"
  | invalid => "input contains invalid characters"
  | tooShort => "premature end of input"
  | tooLong => "trailing input"
  | badPattern => "bad or unsupported format string"

structure TimeFields where
  year : Option Int := none
  century : Option Int := none
  yearOfCentury : Option Int := none
  isoYear : Option Int := none
  isoYearOfCentury : Option Int := none
  quarter : Option Int := none
  month : Option Int := none
  weekFromSunday : Option Int := none
  weekFromMonday : Option Int := none
  isoWeek : Option Int := none
  weekday : Option Weekday := none
  ordinal : Option Int := none
  day : Option Int := none
  halfDay : Option Int := none
  hourOfHalf : Option Int := none
  minute : Option Int := none
  second : Option Int := none
  nanosecond : Option Int := none
  timestamp : Option Int := none
  offset : Option Int := none
  deriving Repr, Inhabited

namespace TimeFields

/-- A part that is given again must have the same value. -/
def agree {α : Type} [DecidableEq α] (old : Option α) (new : α) : Except TimeFault (Option α) :=
  match old with
  | none => .ok (some new)
  | some value => if value = new then .ok (some value) else .error .impossible

def within (low high value : Int) : Except TimeFault Int :=
  if low ≤ value ∧ value ≤ high then .ok value else .error .outOfRange

def year32 (value : Int) : Except TimeFault Int := within (-0x80000000) 0x7FFFFFFF value

def setWeekday (f : TimeFields) (day : Weekday) : Except TimeFault TimeFields := do
  return { f with weekday := ← agree f.weekday day }

def setHalfDay (f : TimeFields) (afternoon : Bool) : Except TimeFault TimeFields := do
  return { f with halfDay := ← agree f.halfDay (if afternoon then 1 else 0) }

def setOffset (f : TimeFields) (seconds : Int) : Except TimeFault TimeFields := do
  return { f with offset := ← agree f.offset seconds }

/-- Notes the number of a part. -/
def set (f : TimeFields) (part : NumberPart) (value : Int) : Except TimeFault TimeFields := do
  match part with
  | .year => return { f with year := ← agree f.year (← year32 value) }
  | .century => return { f with century := ← agree f.century (← within 0 0x7FFFFFFF value) }
  | .yearOfCentury =>
    return { f with yearOfCentury := ← agree f.yearOfCentury (← within 0 99 value) }
  | .isoYear => return { f with isoYear := ← agree f.isoYear (← year32 value) }
  | .isoYearOfCentury =>
    return { f with isoYearOfCentury := ← agree f.isoYearOfCentury (← within 0 99 value) }
  | .quarter => return { f with quarter := ← agree f.quarter (← within 1 4 value) }
  | .month => return { f with month := ← agree f.month (← within 1 12 value) }
  | .day => return { f with day := ← agree f.day (← within 1 31 value) }
  | .weekFromSunday =>
    return { f with weekFromSunday := ← agree f.weekFromSunday (← within 0 53 value) }
  | .weekFromMonday =>
    return { f with weekFromMonday := ← agree f.weekFromMonday (← within 0 53 value) }
  | .isoWeek => return { f with isoWeek := ← agree f.isoWeek (← within 1 53 value) }
  | .daysFromSunday => f.setWeekday (Weekday.ofMonday ((← within 0 6 value).toNat + 6))
  | .weekdayFromMonday => f.setWeekday (Weekday.ofMonday ((← within 1 7 value).toNat + 6))
  | .ordinal => return { f with ordinal := ← agree f.ordinal (← within 1 366 value) }
  | .hour =>
    let hour ← within 0 23 value
    let half ← agree f.halfDay (hour / 12)
    return { f with halfDay := half, hourOfHalf := ← agree f.hourOfHalf (hour % 12) }
  | .hour12 =>
    return { f with hourOfHalf := ← agree f.hourOfHalf ((← within 1 12 value) % 12) }
  | .minute => return { f with minute := ← agree f.minute (← within 0 59 value) }
  | .second => return { f with second := ← agree f.second (← within 0 60 value) }
  | .nanosecond =>
    return { f with nanosecond := ← agree f.nanosecond (← within 0 999999999 value) }
  | .timestamp => return { f with timestamp := ← agree f.timestamp value }

/-- A year from its full number, or from its century and the year in it. A year of a century alone
lies between 1970 and 2069. -/
def resolveYear (year century ofCentury : Option Int) : Except TimeFault (Option Int) :=
  match year, century, ofCentury with
  | year, none, none => .ok year
  | some y, q, r =>
    if y < 0 then .error .impossible
    else if q.getD (y / 100) = y / 100 ∧ r.getD (y % 100) = y % 100 then .ok (some y)
    else .error .impossible
  | none, some q, some r => (year32 (q * 100 + r)).map some
  | none, none, some r => .ok (some (r + if r < 70 then 2000 else 1900))
  | none, some _, none => .error .notEnough

def known {α : Type} [DecidableEq α] (given : Option α) (value : α) : Bool :=
  given.getD value = value

/-- A part of a year that only years from zero on have. -/
def knownOfYear (given : Option Int) (year value : Int) : Bool :=
  if year ≥ 0 then known given value else given.isNone

def agreesYearMonthDay (f : TimeFields) (d : Date) : Bool :=
  known f.year d.year && knownOfYear f.century d.year (d.year / 100) &&
    knownOfYear f.yearOfCentury d.year (d.year % 100) && known f.month d.month &&
    known f.day d.day

def agreesIsoWeek (f : TimeFields) (d : Date) : Bool :=
  let (isoYear, isoWeek) := d.isoWeek
  known f.isoYear isoYear && knownOfYear f.isoYearOfCentury isoYear (isoYear % 100) &&
    known f.isoWeek isoWeek && known f.weekday d.weekday

def agreesOrdinal (f : TimeFields) (d : Date) : Bool :=
  known f.ordinal d.ordinal && known f.weekFromSunday (d.weeksFrom .sun) &&
    known f.weekFromMonday (d.weeksFrom .mon)

def orFault {α : Type} (fault : TimeFault) : Option α → Except TimeFault α
  | some a => .ok a
  | none => .error fault

/-- The day of a week of the year, weeks beginning on `start` and the first one being week 1. -/
def weekDate (year : Int) (week : Nat) (day start : Weekday) : Except TimeFault Date := do
  let first ← orFault .outOfRange (Date.ofOrdinal? year 1)
  let firstWeek : Int := 1 + start.daysSince first.weekday
  let ordinal := firstWeek + ((week : Int) - 1) * 7 + day.daysSince start
  if ordinal ≤ 0 then .error .impossible
  else orFault .impossible (Date.ofOrdinal? year ordinal.toNat)

/-- The date that the fields fix. -/
def toDate (f : TimeFields) : Except TimeFault Date := do
  let year ← resolveYear f.year f.century f.yearOfCentury
  let isoYear ← resolveYear f.isoYear none f.isoYearOfCentury
  let (verified, date) ←
    match year, f.month, f.day, f.ordinal, f.weekFromSunday, f.weekFromMonday, f.weekday with
    | some y, some m, some d, _, _, _, _ => do
      let date ← orFault .outOfRange (Date.ofYearMonthDay? y m.toNat d.toNat)
      pure (agreesIsoWeek f date && agreesOrdinal f date, date)
    | some y, _, _, some o, _, _, _ => do
      let date ← orFault .outOfRange (Date.ofOrdinal? y o.toNat)
      pure (agreesYearMonthDay f date && agreesIsoWeek f date && agreesOrdinal f date, date)
    | some y, _, _, _, some w, _, some d => do
      let date ← weekDate y w.toNat d .sun
      pure (agreesYearMonthDay f date && agreesIsoWeek f date && agreesOrdinal f date, date)
    | some y, _, _, _, _, some w, some d => do
      let date ← weekDate y w.toNat d .mon
      pure (agreesYearMonthDay f date && agreesIsoWeek f date && agreesOrdinal f date, date)
    | _, _, _, _, _, _, some d =>
      match isoYear, f.isoWeek with
      | some y, some w => do
        let date ← orFault .outOfRange (Date.ofIsoWeek? y w.toNat d)
        pure (agreesYearMonthDay f date && agreesOrdinal f date, date)
      | _, _ => .error .notEnough
    | _, _, _, _, _, _, _ => .error .notEnough
  if verified && known f.quarter date.quarter then .ok date else .error .impossible

/-- The time of day that the fields fix. Seconds may be left out, but not before a fraction. -/
def toTime (f : TimeFields) : Except TimeFault TimeOfDay := do
  let half ← orFault .notEnough f.halfDay
  let hour ← orFault .notEnough f.hourOfHalf
  let minute ← orFault .notEnough f.minute
  if f.nanosecond.isSome ∧ f.second.isNone then throw .notEnough
  let second := (f.second.getD 0).toNat
  let nanos := (f.nanosecond.getD 0).toNat
  return {
    hour := (half * 12 + hour).toNat
    minute := minute.toNat
    second := if second = 60 then 59 else second
    nanos := if second = 60 then nanos + 1000000000 else nanos }

def faultOf {α : Type} : Except TimeFault α → Option TimeFault
  | .ok _ => none
  | .error fault => some fault

/-- Fills the fields from a timestamp that stands for the missing ones. -/
def fillFrom (f : TimeFields) (timestamp offset : Int) : Except TimeFault LocalTime := do
  let shifted := timestamp + offset
  if !fits64 shifted then throw .outOfRange
  let i ← orFault .outOfRange (Instant.ofParts? shifted 0)
  let l := i.toLocal
  let (l, f) ←
    if f.second = some 60 then
      if l.time.second = 59 then pure (l, f)
      else if l.time.second = 0 then pure ((Instant.mk (shifted - 1) 0).toLocal, f)
      else throw .impossible
    else do
      pure (l, ← f.set .second l.time.second)
  let f ← f.set .year l.date.year
  let f ← f.set .ordinal l.date.ordinal
  let f ← f.set .hour l.time.hour
  let f ← f.set .minute l.time.minute
  return ⟨← f.toDate, ← f.toTime⟩
where
  fits64 (n : Int) : Bool := -0x8000000000000000 ≤ n && n ≤ 0x7FFFFFFFFFFFFFFF

/-- The local date and time at an offset. A timestamp must agree with the other fields, a leap
second being off by one, and stands in for those that are missing. -/
def toLocal (f : TimeFields) (offset : Int) : Except TimeFault LocalTime :=
  match f.toDate, f.toTime with
  | .ok date, .ok time =>
    let l : LocalTime := ⟨date, time⟩
    let implied := l.seconds - offset
    match f.timestamp with
    | none => .ok l
    | some given =>
      if given = implied ∨ (time.nanos ≥ 1000000000 ∧ given = implied + 1) then .ok l
      else .error .impossible
  | date, time =>
    let faults := (faultOf date).toList ++ (faultOf time).toList
    match f.timestamp with
    | none => .error (faults.headD .notEnough)
    | some timestamp =>
      if faults.contains .outOfRange then .error .outOfRange
      else if faults.contains .impossible then .error .impossible
      else fillFrom f timestamp offset

/-- The instant that the fields fix; they must tell an offset, or a timestamp. -/
def toInstant (f : TimeFields) : Except TimeFault Instant := do
  let offset ← match f.offset, f.timestamp with
    | some offset, _ => pure offset
    | none, some _ => pure 0
    | none, none => throw .notEnough
  let l ← f.toLocal offset
  if offset ≤ -86400 ∨ offset ≥ 86400 then throw .outOfRange
  orFault .impossible (Instant.ofOffset? l offset)

end TimeFields

end BulkTransfer
