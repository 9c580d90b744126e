/-!
# The Gregorian calendar

Dates of the proleptic Gregorian calendar as day numbers, day 0 being 1 January 1970. A date is
turned into a day number and back by counting in eras of 400 years that start on 1 March.
-/
namespace BulkTransfer

inductive Weekday where
  | mon | tue | wed | thu | fri | sat | sun
  deriving DecidableEq, Repr

namespace Weekday

def all : List Weekday := [mon, tue, wed, thu, fri, sat, sun]

/-- Days since the last Monday. -/
def fromMonday : Weekday → Nat
  | mon => 0 | tue => 1 | wed => 2 | thu => 3 | fri => 4 | sat => 5 | sun => 6

/-- Days since the last Sunday. -/
def fromSunday (d : Weekday) : Nat := (d.fromMonday + 1) % 7

/-- Days since the last `start`. -/
def daysSince (d start : Weekday) : Nat := (d.fromMonday + 7 - start.fromMonday) % 7

def ofMonday (n : Nat) : Weekday :=
  match n % 7 with
  | 0 => mon | 1 => tue | 2 => wed | 3 => thu | 4 => fri | 5 => sat | _ => sun

def name : Weekday → String
  | mon => "Monday" | tue => "Tuesday" | wed => "Wednesday" | thu => "Thursday"
  | fri => "Friday" | sat => "Saturday" | sun => "Sunday"

end Weekday

def isLeapYear (year : Int) : Bool := year % 4 == 0 && (year % 100 != 0 || year % 400 == 0)

def daysInYear (year : Int) : Nat := if isLeapYear year then 366 else 365

def daysInMonth (year : Int) (month : Nat) : Nat :=
  if month = 2 then (if isLeapYear year then 29 else 28)
  else if month = 4 ∨ month = 6 ∨ month = 9 ∨ month = 11 then 30
  else 31

def monthNames : List String :=
  ["January", "February", "March", "April", "May", "June", "July", "August", "September",
    "October", "November", "December"]

/-- A calendar date. -/
structure Date where
  year : Int
  month : Nat
  day : Nat
  deriving DecidableEq, Repr, Inhabited

namespace Date

def leastYear : Int := -262143
def greatestYear : Int := 262142

def inRange (year : Int) : Bool := leastYear ≤ year && year ≤ greatestYear

/-- The day number of a date. -/
def toDays (d : Date) : Int :=
  let shifted := if d.month ≤ 2 then d.year - 1 else d.year
  let era := Int.fdiv shifted 400
  let yearOfEra := shifted - era * 400
  let monthFromMarch : Int := (d.month + 9) % 12
  let dayOfYear := (153 * monthFromMarch + 2) / 5 + (d.day : Int) - 1
  let dayOfEra := yearOfEra * 365 + yearOfEra / 4 - yearOfEra / 100 + dayOfYear
  era * 146097 + dayOfEra - 719468

def ofDays (days : Int) : Date :=
  let shifted := days + 719468
  let era := Int.fdiv shifted 146097
  let dayOfEra := shifted - era * 146097
  let yearOfEra := (dayOfEra - dayOfEra / 1460 + dayOfEra / 36524 - dayOfEra / 146096) / 365
  let dayOfYear := dayOfEra - (365 * yearOfEra + yearOfEra / 4 - yearOfEra / 100)
  let monthFromMarch := (5 * dayOfYear + 2) / 153
  let day := dayOfYear - (153 * monthFromMarch + 2) / 5 + 1
  let month := if monthFromMarch < 10 then monthFromMarch + 3 else monthFromMarch - 9
  ⟨yearOfEra + era * 400 + (if month ≤ 2 then 1 else 0), month.toNat, day.toNat⟩

/-- A date of the calendar, within the supported years. -/
def ofYearMonthDay? (year : Int) (month day : Nat) : Option Date :=
  if inRange year && 1 ≤ month && month ≤ 12 && 1 ≤ day && day ≤ daysInMonth year month then
    some ⟨year, month, day⟩
  else none

/-- The date with a day-of-year number that starts at one. -/
def ofOrdinal? (year : Int) (ordinal : Nat) : Option Date :=
  if inRange year && 1 ≤ ordinal && ordinal ≤ daysInYear year then
    some (ofDays (toDays ⟨year, 1, 1⟩ + ordinal - 1))
  else none

/-- The date of a day number, within the supported years. -/
def ofDays? (days : Int) : Option Date :=
  let d := ofDays days
  if inRange d.year then some d else none

/-- The number of the day in its year, from one. -/
def ordinal (d : Date) : Nat := (d.toDays - toDays ⟨d.year, 1, 1⟩ + 1).toNat

def weekday (d : Date) : Weekday := Weekday.ofMonday ((d.toDays + 3) % 7).toNat

def quarter (d : Date) : Nat := (d.month - 1) / 3 + 1

/-- Weeks of the year that began on `start`, up to the date. -/
def weeksFrom (d : Date) (start : Weekday) : Nat :=
  (d.ordinal + 6 - d.weekday.daysSince start) / 7

/-- The Monday of the first ISO week, which is the week that holds 4 January. -/
def isoYearStart (year : Int) : Int :=
  let fourth : Date := ⟨year, 1, 4⟩
  fourth.toDays - fourth.weekday.fromMonday

/-- The ISO year and week of a date. -/
def isoWeek (d : Date) : Int × Nat :=
  let days := d.toDays
  let year :=
    if days < isoYearStart d.year then d.year - 1
    else if days < isoYearStart (d.year + 1) then d.year
    else d.year + 1
  (year, ((days - isoYearStart year) / 7 + 1).toNat)

def isoWeeksIn (year : Int) : Nat := ((isoYearStart (year + 1) - isoYearStart year) / 7).toNat

/-- The date of a weekday in an ISO week. -/
def ofIsoWeek? (year : Int) (week : Nat) (day : Weekday) : Option Date :=
  if inRange year && 1 ≤ week && week ≤ isoWeeksIn year then
    ofDays? (isoYearStart year + (week - 1) * 7 + day.fromMonday)
  else none

end Date

end BulkTransfer
