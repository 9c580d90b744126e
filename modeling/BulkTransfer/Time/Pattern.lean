import BulkTransfer.Text.Blank
/-!
# Time patterns

A pattern is a text in which `%` introduces the parts of a date and time. It is read into items;
what is no pattern becomes a fault item, so that every text has items.
-/
namespace BulkTransfer

inductive Pad where
  | none
  | zero
  | space
  deriving DecidableEq, Repr

/-- The parts written with digits. -/
inductive NumberPart where
  | year | century | yearOfCentury
  | isoYear | isoYearOfCentury
  | quarter | month | day
  | weekFromSunday | weekFromMonday | isoWeek
  | daysFromSunday | weekdayFromMonday
  | ordinal
  | hour | hour12 | minute | second | nanosecond
  | timestamp
  deriving DecidableEq, Repr

inductive OffsetStyle where
  | plain
  | colon
  | doubleColon
  | hoursOnly
  deriving DecidableEq, Repr

/-- The parts with a form of their own. -/
inductive NamedPart where
  | shortMonth | longMonth
  | shortWeekday | longWeekday
  | lowerAmPm | upperAmPm
  /-- A point and the digits of the fraction, as many as needed. -/
  | fraction
  /-- A point and this many digits of the fraction. -/
  | fixedFraction (digits : Nat)
  /-- This many digits of the fraction without a point. -/
  | bareFraction (digits : Nat)
  | zoneName
  | offset (style : OffsetStyle)
  /-- An offset in a free form; it can be read but not written. -/
  | freeOffset
  | rfc3339
  deriving DecidableEq, Repr

inductive PatternItem where
  | literal (text : String)
  | blank (text : String)
  | number (part : NumberPart) (pad : Pad)
  | named (part : NamedPart)
  | fault
  deriving DecidableEq, Repr

abbrev Pattern := List PatternItem

namespace Pattern

open PatternItem NumberPart NamedPart

def num0 (part : NumberPart) : PatternItem := .number part .zero

def clock : Pattern :=
  [num0 hour, literal ":", num0 minute, literal ":", num0 second]

def monthDayYear : Pattern :=
  [num0 month, literal "/", num0 day, literal "/", num0 yearOfCentury]

/-- The items of a one-letter conversion. -/
def ofLetter? : Char → Option Pattern
  | 'A' => some [.named longWeekday]
  | 'B' => some [.named longMonth]
  | 'C' => some [num0 century]
  | 'D' | 'x' => some monthDayYear
  | 'F' => some [num0 year, literal "-", num0 month, literal "-", num0 day]
  | 'G' => some [num0 isoYear]
  | 'H' => some [num0 hour]
  | 'I' => some [num0 hour12]
  | 'M' => some [num0 minute]
  | 'P' => some [.named lowerAmPm]
  | 'R' => some [num0 hour, literal ":", num0 minute]
  | 'S' => some [num0 second]
  | 'T' | 'X' => some clock
  | 'U' => some [num0 weekFromSunday]
  | 'V' => some [num0 isoWeek]
  | 'W' => some [num0 weekFromMonday]
  | 'Y' => some [num0 year]
  | 'Z' => some [.named zoneName]
  | 'a' => some [.named shortWeekday]
  | 'b' | 'h' => some [.named shortMonth]
  | 'c' => some ([.named shortWeekday, blank " ", .named shortMonth, blank " ",
      .number day .space, blank " "] ++ clock ++ [blank " ", num0 year])
  | 'd' => some [num0 day]
  | 'e' => some [.number day .space]
  | 'f' => some [num0 nanosecond]
  | 'g' => some [num0 isoYearOfCentury]
  | 'j' => some [num0 ordinal]
  | 'k' => some [.number hour .space]
  | 'l' => some [.number hour12 .space]
  | 'm' => some [num0 month]
  | 'n' => some [blank "\n"]
  | 'p' => some [.named upperAmPm]
  | 'q' => some [.number quarter .none]
  | 'r' => some [num0 hour12, literal ":", num0 minute, literal ":", num0 second, blank " ",
      .named upperAmPm]
  | 's' => some [.number timestamp .none]
  | 't' => some [blank "\t"]
  | 'u' => some [.number weekdayFromMonday .none]
  | 'v' => some [.number day .space, literal "-", .named shortMonth, literal "-", num0 year]
  | 'w' => some [.number daysFromSunday .none]
  | 'y' => some [num0 yearOfCentury]
  | 'z' => some [.named (.offset .plain)]
  | '+' => some [.named rfc3339]
  | '%' => some [literal "%"]
  | _ => none

def fractionDigits? : Char → Option Nat
  | '3' => some 3
  | '6' => some 6
  | '9' => some 9
  | _ => none

/-- The conversion at the head of a text, and what follows it. Only a single number takes a
padding. -/
def conversion (pad : Option Pad) : List Char → Pattern × List Char
  | [] => ([fault], [])
  | ':' :: ':' :: ':' :: 'z' :: rest => (unpadded (.offset .hoursOnly), rest)
  | ':' :: ':' :: 'z' :: rest => (unpadded (.offset .doubleColon), rest)
  | ':' :: 'z' :: rest => (unpadded (.offset .colon), rest)
  | '.' :: 'f' :: rest => (unpadded fraction, rest)
  | ['.'] => ([fault], [])
  | '.' :: d :: rest =>
    match fractionDigits? d, rest with
    | some n, 'f' :: rest => (unpadded (fixedFraction n), rest)
    | some _, _ :: rest => ([fault], rest)
    | some _, [] => ([fault], [])
    | none, rest => ([fault], rest)
  | c :: rest =>
    match fractionDigits? c, rest with
    | some n, 'f' :: rest => (unpadded (bareFraction n), rest)
    | some _, _ :: rest => ([fault], rest)
    | some _, [] => ([fault], [])
    | none, rest =>
      match ofLetter? c, pad with
      | none, _ => ([fault], rest)
      | some items, none => (items, rest)
      | some [.number part _], some pad => ([.number part pad], rest)
      | some _, some _ => ([fault], rest)
where
  unpadded (part : NamedPart) : Pattern := if pad.isSome then [fault] else [.named part]

def afterPercent : List Char → Pattern × List Char
  | '-' :: rest => conversion (some .none) rest
  | '0' :: rest => conversion (some .zero) rest
  | '_' :: rest => conversion (some .space) rest
  | '#' :: 'z' :: rest => ([.named freeOffset], rest)
  | '#' :: _ :: rest => ([fault], rest)
  | ['#'] => ([fault], [])
  | rest => conversion none rest

def isLiteral (c : Char) : Bool := c != '%' && !isBlank c

/-- Each step reads a character at least, which bounds `fuel`. -/
def ofChars : Nat → List Char → Pattern
  | 0, _ => []
  | _, [] => []
  | fuel + 1, '%' :: rest =>
    let (items, rest) := afterPercent rest
    items ++ ofChars fuel rest
  | fuel + 1, c :: rest =>
    if isBlank c then
      blank (String.ofList (c :: rest.takeWhile isBlank)) :: ofChars fuel (rest.dropWhile isBlank)
    else
      literal (String.ofList (c :: rest.takeWhile isLiteral)) ::
        ofChars fuel (rest.dropWhile isLiteral)

def ofString (text : String) : Pattern := ofChars text.length text.toList

end Pattern

end BulkTransfer
