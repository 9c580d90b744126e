import BulkTransfer.Time.Fields
import BulkTransfer.Number.Reader
/-!
# Fields read by a pattern

Each item reads what it can from the head of the text; the text must be used up at the end. A
number is read with at most as many digits as its part has, unless it follows a sign.
-/
namespace BulkTransfer

namespace TimeText

abbrev Scan := Except TimeFault

def trimStart (s : List Char) : List Char := s.dropWhile isBlank

def isShort (s : List Char) (n : Nat) : Bool := (s.take n).length < n

def digit (c : Char) : Nat := c.toNat - '0'.toNat

/-- Digits at the head: `least` at least and `most` at most, with a 64-bit value. -/
def number (least most : Nat) (s : List Char) : Scan (Int × List Char) :=
  let digits := (s.take most).takeWhile Char.isDigit
  let value := digits.foldl (fun acc c => acc * 10 + digit c) 0
  if digits.length < least then
    .error (if isShort s least then .tooShort else .invalid)
  else if value ≥ 0x8000000000000000 then .error .outOfRange
  else .ok (value, s.drop digits.length)

/-- The digits of a fraction of a second, of which nine count. -/
def fraction (s : List Char) : Scan (Int × List Char) := do
  let (value, rest) ← number 1 9 s
  let read := s.length - rest.length
  return (value * Nat.pow 10 (9 - read), rest.dropWhile Char.isDigit)

def fixedFraction (digits : Nat) (s : List Char) : Scan (Int × List Char) := do
  let (value, rest) ← number digits digits s
  return (value * Nat.pow 10 (9 - digits), rest)

/-- One character that has to stand at the head. -/
def exactly (c : Char) : List Char → Scan (List Char)
  | [] => .error .tooShort
  | d :: rest => if c = d then .ok rest else .error .invalid

def startsWithAnyCase (word s : List Char) : Bool :=
  (s.take word.length).map Char.toLower == word

/-- The first three letters of a name, in lower case. -/
def shortName (name : String) : List Char := (name.toList.map Char.toLower).take 3

def wordOf (names : List String) (s : List Char) : Scan (Nat × List Char) :=
  if isShort s 3 then .error .tooShort
  else
    match names.findIdx? fun name => startsWithAnyCase (shortName name) s with
    | some i => .ok (i, s.drop 3)
    | none => .error .invalid

/-- The first three letters of a name, or the whole name. -/
def longWordOf (names : List String) (s : List Char) : Scan (Nat × List Char) := do
  let (i, rest) ← wordOf names s
  let tail := ((names.getD i "").toList.map Char.toLower).drop 3
  return (i, if startsWithAnyCase tail rest then rest.drop tail.length else rest)

def weekdayNames : List String := Weekday.all.map Weekday.name

/-- What may stand between the hours and the minutes of an offset. -/
inductive OffsetSeparator where
  | colon
  | colonsOrBlanks

def OffsetSeparator.skip : OffsetSeparator → List Char → Scan (List Char)
  | .colon, s => exactly ':' s
  | .colonsOrBlanks, s => .ok (s.dropWhile fun c => c == ':' || isBlank c)

def offsetMinutes (mayLackMinutes : Bool) (s : List Char) : Scan (Int × List Char) :=
  match s with
  | a :: b :: rest =>
    if !a.isDigit || !b.isDigit then .error .invalid
    else if digit a ≥ 6 then .error .outOfRange
    else .ok ((digit a * 10 + digit b : Nat), rest)
  | [] => if mayLackMinutes then .ok (0, []) else .error .tooShort
  | _ => .error .tooShort

/-- An offset in seconds: a sign, two digits of hours and two of minutes. -/
def offset (separator : OffsetSeparator) (mayBeZulu mayLackMinutes : Bool) (s : List Char) :
    Scan (Int × List Char) := do
  match s with
  | [] => .error .tooShort
  | c :: rest =>
    if mayBeZulu && (c == 'Z' || c == 'z') then .ok (0, rest)
    else
      let isNegative ←
        if c = '+' then pure false
        else if c = '-' ∨ c.toNat = 0x2212 then pure true
        else throw .invalid
      match rest with
      | a :: b :: rest =>
        if !a.isDigit || !b.isDigit then throw .invalid
        let hours : Int := (digit a * 10 + digit b : Nat)
        let (minutes, rest) ← offsetMinutes mayLackMinutes (← separator.skip rest)
        let seconds := hours * 3600 + minutes * 60
        return (if isNegative then -seconds else seconds, rest)
      | _ => throw .tooShort

def dateTimeSeparator : List Char → Scan (List Char)
  | [] => .error .tooShort
  | c :: rest => if c = 't' ∨ c = 'T' ∨ c = ' ' then .ok rest else .error .invalid

/-- A part with exactly this many digits. -/
def fixedNumber (part : NumberPart) (digits : Nat) (f : TimeFields) (s : List Char) :
    Scan (TimeFields × List Char) := do
  let (value, rest) ← number digits digits s
  return (← f.set part value, rest)

/-- RFC 3339 to the letter. -/
def strictRfc3339 (s : List Char) : Scan Instant := do
  let (f, s) ← fixedNumber .year 4 {} s
  let (f, s) ← fixedNumber .month 2 f (← exactly '-' s)
  let (f, s) ← fixedNumber .day 2 f (← exactly '-' s)
  let (f, s) ← fixedNumber .hour 2 f (← dateTimeSeparator s)
  let (f, s) ← fixedNumber .minute 2 f (← exactly ':' s)
  let (f, s) ← fixedNumber .second 2 f (← exactly ':' s)
  let (f, s) ← match s with
    | '.' :: rest => do
      let (nanos, rest) ← fraction rest
      pure (← f.set .nanosecond nanos, rest)
    | s => pure (f, s)
  let (seconds, s) ← offset .colon true false s
  if seconds.natAbs > (23 * 60 + 59) * 60 then throw .outOfRange
  let f ← f.setOffset seconds
  if s.isEmpty then f.toInstant else throw .tooLong

def digitsOf : NumberPart → Nat
  | .year | .isoYear => 4
  | .quarter | .daysFromSunday | .weekdayFromMonday => 1
  | .ordinal => 3
  | .nanosecond => 9
  | _ => 2

def isSigned : NumberPart → Bool
  | .year | .isoYear => true
  | _ => false

def numberItem (part : NumberPart) (f : TimeFields) (s : List Char) :
    Scan (TimeFields × List Char) := do
  let s := trimStart s
  let most := if part = .timestamp then s.length else digitsOf part
  let (value, rest) ← match isSigned part, s with
    | true, '-' :: digits => do
      let (value, rest) ← number 1 digits.length digits
      pure (-value, rest)
    | true, '+' :: digits => number 1 digits.length digits
    | _, s => number 1 most s
  return (← f.set part value, rest)

def amPm (f : TimeFields) : List Char → Scan (TimeFields × List Char)
  | a :: m :: rest => do
    if m.toLower ≠ 'm' then throw .invalid
    match a.toLower with
    | 'a' => return (← f.setHalfDay false, rest)
    | 'p' => return (← f.setHalfDay true, rest)
    | _ => throw .invalid
  | _ => .error .tooShort

def pointFraction (read : List Char → Scan (Int × List Char)) (f : TimeFields) :
    List Char → Scan (TimeFields × List Char)
  | '.' :: rest => do
    let (nanos, rest) ← read rest
    return (← f.set .nanosecond nanos, rest)
  | s => .ok (f, s)

def offsetItem (mayBeFree : Bool) (f : TimeFields) (s : List Char) :
    Scan (TimeFields × List Char) := do
  let (seconds, rest) ← offset .colonsOrBlanks mayBeFree mayBeFree (trimStart s)
  return (← f.setOffset seconds, rest)

/-- RFC 3339 with blanks between the parts, and `UTC` for its offset. -/
def looseRfc3339 (f : TimeFields) (s : List Char) : Scan (TimeFields × List Char) := do
  let (f, s) ← numberItem .year f s
  let (f, s) ← numberItem .month f (← exactly '-' (trimStart s))
  let (f, s) ← numberItem .day f (← exactly '-' (trimStart s))
  let (f, s) ← numberItem .hour f (← dateTimeSeparator s)
  let (f, s) ← numberItem .minute f (← exactly ':' (trimStart s))
  let (f, s) ← numberItem .second f (← exactly ':' (trimStart s))
  let (f, s) ← pointFraction fraction f s
  let s := trimStart s
  if startsWithAnyCase ['u', 't', 'c'] s then
    return (← f.setOffset 0, s.drop 3)
  else
    let (seconds, rest) ← offset .colonsOrBlanks true false s
    return (← f.setOffset seconds, rest)

def literalItem (text s : List Char) : Scan (List Char) :=
  if (s.take text.length) = text then .ok (s.drop text.length)
  else .error (if isShort s text.length then .tooShort else .invalid)

def namedItem (part : NamedPart) (f : TimeFields) (s : List Char) :
    Scan (TimeFields × List Char) := do
  match part with
  | .shortMonth =>
    let (i, rest) ← wordOf monthNames s
    return (← f.set .month (i + 1), rest)
  | .longMonth =>
    let (i, rest) ← longWordOf monthNames s
    return (← f.set .month (i + 1), rest)
  | .shortWeekday =>
    let (i, rest) ← wordOf weekdayNames s
    return (← f.setWeekday (Weekday.ofMonday i), rest)
  | .longWeekday =>
    let (i, rest) ← longWordOf weekdayNames s
    return (← f.setWeekday (Weekday.ofMonday i), rest)
  | .lowerAmPm | .upperAmPm => amPm f s
  | .fraction => pointFraction fraction f s
  | .fixedFraction digits => pointFraction (fixedFraction digits) f s
  | .bareFraction digits =>
    let (nanos, rest) ← fixedFraction digits s
    return (← f.set .nanosecond nanos, rest)
  | .zoneName => return (f, s.dropWhile fun c => !isBlank c)
  | .offset _ => offsetItem false f s
  | .freeOffset => offsetItem true f s
  | .rfc3339 => looseRfc3339 f s

def item (i : PatternItem) (f : TimeFields) (s : List Char) :
    Scan (TimeFields × List Char) :=
  match i with
  | .literal text => (literalItem text.toList s).map fun rest => (f, rest)
  | .blank _ => .ok (f, trimStart s)
  | .number part _ => numberItem part f s
  | .named part => namedItem part f s
  | .fault => .error .badPattern

def items : Pattern → TimeFields → List Char → Scan (TimeFields × List Char)
  | [], f, s => .ok (f, s)
  | i :: rest, f, s => do
    let (f, s) ← item i f s
    items rest f s

/-- The fields of a whole text. -/
def fields (pattern : Pattern) (text : String) : Scan TimeFields := do
  let (f, rest) ← items pattern {} text.toList
  if rest.isEmpty then return f else throw .tooLong

end TimeText

namespace Instant

/-- The instant of a text in RFC 3339, with blanks where they do no harm. -/
def ofLooseRfc3339 (text : String) : Except TimeFault Instant := do
  let (f, rest) ← TimeText.looseRfc3339 {} text.toList
  if (rest.dropWhile isBlank).isEmpty then f.toInstant else throw .tooLong

end Instant

end BulkTransfer
