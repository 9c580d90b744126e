import BulkTransfer.Tree.Basic
import BulkTransfer.Text.Utf8
/-!
# Trees read from JSON text

One reader over bytes, so that a fault has a place in bytes. Nesting is limited. An integer that
fits 64 bits stays an integer, and any other number becomes a double by one scaling of its leading
digits.
-/
namespace BulkTransfer.Tree

inductive ReadFault where
  | endInList
  | endInObject
  | endInString
  | endInValue
  | expectedColon
  | expectedListCommaOrEnd
  | expectedObjectCommaOrEnd
  | expectedIdent
  | expectedValue
  | invalidEscape
  | invalidNumber
  | numberOutOfRange
  | invalidCodePoint
  | controlCharacter
  | keyMustBeString
  | loneSurrogate
  | trailingComma
  | trailingCharacters
  | endOfHexEscape
  | nestedTooDeep
  deriving DecidableEq, Repr

def ReadFault.message : ReadFault → String
  | .endInList => "EOF while parsing a list"
  | .endInObject => "EOF while parsing an object"
  | .endInString => "EOF while parsing a string"
  | .endInValue => "EOF while parsing a value"
  | .expectedColon => "expected `:`"
  | .expectedListCommaOrEnd => "expected `,` or `]`"
  | .expectedObjectCommaOrEnd => "expected `,` or `\x7d`"
  | .expectedIdent => "expected ident"
  | .expectedValue => "expected value"
  | .invalidEscape => "invalid escape"
  | .invalidNumber => "invalid number"
  | .numberOutOfRange => "number out of range"
  | .invalidCodePoint => "invalid unicode code point"
  | .controlCharacter => "control character (\\u0000-\\u001F) found while parsing a string"
  | .keyMustBeString => "key must be a string"
  | .loneSurrogate => "lone leading surrogate in hex escape"
  | .trailingComma => "trailing comma"
  | .trailingCharacters => "trailing characters"
  | .endOfHexEscape => "unexpected end of hex escape"
  | .nestedTooDeep => "recursion limit exceeded"

/-- A fault and the number of bytes read when it was met. -/
structure ReadError where
  fault : ReadFault
  line : Nat
  column : Nat
  deriving DecidableEq, Repr

def ReadError.message (e : ReadError) : String :=
  e.fault.message ++ " at line " ++ toString e.line ++ " column " ++ toString e.column

/-- A fault with the bytes still unread there; `ahead` more of them belong to the fault. -/
structure Stop where
  fault : ReadFault
  rest : Bytes
  ahead : Nat

/-- A reading gives a value with the bytes after it, or stops. -/
abbrev Reading := Except Stop

/-- The fault lies before the next byte. -/
def stop {α : Type} (fault : ReadFault) (rest : Bytes) : Reading (α × Bytes) :=
  .error ⟨fault, rest, 0⟩

/-- The fault is the next byte itself. -/
def stopAt {α : Type} (fault : ReadFault) (rest : Bytes) : Reading (α × Bytes) :=
  .error ⟨fault, rest, 1⟩

def isSpace (b : UInt8) : Bool := b == 0x20 || b == 0x0A || b == 0x09 || b == 0x0D

def skipSpace (bytes : Bytes) : Bytes := bytes.dropWhile isSpace

def isDigit (b : UInt8) : Bool := 0x30 ≤ b && b ≤ 0x39

def digit (b : UInt8) : Nat := b.toNat - 0x30

/-- The word after its first letter. -/
def readIdent : Bytes → Bytes → Reading (Unit × Bytes)
  | [], rest => .ok ((), rest)
  | _ :: _, [] => stop .endInValue []
  | want :: more, b :: rest =>
    if b = want then readIdent more rest else stop .expectedIdent rest

section Strings

def hexValue? (b : UInt8) : Option Nat :=
  let n := b.toNat
  if 0x30 ≤ n ∧ n ≤ 0x39 then some (n - 0x30)
  else if 0x61 ≤ n ∧ n ≤ 0x66 then some (n - 0x61 + 10)
  else if 0x41 ≤ n ∧ n ≤ 0x46 then some (n - 0x41 + 10)
  else none

def readHex : Bytes → Reading (Nat × Bytes)
  | a :: b :: c :: d :: rest =>
    match hexValue? a, hexValue? b, hexValue? c, hexValue? d with
    | some a, some b, some c, some d => .ok (((a * 16 + b) * 16 + c) * 16 + d, rest)
    | _, _, _, _ => stop .invalidEscape rest
  | _ => stop .endInString []

def isLeading (n : Nat) : Bool := 0xD800 ≤ n && n ≤ 0xDBFF
def isTrailing (n : Nat) : Bool := 0xDC00 ≤ n && n ≤ 0xDFFF

def encodeChar (n : Nat) : Bytes := Utf8.encode (String.singleton (Char.ofNat n))

/-- The code point of a `\u` escape; a leading surrogate needs its trailing half. -/
def readUnicode (bytes : Bytes) : Reading (Bytes × Bytes) := do
  let (first, rest) ← readHex bytes
  if isTrailing first then stop .loneSurrogate rest
  else if !isLeading first then .ok (encodeChar first, rest)
  else match rest with
    | [] => stop .endInString []
    | 0x5C :: rest =>
      match rest with
      | [] => stop .endInString []
      | 0x75 :: rest =>
        let (second, rest) ← readHex rest
        if isTrailing second then
          .ok (encodeChar ((first - 0xD800) * 1024 + (second - 0xDC00) + 0x10000), rest)
        else stop .loneSurrogate rest
      | _ :: rest => stop .endOfHexEscape rest
    | _ :: rest => stop .endOfHexEscape rest

def readEscape : Bytes → Reading (Bytes × Bytes)
  | [] => stop .endInString []
  | b :: rest =>
    if b = 0x22 ∨ b = 0x5C ∨ b = 0x2F then .ok ([b], rest)
    else if b = 0x62 then .ok ([0x08], rest)
    else if b = 0x66 then .ok ([0x0C], rest)
    else if b = 0x6E then .ok ([0x0A], rest)
    else if b = 0x72 then .ok ([0x0D], rest)
    else if b = 0x74 then .ok ([0x09], rest)
    else if b = 0x75 then readUnicode rest
    else stop .invalidEscape rest

/-- The bytes of a string up to its closing quote. Each step reads at least one byte. -/
def readStringBytes : Nat → Bytes → Bytes → Reading (Bytes × Bytes)
  | 0, rest, _ => stop .endInString rest
  | _, [], _ => stop .endInString []
  | fuel + 1, b :: rest, acc =>
    if b = 0x22 then .ok (acc.reverse, rest)
    else if b = 0x5C then do
      let (escaped, rest) ← readEscape rest
      readStringBytes fuel rest (escaped.reverse ++ acc)
    else if b < 0x20 then stop .controlCharacter rest
    else readStringBytes fuel rest (b :: acc)

/-- The string after its opening quote. -/
def readString (bytes : Bytes) : Reading (String × Bytes) := do
  let (content, rest) ← readStringBytes (bytes.length + 1) bytes []
  match Utf8.decode content with
  | .ok text => .ok (text, rest)
  | .error _ => stop .invalidCodePoint rest

end Strings

section Numbers

/-- Leading digits as one natural of at most 64 bits and the power of ten that goes with it; later
digits only count toward the power. -/
structure Leading where
  significand : Nat
  exponent : Int

def fits (n : Nat) : Bool := n < 0x10000000000000000

/-- The nearest double of a power of ten. -/
def tenTo (n : Nat) : Double := Double.ofDecimal false 1 n

/-- `significand * 10 ^ exponent` by one multiplication or division with a power of ten, after as
many divisions by `10 ^ 308` as a very small exponent needs. -/
def scaleDown : Nat → Double → Int → Double
  | 0, x, _ => x
  | fuel + 1, x, exponent =>
    if exponent ≥ -308 then x.dividedBy (tenTo exponent.natAbs)
    else if x.isZero then x
    else scaleDown fuel (x.dividedBy (tenTo 308)) (exponent + 308)

/-- The double of the leading digits, or none where it would be infinite. -/
def Leading.toDouble? (lead : Leading) (isNegative : Bool) : Option Double :=
  let whole := Double.ofInt lead.significand
  let magnitude? :=
    if lead.exponent < 0 then some (scaleDown 4 whole lead.exponent)
    else if lead.exponent > 308 then if whole.isZero then some whole else none
    else
      let x := whole.times (tenTo lead.exponent.toNat)
      if x.isInfinite then none else some x
  magnitude?.map fun x => if isNegative then x.negate else x

def finishDouble (isNegative : Bool) (lead : Leading) (rest : Bytes) :
    Reading (Number × Bytes) :=
  match lead.toDouble? isNegative with
  | some x => .ok (.double x, rest)
  | none => stop .numberOutOfRange rest

/-- The digits of an exponent past its first; too large an exponent is zero or out of range. -/
def readExponentDigits (isNegative isNegativeExp : Bool) (lead : Leading) :
    Bytes → Int → Reading (Number × Bytes)
  | b :: rest, exponent =>
    if isDigit b then
      let next := exponent * 10 + digit b
      if next > 2147483647 then
        if lead.significand ≠ 0 ∧ !isNegativeExp then stop .numberOutOfRange rest
        else .ok (.double (Double.zero isNegative), rest.dropWhile isDigit)
      else readExponentDigits isNegative isNegativeExp lead rest next
    else finish (b :: rest) exponent
  | [], exponent => finish [] exponent
where
  finish (rest : Bytes) (exponent : Int) : Reading (Number × Bytes) :=
    let shifted := if isNegativeExp then lead.exponent - exponent else lead.exponent + exponent
    finishDouble isNegative { lead with exponent := shifted } rest

/-- The exponent after its letter. -/
def readExponent (isNegative : Bool) (lead : Leading) (bytes : Bytes) :
    Reading (Number × Bytes) :=
  let (isNegativeExp, bytes) := match bytes with
    | 0x2B :: rest => (false, rest)
    | 0x2D :: rest => (true, rest)
    | other => (false, other)
  match bytes with
  | [] => stop .endInValue []
  | b :: rest =>
    if isDigit b then readExponentDigits isNegative isNegativeExp lead rest (digit b)
    else stop .invalidNumber rest

/-- What may follow the digits of a number that is no integer. -/
def afterDigits (isNegative : Bool) (lead : Leading) (bytes : Bytes) :
    Reading (Number × Bytes) :=
  match bytes with
  | b :: rest =>
    if b = 0x65 ∨ b = 0x45 then readExponent isNegative lead rest
    else finishDouble isNegative lead bytes
  | [] => finishDouble isNegative lead []

/-- The digits after the point. -/
def readFraction (isNegative : Bool) : Bytes → Leading → Bool → Reading (Number × Bytes)
  | bytes@(b :: rest), lead, seen =>
    if isDigit b then
      let next := lead.significand * 10 + digit b
      if fits next then readFraction isNegative rest ⟨next, lead.exponent - 1⟩ true
      else afterDigits isNegative lead (rest.dropWhile isDigit)
    else if seen then afterDigits isNegative lead bytes
    else stopAt .invalidNumber bytes
  | [], lead, seen =>
    if seen then afterDigits isNegative lead [] else stopAt .endInValue []

/-- Digits past the sixty-fourth bit. -/
def readLong (isNegative : Bool) : Bytes → Leading → Reading (Number × Bytes)
  | b :: rest, lead =>
    if isDigit b then readLong isNegative rest { lead with exponent := lead.exponent + 1 }
    else if b = 0x2E then readFraction isNegative rest lead false
    else afterDigits isNegative lead (b :: rest)
  | [], lead => afterDigits isNegative lead []

/-- What may follow the digits of a number that fits 64 bits. Negative zero, and what lies below
the least 64-bit integer, become doubles. -/
def afterInteger (isNegative : Bool) (value : Nat) (bytes : Bytes) :
    Reading (Number × Bytes) :=
  let whole : Reading (Number × Bytes) :=
    if !isNegative then .ok (.int value, bytes)
    else if value = 0 ∨ value > 0x8000000000000000 then
      .ok (.double (Double.ofInt value).negate, bytes)
    else .ok (.int (-value), bytes)
  match bytes with
  | b :: rest =>
    if b = 0x2E then readFraction isNegative rest ⟨value, 0⟩ false
    else if b = 0x65 ∨ b = 0x45 then readExponent isNegative ⟨value, 0⟩ rest
    else whole
  | [] => whole

def readDigits (isNegative : Bool) : Bytes → Nat → Reading (Number × Bytes)
  | bytes@(b :: rest), value =>
    if isDigit b then
      let next := value * 10 + digit b
      if fits next then readDigits isNegative rest next
      else readLong isNegative bytes ⟨value, 0⟩
    else afterInteger isNegative value bytes
  | [], value => afterInteger isNegative value []

/-- A number after its sign. -/
def readNumber (isNegative : Bool) : Bytes → Reading (Number × Bytes)
  | [] => stop .endInValue []
  | b :: rest =>
    if b = 0x30 then
      match rest with
      | next :: _ =>
        if isDigit next then stopAt .invalidNumber rest else afterInteger isNegative 0 rest
      | [] => afterInteger isNegative 0 []
    else if isDigit b then readDigits isNegative rest (digit b)
    else stop .invalidNumber rest

end Numbers

def nullTail : Bytes := [0x75, 0x6C, 0x6C]
def trueTail : Bytes := [0x72, 0x75, 0x65]
def falseTail : Bytes := [0x61, 0x6C, 0x73, 0x65]

mutual

/-- A value at the head of the bytes. Each call reads a byte, which bounds `fuel`; `depth` is the
number of containers that may still be opened. -/
def readValue : Nat → Nat → Bytes → Reading (Tree × Bytes)
  | 0, _, bytes => stopAt .expectedValue bytes
  | fuel + 1, depth, bytes =>
    match skipSpace bytes with
    | [] => stopAt .endInValue []
    | bytes@(b :: rest) =>
      if b = 0x6E then (readIdent nullTail rest).map fun (_, rest) => (.null, rest)
      else if b = 0x74 then (readIdent trueTail rest).map fun (_, rest) => (.bool true, rest)
      else if b = 0x66 then (readIdent falseTail rest).map fun (_, rest) => (.bool false, rest)
      else if b = 0x2D then (readNumber true rest).map fun (n, rest) => (.num n, rest)
      else if isDigit b then (readNumber false bytes).map fun (n, rest) => (.num n, rest)
      else if b = 0x22 then (readString rest).map fun (s, rest) => (.str s, rest)
      else if b = 0x5B then
        match depth with
        | 0 => stopAt .nestedTooDeep bytes
        | depth + 1 =>
          (readItems fuel depth true [] rest).map fun (items, rest) => (.arr items, rest)
      else if b = 0x7B then
        match depth with
        | 0 => stopAt .nestedTooDeep bytes
        | depth + 1 =>
          (readEntries fuel depth true [] rest).map fun (entries, rest) => (.obj entries, rest)
      else stopAt .expectedValue bytes

def readItems : Nat → Nat → Bool → List Tree → Bytes → Reading (List Tree × Bytes)
  | 0, _, _, _, bytes => stopAt .endInList bytes
  | fuel + 1, depth, isFirst, acc, bytes =>
    match skipSpace bytes with
    | [] => stopAt .endInList []
    | bytes@(b :: rest) =>
      if b = 0x5D then .ok (acc.reverse, rest)
      else if isFirst then do
        let (item, rest) ← readValue fuel depth bytes
        readItems fuel depth false (item :: acc) rest
      else if b = 0x2C then
        match skipSpace rest with
        | [] => stopAt .endInValue []
        | bytes@(0x5D :: _) => stopAt .trailingComma bytes
        | bytes => do
          let (item, rest) ← readValue fuel depth bytes
          readItems fuel depth false (item :: acc) rest
      else stopAt .expectedListCommaOrEnd bytes

def readEntries : Nat → Nat → Bool → Entries → Bytes → Reading (Entries × Bytes)
  | 0, _, _, _, bytes => stopAt .endInObject bytes
  | fuel + 1, depth, isFirst, acc, bytes =>
    match skipSpace bytes with
    | [] => stopAt .endInObject []
    | bytes@(b :: rest) =>
      if b = 0x7D then .ok (acc, rest)
      else if isFirst then
        if b = 0x22 then readEntry fuel depth acc rest else stopAt .keyMustBeString bytes
      else if b = 0x2C then
        match skipSpace rest with
        | [] => stopAt .endInValue []
        | 0x22 :: rest => readEntry fuel depth acc rest
        | bytes@(0x7D :: _) => stopAt .trailingComma bytes
        | bytes => stopAt .keyMustBeString bytes
      else stopAt .expectedObjectCommaOrEnd bytes

/-- A key after its opening quote, its value, and the entries that follow. -/
def readEntry : Nat → Nat → Entries → Bytes → Reading (Entries × Bytes)
  | 0, _, _, bytes => stopAt .endInObject bytes
  | fuel + 1, depth, acc, bytes => do
    let (key, rest) ← readString bytes
    match skipSpace rest with
    | [] => stopAt .endInObject []
    | 0x3A :: rest =>
      let (value, rest) ← readValue fuel depth rest
      readEntries fuel depth false (acc.put key value) rest
    | bytes => stopAt .expectedColon bytes

end

/-- Containers may be nested this deep. -/
def depthLimit : Nat := 127

def locate (whole : Bytes) (s : Stop) : ReadError :=
  let before := whole.take (whole.length - s.rest.length + s.ahead)
  { fault := s.fault
    line := before.count 0x0A + 1
    column := (before.reverse.takeWhile (· != 0x0A)).length }

/-- The tree of a whole text, with nothing but blanks around it. -/
def readBytes (bytes : Bytes) : Except ReadError Tree :=
  match readValue (4 * bytes.length + 4) depthLimit bytes with
  | .error s => .error (locate bytes s)
  | .ok (tree, rest) =>
    match skipSpace rest with
    | [] => .ok tree
    | rest => .error (locate bytes ⟨.trailingCharacters, rest, 1⟩)

def read (text : String) : Except ReadError Tree := readBytes (Utf8.encode text)

end BulkTransfer.Tree
