import BulkTransfer.Number.Style
import BulkTransfer.Text.Hex
import BulkTransfer.Tree.Basic
import BulkTransfer.Yaml.Scalar
import BulkTransfer.Yaml.Token
/-!
# Trees as YAML text

Block style with two blanks to a level; the items of a list in a map are not indented further. A
text of several lines is a literal block, one that would be read as something else than a text is
quoted, and lines are never folded.
-/
namespace BulkTransfer.Yaml

/-- The characters that can be written as they are. -/
def isWritable (c : Char) : Bool :=
  let n := c.toNat
  n == 0x0A || (0x20 ≤ n && n ≤ 0x7E) || (0xA0 ≤ n && n ≤ 0xFFFD && n != 0xFEFF) || 0x10000 ≤ n

/-- The quoting that a text asks for on its own, before its characters are looked at. -/
inductive WantedStyle where
  | plain
  | quoted
  | literal
  deriving DecidableEq, Repr

def wantedStyle (text : String) : WantedStyle :=
  if text.toList.contains '\n' then .literal
  else match plain text with
    | .text => if isZeroLed text.toList then .quoted else .plain
    | _ => .quoted

section Analysis

/-- The characters that start no plain text. -/
def leadIndicators : List Char :=
  ['#', ',', '[', ']', '\x7b', '\x7d', '&', '*', '!', '|', '>', '\'', '"', '%', '@', '\x60']

def startsAsIndicator : List Char → Bool
  | [] => false
  | c :: rest =>
    c ∈ leadIndicators || (c ∈ ['?', ':', '-'] && atGapOrEnd rest) ||
      (c :: rest).take 3 ∈ [['-', '-', '-'], ['.', '.', '.']]

/-- A colon before a gap, or a hash behind one. -/
def holdsIndicator : List Char → Bool
  | c :: d :: rest =>
    (d = ':' && atGapOrEnd rest) || (d = '#' && (isGap c || isBreak c)) ||
      holdsIndicator (d :: rest)
  | _ => false

def holdsPair (p q : Char → Bool) : List Char → Bool
  | c :: d :: rest => (p c && q d) || holdsPair p q (d :: rest)
  | _ => false

def isSpace (c : Char) : Bool := c = ' '

/-- Blanks before a line end, and characters that have to be escaped. -/
def needsEscapes (text : List Char) : Bool :=
  holdsPair isSpace isBreak text || !text.all isWritable

def fitsPlain (text : List Char) : Bool :=
  !startsAsIndicator text && !holdsIndicator text && !text.any isBreak &&
    text.head? ≠ some ' ' && text.getLast? ≠ some ' ' && !needsEscapes text

def fitsSingleQuotes (text : List Char) : Bool :=
  !holdsPair isBreak isSpace text && !needsEscapes text

def fitsLiteral (text : List Char) : Bool := text.getLast? ≠ some ' ' && !needsEscapes text

end Analysis

section Scalars

def spaces (n : Nat) : String := String.ofList (List.replicate n ' ')

/-- So many hexadecimal digits in upper case. -/
def hex : Nat → Nat → List Char
  | 0, _ => []
  | width + 1, n => (hexDigit ((n >>> (4 * width)) % 16)).toUpper :: hex width n

def escapeLetters : List (Nat × Char) :=
  [(0, '0'), (7, 'a'), (8, 'b'), (9, 't'), (10, 'n'), (11, 'v'), (12, 'f'), (13, 'r'), (27, 'e'),
    (34, '"'), (92, '\\'), (0x85, 'N'), (0x2028, 'L'), (0x2029, 'P')]

def escapeChar (c : Char) : List Char :=
  let n := c.toNat
  if isWritable c && !isBreak c && c ≠ '"' && c ≠ '\\' then [c]
  else match escapeLetters.lookup n with
    | some letter => ['\\', letter]
    | none =>
      if n ≤ 0xFF then '\\' :: 'x' :: hex 2 n
      else if n ≤ 0xFFFF then '\\' :: 'u' :: hex 4 n
      else '\\' :: 'U' :: hex 8 n

def doubleQuoted (text : List Char) : String :=
  "\"" ++ String.ofList (text.flatMap escapeChar) ++ "\""

/-- Indents the first character of each line that has one; `atStart` says whether a line starts. -/
def indentLines (indent : Nat) (onChar : Char → List Char) :
    (atStart : Bool) → List Char → List Char
  | _, [] => []
  | atStart, c :: rest =>
    if isBreak c then c :: indentLines indent onChar true rest
    else
      (if atStart then List.replicate indent ' ' else []) ++ onChar c ++
        indentLines indent onChar false rest

def endsWithBreak (text : List Char) : Bool := text.getLast?.any isBreak

/-- Quotes inside are written twice; behind a line end the text is indented. -/
def singleQuoted (indent : Nat) (text : List Char) : String :=
  let body := indentLines indent (fun c => if c = '\'' then [c, c] else [c]) false text
  let gap := if endsWithBreak text then spaces indent else ""
  "'" ++ String.ofList body ++ gap ++ "'"

def literalHints (text : List Char) : String :=
  let indentHint := if text.head?.any fun c => c = ' ' || isBreak c then "2" else ""
  let chomping := match text.reverse with
    | a :: b :: _ => if !isBreak a then "-" else if isBreak b then "+" else ""
    | [a] => if isBreak a then "+" else "-"
    | [] => "-"
  indentHint ++ chomping

def literal (indent : Nat) (text : List Char) : String :=
  "|" ++ literalHints text ++ "\n" ++ String.ofList (indentLines indent (fun c => [c]) true text)

/-- A text with the line end behind it; `indent` is that of its further lines. -/
def textLine (indent : Nat) (text : String) : String :=
  let chars := text.toList
  let quoted := if fitsSingleQuotes chars then singleQuoted indent chars else doubleQuoted chars
  match wantedStyle text with
  | .literal =>
    if fitsLiteral chars then
      literal indent chars ++ (if endsWithBreak chars then "" else "\n")
    else doubleQuoted chars ++ "\n"
  | .plain => (if fitsPlain chars then text else quoted) ++ "\n"
  | .quoted => quoted ++ "\n"

/-- The line of a value that holds no other, or of an empty container. -/
def leafLine (indent : Nat) : Tree → String
  | .null => "null\n"
  | .bool b => if b then "true\n" else "false\n"
  | .num (.int n) => toString n ++ "\n"
  | .num (.double x) => DoubleStyle.yaml.write x ++ "\n"
  | .str s => textLine indent s
  | .arr _ => "[]\n"
  | .obj _ => "\x7b\x7d\n"

/-- A key longer than this, or of several lines, is marked as a key. -/
def simpleKeyBytes : Nat := 128

/-- Line ends of every kind. -/
def isLineEnd (c : Char) : Bool := isBreak c || c = '\r' || c.toNat = 0x85

def isSimpleKey (key : String) : Bool :=
  key.utf8ByteSize ≤ simpleKeyBytes && !key.toList.any isLineEnd

def simpleKeyText (key : String) : String :=
  let chars := key.toList
  match wantedStyle key with
  | .plain =>
    if fitsPlain chars then key
    else if fitsSingleQuotes chars then singleQuoted 0 chars
    else doubleQuoted chars
  | _ => if fitsSingleQuotes chars then singleQuoted 0 chars else doubleQuoted chars

/-- What stands before a value: its key, with the colon. -/
def keyLine (indent : Nat) (key : String) : String :=
  if isSimpleKey key then simpleKeyText key ++ ":"
  else "? " ++ textLine (indent + 2) key ++ spaces indent ++ ":"

end Scalars

/-- What stands between an opening mark and a container behind it. In a map with plain keys the
container starts a line of its own. -/
def opening (startsLine : Bool) (indent : Nat) : String :=
  if startsLine then "\n" ++ spaces indent else " "

mutual

/-- The value behind a key or behind the dash of an item. -/
def valueText (startsLine : Bool) (indent : Nat) : Tree → String
  | .obj (entry :: rest) => opening startsLine (indent + 2) ++ mapText (indent + 2) (entry :: rest)
  | .arr (item :: rest) =>
    let inner := if startsLine then indent else indent + 2
    opening startsLine inner ++ listText inner (item :: rest)
  | leaf => " " ++ leafLine (indent + 2) leaf

/-- The lines of a map; the first one stands where the map starts. -/
def mapText (indent : Nat) : List (String × Tree) → String
  | [] => ""
  | [(key, value)] => keyLine indent key ++ valueText (isSimpleKey key) indent value
  | (key, value) :: rest =>
    keyLine indent key ++ valueText (isSimpleKey key) indent value ++ spaces indent ++
      mapText indent rest

def listText (indent : Nat) : List Tree → String
  | [] => ""
  | [item] => "-" ++ valueText false indent item
  | item :: rest => "-" ++ valueText false indent item ++ spaces indent ++ listText indent rest

end

end BulkTransfer.Yaml

namespace BulkTransfer

def Tree.yaml : Tree → String
  | .obj (entry :: rest) => Yaml.mapText 0 (entry :: rest)
  | .arr (item :: rest) => Yaml.listText 0 (item :: rest)
  | leaf => Yaml.leafLine 2 leaf

end BulkTransfer
