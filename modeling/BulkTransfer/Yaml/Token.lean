import BulkTransfer.Text.Utf8
import BulkTransfer.Yaml.Error
/-!
# Lexemes of YAML

The tokens of a YAML text and the rules for each lexeme on its own: scalars in their five notations,
tags, anchors and directives. Line ends are unified beforehand, so a line ends at `\n` or at one of
the two Unicode separators.
-/
namespace BulkTransfer.Yaml

inductive ScalarStyle where
  | plain
  | quoted
  | literal
  | folded
  deriving DecidableEq, Repr

inductive Token where
  | version (major minor : Nat)
  | tagDirective (handle expansion : String)
  | documentStart
  | documentEnd
  | blockListStart
  | blockMapStart
  | blockEnd
  | flowListStart
  | flowListEnd
  | flowMapStart
  | flowMapEnd
  | blockEntry
  | flowEntry
  | key
  | value
  | aliasOf (name : String)
  | anchor (name : String)
  | tag (handle suffix : String)
  | scalar (style : ScalarStyle) (text : String)
  deriving DecidableEq, Repr

/-- A place in the text; columns count characters from zero. -/
structure Place where
  line : Nat
  column : Nat
  index : Nat
  deriving DecidableEq, Repr

def isBreak (c : Char) : Bool := c = '\n' || c.toNat = 0x2028 || c.toNat = 0x2029

/-- Blanks within a line. -/
def isGap (c : Char) : Bool := c = ' ' || c = '\t'

/-- The letters of names. -/
def isWordChar (c : Char) : Bool := c.isAlphanum || c = '_' || c = '-'

/-- At a blank, at a line end or at the end of the text. -/
def atGapOrEnd : List Char → Bool
  | [] => true
  | c :: _ => isGap c || isBreak c

/-- At a line end or at the end of the text. -/
def atLineEnd : List Char → Bool
  | [] => true
  | c :: _ => isBreak c

/-- Three dashes or three dots that stand alone: a document starts or ends. -/
def atDocumentMark : List Char → Bool
  | '-' :: '-' :: '-' :: rest => atGapOrEnd rest
  | '.' :: '.' :: '.' :: rest => atGapOrEnd rest
  | _ => false

def Place.after (p : Place) (c : Char) : Place :=
  if isBreak c then ⟨p.line + 1, 0, p.index + 1⟩ else ⟨p.line, p.column + 1, p.index + 1⟩

/-- The text ahead and the place where it starts. -/
structure Cursor where
  rest : List Char
  place : Place
  deriving Repr

namespace Cursor

def skip (c : Cursor) : Nat → Cursor
  | 0 => c
  | n + 1 =>
    match c.rest with
    | [] => c
    | ch :: rest => skip ⟨rest, c.place.after ch⟩ n

/-- The longest run of characters of a class, and what follows. -/
def span (c : Cursor) (p : Char → Bool) : List Char × Cursor :=
  let run := c.rest.takeWhile p
  (run, c.skip run.length)

def skipWhile (c : Cursor) (p : Char → Bool) : Cursor := (c.span p).2

end Cursor

/-- The characters that a text may hold. -/
def isAllowed (c : Char) : Bool :=
  let n := c.toNat
  n == 0x09 || n == 0x0A || n == 0x0D || (0x20 ≤ n && n ≤ 0x7E) || n == 0x85 ||
    (0xA0 ≤ n && n ≤ 0xD7FF) || (0xE000 ≤ n && n ≤ 0xFFFD) || 0x10000 ≤ n

/-- Every line end of the text as `\n`, the Unicode separators apart. -/
def unifyBreaks : List Char → List Char
  | '\r' :: '\n' :: rest => '\n' :: unifyBreaks rest
  | c :: rest => (if c = '\r' || c.toNat = 0x85 then '\n' else c) :: unifyBreaks rest
  | [] => []

abbrev Lexing := Except YamlFault

/-- What waits between two words of a scalar: blanks of one line, or line breaks. -/
inductive Pause where
  | gaps (reversed : List Char)
  | breaks (first : Option Char) (laterReversed : List Char)

/-- The text of a scalar over several lines, reversed, and the pause at its end. A single line break
becomes a space; of several, the first is dropped. -/
structure Folding where
  text : List Char
  pause : Pause

namespace Folding

def empty : Folding := ⟨[], .gaps []⟩

/-- The pause becomes part of the text. -/
def join (f : Folding) : Folding :=
  match f.pause with
  | .gaps gaps => ⟨gaps ++ f.text, .gaps []⟩
  | .breaks (some '\n') [] => ⟨' ' :: f.text, .gaps []⟩
  | .breaks (some '\n') later => ⟨later ++ f.text, .gaps []⟩
  | .breaks first later => ⟨later ++ first.toList ++ f.text, .gaps []⟩

def add (f : Folding) (c : Char) : Folding := { f.join with text := c :: f.join.text }

def gap (f : Folding) (c : Char) : Folding :=
  match f.pause with
  | .gaps gaps => { f with pause := .gaps (c :: gaps) }
  | .breaks _ _ => f

def lineBreak (f : Folding) (c : Char) : Folding :=
  match f.pause with
  | .gaps _ => { f with pause := .breaks (some c) [] }
  | .breaks first later => { f with pause := .breaks first (c :: later) }

def isPaused (f : Folding) : Bool :=
  match f.pause with
  | .gaps [] => false
  | _ => true

def isOnNewLine (f : Folding) : Bool :=
  match f.pause with
  | .gaps _ => false
  | .breaks _ _ => true

def result (f : Folding) : String := String.ofList f.text.reverse

end Folding

section Plain

def isFlowIndicator (c : Char) : Bool := c ∈ [',', '[', ']', '\x7b', '\x7d']

def endsPlain (inFlow : Bool) (c : Char) (rest : List Char) : Bool :=
  (c = ':' && atGapOrEnd rest) || (inFlow && isFlowIndicator c)

def isStrayColon (inFlow : Bool) (c : Char) (rest : List Char) : Bool :=
  inFlow && c = ':' &&
    match rest with
    | next :: _ => next = '?' || isFlowIndicator next
    | [] => false

/-- A scalar without quotes. It ends at an indicator, at a comment, or on a line that is indented
less than `margin`. -/
def lexPlain (inFlow : Bool) (margin : Nat) :
    List Char → Place → Folding → Lexing (Folding × Cursor)
  | [], place, f => .ok (f, ⟨[], place⟩)
  | c :: rest, place, f =>
    let done : Lexing (Folding × Cursor) := .ok (f, ⟨c :: rest, place⟩)
    if isGap c then
      if f.isOnNewLine && place.column < margin && c = '\t' then .error .tabInIndentation
      else lexPlain inFlow margin rest (place.after c) (f.gap c)
    else if isBreak c then lexPlain inFlow margin rest (place.after c) (f.lineBreak c)
    else if f.isPaused && (c = '#' || (!inFlow && place.column < margin)) then done
    else if place.column = 0 && f.isPaused && atDocumentMark (c :: rest) then done
    else if isStrayColon inFlow c rest then .error .strayColon
    else if endsPlain inFlow c rest then done
    else lexPlain inFlow margin rest (place.after c) (f.add c)

end Plain

section Quoted

/-- A scalar in single quotes, behind the opening quote; a quote inside is written twice. -/
def lexSingleQuoted : List Char → Place → Folding → Lexing (String × Cursor)
  | [], _, _ => .error .unclosedQuote
  | '\'' :: '\'' :: rest, place, f =>
    lexSingleQuoted rest ((place.after '\'').after '\'') (f.add '\'')
  | c :: rest, place, f =>
    if place.column = 0 && atDocumentMark (c :: rest) then .error .unclosedQuote
    else if c = '\'' then .ok (f.join.result, ⟨rest, place.after c⟩)
    else lexSingleQuoted rest (place.after c)
      (if isGap c then f.gap c else if isBreak c then f.lineBreak c else f.add c)

def hexValue? (digits : List Char) : Option Nat :=
  digits.foldlM
    (fun acc c =>
      if c.isDigit then some (acc * 16 + (c.toNat - 0x30))
      else if 'a' ≤ c ∧ c ≤ 'f' then some (acc * 16 + (c.toNat - 0x61 + 10))
      else if 'A' ≤ c ∧ c ≤ 'F' then some (acc * 16 + (c.toNat - 0x41 + 10))
      else none)
    0

/-- The escapes of a single letter. -/
def shortEscapes : List (Char × Nat) :=
  [('0', 0), ('a', 7), ('b', 8), ('t', 9), ('\t', 9), ('n', 10), ('v', 11), ('f', 12), ('r', 13),
    ('e', 27), (' ', 32), ('"', 34), ('/', 47), ('\\', 92), ('N', 0x85), ('_', 0xA0),
    ('L', 0x2028), ('P', 0x2029)]

/-- The number of hexadecimal digits behind a letter. -/
def escapeWidths : List (Char × Nat) := [('x', 2), ('u', 4), ('U', 8)]

/-- The character of an escape and the digits it takes behind its letter. -/
def escape? (letter : Char) (rest : List Char) : Option (Char × Nat) :=
  match shortEscapes.lookup letter, escapeWidths.lookup letter with
  | some code, _ => some (Char.ofNat code, 0)
  | none, some width =>
    let digits := rest.take width
    if digits.length < width then none
    else match hexValue? digits with
      | some code => if code.isValidChar then some (Char.ofNat code, width) else none
      | none => none
  | none, none => none

/-- A scalar in double quotes, behind the opening quote; `skip` characters belong to the escape
already read. -/
def lexDoubleQuoted : List Char → Place → Folding → Nat → Lexing (String × Cursor)
  | [], _, _, _ => .error .unclosedQuote
  | c :: rest, place, f, skip + 1 => lexDoubleQuoted rest (place.after c) f skip
  | c :: rest, place, f, 0 =>
    let place' := place.after c
    if place.column = 0 && atDocumentMark (c :: rest) then .error .unclosedQuote
    else if c = '"' then .ok (f.join.result, ⟨rest, place'⟩)
    else if c = '\\' then
      match rest with
      | [] => .error .badEscape
      | letter :: more =>
        if isBreak letter then
          lexDoubleQuoted rest place' { f.join with pause := .breaks none [] } 1
        else match escape? letter more with
          | some (char, width) => lexDoubleQuoted rest place' (f.add char) (width + 1)
          | none => .error .badEscape
    else lexDoubleQuoted rest place'
      (if isGap c then f.gap c else if isBreak c then f.lineBreak c else f.add c) 0

end Quoted

section Block

/-- What the header of a block scalar says about the line breaks at its end. -/
inductive Chomping where
  | strip
  | clip
  | keep
  deriving DecidableEq, Repr

structure BlockHeader where
  chomping : Chomping
  indent : Option Nat

def chomping? (c : Char) : Option Chomping :=
  if c = '+' then some .keep else if c = '-' then some .strip else none

def indent? (c : Char) : Option Nat := if c.isDigit then some (c.toNat - 0x30) else none

/-- The marks of a header, an indentation and a chomping mark in either order, and their number. -/
def headerMarks : List Char → BlockHeader × Nat
  | a :: b :: _ =>
    match chomping? a, indent? a, chomping? b, indent? b with
    | some chomping, _, _, some n => (⟨chomping, some n⟩, 2)
    | some chomping, _, _, none => (⟨chomping, none⟩, 1)
    | none, some n, some chomping, _ => (⟨chomping, some n⟩, 2)
    | none, some n, none, _ => (⟨.clip, some n⟩, 1)
    | none, none, _, _ => (⟨.clip, none⟩, 0)
  | [a] =>
    match chomping? a, indent? a with
    | some chomping, _ => (⟨chomping, none⟩, 1)
    | none, some n => (⟨.clip, some n⟩, 1)
    | none, none => (⟨.clip, none⟩, 0)
  | [] => (⟨.clip, none⟩, 0)

/-- The header behind the indicator, with the rest of its line. -/
def lexBlockHeader (c : Cursor) : Lexing (BlockHeader × Cursor) := do
  let (header, size) := headerMarks c.rest
  if header.indent = some 0 then throw .badBlockHeader
  let c := (c.skip size).skipWhile isGap
  let c := if c.rest.head? = some '#' then c.skipWhile (!isBreak ·) else c
  if !atLineEnd c.rest then throw .badBlockHeader
  return (header, c.skip 1)

/-- The text of a block scalar so far, all parts reversed: finished text, the break of the last line
and the empty lines after it. -/
structure BlockText where
  text : List Char
  lineBreak : List Char
  emptyLines : List Char
  /-- Whether the last line starts with a blank; such lines are not folded. -/
  startsBlank : Bool

namespace BlockText

/-- A line starts with `c`: the breaks before it become part of the text. -/
def startLine (b : BlockText) (isFolded : Bool) (c : Char) : BlockText :=
  let joined :=
    if isFolded && b.lineBreak = ['\n'] && !b.startsBlank && !isGap c then
      if b.emptyLines.isEmpty then [' '] else []
    else b.lineBreak
  ⟨b.emptyLines ++ joined ++ b.text, [], [], isGap c⟩

def result (b : BlockText) (chomping : Chomping) : String :=
  let ending := match chomping with
    | .strip => []
    | .clip => b.lineBreak
    | .keep => b.emptyLines ++ b.lineBreak
  String.ofList (ending ++ b.text).reverse

end BlockText

/-- Where the reading of a block scalar stands: in the margin of a line, with the widest margin seen
so far, or in its text. -/
inductive BlockPosition where
  | margin (widest : Nat)
  | text

/-- The lines of a block scalar. Without an indentation in the header the first line with content
decides it, and it is deeper than `least`. -/
def lexBlockLines (isFolded : Bool) (least : Nat) :
    List Char → Place → BlockPosition → Option Nat → BlockText → Lexing (BlockText × Cursor)
  | [], place, _, _, b => .ok (b, ⟨[], place⟩)
  | c :: rest, place, .text, indent, b =>
    if isBreak c then
      lexBlockLines isFolded least rest (place.after c) (.margin 0) indent
        { b with lineBreak := [c] }
    else
      lexBlockLines isFolded least rest (place.after c) .text indent
        { b with text := c :: b.text }
  | c :: rest, place, .margin widest, indent, b =>
    let widest := max widest place.column
    let inMargin := match indent with
      | none => true
      | some n => place.column < n
    if inMargin && c = ' ' then
      lexBlockLines isFolded least rest (place.after c) (.margin widest) indent b
    else if inMargin && c = '\t' then .error .tabInIndentation
    else if isBreak c then
      lexBlockLines isFolded least rest (place.after c) (.margin widest) indent
        { b with emptyLines := c :: b.emptyLines }
    else
      let decided := indent.getD (max (max widest least) 1)
      if place.column = decided then
        let started := b.startLine isFolded c
        lexBlockLines isFolded least rest (place.after c) .text (some decided)
          { started with text := c :: started.text }
      else .ok (b, ⟨c :: rest, place⟩)

/-- A block scalar behind its indicator, in a block whose items are deeper than `parent`. -/
def lexBlockScalar (isFolded : Bool) (parent : Int) (c : Cursor) :
    Lexing (String × Cursor) := do
  let (header, c) ← lexBlockHeader c
  let indent := header.indent.map fun n => if parent ≥ 0 then parent.toNat + n else n
  let (b, c) ← lexBlockLines isFolded (parent + 1).toNat c.rest c.place (.margin 0) indent
    ⟨[], [], [], false⟩
  return (b.result header.chomping, c)

end Block

section Names

/-- The name of an anchor or an alias, behind its indicator. -/
def lexName (c : Cursor) : Lexing (String × Cursor) := do
  let (name, c) := c.span isWordChar
  let isEnded := match c.rest with
    | [] => true
    | ch :: _ => atGapOrEnd [ch] || ch ∈ ['?', ':', ',', ']', '\x7d', '%', '@', '\x60']
  if name.isEmpty || !isEnded then throw .badAnchor
  return (String.ofList name, c)

def isUriChar (isVerbatim : Bool) (c : Char) : Bool :=
  isWordChar c ||
    c ∈ [';', '/', '?', ':', '@', '&', '=', '+', '$', '.', '%', '!', '~', '*', '\'', '(', ')'] ||
    (isVerbatim && c ∈ [',', '[', ']'])

def hexByte? (a b : Char) : Option UInt8 := (hexValue? [a, b]).map UInt8.ofNat

/-- The bytes of a tag, in which `%` and two digits stand for a byte. -/
def unescapeUri : List Char → Option Bytes
  | [] => some []
  | '%' :: a :: b :: rest => do
    let byte ← hexByte? a b
    return byte :: (← unescapeUri rest)
  | '%' :: _ => none
  | c :: rest => (unescapeUri rest).map (Utf8.encode (String.singleton c) ++ ·)

/-- The characters of a tag behind its handle; `head` is what was already read of them. -/
def lexUri (isVerbatim : Bool) (head : List Char) (c : Cursor) : Lexing (String × Cursor) := do
  let (uri, c) := c.span (isUriChar isVerbatim)
  if head.isEmpty && uri.isEmpty then throw .badTag
  match (unescapeUri uri).map Utf8.decode with
  | some (.ok text) => return (String.ofList (head.drop 1) ++ text, c)
  | _ => throw .badTag

/-- A handle: `!`, `!!` or `!name!`; outside a directive also the start of a local tag. -/
def lexTagHandle (inDirective : Bool) (c : Cursor) : Lexing (List Char × Cursor) := do
  if c.rest.head? ≠ some '!' then throw .badTag
  let (word, c) := (c.skip 1).span isWordChar
  if c.rest.head? = some '!' then return ('!' :: word ++ ['!'], c.skip 1)
  if inDirective && !word.isEmpty then throw .badTag
  return ('!' :: word, c)

/-- A tag in one of its forms: verbatim, with a handle, local, or the lone mark. -/
def lexTag (inFlow : Bool) (c : Cursor) : Lexing (Token × Cursor) := do
  let (token, c) ← do
    if (c.rest.drop 1).head? = some '<' then
      let (uri, c) ← lexUri true [] (c.skip 2)
      if c.rest.head? ≠ some '>' then throw .badTag
      pure (Token.tag "" uri, c.skip 1)
    else
      let (handle, c) ← lexTagHandle false c
      if handle.length > 1 && handle.getLast? = some '!' then
        let (suffix, c) ← lexUri false [] c
        pure (Token.tag (String.ofList handle) suffix, c)
      else
        let (suffix, c) ← lexUri false handle c
        pure (if suffix.isEmpty then Token.tag "" "!" else Token.tag "!" suffix, c)
  if atGapOrEnd c.rest || (inFlow && c.rest.head? = some ',') then return (token, c)
  throw .badTag

/-- Nothing but a comment may follow on the line; the line end is taken too. -/
def lexLineEnd (fault : YamlFault) (c : Cursor) : Lexing Cursor := do
  let c := c.skipWhile isGap
  let c := if c.rest.head? = some '#' then c.skipWhile (!isBreak ·) else c
  if atLineEnd c.rest then return c.skip 1
  throw fault

def lexVersionNumber (c : Cursor) : Lexing (Nat × Cursor) := do
  let (digits, c) := c.span Char.isDigit
  if digits.isEmpty || digits.length > 9 then throw .badDirective
  return (digits.foldl (fun acc d => acc * 10 + (d.toNat - 0x30)) 0, c)

def lexDirectiveValue (name : String) (c : Cursor) : Lexing (Token × Cursor) := do
  match name with
  | "YAML" =>
    let (major, c) ← lexVersionNumber (c.skipWhile isGap)
    if c.rest.head? ≠ some '.' then throw .badDirective
    let (minor, c) ← lexVersionNumber (c.skip 1)
    return (.version major minor, c)
  | "TAG" =>
    let (handle, c) ← lexTagHandle true (c.skipWhile isGap)
    if !(c.rest.head?.any isGap) then throw .badDirective
    let (expansion, c) ← lexUri true [] (c.skipWhile isGap)
    if !atGapOrEnd c.rest then throw .badDirective
    return (.tagDirective (String.ofList handle) expansion, c)
  | _ => throw .badDirective

/-- A directive with its whole line. -/
def lexDirective (c : Cursor) : Lexing (Token × Cursor) := do
  let (name, c) := (c.skip 1).span isWordChar
  if name.isEmpty || !atGapOrEnd c.rest then throw .badDirective
  let (token, c) ← lexDirectiveValue (String.ofList name) c
  return (token, ← lexLineEnd .badDirective c)

end Names

end BulkTransfer.Yaml
