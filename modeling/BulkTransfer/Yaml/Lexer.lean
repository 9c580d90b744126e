import BulkTransfer.Yaml.Token
/-!
# Tokens of a YAML text

Tokens are read from the left. Indentation becomes tokens that open and close blocks, and a scalar
that turns out to be a key, because a colon follows it on the same line, has its key token put in
front of it afterwards.
-/
namespace BulkTransfer.Yaml

/-- A token that may turn out to start a key. In a block, the first token of a line that continues a
map has to be one. -/
structure PendingKey where
  tokenIndex : Nat
  place : Place
  isRequired : Bool

/-- A key is on one line and at most 1024 characters long. -/
def PendingKey.isStale (k : PendingKey) (p : Place) : Bool :=
  k.place.line < p.line || k.place.index + 1024 < p.index

structure Lexer where
  cursor : Cursor
  indent : Int
  outerIndents : List Int
  keyAllowed : Bool
  pending : Option PendingKey
  /-- The pending keys around each open flow collection. -/
  outerPending : List (Option PendingKey)
  tokens : Array Token

namespace Lexer

def ofText (text : List Char) : Lexer := ⟨⟨text, ⟨0, 0, 0⟩⟩, -1, [], true, none, [], #[]⟩

def inFlow (l : Lexer) : Bool := !l.outerPending.isEmpty

def place (l : Lexer) : Place := l.cursor.place

def column (l : Lexer) : Int := l.place.column

def push (l : Lexer) (t : Token) : Lexer := { l with tokens := l.tokens.push t }

def insert (l : Lexer) (i : Nat) (t : Token) : Lexer :=
  { l with tokens := l.tokens.insertIdxIfInBounds i t }

/-- Blanks, comments and line ends up to the next token. On a new line of a block a key may start. A
tab is no blank where a key may start. -/
def skipBlanks (inFlow : Bool) : List Char → Place → Bool → Bool → Cursor × Bool
  | [], place, keyAllowed, _ => (⟨[], place⟩, keyAllowed)
  | c :: rest, place, keyAllowed, inComment =>
    if isBreak c then skipBlanks inFlow rest (place.after c) (keyAllowed || !inFlow) false
    else if inComment || c = ' ' || (c = '\t' && (inFlow || !keyAllowed)) ||
        (place.column = 0 && c.toNat = 0xFEFF) then
      skipBlanks inFlow rest (place.after c) keyAllowed inComment
    else if c = '#' then skipBlanks inFlow rest (place.after c) keyAllowed true
    else (⟨c :: rest, place⟩, keyAllowed)

def skipToToken (l : Lexer) : Lexer :=
  let (cursor, keyAllowed) := skipBlanks l.inFlow l.cursor.rest l.place l.keyAllowed false
  { l with cursor, keyAllowed }

def refresh (p : Place) (pending : Option PendingKey) : Lexing (Option PendingKey) :=
  match pending with
  | none => .ok none
  | some k =>
    if !k.isStale p then .ok (some k)
    else if k.isRequired then .error .missingColon
    else .ok none

def dropStaleKeys (l : Lexer) : Lexing Lexer := do
  return { l with
    pending := ← refresh l.place l.pending
    outerPending := ← l.outerPending.mapM (refresh l.place) }

def popIndents (column : Int) : Int → List Int → Nat → Int × List Int × Nat
  | indent, [], closed => (indent, [], closed)
  | indent, outer :: rest, closed =>
    if indent > column then popIndents column outer rest (closed + 1)
    else (indent, outer :: rest, closed)

/-- Closes the blocks that are indented deeper than a column. -/
def closeBlocks (l : Lexer) (column : Int) : Lexer :=
  if l.inFlow then l
  else
    let (indent, outerIndents, closed) := popIndents column l.indent l.outerIndents 0
    { l with
      indent, outerIndents, tokens := l.tokens ++ List.replicate closed Token.blockEnd }

/-- Opens a block at a column deeper than the current one, before token `at_`. -/
def openBlock (l : Lexer) (column : Int) (at_ : Nat) (t : Token) : Lexer :=
  if l.inFlow || column ≤ l.indent then l
  else { l.insert at_ t with indent := column, outerIndents := l.indent :: l.outerIndents }

def forgetKey (l : Lexer) : Lexing Lexer :=
  match l.pending with
  | some k => if k.isRequired then .error .missingColon else .ok { l with pending := none }
  | none => .ok l

/-- The next token may start a key. -/
def noteKey (l : Lexer) : Lexing Lexer := do
  if !l.keyAllowed then return l
  let isRequired := !l.inFlow && l.indent = l.column
  return { ← l.forgetKey with pending := some ⟨l.tokens.size, l.place, isRequired⟩ }

def skip (l : Lexer) (n : Nat) : Lexer := { l with cursor := l.cursor.skip n }

def allowKey (l : Lexer) (keyAllowed : Bool) : Lexer := { l with keyAllowed }

def take (l : Lexer) (t : Token) (cursor : Cursor) : Lexer := { l.push t with cursor }

/-- A mark at the margin that ends every block. -/
def margin (l : Lexer) : Lexing Lexer := do
  return (← (l.closeBlocks (-1)).forgetKey).allowKey false

def flowStart (l : Lexer) (t : Token) : Lexing Lexer := do
  let l ← l.noteKey
  let l := { l with outerPending := l.pending :: l.outerPending, pending := none }
  return ((l.allowKey true).skip 1).push t

def flowEnd (l : Lexer) (t : Token) : Lexing Lexer := do
  let l ← l.forgetKey
  let l := match l.outerPending with
    | pending :: rest => { l with pending, outerPending := rest }
    | [] => l
  return ((l.allowKey false).skip 1).push t

def flowEntry (l : Lexer) : Lexing Lexer := do
  return (((← l.forgetKey).allowKey true).skip 1).push .flowEntry

def blockEntry (l : Lexer) : Lexing Lexer := do
  if !l.inFlow && !l.keyAllowed then throw .entryNotAllowed
  let l := l.openBlock l.column l.tokens.size .blockListStart
  return (((← l.forgetKey).allowKey true).skip 1).push .blockEntry

def keyMark (l : Lexer) : Lexing Lexer := do
  if !l.inFlow && !l.keyAllowed then throw .keyNotAllowed
  let l := l.openBlock l.column l.tokens.size .blockMapStart
  return (((← l.forgetKey).allowKey !l.inFlow).skip 1).push .key

/-- A colon: what was pending was a key. -/
def valueMark (l : Lexer) : Lexing Lexer := do
  match l.pending with
  | some k =>
    let l := l.insert k.tokenIndex .key
    let l := l.openBlock k.place.column k.tokenIndex .blockMapStart
    return (({ l with pending := none }.allowKey false).skip 1).push .value
  | none =>
    if !l.inFlow && !l.keyAllowed then throw .valueNotAllowed
    let l := l.openBlock l.column l.tokens.size .blockMapStart
    return ((l.allowKey !l.inFlow).skip 1).push .value

def aliasName (l : Lexer) : Lexing Lexer := do
  let l ← l.noteKey
  let (name, cursor) ← lexName (l.cursor.skip 1)
  return (l.allowKey false).take (.aliasOf name) cursor

def anchor (l : Lexer) : Lexing Lexer := do
  let l ← l.noteKey
  let (name, cursor) ← lexName (l.cursor.skip 1)
  return (l.allowKey false).take (.anchor name) cursor

def tag (l : Lexer) : Lexing Lexer := do
  let l ← l.noteKey
  let (token, cursor) ← lexTag l.inFlow l.cursor
  return (l.allowKey false).take token cursor

def blockScalar (l : Lexer) (isFolded : Bool) : Lexing Lexer := do
  let l ← l.forgetKey
  let (text, cursor) ← lexBlockScalar isFolded l.indent (l.cursor.skip 1)
  return (l.allowKey true).take (.scalar (if isFolded then .folded else .literal) text) cursor

def quotedScalar (l : Lexer) (isSingle : Bool) : Lexing Lexer := do
  let l ← l.noteKey
  let inside := l.cursor.skip 1
  let (text, cursor) ←
    if isSingle then lexSingleQuoted inside.rest inside.place .empty
    else lexDoubleQuoted inside.rest inside.place .empty 0
  return (l.allowKey false).take (.scalar .quoted text) cursor

/-- Behind a plain scalar that was followed by a line end, a key may start. -/
def plainScalar (l : Lexer) : Lexing Lexer := do
  let l ← l.noteKey
  let (f, cursor) ← lexPlain l.inFlow (l.indent + 1).toNat l.cursor.rest l.place .empty
  return (l.allowKey f.isOnNewLine).take (.scalar .plain f.result) cursor

/-- The characters that start no plain scalar, dashes, question marks and colons apart. -/
def indicators : List Char :=
  [',', '[', ']', '\x7b', '\x7d', '#', '&', '*', '!', '|', '>', '\'', '"', '%', '@', '\x60']

def startsPlain (inFlow : Bool) (c : Char) (rest : List Char) : Bool :=
  if c = '-' then !(rest.head?.any isGap)
  else if c = '?' || c = ':' then !inFlow && !atGapOrEnd rest
  else !isGap c && c ∉ indicators

/-- Reads one token, which starts with `c`. -/
def token (l : Lexer) (c : Char) (rest : List Char) : Lexing Lexer := do
  let standsAlone := atGapOrEnd rest
  if l.column = 0 && c = '%' then
    let l ← l.margin
    let (token, cursor) ← lexDirective l.cursor
    return l.take token cursor
  else if l.column = 0 && atDocumentMark (c :: rest) then
    let l ← l.margin
    return (l.skip 3).push (if c = '-' then .documentStart else .documentEnd)
  else if c = '[' then l.flowStart .flowListStart
  else if c = '\x7b' then l.flowStart .flowMapStart
  else if c = ']' then l.flowEnd .flowListEnd
  else if c = '\x7d' then l.flowEnd .flowMapEnd
  else if c = ',' then l.flowEntry
  else if c = '-' && standsAlone then l.blockEntry
  else if c = '?' && (l.inFlow || standsAlone) then l.keyMark
  else if c = ':' && (l.inFlow || standsAlone) then l.valueMark
  else if c = '*' then l.aliasName
  else if c = '&' then l.anchor
  else if c = '!' then l.tag
  else if c = '|' && !l.inFlow then l.blockScalar false
  else if c = '>' && !l.inFlow then l.blockScalar true
  else if c = '\'' then l.quotedScalar true
  else if c = '"' then l.quotedScalar false
  else if startsPlain l.inFlow c rest then l.plainScalar
  else throw .strayCharacter

/-- Every token takes a character at least, so the length of the text bounds their number. -/
def run : Nat → Lexer → Lexing (List Token)
  | 0, _ => .error .strayCharacter
  | fuel + 1, l => do
    let l ← l.skipToToken.dropStaleKeys
    let l := l.closeBlocks l.column
    match l.cursor.rest with
    | [] => return (← l.margin).tokens.toList
    | c :: rest => run fuel (← l.token c rest)

end Lexer

namespace Token

def ofText (text : String) : Lexing (List Token) :=
  if text.toList.all isAllowed then
    (Lexer.ofText (unifyBreaks text.toList)).run (text.length + 1)
  else .error .controlCharacter

end Token

end BulkTransfer.Yaml
