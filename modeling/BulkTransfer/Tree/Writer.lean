import BulkTransfer.Tree.Basic
import BulkTransfer.Number.Style
import BulkTransfer.Text.Hex
/-!
# Trees as JSON text

The compact form has no blanks; the wide form puts each item on a line of its own, two blanks
deeper than its container.
-/
namespace BulkTransfer.Tree

/-- Quotes, backslashes and control characters are escaped, everything else stands for itself. -/
def escapeChar (c : Char) : List Char :=
  if c = '"' then ['\\', '"']
  else if c = '\\' then ['\\', '\\']
  else if c = '\n' then ['\\', 'n']
  else if c = '\r' then ['\\', 'r']
  else if c = '\t' then ['\\', 't']
  else if c.toNat = 8 then ['\\', 'b']
  else if c.toNat = 12 then ['\\', 'f']
  else if c.toNat < 32 then
    ['\\', 'u', '0', '0', hexDigit (c.toNat / 16), hexDigit (c.toNat % 16)]
  else [c]

def quote (text : String) : String :=
  "\"" ++ String.ofList (text.toList.flatMap escapeChar) ++ "\""

def numberText : Number → String
  | .int n => toString n
  | .double x => DoubleStyle.json.write x

/-- The text of a value that holds no other, or of an empty container. -/
def leafText : Tree → String
  | .null => "null"
  | .bool true => "true"
  | .bool false => "false"
  | .num n => numberText n
  | .str s => quote s
  | .arr _ => "[]"
  | .obj _ => "\x7b\x7d"

mutual

def compact : Tree → String
  | .arr items => "[" ++ compactItems items ++ "]"
  | .obj entries => "\x7b" ++ compactEntries entries ++ "\x7d"
  | leaf => leafText leaf

def compactItems : List Tree → String
  | [] => ""
  | [item] => compact item
  | item :: rest => compact item ++ "," ++ compactItems rest

def compactEntries : List (String × Tree) → String
  | [] => ""
  | [(key, value)] => quote key ++ ":" ++ compact value
  | (key, value) :: rest => quote key ++ ":" ++ compact value ++ "," ++ compactEntries rest

end

def indent (depth : Nat) : String := "\n" ++ String.ofList (List.replicate (2 * depth) ' ')

mutual

def wideAt (depth : Nat) : Tree → String
  | .arr (item :: rest) =>
    "[" ++ indent (depth + 1) ++ wideAt (depth + 1) item ++ wideItems (depth + 1) rest ++
      indent depth ++ "]"
  | .obj ((key, value) :: rest) =>
    "\x7b" ++ indent (depth + 1) ++ quote key ++ ": " ++ wideAt (depth + 1) value ++
      wideEntries (depth + 1) rest ++ indent depth ++ "\x7d"
  | leaf => leafText leaf

def wideItems (depth : Nat) : List Tree → String
  | [] => ""
  | item :: rest => "," ++ indent depth ++ wideAt depth item ++ wideItems depth rest

def wideEntries (depth : Nat) : List (String × Tree) → String
  | [] => ""
  | (key, value) :: rest =>
    "," ++ indent depth ++ quote key ++ ": " ++ wideAt depth value ++ wideEntries depth rest

end

def wide (tree : Tree) : String := wideAt 0 tree

end BulkTransfer.Tree
