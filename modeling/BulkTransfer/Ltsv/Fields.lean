/-!
# Labelled fields

A line of labelled tab-separated values: fields between tabs, each a label and a value with a colon
between them. Tabs in a row count as one, and only the first colon of a field divides it.
-/
namespace BulkTransfer.Ltsv

structure Field where
  label : String
  value : String
  deriving DecidableEq, Repr

/-- A part of a line without a colon. -/
structure FieldFault where
  part : String
  deriving DecidableEq, Repr

def FieldFault.message (f : FieldFault) : String :=
  "cannot split field '" ++ f.part ++ "' by separator ':'"

/-- The parts of a line between tabs, without the empty ones; `part` is the current one reversed. -/
def partsFrom : List Char → (part : List Char) → List (List Char)
  | [], part => if part.isEmpty then [] else [part.reverse]
  | c :: rest, part =>
    if c = '\t' then
      if part.isEmpty then partsFrom rest [] else part.reverse :: partsFrom rest []
    else partsFrom rest (c :: part)

/-- A part divided at its first colon. -/
def divide (part : List Char) : Except FieldFault Field :=
  let label := part.takeWhile (· ≠ ':')
  match part.drop label.length with
  | _ :: value => .ok ⟨String.ofList label, String.ofList value⟩
  | [] => .error ⟨String.ofList part⟩

/-- The fields of a line, up to the first part that is none. -/
def splitFields (line : String) : Except FieldFault (List Field) :=
  (partsFrom line.toList []).mapM divide

end BulkTransfer.Ltsv
