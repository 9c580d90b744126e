import BulkTransfer.Ltsv.Fields
import BulkTransfer.Schema.ColumnList
import BulkTransfer.Config.Shape
import BulkTransfer.Text.Lines
/-!
# The parser for labelled fields

Every line that is not empty becomes a record. The field of a column is found by its position or, if
the order may be irregular, by its label; a missing field, an empty value and the null text are
null. A page never holds records of two files.
-/
namespace BulkTransfer.Ltsv

structure Options where
  columns : ColumnList
  nullText : Option String
  allowsAnyOrder : Bool
  newline : Newline
  deriving Repr

namespace Options

def nullText? : Decoder (Option String) := Decoder.optional Decoder.string

def fields : List RecordField :=
  [.required "columns" ColumnList.decode, .defaulted "null_string" nullText?,
    .defaulted "allow_irregular_column_order" Decoder.bool, .defaulted "newline" Newline.decode]

def decode : Decoder Options := fun tree => do
  let found ← Decoder.record "LtsvTask" fields tree
  return ⟨← Decoder.field found "columns" ColumnList.decode,
    ← Decoder.field found "null_string" nullText? (.ok (some "null")),
    ← Decoder.field found "allow_irregular_column_order" Decoder.bool (.ok false),
    ← Decoder.field found "newline" Newline.decode (.ok .lf)⟩

def shape : Shape Options :=
  ⟨[(Setting.required "columns" .array).checkedAs ColumnList.decode,
    .optional "null_string" .string, .optional "allow_irregular_column_order" .bool,
    (Setting.optional "newline" .string).checkedAs Newline.decode], decode⟩

def toTask (o : Options) : Task :=
  ⟨[("columns", o.columns.toTree), ("null_string", o.nullText.elim .null .str),
    ("allow_irregular_column_order", .bool o.allowsAnyOrder), ("newline", o.newline.toTree)]⟩

end Options

/-- The texts that stand for true; any other one is false. -/
def trueTexts : List String :=
  ["true", "True", "TRUE", "yes", "Yes", "YES", "y", "Y", "on", "On", "ON", "1"]

/-- The field of a column; of several with its label, the last one. -/
def fieldOf (o : Options) (fields : List Field) (c : Column) : Option Field :=
  if o.allowsAnyOrder then fields.reverse.find? (·.label = c.name) else fields[c.index]?

/-- The text of a column, if it is not null. -/
def textOf (o : Options) (fields : List Field) (c : Column) : Option String :=
  match fieldOf o fields c with
  | some f => if f.value.isEmpty ∨ o.nullText = some f.value then none else some f.value
  | none => none

/-- The cell for a text in a column; `format` is that of its timestamps. -/
def cellOf (type : ColumnType) (format : Option String) (text : String) : Except String Cell :=
  match type with
  | .boolean => .ok (.boolean (text ∈ trueTexts))
  | .string => .ok (.string text)
  | .long =>
    match IntegerRange.signed64.read text with
    | .ok n => .ok (.long (Int64.ofInt n))
    | .error fault => .error fault.message
  | .double =>
    match Double.read text with
    | .ok x => .ok (.double x)
    | .error fault => .error fault.message
  | .timestamp =>
    match Timestamp.read text format with
    | .ok i => .ok (.timestamp i)
    | .error fault => .error fault.message
  | .json =>
    match Tree.read text with
    | .ok tree => .ok (.json tree)
    | .error fault => .error fault.message

def conversionMessage (c : Column) (text reason : String) : String :=
  "column '" ++ c.name ++ "' (" ++ c.type.name ++ "): cannot parse '" ++ text ++ "': " ++ reason

/-- The cell of a column in a line. -/
def columnCell (o : Options) (fields : List Field) (c : Column) : Attempt Cell :=
  match textOf o fields c with
  | none => .ok .null
  | some text =>
    match cellOf c.type (o.columns.formatOf c.index) text with
    | .ok cell => .ok cell
    | .error reason => .error (.invalidRecord (conversionMessage c text reason))

/-- Adds the record of a line. -/
def addLine (o : Options) (schema : Schema) (line : String) : Building Unit := do
  let fields ← Building.ofAttempt
    ((splitFields line).mapError fun fault => .invalidFormat fault.message)
  for c in schema.columns do
    Building.set c.index (← Building.ofAttempt (columnCell o fields c))
  Building.addRecord

/-- Adds the records of a file, up to the first line that is bad. -/
def addLines (o : Options) (schema : Schema) (lines : List (Attempt String)) : Building Unit := do
  for line in lines do
    let line ← Building.ofAttempt line
    if !line.isEmpty then addLine o schema line

/-- Reads the files one after the other. -/
def readFiles (o : Options) (schema : Schema)
    (files : List (Action (Attempt (List Poll)))) : Building Unit := do
  for opening in files do
    let polls ← Building.ofAction opening
    addLines o schema (Lines.ofPolls o.newline polls)
    Building.flush

def run (task : Task) (schema : Schema) (input : FileInput) : Feed (Attempt Unit) :=
  match Attempt.ofConfig (task.loadTask Options.decode) with
  | .error e => .done (.error e)
  | .ok o => Building.build schema true (readFiles o schema input.files)

def transaction (config : Config) : Transaction ParserRequest Unit Unit :=
  match config.load Options.shape with
  | .error e => Transaction.finish (.error (.config e))
  | .ok o =>
    match o.columns.toSchema with
    | .error e => Transaction.finish (.error (.schema e))
    | .ok schema => Transaction.call ⟨o.toTask, schema⟩ .done

def parser : ParserPlugin := ⟨transaction, run⟩

end BulkTransfer.Ltsv
