import BulkTransfer.Config.Shape
import BulkTransfer.Csv.Writer
import BulkTransfer.Page.Reader
import BulkTransfer.Plugin.Output
/-!
# The formatter for comma-separated records

One file for each task, with the names of the columns as its first line unless they are not wanted.
-/
namespace BulkTransfer.Csv

/-- What may be said about a column: the format of its timestamps. -/
structure ColumnOption where
  format : Option String
  deriving DecidableEq, Repr

namespace ColumnOption

def format? : Decoder (Option String) := Decoder.optional Decoder.string

def decode : Decoder ColumnOption := fun tree => do
  let found ← Decoder.record "ColumnOption" [.defaulted "format" format?] tree
  return ⟨← Decoder.field found "format" format? (.ok none)⟩

def toTree (o : ColumnOption) : Tree := .obj [("format", o.format.elim .null .str)]

end ColumnOption

structure Options where
  delimiter : String
  hasHeader : Bool
  nullText : String
  newline : Newline
  /-- By column name, in the order of the names. -/
  columnOptions : List (String × ColumnOption)
  deriving Repr

namespace Options

def columnTable : Decoder (List (String × ColumnOption)) :=
  Decoder.table ColumnOption.decode

def fields : List RecordField :=
  [.defaulted "delimiter" Decoder.string, .defaulted "header_line" Decoder.bool,
    .defaulted "null_string" Decoder.string, .defaulted "newline" Newline.decode,
    .defaulted "column_options" columnTable]

def decode : Decoder Options := fun tree => do
  let found ← Decoder.record "CsvFormatterTask" fields tree
  return ⟨← Decoder.field found "delimiter" Decoder.string (.ok ","),
    ← Decoder.field found "header_line" Decoder.bool (.ok true),
    ← Decoder.field found "null_string" Decoder.string (.ok ""),
    ← Decoder.field found "newline" Newline.decode (.ok .crlf),
    ← Decoder.field found "column_options" columnTable (.ok [])⟩

def shape : Shape Options :=
  ⟨[.optional "delimiter" .string, .optional "header_line" .bool, .optional "null_string" .string,
    (Setting.optional "newline" .string).checkedAs Newline.decode,
    (Setting.optional "column_options" .object).checkedAs columnTable], decode⟩

def toTask (o : Options) : Task :=
  ⟨[("delimiter", .str o.delimiter), ("header_line", .bool o.hasHeader),
    ("null_string", .str o.nullText), ("newline", o.newline.toTree),
    ("column_options", .obj (o.columnOptions.map fun (name, option) => (name, option.toTree)))]⟩

/-- The delimiter has to be a single byte. -/
def dialect (o : Options) : Except ConfigError Dialect :=
  match o.delimiter.toList with
  | [c] =>
    if c.toNat < 128 then .ok ⟨c, o.newline⟩ else .error fault
  | _ => .error fault
where
  fault : ConfigError :=
    .invalid ["delimiter must be a single byte, found '" ++ o.delimiter ++ "'"]

/-- Options are accepted for the columns of the schema alone. -/
def validate (o : Options) (schema : Schema) : Except ConfigError Unit := do
  let _ ← o.dialect
  let unknown := (o.columnOptions.map Prod.fst).filter fun name => (schema.lookup? name).isNone
  if unknown.isEmpty then return ()
  else throw (.invalid (unknown.map fun name =>
    "column_options refers to unknown column '" ++ name ++ "'"))

def formatOf (o : Options) (c : Column) : Option String :=
  (o.columnOptions.lookup c.name).bind ColumnOption.format

end Options

/-- The text of a column of a record. JSON is written as it was stored. -/
def fieldText (o : Options) (r : Record) (c : Column) : Attempt String := do
  let text ← match c.type with
    | .boolean => do
      pure ((← Attempt.ofPage (r.boolean? c.index)).map fun b => if b then "true" else "false")
    | .long => do pure ((← Attempt.ofPage (r.long? c.index)).map fun n => toString n.toInt)
    | .double => do
      pure ((← Attempt.ofPage (r.double? c.index)).map DoubleStyle.plain.write)
    | .string => Attempt.ofPage (r.string? c.index)
    | .json => Attempt.ofPage (r.jsonText? c.index)
    | .timestamp => do
      match ← Attempt.ofPage (r.timestamp? c.index) with
      | none => pure none
      | some i =>
        match Timestamp.write i (o.formatOf c) with
        | .ok text => pure (some text)
        | .error fault => throw (.invalidRecord fault.message)
  return text.getD o.nullText

def rowTexts (o : Options) (schema : Schema) (r : Record) : Attempt (List String) :=
  schema.columns.mapM (fieldText o r)

/-- All records of a page as one text. -/
def pageText (o : Options) (d : Dialect) (schema : Schema) (page : Page) : Attempt String := do
  return writeRecords d (← (page.records schema).mapM (rowTexts o schema))

def headerText (d : Dialect) (schema : Schema) : String :=
  writeRecord d (schema.columns.map Column.name)

/-- Writes pages into a file output; everything else is left to it. -/
def pageSink {σ : Type} (o : Options) (d : Dialect) (schema : Schema) (files : FileSink σ) :
    PageSink σ where
  start := do
    files.nextFile
    if o.hasHeader then files.add (Utf8.encode (headerText d schema))
  add := fun page => do
    let text ← Call.ofAttempt (pageText o d schema page)
    files.add (Utf8.encode text)
  finish := files.finish
  commit := files.commit
  abort := files.abort
  close := files.close

/-- The sink of a frozen task over a file sink. -/
def sinkOf {σ : Type} (task : Task) (schema : Schema) (files : FileSink σ) :
    Attempt (PageSink σ) := do
  let o ← Attempt.ofConfig (task.loadTask Options.decode)
  let d ← Attempt.ofConfig o.dialect
  return pageSink o d schema files

def openTask (task : Task) (schema : Schema) (output : FileOutput) : Attempt PageOutput :=
  match sinkOf task schema output.sink with
  | .ok sink => .ok ⟨output.State, sink, output.initial⟩
  | .error e => .error e

def transaction (config : Config) (schema : Schema) : Transaction Task Unit Unit :=
  let options := do
    let o ← config.load Options.shape
    o.validate schema
    return o
  match options with
  | .error e => Transaction.finish (.error (.config e))
  | .ok o => Transaction.call o.toTask .done

def formatter : FormatterPlugin := ⟨transaction, openTask⟩

end BulkTransfer.Csv
