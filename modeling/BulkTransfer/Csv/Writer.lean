import BulkTransfer.Text.Newline
/-!
# Comma-separated records

Fields between delimiters, records ended by a line end. A field is put in quotes when it holds the
delimiter, a quote or any line end, and quotes inside it are written twice. A record that would be
empty is written as an empty quoted field.
-/
namespace BulkTransfer.Csv

structure Dialect where
  delimiter : Char
  newline : Newline
  deriving DecidableEq, Repr

def needsQuotes (d : Dialect) (field : String) : Bool :=
  field.toList.any fun c => c = d.delimiter || c = '"' || c = '\r' || c = '\n'

def doubled : List Char → List Char
  | [] => []
  | c :: rest => if c = '"' then '"' :: '"' :: doubled rest else c :: doubled rest

def writeField (d : Dialect) (field : String) : String :=
  if needsQuotes d field then "\"" ++ String.ofList (doubled field.toList) ++ "\"" else field

def writeRecord (d : Dialect) (fields : List String) : String :=
  let line := (String.singleton d.delimiter).intercalate (fields.map (writeField d))
  (if line.isEmpty then "\"\"" else line) ++ d.newline.separator

def writeRecords (d : Dialect) (records : List (List String)) : String :=
  String.join (records.map (writeRecord d))

end BulkTransfer.Csv
