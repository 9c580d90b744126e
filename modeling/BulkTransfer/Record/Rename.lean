import BulkTransfer.Config.Shape
import BulkTransfer.Plugin.Output
/-!
# Renaming columns

A filter that gives columns new names. Types and order stay, so pages pass as they are.
-/
namespace BulkTransfer.Rename

/-- New names by old names. -/
structure Options where
  columns : List (String × String)
  deriving Repr

namespace Options

def names : Decoder (List (String × String)) := Decoder.table Decoder.string

def decode : Decoder Options := fun tree => do
  let found ← Decoder.record "RenameTask" [.defaulted "columns" names] tree
  return ⟨← Decoder.field found "columns" names (.ok [])⟩

def shape : Shape Options := ⟨[.optional "columns" .object], decode⟩

def toTask (o : Options) : Task :=
  ⟨[("columns", .obj (o.columns.map fun (old, new) => (old, .str new)))]⟩

end Options

def transaction (config : Config) (schema : Schema) :
    Transaction FilterRequest Unit Unit :=
  match config.load Options.shape with
  | .error e => Transaction.finish (.error (.config e))
  | .ok o =>
    match schema.rename (List.lookup · o.columns) with
    | .error e => Transaction.finish (.error (.schema e))
    | .ok renamed => Transaction.call ⟨o.toTask, renamed⟩ .done

def filter : FilterPlugin := ⟨transaction, fun _ _ _ => .ok .passing⟩

end BulkTransfer.Rename
