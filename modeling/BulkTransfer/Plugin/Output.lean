import BulkTransfer.Plugin.Sink
import BulkTransfer.Plugin.Transaction
/-!
# Filters and outputs

The plugins between the input and the output, and those on the writing side.
-/
namespace BulkTransfer

structure FilterRequest where
  task : Task
  schema : Schema

structure FilterPlugin where
  transaction : Config → Schema → Transaction FilterRequest Unit Unit
  openTask : Task → (input output : Schema) → Attempt FilterStage

structure OutputPlugin where
  transaction : Config → Schema → Nat → Transaction Task (List Report) Report
  resume : Task → Schema → Nat → Transaction Task (List Report) Report
  cleanup : Task → Schema → Nat → List Report → Action (Attempt Unit)
  openTask : Task → Schema → Nat → Attempt PageOutput

structure FileOutputPlugin where
  transaction : Config → Nat → Transaction Task (List Report) Report
  resume : Task → Nat → Transaction Task (List Report) Report
  cleanup : Task → Nat → List Report → Action (Attempt Unit)
  openTask : Task → Nat → Attempt FileOutput

/-- Changes the bytes of a formatter before they are written. -/
structure EncoderPlugin where
  transaction : Config → Transaction Task Unit Unit
  openTask : Task → FileOutput → Attempt FileOutput

/-- Turns records into bytes. -/
structure FormatterPlugin where
  transaction : Config → Schema → Transaction Task Unit Unit
  openTask : Task → Schema → FileOutput → Attempt PageOutput

end BulkTransfer
