import BulkTransfer.Plugin.Feed
import BulkTransfer.Plugin.Transaction
/-!
# Inputs

The plugins on the reading side: whole inputs, and the parts that a file-based input is composed of.
-/
namespace BulkTransfer

/-- What reading a piece of a file gave. -/
abbrev Poll := Attempt Bytes

/-- The files of a task. Opening a file gives its pieces in order. -/
structure FileInput where
  files : List (Action (Attempt (List Poll)))
  commit : Action (Attempt Report)
  abort : Action Unit
  close : Action Unit

/-- Changes all bytes on their way from the files. -/
def FileInput.mapBytes (input : FileInput) (f : Bytes → Bytes) : FileInput :=
  { input with
    files := input.files.map fun opening => do
      return (← opening).map fun polls => polls.map (Except.map f) }

structure FileInputRequest where
  task : Task
  taskCount : Nat

structure FileInputPlugin where
  transaction : Config → Transaction FileInputRequest (List Report) Report
  resume : Task → Nat → Transaction FileInputRequest (List Report) Report
  cleanup : Task → Nat → List Report → Action (Attempt Unit)
  openTask : Task → Nat → Attempt FileInput

/-- Changes the bytes of files before they are parsed. -/
structure DecoderPlugin where
  transaction : Config → Transaction Task Unit Unit
  openTask : Task → FileInput → Attempt FileInput

structure ParserRequest where
  task : Task
  schema : Schema

/-- Turns bytes into records. -/
structure ParserPlugin where
  transaction : Config → Transaction ParserRequest Unit Unit
  run : Task → Schema → FileInput → Feed (Attempt Unit)

structure InputRequest where
  task : Task
  schema : Schema
  taskCount : Nat

/-- How the reading of a task ends when it gives no report. -/
inductive RunFault where
  | failed (cause : PluginError)
  | panicked (text : String)
  deriving Repr

structure InputPlugin where
  transaction : Config → Transaction InputRequest (List Report) Report
  resume : Task → Schema → Nat → Transaction InputRequest (List Report) Report
  cleanup : Task → Schema → Nat → List Report → Action (Attempt Unit)
  run : Task → Schema → Nat → Feed (Except RunFault Report)

end BulkTransfer
