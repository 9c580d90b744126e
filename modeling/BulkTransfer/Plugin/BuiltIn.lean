import BulkTransfer.Csv.Formatter
import BulkTransfer.Local.Input
import BulkTransfer.Local.Output
import BulkTransfer.Ltsv.Parser
import BulkTransfer.Plugin.Registry
import BulkTransfer.Record.Counting
import BulkTransfer.Record.Rename
/-!
# Built-in plugins

The plugins that every transfer can use, with the names that a config gives them.
-/
namespace BulkTransfer

def Registry.builtIn : Registry where
  fileInputs := [("file", LocalInput.plugin)]
  parsers := [("ltsv", Ltsv.parser)]
  filters := [("rename", Rename.filter)]
  outputs := [("stdout", Counting.stdout), ("null", Counting.null)]
  fileOutputs := [("file", LocalOutput.plugin)]
  formatters := [("csv", Csv.formatter)]

end BulkTransfer
