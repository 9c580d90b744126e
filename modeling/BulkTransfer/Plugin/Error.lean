import BulkTransfer.Config.Error
import BulkTransfer.Page.Error
/-!
# Plugin errors

What can go wrong in a plugin, in a transaction or in a task.
-/
namespace BulkTransfer

inductive PluginKind where
  | input
  | fileInput
  | decoder
  | parser
  | filter
  | output
  | fileOutput
  | encoder
  | formatter
  deriving DecidableEq, Repr

def PluginKind.name : PluginKind → String
  | input => "input"
  | fileInput => "file input"
  | decoder => "decoder"
  | parser => "parser"
  | filter => "filter"
  | output => "output"
  | fileOutput => "file output"
  | encoder => "encoder"
  | formatter => "formatter"

inductive PluginError where
  | io (cause : IoError)
  | config (cause : ConfigError)
  | page (cause : PageError)
  | schema (cause : SchemaError)
  | invalidFormat (text : String)
  | invalidRecord (text : String)
  | tasksFailed (failed total : Nat)
  | cancelled
  | unknownPlugin (kind : PluginKind) (name : String)
  /-- A file operation that the system refused. -/
  | file (path : String) (cause : IoError)
  | panicked (text : String)
  | other (text : String)
  deriving Repr

def PluginError.message : PluginError → String
  | io cause => "I/O error: " ++ cause.message
  | config cause => "Config error: " ++ cause.message
  | page cause => "Page error: " ++ cause.message
  | schema cause => "Schema error: " ++ cause.message
  | invalidFormat text => "Invalid format: " ++ text
  | invalidRecord text => "Invalid record: " ++ text
  | tasksFailed failed total => toString failed ++ " of " ++ toString total ++ " tasks failed"
  | cancelled => "Task was cancelled before it started"
  | unknownPlugin kind name => "Unknown " ++ kind.name ++ " plugin '" ++ name ++ "'"
  | file path cause => "I/O error on '" ++ path ++ "': " ++ cause.message
  | panicked text =>
    "task panicked: task N panicked with message \"" ++ text ++ "\""
  | other text => text

/-- A computation that a plugin may refuse. -/
abbrev Attempt := Except PluginError

namespace Attempt

def ofConfig {α : Type} (r : Except ConfigError α) : Attempt α := r.mapError .config

def ofPage {α : Type} (r : Except PageError α) : Attempt α := r.mapError .page

def ofSchema {α : Type} (r : Except SchemaError α) : Attempt α := r.mapError .schema

/-- The refusal of an operation on the file at a path. -/
def ofFile {α : Type} (path : String) (r : Except IoError α) : Attempt α := r.mapError (.file path)

end Attempt

end BulkTransfer
