import BulkTransfer.Disk.Error
import BulkTransfer.Tree.Decode
import BulkTransfer.Tree.Reader
import BulkTransfer.Yaml.Error
/-!
# Configuration errors

What can be wrong with a document or with one of its values.
-/
namespace BulkTransfer

/-- A text that is no JSON, or a value of another shape than the wanted one. -/
inductive JsonError where
  | malformed (cause : Tree.ReadError)
  | mismatched (cause : DecodeError)
  deriving Repr

def JsonError.message : JsonError → String
  | malformed cause => cause.message
  | mismatched cause => cause.message

inductive ConfigError where
  | missing (key : String)
  | typeMismatch (key expected found : String)
  | notAnObject (key : String)
  | invalid (violations : List String)
  | json (cause : JsonError)
  | yaml (cause : YamlFault)
  | unsupportedFormat (path : String)
  | unreadable (path : String) (cause : IoError)
  deriving Repr

def ConfigError.message : ConfigError → String
  | missing key => "Missing required config key '" ++ key ++ "'"
  | typeMismatch key expected found =>
    "Config key '" ++ key ++ "' expected " ++ expected ++ ", found " ++ found
  | notAnObject key => "Config value for '" ++ key ++ "' is not an object"
  | invalid violations => "Invalid configuration: " ++ "; ".intercalate violations
  | json cause => "JSON error: " ++ cause.message
  | yaml cause => "YAML error: " ++ cause.message
  | unsupportedFormat path => "Unsupported config format: " ++ path
  | unreadable path cause =>
    "Failed to read config file '" ++ path ++ "': " ++ cause.message

end BulkTransfer
