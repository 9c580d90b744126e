import BulkTransfer.Config.Document
import BulkTransfer.Disk.Basic
import BulkTransfer.Yaml.Form
import BulkTransfer.Yaml.Writer
/-!
# Documents in files

A document is kept as YAML or as JSON; the extension of its file says which.
-/
namespace BulkTransfer

inductive DocumentFormat where
  | yaml
  | json
  deriving DecidableEq, Repr

def DocumentFormat.ofPath? (path : String) : Option DocumentFormat :=
  match (Path.extension? path).map lowerAscii with
  | some "yml" | some "yaml" => some .yaml
  | some "json" => some .json
  | _ => none

namespace Document

def ofYaml (text : String) : Except ConfigError Document :=
  match Tree.ofYaml .any text with
  | .ok tree => ofTree tree
  | .error cause => .error (.yaml cause)

def parse (format : DocumentFormat) (text : String) : Except ConfigError Document :=
  match format with
  | .yaml => ofYaml text
  | .json => ofJson text

/-- The document on lines of its own, in a format. -/
def render (d : Document) (format : DocumentFormat) : String :=
  match format with
  | .yaml => d.toTree.yaml
  | .json => d.toTree.wide

def loadFile (disk : Disk) (path : String) : Except ConfigError Document × Disk :=
  match DocumentFormat.ofPath? path with
  | none => (.error (.unsupportedFormat path), disk)
  | some format =>
    match disk.readText path with
    | (.ok text, disk) => (parse format text, disk)
    | (.error cause, disk) => (.error (.unreadable path cause), disk)

end Document

end BulkTransfer
