import BulkTransfer.Plugin.Input
import BulkTransfer.Plugin.Output
/-!
# The registry

The plugins that a config can name, by kind. Of two with the same name the first one counts.
-/
namespace BulkTransfer

structure Registry where
  inputs : List (String × InputPlugin) := []
  fileInputs : List (String × FileInputPlugin) := []
  decoders : List (String × DecoderPlugin) := []
  parsers : List (String × ParserPlugin) := []
  filters : List (String × FilterPlugin) := []
  outputs : List (String × OutputPlugin) := []
  fileOutputs : List (String × FileOutputPlugin) := []
  encoders : List (String × EncoderPlugin) := []
  formatters : List (String × FormatterPlugin) := []

namespace Registry

/-- The plugins of both; those of the first one come first. -/
def append (a b : Registry) : Registry where
  inputs := a.inputs ++ b.inputs
  fileInputs := a.fileInputs ++ b.fileInputs
  decoders := a.decoders ++ b.decoders
  parsers := a.parsers ++ b.parsers
  filters := a.filters ++ b.filters
  outputs := a.outputs ++ b.outputs
  fileOutputs := a.fileOutputs ++ b.fileOutputs
  encoders := a.encoders ++ b.encoders
  formatters := a.formatters ++ b.formatters

universe u

/-- The plugin of a name. -/
def find {α : Type u} (plugins : List (String × α)) (kind : PluginKind) (name : String) :
    Attempt α :=
  match plugins.lookup name with
  | some plugin => .ok plugin
  | none => .error (.unknownPlugin kind name)

/-- The plugin that a config names as its type. -/
def findTyped {α : Type u} (plugins : List (String × α)) (kind : PluginKind) (config : Config) :
    Attempt α :=
  match config.require "type" .string with
  | .ok name => find plugins kind name
  | .error e => .error (.config e)

/-- The plugins that a list of configs names, up to the first that is not there. -/
def findAll {α : Type u} (plugins : List (String × α)) (kind : PluginKind) :
    List Config → Attempt (List α)
  | [] => .ok []
  | config :: rest =>
    match findTyped plugins kind config with
    | .error e => .error e
    | .ok plugin =>
      match findAll plugins kind rest with
      | .ok others => .ok (plugin :: others)
      | .error e => .error e

end Registry

end BulkTransfer
