import BulkTransfer.Plugin.FileBased
/-!
# The plugins of a transfer

The plugins that a config names in its sections `in`, `filters` and `out`. A name that is registered
as a whole input or output wins; otherwise it names a file input or output with its parts.
-/
namespace BulkTransfer

structure FilterChoice where
  plugin : FilterPlugin
  config : Config

structure TransferPlugins where
  input : InputPlugin
  inputConfig : Config
  filters : List FilterChoice
  output : OutputPlugin
  outputConfig : Config

namespace TransferPlugins

def section? (config : Config) (key : String) : Attempt Config :=
  match config.nested key with
  | .ok (some nested) => .ok nested
  | .ok none => .error (.config (.missing key))
  | .error e => .error (.config e)

def chooseInput (registry : Registry) (config : Config) : Attempt InputPlugin :=
  match config.require "type" .string with
  | .error e => .error (.config e)
  | .ok name =>
    match registry.inputs.lookup name with
    | some plugin => .ok plugin
    | none => (FileBasedInput.resolve registry config).map FileBasedInput.toInputPlugin

def chooseOutput (registry : Registry) (config : Config) : Attempt OutputPlugin :=
  match config.require "type" .string with
  | .error e => .error (.config e)
  | .ok name =>
    match registry.outputs.lookup name with
    | some plugin => .ok plugin
    | none => (FileBasedOutput.resolve registry config).map FileBasedOutput.toOutputPlugin

def chooseFilters (registry : Registry) : List Config → Attempt (List FilterChoice)
  | [] => .ok []
  | config :: rest =>
    match Registry.findTyped registry.filters .filter config with
    | .error e => .error e
    | .ok plugin =>
      match chooseFilters registry rest with
      | .ok others => .ok (⟨plugin, config⟩ :: others)
      | .error e => .error e

def resolve (registry : Registry) (config : Config) : Attempt TransferPlugins :=
  match section? config "in", section? config "out", config.nestedList "filters" with
  | .error e, _, _ => .error e
  | _, .error e, _ => .error e
  | _, _, .error e => .error (.config e)
  | .ok inputConfig, .ok outputConfig, .ok filterConfigs =>
    match chooseFilters registry filterConfigs with
    | .error e => .error e
    | .ok filters =>
      match chooseInput registry inputConfig, chooseOutput registry outputConfig with
      | .error e, _ => .error e
      | _, .error e => .error e
      | .ok input, .ok output => .ok ⟨input, inputConfig, filters, output, outputConfig⟩

end TransferPlugins

end BulkTransfer
