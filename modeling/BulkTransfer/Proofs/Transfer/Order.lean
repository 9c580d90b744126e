import BulkTransfer.Proofs.Local.Listing
import BulkTransfer.Proofs.Plugin.Frozen
import BulkTransfer.Proofs.Plugin.Opening
import BulkTransfer.Transfer.Plugins
/-!
# Orders

What a config of the built-in plugins asks for: files of labelled fields, read with columns that may
be renamed, and either written as comma-separated records or forgotten. The transactions of these
plugins freeze just that, in a fresh transfer as in a resumed one.
-/
namespace BulkTransfer

section Settings

def Ltsv.settings (config : Config) : Attempt (Options × Schema) := do
  let options ← Attempt.ofConfig (config.load Options.shape)
  return (options, ← Attempt.ofSchema options.columns.toSchema)

def Csv.settings (config : Config) (s : Schema) : Attempt (Options × Dialect) := do
  let options ← Attempt.ofConfig (config.load Options.shape)
  Attempt.ofConfig (options.validate s)
  return (options, ← Attempt.ofConfig options.dialect)

namespace Rename

def renamed (config : Config) (s : Schema) : Attempt Schema := do
  let options ← Attempt.ofConfig (config.load Options.shape)
  Attempt.ofSchema (s.rename (List.lookup · options.columns))

/-- The columns behind all filters. -/
def through : List Config → Schema → Attempt Schema
  | [], s => .ok s
  | config :: rest, s => do through rest (← renamed config s)

end Rename

end Settings

/-- Where files are looked for, and how they are read. -/
structure Source where
  search : LocalInput.Search
  parserConfig : Config
  options : Ltsv.Options
  schema : Schema

namespace Source

def ofConfig (config : Config) : Attempt Source := do
  let search ← Attempt.ofConfig (config.load LocalInput.Search.shape)
  let parserConfig ← TransferPlugins.section? config "parser"
  let (options, schema) ← Ltsv.settings parserConfig
  return ⟨search, parserConfig, options, schema⟩

theorem ofConfig_ok {config : Config} {s : Source} (h : ofConfig config = .ok s) :
    config.load LocalInput.Search.shape = .ok s.search ∧
      TransferPlugins.section? config "parser" = .ok s.parserConfig ∧
        Ltsv.settings s.parserConfig = .ok (s.options, s.schema) := by
  obtain ⟨search, loaded, h⟩ := Attempt.of_bind h
  obtain ⟨parserConfig, named, h⟩ := Attempt.of_bind h
  obtain ⟨⟨options, schema⟩, made, h⟩ := Attempt.of_bind h
  cases h
  exact ⟨Attempt.of_mapError loaded, named, made⟩

variable (s : Source) (files : List String)

def listing : LocalInput.Files := ⟨files, s.search.lastPath⟩

def task : Task :=
  (FileBasedInputTask.mk [] s.parserConfig (s.listing files).toTask [] s.options.toTask).toTask

end Source

inductive Destination where
  | files (naming : LocalOutput.Naming) (formatterConfig : Config) (options : Csv.Options)
    (dialect : Csv.Dialect)
  /-- The records are counted and forgotten. -/
  | nothing

namespace Destination

def ofConfig (config : Config) (s : Schema) : Attempt Destination := do
  let type ← Attempt.ofConfig (config.require "type" .string)
  if type = "file" then
    let naming ← Attempt.ofConfig (config.load LocalOutput.Naming.shape)
    let formatterConfig ← TransferPlugins.section? config "formatter"
    let (options, dialect) ← Csv.settings formatterConfig s
    return .files naming formatterConfig options dialect
  else if type = "null" then return .nothing
  else throw (.unknownPlugin .output type)

theorem ofConfig_ok {config : Config} {s : Schema} {destination : Destination}
    (h : ofConfig config s = .ok destination) :
    (config.require "type" .string = .ok "file" ∧ ∃ naming formatterConfig options dialect,
        destination = .files naming formatterConfig options dialect ∧
          config.load LocalOutput.Naming.shape = .ok naming ∧
            TransferPlugins.section? config "formatter" = .ok formatterConfig ∧
              Csv.settings formatterConfig s = .ok (options, dialect)) ∨
      config.require "type" .string = .ok "null" ∧ destination = .nothing := by
  obtain ⟨type, named, h⟩ := Attempt.of_bind h
  have named := Attempt.of_mapError named
  dsimp only at h
  split at h
  · rename_i file
    subst file
    obtain ⟨naming, loaded, h⟩ := Attempt.of_bind h
    obtain ⟨formatterConfig, given, h⟩ := Attempt.of_bind h
    obtain ⟨⟨options, dialect⟩, made, h⟩ := Attempt.of_bind h
    cases h
    exact .inl ⟨named, naming, formatterConfig, options, dialect, rfl, Attempt.of_mapError loaded,
      given, made⟩
  · split at h
    · rename_i null
      subst null
      cases h
      exact .inr ⟨named, rfl⟩
    · cases h

def task : Destination → Task
  | files naming formatterConfig options _ =>
    (FileBasedOutputTask.mk [] formatterConfig naming.toTask [] options.toTask).toTask
  | nothing => Document.empty

/-- What becomes of the reports of the tasks. -/
def diff : Destination → List Report → Attempt Report
  | files _ _ _ _, _ => .ok Document.empty
  | nothing, reports =>
    (Counting.total reports).map fun n => Document.empty.set "records" (.ofInt n)

end Destination

/-- What a transfer is to do with the files that its input has found. -/
structure Order where
  source : Source
  files : List String
  schema : Schema
  destination : Destination

namespace Order

def ofConfig (config : Config) (files : List String) : Attempt Order := do
  let source ← Source.ofConfig (← TransferPlugins.section? config "in")
  let filters ← Attempt.ofConfig (config.nestedList "filters")
  let schema ← Rename.through filters source.schema
  let destination ← Destination.ofConfig (← TransferPlugins.section? config "out") schema
  return ⟨source, files, schema, destination⟩

theorem ofConfig_ok {config : Config} {files : List String} {o : Order}
    (h : ofConfig config files = .ok o) : o.files = files ∧
      ∃ inputConfig outputConfig filters, TransferPlugins.section? config "in" = .ok inputConfig ∧
        TransferPlugins.section? config "out" = .ok outputConfig ∧
          config.nestedList "filters" = .ok filters ∧ Source.ofConfig inputConfig = .ok o.source ∧
            Rename.through filters o.source.schema = .ok o.schema ∧
              Destination.ofConfig outputConfig o.schema = .ok o.destination := by
  obtain ⟨inputConfig, given, h⟩ := Attempt.of_bind h
  obtain ⟨source, read, h⟩ := Attempt.of_bind h
  obtain ⟨filters, listed, h⟩ := Attempt.of_bind h
  obtain ⟨schema, passed, h⟩ := Attempt.of_bind h
  obtain ⟨outputConfig, wanted, h⟩ := Attempt.of_bind h
  obtain ⟨destination, written, h⟩ := Attempt.of_bind h
  cases h
  exact ⟨rfl, inputConfig, outputConfig, filters, given, wanted, Attempt.of_mapError listed, read,
    passed, written⟩

end Order

end BulkTransfer
