import BulkTransfer.Proofs.Transfer.OpeningOrders
/-!
# The built-in plugins of a transfer

With the built-in plugins, every config that names plugins at all reads local files of labelled
fields, renames columns, and writes local files of comma-separated records or counts what it gets.
-/
namespace BulkTransfer

variable {config : Config}

namespace Registry

universe u

variable {α : Type u} {kind : PluginKind}

/-- A name that is registered alone. -/
theorem findTyped_single {name : String} {plugin found : α}
    (h : findTyped [(name, plugin)] kind config = .ok found) :
    config.require "type" .string = .ok name ∧ found = plugin := by
  unfold findTyped at h
  split at h
  · rename_i given required
    rw [required]
    unfold find at h
    by_cases same : given = name
    · subst same
      simp only [List.lookup_cons_self] at h
      cases h
      exact ⟨rfl, rfl⟩
    · simp [List.lookup_cons, beq_eq_false_iff_ne.mpr same] at h
  · cases h

/-- A name that stands for some plugin alone stands for any other alone. -/
theorem findTyped_replaced (name : String) (plugin other : α) :
    findTyped [(name, other)] kind config =
      (findTyped [(name, plugin)] kind config).map fun _ => other := by
  unfold findTyped
  cases config.require "type" .string with
  | error e => rfl
  | ok given =>
    dsimp only
    unfold find
    by_cases same : given = name
    · subst same
      rw [List.lookup_cons_self, List.lookup_cons_self]
      rfl
    · simp only [List.lookup_cons, beq_eq_false_iff_ne.mpr same]
      rfl

theorem findAll_none {configs : List Config} {found : List α}
    (h : findAll [] kind configs = .ok found) : configs = [] ∧ found = [] := by
  cases configs with
  | nil =>
    cases h
    exact ⟨rfl, rfl⟩
  | cons first rest =>
    unfold findAll findTyped find at h
    cases required : first.require "type" .string <;> simp [required] at h

end Registry

/-- The built-in plugins, with files read in other pieces. -/
def Registry.cutting (cut : LocalInput.Cutting) : Registry :=
  { Registry.builtIn with fileInputs := [("file", cut.plugin)] }

theorem Registry.cutting_regular : Registry.cutting .regular = Registry.builtIn := rfl

theorem FileBasedInput.resolve_cutting (cut : LocalInput.Cutting) (config : Config) :
    resolve (Registry.cutting cut) config =
    (resolve Registry.builtIn config).map fun _ => cutting cut := by
  have files : Registry.findTyped (Registry.cutting cut).fileInputs .fileInput config =
      (Registry.findTyped Registry.builtIn.fileInputs .fileInput config).map fun _ => cut.plugin :=
    Registry.findTyped_replaced "file" LocalInput.plugin cut.plugin
  have decoders : (Registry.cutting cut).decoders = Registry.builtIn.decoders := rfl
  have parsers : (Registry.cutting cut).parsers = Registry.builtIn.parsers := rfl
  unfold resolve
  rw [files, decoders, parsers]
  cases Registry.findTyped Registry.builtIn.fileInputs .fileInput config with
  | error e => rfl
  | ok _ =>
    simp only [Except.map]
    cases config.nestedList "decoders" with
    | error e => rfl
    | ok configs =>
      dsimp only
      cases found : Registry.findAll Registry.builtIn.decoders .decoder configs with
      | error e => rfl
      | ok none =>
        obtain ⟨-, rfl⟩ := Registry.findAll_none found
        dsimp only
        split
        · rfl
        · cases named : Registry.findTyped Registry.builtIn.parsers .parser ‹Config› with
          | error e => rfl
          | ok parser =>
            obtain ⟨-, rfl⟩ := Registry.findTyped_single named
            rfl

/-- What the plugins of a transfer can be when they are built in, but for the pieces in which files
are read. -/
structure TransferPlugins.IsBuiltIn (plugins : TransferPlugins) (config : Config) : Prop where
  input : ∃ cut, plugins.input = (FileBasedInput.cutting cut).toInputPlugin
  inputConfig : section? config "in" = .ok plugins.inputConfig
  decoders : plugins.inputConfig.nestedList "decoders" = .ok []
  filterConfigs : config.nestedList "filters" = .ok (plugins.filters.map FilterChoice.config)
  filters : ∀ f ∈ plugins.filters, f.plugin = Rename.filter
  outputConfig : section? config "out" = .ok plugins.outputConfig
  output : (plugins.outputConfig.require "type" .string = .ok "file" ∧
      plugins.outputConfig.nestedList "encoders" = .ok [] ∧
        plugins.output = FileBasedOutput.builtIn.toOutputPlugin) ∨
    (plugins.outputConfig.require "type" .string = .ok "null" ∧ plugins.output = Counting.null) ∨
      (plugins.outputConfig.require "type" .string = .ok "stdout" ∧
        plugins.output = Counting.stdout)

namespace TransferPlugins

variable {cut : LocalInput.Cutting}

section Outputs

variable {plugins : TransferPlugins}

theorem IsBuiltIn.output_files (b : plugins.IsBuiltIn config)
    (type : plugins.outputConfig.require "type" .string = .ok "file") :
    plugins.output = FileBasedOutput.builtIn.toOutputPlugin ∧
      plugins.outputConfig.nestedList "encoders" = .ok [] := by
  rcases b.output with ⟨-, plain, output⟩ | ⟨other, -⟩ | ⟨other, -⟩
  · exact ⟨output, plain⟩
  · simp [type] at other
  · simp [type] at other

theorem IsBuiltIn.output_null (b : plugins.IsBuiltIn config)
    (type : plugins.outputConfig.require "type" .string = .ok "null") :
    plugins.output = Counting.null := by
  rcases b.output with ⟨other, -⟩ | ⟨-, output⟩ | ⟨other, -⟩
  · simp [type] at other
  · exact output
  · simp [type] at other

end Outputs

theorem chooseFilters_builtIn {configs : List Config} {filters : List FilterChoice}
    (h : chooseFilters (Registry.cutting cut) configs = .ok filters) :
    configs = filters.map FilterChoice.config ∧ ∀ f ∈ filters, f.plugin = Rename.filter := by
  induction configs generalizing filters with
  | nil =>
    cases h
    exact ⟨rfl, by simp⟩
  | cons config rest ih =>
    unfold chooseFilters at h
    split at h
    · cases h
    · rename_i plugin named
      split at h
      · rename_i others chosen
        cases h
        obtain ⟨rfl, all⟩ := ih chosen
        refine ⟨rfl, fun f hf => ?_⟩
        rcases List.mem_cons.mp hf with rfl | hf
        · exact (Registry.findTyped_single named).2
        · exact all f hf
      · cases h

theorem chooseInput_builtIn {plugin : InputPlugin}
    (h : chooseInput (Registry.cutting cut) config = .ok plugin) :
    plugin = (FileBasedInput.cutting cut).toInputPlugin ∧ config.nestedList "decoders" = .ok [] := by
  unfold chooseInput at h
  split at h
  · cases h
  · change (FileBasedInput.resolve (Registry.cutting cut) config).map _ = _ at h
    unfold FileBasedInput.resolve at h
    split at h
    · cases h
    · rename_i fileInput files
      split at h
      · cases h
      · rename_i configs listed
        split at h
        · cases h
        · rename_i decoders found
          obtain ⟨rfl, rfl⟩ := Registry.findAll_none found
          split at h
          · cases h
          · split at h
            · cases h
            · rename_i parser parsers
              cases h
              rw [(Registry.findTyped_single files).2, (Registry.findTyped_single parsers).2]
              exact ⟨rfl, listed⟩

theorem chooseOutput_builtIn {plugin : OutputPlugin}
    (h : chooseOutput (Registry.cutting cut) config = .ok plugin) :
    (config.require "type" .string = .ok "file" ∧ config.nestedList "encoders" = .ok [] ∧
        plugin = FileBasedOutput.builtIn.toOutputPlugin) ∨
      (config.require "type" .string = .ok "null" ∧ plugin = Counting.null) ∨
        (config.require "type" .string = .ok "stdout" ∧ plugin = Counting.stdout) := by
  unfold chooseOutput at h
  split at h
  · cases h
  · rename_i name required
    rw [required]
    by_cases printed : name = "stdout"
    · subst printed
      cases h
      exact .inr (.inr ⟨rfl, rfl⟩)
    · by_cases counted : name = "null"
      · subst counted
        cases h
        exact .inr (.inl ⟨rfl, rfl⟩)
      · refine .inl ?_
        have other : (Registry.cutting cut).outputs.lookup name = none := by
          simp [Registry.cutting, Registry.builtIn, List.lookup_cons, beq_eq_false_iff_ne.mpr printed,
            beq_eq_false_iff_ne.mpr counted]
        rw [other] at h
        dsimp only at h
        unfold FileBasedOutput.resolve at h
        split at h
        · cases h
        · rename_i fileOutput files
          obtain ⟨type, rfl⟩ := Registry.findTyped_single files
          split at h
          · cases h
          · rename_i configs listed
            split at h
            · cases h
            · rename_i encoders found
              obtain ⟨rfl, rfl⟩ := Registry.findAll_none found
              split at h
              · cases h
              · split at h
                · cases h
                · rename_i formatter formatters
                  cases h
                  rw [(Registry.findTyped_single formatters).2]
                  exact ⟨required.symm.trans type, listed, rfl⟩

theorem resolve_cutting {plugins : TransferPlugins}
    (h : resolve (Registry.cutting cut) config = .ok plugins) :
    plugins.input = (FileBasedInput.cutting cut).toInputPlugin ∧ plugins.IsBuiltIn config := by
  unfold resolve at h
  split at h
  · cases h
  · cases h
  · cases h
  · rename_i inputConfig outputConfig filterConfigs given delivered listed
    split at h
    · cases h
    · rename_i filters chosen
      split at h
      · cases h
      · cases h
      · rename_i input output readers writers
        cases h
        obtain ⟨rfl, renames⟩ := chooseFilters_builtIn chosen
        obtain ⟨rfl, decoders⟩ := chooseInput_builtIn readers
        exact ⟨rfl, ⟨cut, rfl⟩, given, decoders, listed, renames, delivered,
          chooseOutput_builtIn writers⟩

theorem resolve_builtIn {plugins : TransferPlugins}
    (h : resolve Registry.builtIn config = .ok plugins) : plugins.IsBuiltIn config :=
  (resolve_cutting (Registry.cutting_regular ▸ h)).2

section Pieces

variable (cut) (config)

/-- The same plugins, with files read in other pieces. -/
def reading (plugins : TransferPlugins) (cut : LocalInput.Cutting) : TransferPlugins :=
  { plugins with input := (FileBasedInput.cutting cut).toInputPlugin }

theorem chooseInput_cutting : chooseInput (Registry.cutting cut) config =
    (chooseInput Registry.builtIn config).map fun _ => (FileBasedInput.cutting cut).toInputPlugin := by
  unfold chooseInput
  cases config.require "type" .string with
  | error e => rfl
  | ok name =>
    change (FileBasedInput.resolve (Registry.cutting cut) config).map _ =
      ((FileBasedInput.resolve Registry.builtIn config).map _).map _
    rw [FileBasedInput.resolve_cutting]
    cases FileBasedInput.resolve Registry.builtIn config <;> rfl

theorem chooseFilters_cutting (configs : List Config) :
    chooseFilters (Registry.cutting cut) configs = chooseFilters Registry.builtIn configs := by
  induction configs with
  | nil => rfl
  | cons config rest ih =>
    rw [chooseFilters, chooseFilters, ih]
    rfl

theorem resolve_reading : resolve (Registry.cutting cut) config =
    (resolve Registry.builtIn config).map (·.reading cut) := by
  unfold resolve
  cases section? config "in" with
  | error e => rfl
  | ok inputConfig =>
    cases section? config "out" with
    | error e => rfl
    | ok outputConfig =>
      cases config.nestedList "filters" with
      | error e => rfl
      | ok filterConfigs =>
        dsimp only
        rw [chooseFilters_cutting, chooseInput_cutting]
        cases chooseFilters Registry.builtIn filterConfigs with
        | error e => rfl
        | ok filters =>
          dsimp only
          cases chooseInput Registry.builtIn inputConfig with
          | error e => rfl
          | ok input =>
            have outputs : chooseOutput (Registry.cutting cut) outputConfig =
              chooseOutput Registry.builtIn outputConfig := rfl
            rw [outputs]
            cases chooseOutput Registry.builtIn outputConfig <;> rfl

end Pieces

end TransferPlugins

end BulkTransfer
