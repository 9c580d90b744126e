import BulkTransfer.Proofs.Plugin.Reliance
import BulkTransfer.Proofs.Transfer.BuiltIn
import BulkTransfer.Rehearsal.Plugins
/-!
# Honest plugins

A plugin is honest when its transactions fail after their controls have failed. The built-in plugins are,
and so are those of rehearsals.
-/
namespace BulkTransfer

structure TransferPlugins.AreHonest (plugins : TransferPlugins) : Prop where
  input : ∀ config, (plugins.input.transaction config).IsHonest
  resumedInput : ∀ task schema count, (plugins.input.resume task schema count).IsHonest
  filters : ∀ f ∈ plugins.filters, ∀ schema, (f.plugin.transaction f.config schema).IsHonest
  output : ∀ config schema count, (plugins.output.transaction config schema count).IsHonest
  resumedOutput : ∀ task schema count, (plugins.output.resume task schema count).IsHonest

section BuiltIn

theorem FileBasedInput.around_passes (i : FileBasedInput) (decoderConfigs : List Config)
    (parserConfig : Config) {outer : Transaction FileInputRequest (List Report) Report}
    (h : outer.Passes) : (i.around decoderConfigs parserConfig outer).Passes :=
  h.nest fun _ => .collecting _ _

theorem FileBasedOutput.around_passes (o : FileBasedOutput) (encoderConfigs : List Config)
    (formatterConfig : Config) (schema : Schema) {outer : Transaction Task (List Report) Report}
    (h : outer.Passes) : (o.around encoderConfigs formatterConfig schema outer).Passes :=
  h.nest fun _ => .collecting _ _

theorem LocalInput.resume_passes (task : Task) (count : Nat) : (resume task count).Passes := by
  unfold resume
  cases Files.ofTask task with
  | error e => exact .finish _
  | ok files => exact .callThen _ _

theorem LocalInput.transaction_passes (config : Config) : (transaction config).Passes := by
  unfold transaction
  cases config.load Search.shape with
  | error e => exact .finish _
  | ok search =>
    refine .behind _ fun listed => ?_
    cases listed with
    | error e => exact .finish _
    | ok files => exact resume_passes _ _

theorem LocalOutput.transaction_passes (config : Config) (count : Nat) :
    (transaction config count).Passes := by
  unfold transaction
  cases config.load Naming.shape with
  | error e => exact .finish _
  | ok n =>
    dsimp only
    split
    · exact .callThen _ _
    · exact .callThen _ _
    · refine .behind _ fun made => ?_
      cases made with
      | error cause => exact .finish _
      | ok _ => exact .callThen _ _

theorem Rename.transaction_passes (config : Config) (schema : Schema) :
    (transaction config schema).Passes := by
  unfold transaction
  cases config.load Options.shape with
  | error e => exact .finish _
  | ok o =>
    dsimp only
    cases schema.rename (List.lookup · o.columns) with
    | error e => exact .finish _
    | ok renamed => exact .call_done _

/-- The built-in plugins fail when their controls have. -/
theorem TransferPlugins.IsBuiltIn.honest {plugins : TransferPlugins} {config : Config}
    (b : plugins.IsBuiltIn config) : plugins.AreHonest := by
  obtain ⟨cut, input⟩ := b.input
  have inputs : (∀ config, ((FileBasedInput.cutting cut).transaction config).Passes) ∧
      ∀ task schema count, ((FileBasedInput.cutting cut).resume task schema count).Passes := by
    constructor
    · intro config
      unfold FileBasedInput.transaction
      split
      · exact .finish _
      · exact .finish _
      · exact FileBasedInput.around_passes _ _ _ (LocalInput.transaction_passes _)
    · intro task schema count
      unfold FileBasedInput.resume
      split
      · exact .finish _
      · exact FileBasedInput.around_passes _ _ _ (LocalInput.resume_passes _ _)
  have outputs : (∀ config schema count, (plugins.output.transaction config schema count).Passes) ∧
      ∀ task schema count, (plugins.output.resume task schema count).Passes := by
    rcases b.output with ⟨-, -, output⟩ | ⟨-, output⟩ | ⟨-, output⟩
    · rw [output]
      constructor
      · intro config schema count
        change (FileBasedOutput.builtIn.transaction config schema count).Passes
        unfold FileBasedOutput.transaction
        split
        · exact .finish _
        · exact .finish _
        · exact FileBasedOutput.around_passes _ _ _ _ (LocalOutput.transaction_passes _ _)
      · intro task schema count
        change (FileBasedOutput.builtIn.resume task schema count).Passes
        unfold FileBasedOutput.resume
        split
        · exact .finish _
        · exact FileBasedOutput.around_passes _ _ _ _ (.callThen _ _)
    · rw [output]
      exact ⟨fun _ _ _ => .callThen _ _, fun _ _ _ => .callThen _ _⟩
    · rw [output]
      exact ⟨fun _ _ _ => .callThen _ _, fun _ _ _ => .callThen _ _⟩
  exact {
    input := fun config => input ▸ (inputs.1 config).honest
    resumedInput := fun task schema count => input ▸ (inputs.2 task schema count).honest
    filters := fun f hf schema => by
      rw [b.filters f hf]
      exact (Rename.transaction_passes f.config schema).honest
    output := fun config schema count => (outputs.1 config schema count).honest
    resumedOutput := fun task schema count => (outputs.2 task schema count).honest }

end BuiltIn

section Rehearsed

variable {script : Rehearsal.Script}

theorem Rehearsal.input_passes (config : Config) : ((input script).transaction config).Passes ∧
    ∀ task schema count, ((input script).resume task schema count).Passes := by
  have around_passes : ∀ request, (around script request).Passes := by
    intro request
    unfold around
    split
    · exact .finish _
    · exact .finish _
    · exact .callThen _ _
  constructor
  · change (beginInput script config).Passes
    unfold beginInput
    dsimp only
    split
    · exact .finish _
    · exact .behind _ fun _ => around_passes _
  · exact fun task schema count => .behind _ fun _ => around_passes _

theorem Rehearsal.output_passes (task : Task) : (aroundOutput script task).Passes := by
  unfold aroundOutput
  split
  · exact .finish _
  · exact .finish _
  · exact .callThen _ _

theorem Rehearsal.filter_passes (config : Config) (schema : Schema) :
    ((filter script).transaction config schema).Passes := by
  refine .behind _ fun _ => ?_
  split
  · exact .finish _
  · exact .finish _
  · exact .call_done _

end Rehearsed

end BulkTransfer
