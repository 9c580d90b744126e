import BulkTransfer.Proofs.Transfer.Attempts
/-!
# Transfers without cleanups

A transfer never cleans up: what it does is the same when the cleanups of all plugins are taken away.
Only a cleanup that is asked for, or that a run without a store falls back on, calls them.
-/
namespace BulkTransfer

universe u

/-! ## Plugins whose cleanups do nothing -/

def InputPlugin.withoutCleanup (i : InputPlugin) : InputPlugin :=
  { i with cleanup := fun _ _ _ _ => .done (.ok ()) }

def FileInputPlugin.withoutCleanup (i : FileInputPlugin) : FileInputPlugin :=
  { i with cleanup := fun _ _ _ => .done (.ok ()) }

def OutputPlugin.withoutCleanup (o : OutputPlugin) : OutputPlugin :=
  { o with cleanup := fun _ _ _ _ => .done (.ok ()) }

def FileOutputPlugin.withoutCleanup (o : FileOutputPlugin) : FileOutputPlugin :=
  { o with cleanup := fun _ _ _ => .done (.ok ()) }

/-- The same plugins, but for the cleanups of the inputs and of the outputs. -/
def Registry.withoutCleanups (r : Registry) : Registry :=
  { r with
    inputs := r.inputs.map (Prod.map id InputPlugin.withoutCleanup)
    fileInputs := r.fileInputs.map (Prod.map id FileInputPlugin.withoutCleanup)
    outputs := r.outputs.map (Prod.map id OutputPlugin.withoutCleanup)
    fileOutputs := r.fileOutputs.map (Prod.map id FileOutputPlugin.withoutCleanup) }

def FileBasedInput.withoutCleanup (i : FileBasedInput) : FileBasedInput :=
  { i with fileInput := i.fileInput.withoutCleanup }

def FileBasedOutput.withoutCleanup (o : FileBasedOutput) : FileBasedOutput :=
  { o with fileOutput := o.fileOutput.withoutCleanup }

def TransferPlugins.withoutCleanups (p : TransferPlugins) : TransferPlugins :=
  { p with input := p.input.withoutCleanup, output := p.output.withoutCleanup }

/-! ## Choosing them -/

theorem Attempt.alike {α β : Type u} {f : α → β} {a b : Attempt α} (h : a.map f = b.map f) :
    (∃ e, a = .error e ∧ b = .error e) ∨ ∃ x y, a = .ok x ∧ b = .ok y ∧ f x = f y := by
  cases a <;> cases b <;> simp_all [Except.map]

namespace Registry

variable {α : Type u} (f : α → α)

theorem lookup_map (plugins : List (String × α)) (name : String) :
    (plugins.map (Prod.map id f)).lookup name = (plugins.lookup name).map f := by
  induction plugins with
  | nil => rfl
  | cons first rest ih =>
    obtain ⟨key, plugin⟩ := first
    rw [List.map_cons, Prod.map_apply, id, List.lookup_cons, List.lookup_cons, ih]
    cases name == key <;> rfl

theorem findTyped_map (plugins : List (String × α)) (kind : PluginKind) (config : Config) :
    findTyped (plugins.map (Prod.map id f)) kind config = (findTyped plugins kind config).map f := by
  unfold findTyped find
  cases config.require "type" .string with
  | error e => rfl
  | ok name =>
    dsimp only
    rw [lookup_map]
    cases plugins.lookup name <;> rfl

end Registry

section Choosing

variable (registry : Registry) (config : Config)

theorem FileBasedInput.resolve_withoutCleanups : resolve registry.withoutCleanups config =
    (resolve registry config).map withoutCleanup := by
  have found := Registry.findTyped_map FileInputPlugin.withoutCleanup registry.fileInputs .fileInput config
  unfold resolve
  rw [Registry.withoutCleanups, found]
  dsimp only
  cases Registry.findTyped registry.fileInputs .fileInput config with
  | error e => rfl
  | ok fileInput =>
    cases config.nestedList "decoders" with
    | error e => rfl
    | ok configs =>
      dsimp only [Except.map]
      cases Registry.findAll registry.decoders .decoder configs with
      | error e => rfl
      | ok decoders =>
        cases nestedRequired config "parser" with
        | error e => rfl
        | ok parserConfig =>
          dsimp only
          cases Registry.findTyped registry.parsers .parser parserConfig <;> rfl

theorem FileBasedOutput.resolve_withoutCleanups : resolve registry.withoutCleanups config =
    (resolve registry config).map withoutCleanup := by
  have found := Registry.findTyped_map FileOutputPlugin.withoutCleanup registry.fileOutputs .fileOutput config
  unfold resolve
  rw [Registry.withoutCleanups, found]
  dsimp only
  cases Registry.findTyped registry.fileOutputs .fileOutput config with
  | error e => rfl
  | ok fileOutput =>
    cases config.nestedList "encoders" with
    | error e => rfl
    | ok configs =>
      dsimp only [Except.map]
      cases Registry.findAll registry.encoders .encoder configs with
      | error e => rfl
      | ok encoders =>
        cases nestedRequired config "formatter" with
        | error e => rfl
        | ok formatterConfig =>
          dsimp only
          cases Registry.findTyped registry.formatters .formatter formatterConfig <;> rfl

namespace TransferPlugins

theorem chooseInput_withoutCleanups :
    (chooseInput registry.withoutCleanups config).map InputPlugin.withoutCleanup =
      (chooseInput registry config).map InputPlugin.withoutCleanup := by
  have found := Registry.lookup_map InputPlugin.withoutCleanup registry.inputs
  unfold chooseInput
  cases config.require "type" .string with
  | error e => rfl
  | ok name =>
    dsimp only
    rw [FileBasedInput.resolve_withoutCleanups, Registry.withoutCleanups, found]
    cases registry.inputs.lookup name with
    | some plugin => rfl
    | none => cases FileBasedInput.resolve registry config <;> rfl

theorem chooseOutput_withoutCleanups :
    (chooseOutput registry.withoutCleanups config).map OutputPlugin.withoutCleanup =
      (chooseOutput registry config).map OutputPlugin.withoutCleanup := by
  have found := Registry.lookup_map OutputPlugin.withoutCleanup registry.outputs
  unfold chooseOutput
  cases config.require "type" .string with
  | error e => rfl
  | ok name =>
    dsimp only
    rw [FileBasedOutput.resolve_withoutCleanups, Registry.withoutCleanups, found]
    cases registry.outputs.lookup name with
    | some plugin => rfl
    | none => cases FileBasedOutput.resolve registry config <;> rfl

theorem chooseFilters_withoutCleanups (configs : List Config) :
    chooseFilters registry.withoutCleanups configs = chooseFilters registry configs := by
  induction configs with
  | nil => rfl
  | cons config rest ih =>
    unfold chooseFilters
    rw [ih]
    rfl

/-- The same plugins are chosen, but for their cleanups. -/
theorem resolve_withoutCleanups : (resolve registry.withoutCleanups config).map withoutCleanups =
    (resolve registry config).map withoutCleanups := by
  unfold resolve
  cases section? config "in" with
  | error e => rfl
  | ok inputConfig =>
    cases section? config "out" with
    | error e => rfl
    | ok outputConfig =>
      cases config.nestedList "filters" with
      | error e => rfl
      | ok filterConfigs =>
        dsimp only
        rw [chooseFilters_withoutCleanups]
        have inputs := chooseInput_withoutCleanups registry inputConfig
        have outputs := chooseOutput_withoutCleanups registry outputConfig
        cases chooseFilters registry filterConfigs with
        | error e => rfl
        | ok filters =>
          rcases Attempt.alike inputs with ⟨e, eq, eq'⟩ | ⟨i, i', eq, eq', input⟩
          · rw [eq, eq']
          · rcases Attempt.alike outputs with ⟨e, eqo, eqo'⟩ | ⟨o, o', eqo, eqo', output⟩
            · rw [eq, eq', eqo, eqo']
            · rw [eq, eq', eqo, eqo']
              simp only [Except.map, withoutCleanups, input, output]

end TransferPlugins

end Choosing

/-! ## Tasks -/

def TaskPlan.withoutCleanups (p : TaskPlan) : TaskPlan :=
  { p with input := p.input.withoutCleanup, output := p.output.withoutCleanup }

namespace Crew

variable (p : TaskPlan) (limit : Option Nat)

theorem followAll_withoutCleanups (c : Crew) (w : World) (choices : List Choice) :
    c.followAll p.withoutCleanups limit w choices = c.followAll p limit w choices := by
  induction choices generalizing c w with
  | nil => rfl
  | cons choice rest ih =>
    exact ih _ _

theorem finishWaiting_withoutCleanups (c : Crew) (w : World) (indices : List Nat) :
    finishWaiting p.withoutCleanups c w indices = finishWaiting p c w indices := by
  induction indices generalizing c w with
  | nil => rfl
  | cons index rest ih =>
    rw [finishWaiting, finishWaiting]
    split
    · exact ih _ _
    · exact ih _ _

end Crew

theorem Workers.runAll_withoutCleanups (p : TaskPlan) (limit : Option Nat) (indices : List Nat) :
    runAll p.withoutCleanups limit indices = runAll p limit indices := by
  have served (w : World) : serve p.withoutCleanups limit indices w = serve p limit indices w := by
    unfold serve Crew.finish
    simp only [Crew.followAll_withoutCleanups, Crew.finishWaiting_withoutCleanups]
  simp only [runAll, served]

/-! ## Transfers -/

theorem Progress.plan_withoutCleanups (p : Progress) (plugins : TransferPlugins) :
    p.plan plugins.withoutCleanups = (p.plan plugins).map TaskPlan.withoutCleanups := by
  unfold plan
  cases p.inputTask with
  | none => rfl
  | some _ =>
    cases p.inputSchema with
    | none => rfl
    | some _ =>
      cases p.outputTask with
      | none => rfl
      | some _ => cases p.outputSchema <;> rfl

namespace Executor

variable (plugins : TransferPlugins)

theorem runTasks_withoutCleanups : runTasks plugins.withoutCleanups = runTasks plugins := by
  unfold runTasks
  refine congrArg (bind get) (funext fun t => ?_)
  rw [Progress.plan_withoutCleanups]
  cases t.progress.plan plugins with
  | error e => rfl
  | ok plan => simp only [Except.map, Workers.runAll_withoutCleanups]

theorem outputControl_withoutCleanups (schema : Schema) (task : Task) :
    outputControl plugins.withoutCleanups schema task = outputControl plugins schema task := by
  unfold outputControl
  rw [runTasks_withoutCleanups]

theorem runOutput_withoutCleanups (isResuming : Bool) (schema : Schema) :
    runOutput plugins.withoutCleanups isResuming schema = runOutput plugins isResuming schema := by
  have asked := funext (outputControl_withoutCleanups plugins schema)
  unfold runOutput
  rw [asked]
  rfl

theorem runFilters_withoutCleanups (filters : List FilterChoice) (schema : Schema) :
    runFilters plugins.withoutCleanups filters schema = runFilters plugins filters schema := by
  induction filters generalizing schema with
  | nil => exact runOutput_withoutCleanups plugins false schema
  | cons f rest ih =>
    unfold runFilters
    simp only [ih]

theorem inputControl_withoutCleanups : inputControl plugins.withoutCleanups = inputControl plugins := by
  funext request
  unfold inputControl
  rw [runFilters_withoutCleanups]
  rfl

theorem resumedInputControl_withoutCleanups :
    resumedInputControl plugins.withoutCleanups = resumedInputControl plugins := by
  funext request
  unfold resumedInputControl
  simp only [runOutput_withoutCleanups]

variable (registry : Registry) (config : Config)

theorem departureFrom_withoutCleanups (saved : Option ResumeState) :
    departureFrom registry.withoutCleanups config saved = departureFrom registry config saved := by
  rcases Attempt.alike (TransferPlugins.resolve_withoutCleanups registry config) with
    ⟨e, eq, eq'⟩ | ⟨p, q, eq, eq', same⟩
  · cases saved <;> simp only [departureFrom, departure, resumption, eq, eq']
  · have control : inputControl p = inputControl q := by
      rw [← inputControl_withoutCleanups p, same, inputControl_withoutCleanups q]
    have resumed : resumedInputControl p = resumedInputControl q := by
      rw [← resumedInputControl_withoutCleanups p, same, resumedInputControl_withoutCleanups q]
    have transaction : p.input.transaction p.inputConfig = q.input.transaction q.inputConfig := by
      simpa only [TransferPlugins.withoutCleanups, InputPlugin.withoutCleanup] using
        congrArg (fun r : TransferPlugins => r.input.transaction r.inputConfig) same
    have resume : p.input.resume = q.input.resume := by
      simpa only [TransferPlugins.withoutCleanups, InputPlugin.withoutCleanup] using
        congrArg (·.input.resume) same
    have filters : p.filters = q.filters := by
      simpa only [TransferPlugins.withoutCleanups] using congrArg TransferPlugins.filters same
    cases saved with
    | none => simp only [departureFrom, departure, eq, eq', transaction, control]
    | some state => simp only [departureFrom, resumption, eq, eq', filters, resume, resumed]

theorem attempt_withoutCleanups (saved : Option ResumeState) :
    attempt registry.withoutCleanups config saved = attempt registry config saved := by
  rw [attempt_eq, attempt_eq, departureFrom_withoutCleanups]

end Executor

/-- With a store, a run does the same steps when no plugin has a cleanup: it calls none. -/
theorem Runner.run_withoutCleanups (registry : Registry) (s : StateStore) (config : Config) :
    run registry.withoutCleanups (some s) config = run registry (some s) config := by
  have fresh := Executor.attempt_withoutCleanups registry config none
  have resumed (state : ResumeState) := Executor.attempt_withoutCleanups registry config (some state)
  simp only [Executor.attempt] at fresh resumed
  simp only [run, fresh, resumed]
  rfl

end BulkTransfer
