import BulkTransfer.Proofs.Transfer.OrderTasks
/-!
# Flights of orders

A fresh transfer with the built-in plugins either gives up before its tasks, or runs the tasks of the
order for the files that it has found; a resumed one goes on with the order that was saved.
-/
namespace BulkTransfer

namespace Executor

variable {plugins : TransferPlugins} {config : Config} {t : Flight} {w : World}

theorem fly_leads {d : Departure} {S : Attempt Report → Flight → World → Prop}
    (h : Leads (d.transaction.drive d.control) (.ofProgress d.exec d.progress)
      (w.beginSession d.exec.pageSize) S) :
    S (d.fly.run w).1.result (d.fly.run w).1.flight (d.fly.run w).2 := by
  rw [fly_run]
  exact h

/-- The disk on which the tasks of a fresh transfer are launched behind these filters, if it comes to
that. -/
def launchBehind? (plugins : TransferPlugins) (count : Nat) :
    List FilterChoice → Schema → Disk → Option Disk
  | [], schema, d =>
    ((plugins.output.transaction plugins.outputConfig schema count).opened d).map Prod.snd
  | f :: rest, schema, d =>
    ((f.plugin.transaction f.config schema).opened d).bind fun x =>
      launchBehind? plugins count rest x.1.schema x.2

/-- The disk on which the tasks of a fresh transfer are launched, if it comes to that. -/
def launch? (plugins : TransferPlugins) (d : Disk) : Option Disk :=
  ((plugins.input.transaction plugins.inputConfig).opened d).bind fun x =>
    launchBehind? plugins x.1.taskCount plugins.filters x.1.schema x.2

/-- Filters that rename columns give up, or lead to the output with the columns behind them. -/
theorem runFilters_leads {I : Flight → Prop} {S : Attempt Unit → Flight → World → Prop}
    {launch : Option Disk} {count : Nat}
    (push : ∀ t task schema, I t →
      I { t with progress := t.progress.pushFilter task schema })
    (failed : ∀ e t d, I t → w.disk.GrowsTo d → launch = none → S (.error e) t { w with disk := d })
    {filters : List FilterChoice} (renames : ∀ f ∈ filters, f.plugin = Rename.filter)
    {schema : Schema} (passed : ∀ out t d, I t → w.disk.GrowsTo d →
      Rename.through (filters.map FilterChoice.config) schema = .ok out →
        launchBehind? plugins count [] out d = launch →
          Leads (runOutput plugins false out) t { w with disk := d } S)
    {d : Disk} (grows : w.disk.GrowsTo d) (behind : launchBehind? plugins count filters schema d = launch)
    (h : I t) : Leads (runFilters plugins filters schema) t { w with disk := d } S := by
  induction filters generalizing t schema d with
  | nil => exact passed schema t d h grows rfl behind
  | cons f rest ih =>
    have opens := Rename.transaction_opens f.config schema d
    rw [launchBehind?, renames f List.mem_cons_self] at behind
    rw [runFilters, renames f List.mem_cons_self]
    refine Leads.drive opens (fun e d' more gaveUp => failed e t d' h (grows.trans more) ?_) ?_
    · rw [← behind, gaveUp]
      rfl
    rintro q _ d' ⟨made, rfl⟩ more asked
    refine Leads.modify_bind ?_
    refine (ih (fun g hg => renames g (List.mem_cons_of_mem _ hg)) ?_ (grows.trans more) ?_
      (push t q.task q.schema h)).mono ?_
    · intro out t d'' ht grown through last
      refine passed out t d'' ht grown ?_ last
      rw [List.map_cons, Rename.through, made]
      exact through
    · rw [← behind, asked]
      rfl
    · intro r t' w' hs
      cases r <;> exact hs

structure Idle (w₀ : World) (t : Flight) (w : World) : Prop where
  unstarted : t.progress.hasStarted = false
  events : t.events = []
  grows : w₀.disk.GrowsTo w.disk

/-- The order for the files that the input finds. -/
structure Finds (config : Config) (w : World) (o : Order) : Prop where
  ordered : Order.ofConfig config o.files = .ok o
  listed : (LocalInput.list o.source.search w.disk).1 = .ok o.files

/-- The input has frozen its part, and no task has been launched. -/
structure Entered (source : Source) (files : List String) (pending : List Nat) (t : Flight) :
    Prop where
  inputTask : t.progress.inputTask = some (source.task files)
  inputSchema : t.progress.inputSchema = some source.schema
  count : t.progress.taskCount = files.length
  waiting : t.progress.pendingTasks = pending
  inside : ∀ i ∈ pending, i < files.length
  unstarted : t.progress.hasStarted = false
  events : t.events = []

variable {pending : List Nat} {w₀ : World} {o : Order} {terms : Terms}

theorem Entered.pushFilter {source : Source} {files : List String}
    (h : Entered source files pending t) (task : Task) (schema : Schema) :
    Entered source files pending { t with progress := t.progress.pushFilter task schema } :=
  ⟨h.inputTask, h.inputSchema, h.count, h.waiting, h.inside, h.unstarted, h.events⟩

theorem Entered.setOutput {source : Source} {files : List String}
    (h : Entered source files pending t) (task : Task) (schema : Schema) :
    Entered source files pending { t with progress := t.progress.setOutput task schema } :=
  ⟨h.inputTask, h.inputSchema, h.count, h.waiting, h.inside, h.unstarted, h.events⟩

/-- A session begun in some world has come to this one without having launched any task. -/
structure Reaches (terms : Terms) (w₀ w : World) : Prop where
  grows : w₀.disk.GrowsTo w.disk
  planned : w.schedule = w₀.schedule
  stop : w.isCancelled = w₀.isCancelled
  sized : w.pool.pageSize = terms.pageSize

theorem Reaches.begin {pageSize : Nat} (sized : (Pool.ofPageSize pageSize).pageSize = terms.pageSize)
    {d : Disk} (grows : w₀.disk.GrowsTo d) :
    Reaches terms w₀ { w₀.beginSession pageSize with disk := d } := ⟨grows, rfl, rfl, sized⟩

theorem Reaches.grown (h : Reaches terms w₀ w) {d : Disk} (more : w.disk.GrowsTo d) :
    Reaches terms w₀ { w with disk := d } := ⟨h.grows.trans more, h.planned, h.stop, h.sized⟩

/-- Where the input of an order has been entered, its tasks can be run. -/
theorem Entered.ready (h : Entered o.source o.files pending t) (b : plugins.IsBuiltIn config)
    (ordered : Order.ofConfig config o.files = .ok o) (fits : o.Fits terms w₀)
    (reaches : Reaches terms w₀ w) :
    (o.charter b ordered terms fits.spread).Begun t ∧
      (o.charter b ordered terms fits.spread).Ready pending t w := by
  refine ⟨⟨h.inputTask, h.inputSchema, h.count⟩, h.events, h.unstarted, h.waiting, h.inside, ?_,
    fun _ _ => reaches.sized, ?_, ?_⟩
  · intro i hi ht v hv
    obtain ⟨allows, temp, final⟩ := fits.clear ht i (h.inside i hi) v hv
    refine ⟨fun n path => ?_, reaches.grows.vacant temp, reaches.grows.vacant final⟩
    rw [reaches.grows.refusal]
    exact allows n path
  · intro stops i _ d clear
    refine .inr ⟨rfl, rfl, fun ht v hv => (clear ht v hv).2, fun hs => ?_⟩
    refine absurd ?_ (fits.steady hs)
    rcases stops with cancelled | planned
    · exact .inl (reaches.stop ▸ cancelled)
    · exact .inr (reaches.planned ▸ planned)
  · rintro ⟨choice, hc, crash⟩ i text d
    have calm : ¬ (terms.tidy ∨ terms.steady) :=
      fun known => fits.calm known choice (reaches.planned ▸ hc) crash
    exact .inr ⟨rfl, rfl, fun ht => absurd (.inl ht) calm, fun hs => absurd (.inr hs) calm⟩

/-- How a fresh flight goes: it fails and is idle, or the tasks of its order have been launched and have
ended. -/
def Goes {α : Type} (b : plugins.IsBuiltIn config) (fits : ∀ o, Finds config w₀ o → o.Fits terms w₀)
    (done : Order → Charter plugins → α → Flight → Prop) (r : Attempt α) (t : Flight) (w : World) :
    Prop :=
  ((∃ e, r = .error e) ∧ Idle w₀ t w ∧ launch? plugins w₀.disk = none) ∨
    ∃ (o : Order) (finds : Finds config w₀ o) (pending : List Nat) (launch : Disk),
      w₀.disk.GrowsTo launch ∧ launch? plugins w₀.disk = some launch ∧
        (o.charter b finds.ordered terms (fits o finds).spread).Course pending launch t w ∧
          t.progress.hasStarted = true ∧
            ∀ a, r = .ok a → done o (o.charter b finds.ordered terms (fits o finds).spread) a t

theorem outputTransaction_fresh (plugins : TransferPlugins) (out : Schema) (p : Progress) :
    outputTransaction plugins false out p =
      plugins.output.transaction plugins.outputConfig out p.taskCount := by
  unfold outputTransaction
  cases p.outputTask <;> rfl

theorem freshOutput_opens (b : plugins.IsBuiltIn config)
    (silent : plugins.outputConfig.require "type" .string ≠ .ok "stdout") (out : Schema) (count : Nat)
    (d : Disk) : (plugins.output.transaction plugins.outputConfig out count).Opens d fun q f =>
      ∃ destination, Destination.ofConfig plugins.outputConfig out = .ok destination ∧
        q = destination.task ∧ f = destination.diff := by
  rcases b.output with ⟨type, plain, output⟩ | ⟨type, output⟩ | ⟨type, -⟩
  · rw [output]
    exact FileBasedOutput.transaction_opens type plain out _ d
  · rw [output]
    refine (Counting.around_opens Document.empty d).mono fun q f same => ⟨.nothing, ?_, same⟩
    simp only [Destination.ofConfig, type, Attempt.ofConfig, Except.mapError, bind, Except.bind]
    rfl
  · exact absurd type silent

/-- The input, the filters and the output together make the order for the files that were found. -/
theorem finds_of (b : plugins.IsBuiltIn config) {source : Source} {files : List String} {out : Schema}
    {destination : Destination} (read : Source.ofConfig plugins.inputConfig = .ok source)
    (listed : (LocalInput.list source.search w₀.disk).1 = .ok files)
    (passed : Rename.through (plugins.filters.map FilterChoice.config) source.schema = .ok out)
    (written : Destination.ofConfig plugins.outputConfig out = .ok destination) :
    Finds config w₀ ⟨source, files, out, destination⟩ := by
  refine ⟨?_, listed⟩
  simp only [Order.ofConfig, b.inputConfig, read, b.filterConfigs, passed, b.outputConfig,
    written, Attempt.ofConfig, Except.mapError, bind, Except.bind, pure, Except.pure]

/-- A fresh output opens with some order, or nothing is launched. -/
theorem freshOutput_leads (b : plugins.IsBuiltIn config)
    (silent : plugins.outputConfig.require "type" .string ≠ .ok "stdout") {source : Source}
    {files : List String} {out : Schema} (read : Source.ofConfig plugins.inputConfig = .ok source)
    (listed : (LocalInput.list source.search w₀.disk).1 = .ok files)
    (passed : Rename.through (plugins.filters.map FilterChoice.config) source.schema = .ok out)
    (fits : ∀ o, Finds config w₀ o → o.Fits terms w₀) (h : Entered source files pending t)
    (reaches : Reaches terms w₀ w)
    (behind : launchBehind? plugins files.length [] out w.disk = launch? plugins w₀.disk) :
    Leads (runOutput plugins false out) t w (Goes b fits fun _ c _ t => c.Delivered t) := by
  have fresh := outputTransaction_fresh plugins out t.progress
  have opens := freshOutput_opens b silent out t.progress.taskCount w.disk
  rw [← fresh] at opens
  rw [h.count] at fresh
  refine runOutput_leads pending opens ?_ ?_
  · intro e d more gaveUp
    refine .inl ⟨⟨e, rfl⟩, ⟨h.unstarted, h.events, reaches.grows.trans more⟩, ?_⟩
    rw [← behind, launchBehind?, ← fresh, gaveUp]
    rfl
  · rintro q f d ⟨destination, written, rfl, rfl⟩ more asked
    have finds := finds_of b read listed passed written
    obtain ⟨begun, ready⟩ := h.ready b finds.ordered (fits _ finds) (reaches.grown more)
    have launch : launch? plugins w₀.disk = some d := by
      rw [← behind, launchBehind?, ← fresh, asked]
      rfl
    exact ⟨Order.charter _ b finds.ordered terms (fits _ finds).spread, rfl, rfl, rfl, begun, ready,
      fun r t' w' course started delivered => .inr ⟨_, finds, pending, d, reaches.grows.trans more,
        launch, course, started, fun _ ok => delivered ok⟩⟩

theorem entered_fresh (exec : ExecConfig) (source : Source) (files : List String) :
    ∃ pending, Entered source files pending { Flight.ofProgress exec .fresh with
      progress := Progress.fresh.setInput (source.task files) source.schema files.length } := by
  have length : (Progress.fresh.setInput (source.task files) source.schema files.length).slots.length =
      files.length := by
    by_cases none : 0 = files.length
    · simp [Progress.setInput, Progress.fresh, ← none]
    · simp [Progress.setInput, Progress.fresh, none]
  exact ⟨_, rfl, rfl, rfl, rfl, fun i hi => length ▸ Progress.pending_lt hi, rfl, rfl⟩

def IsSilent (config : Config) : Prop :=
  ∀ out, TransferPlugins.section? config "out" = .ok out →
    out.require "type" .string ≠ .ok "stdout"

theorem Finds.source_eq (finds : Finds config w₀ o) (b : plugins.IsBuiltIn config) {source : Source}
    {files : List String} (read : Source.ofConfig plugins.inputConfig = .ok source)
    (listed : (LocalInput.list source.search w₀.disk).1 = .ok files) :
    o.source = source ∧ o.files = files := by
  obtain ⟨-, inputConfig, -, -, given, -, -, again, -⟩ := Order.ofConfig_ok finds.ordered
  obtain rfl : plugins.inputConfig = inputConfig := Except.ok.inj (b.inputConfig.symm.trans given)
  obtain rfl : o.source = source := Except.ok.inj (again.symm.trans read)
  exact ⟨rfl, Except.ok.inj (finds.listed.symm.trans listed)⟩

theorem Finds.unique {o' : Order} (finds : Finds config w₀ o) (finds' : Finds config w₀ o') :
    o = o' := by
  obtain ⟨-, inputConfig, -, -, given, -, -, read, -⟩ := Order.ofConfig_ok finds.ordered
  obtain ⟨-, inputConfig', -, -, given', -, -, read', -⟩ := Order.ofConfig_ok finds'.ordered
  obtain rfl : inputConfig = inputConfig' := Except.ok.inj (given.symm.trans given')
  have source : o.source = o'.source := Except.ok.inj (read.symm.trans read')
  have listed := finds.listed
  rw [source] at listed
  have files : o.files = o'.files := Except.ok.inj (listed.symm.trans finds'.listed)
  have ordered := finds.ordered
  rw [files] at ordered
  exact Except.ok.inj (ordered.symm.trans finds'.ordered)

theorem silent_of_ordered (ordered : Order.ofConfig config o.files = .ok o) : IsSilent config := by
  obtain ⟨-, _, output, _, -, wanted, -, -, -, written⟩ := Order.ofConfig_ok ordered
  intro other given
  obtain rfl : output = other := Except.ok.inj (wanted.symm.trans given)
  rcases Destination.ofConfig_ok written with ⟨type, -⟩ | ⟨type, -⟩
  · simp [type]
  · simp [type]

theorem silent_of_writes {n : LocalOutput.Naming} (writes : WritesFiles config n) :
    IsSilent config := by
  obtain ⟨output, wanted, type, -⟩ := writes
  intro other given
  obtain rfl : output = other := Except.ok.inj (wanted.symm.trans given)
  simp [type]

/-- Behind an input that has found its files, the tasks of their order are run, or none. -/
theorem inputControl_leads (b : plugins.IsBuiltIn config) (silent : IsSilent config) {source : Source}
    {files : List String} (read : Source.ofConfig plugins.inputConfig = .ok source)
    (listed : (LocalInput.list source.search w₀.disk).1 = .ok files)
    (fits : ∀ o, Finds config w₀ o → o.Fits terms w₀) (exec : ExecConfig)
    (reaches : Reaches terms w₀ w)
    (behind : launchBehind? plugins files.length plugins.filters source.schema w.disk =
      launch? plugins w₀.disk) :
    Leads (inputControl plugins ⟨source.task files, source.schema, files.length⟩)
      (.ofProgress exec .fresh) w (Goes b fits fun o c reports t =>
        (o.source = source ∧ o.files = files) ∧ c.Delivered t ∧
          .reported .input reports ∈ t.events) := by
  obtain ⟨pending, entered⟩ := entered_fresh exec source files
  refine Leads.modify_bind (Leads.bind (runFilters_leads (I := Entered source files pending)
    (S := Goes b fits fun _ c _ t => c.Delivered t)
    (fun t task schema h => h.pushFilter task schema) ?_ b.filters ?_ (.refl _) behind entered) ?_)
  · intro e t d h more unlaunched
    exact .inl ⟨⟨e, rfl⟩, ⟨h.unstarted, h.events, reaches.grows.trans more⟩, unlaunched⟩
  · intro out t d h more passed behind
    exact freshOutput_leads b (silent _ b.outputConfig) read listed passed fits h
      (reaches.grown more) behind
  · rintro r t' w' (⟨⟨e, rfl⟩, idle⟩ |
      ⟨o, finds, pending, launch, grows, launches, course, started, delivered⟩)
    · exact Leads.pure (.inl ⟨⟨e, rfl⟩, idle⟩)
    · cases r with
      | error e =>
        exact Leads.pure (.inr ⟨o, finds, pending, launch, grows, launches, course, started,
          fun a h => by cases h⟩)
      | ok _ =>
        refine (handInput_leads course (delivered () rfl)).mono ?_
        rintro r t'' w'' ⟨course, started, given⟩
        exact .inr ⟨o, finds, pending, launch, grows, launches, course, started,
          fun reports h => ⟨finds.source_eq b read listed, given reports h⟩⟩

/-- A fresh transfer runs the tasks of the order for the files that it finds, or none. -/
theorem departure_leads {d : Departure} {registry : Registry}
    (departs : departure registry config = .ok d)
    (resolved : TransferPlugins.resolve registry config = .ok plugins)
    (b : plugins.IsBuiltIn config) (silent : IsSilent config)
    (sized : (Pool.ofPageSize d.exec.pageSize).pageSize = terms.pageSize)
    (fits : ∀ o, Finds config w₀ o → o.Fits terms w₀) :
    Goes b fits (fun o c diff t => diff = (o.source.listing o.files).diff ∧ c.Delivered t ∧
      ∃ reports, .reported .input reports ∈ t.events)
        (d.fly.run w₀).1.result (d.fly.run w₀).1.flight (d.fly.run w₀).2 := by
  obtain ⟨execConfig, exec, _, resolved', rfl⟩ := departure_ok departs
  obtain rfl := Except.ok.inj (resolved.symm.trans resolved')
  refine fly_leads ?_
  obtain ⟨cut, input⟩ := b.input
  have launches : launch? plugins w₀.disk =
      (((FileBasedInput.cutting cut).transaction plugins.inputConfig).opened w₀.disk).bind fun x =>
        launchBehind? plugins x.1.taskCount plugins.filters x.1.schema x.2 := by
    rw [launch?, input]
    rfl
  dsimp only
  rw [input]
  refine Leads.drive (FileBasedInput.transaction_opens b.decoders _) ?_ ?_
  · intro e d more gaveUp
    refine .inl ⟨⟨e, rfl⟩, ⟨rfl, rfl, more⟩, launches.trans ?_⟩
    exact congrArg (Option.bind · _) gaveUp
  · rintro q f d ⟨source, files, read, listed, rfl, rfl⟩ more asked
    -- a new session has the disk of the world it begins in
    have listed : (LocalInput.list source.search w₀.disk).1 = .ok files := listed
    have behind : launchBehind? plugins files.length plugins.filters source.schema d =
        launch? plugins w₀.disk := (launches.trans (congrArg (Option.bind · _) asked)).symm
    have begun : Reaches terms w₀ { w₀.beginSession exec.pageSize with disk := d } :=
      .begin sized more
    refine (inputControl_leads b silent read listed fits exec begun behind).mono ?_
    rintro r t w (⟨⟨e, rfl⟩, idle⟩ |
      ⟨o, finds, pending, launch, grows, launches, course, started, given⟩)
    · exact .inl ⟨⟨e, rfl⟩, idle⟩
    · refine .inr ⟨o, finds, pending, launch, grows, launches, course, started, fun diff h => ?_⟩
      cases r with
      | error e => cases h
      | ok reports =>
        cases h
        obtain ⟨⟨rfl, rfl⟩, delivered, handed⟩ := given reports rfl
        exact ⟨rfl, delivered, reports, handed⟩

/-- What a saved state has frozen is the order. -/
structure Keeps (o : Order) (s : ResumeState) : Prop where
  inputTask : s.inputTask = o.source.task o.files
  inputSchema : s.inputSchema = o.source.schema
  outputTask : s.outputTask = o.destination.task
  outputSchema : s.outputSchema = o.schema
  count : s.taskCount = o.files.length

variable {saved : ResumeState}

theorem Keeps.entered (keeps : Keeps o saved) (exec : ExecConfig) :
    Entered o.source o.files (Progress.resumed saved).pendingTasks
      (.ofProgress exec (.resumed saved)) where
  inputTask := congrArg some keeps.inputTask
  inputSchema := congrArg some keeps.inputSchema
  count := keeps.count
  waiting := rfl
  inside := by
    intro i hi
    have bound := Progress.pending_lt hi
    rwa [Progress.resumed, List.length_map, List.length_range, keeps.count] at bound
  unstarted := rfl
  events := rfl

/-- The input of a resumed transfer freezes again what was saved. -/
theorem Keeps.resumed_setInput (keeps : Keeps o saved) : (Progress.resumed saved).setInput
    (o.source.task o.files) o.source.schema saved.taskCount = .resumed saved := by
  simp [Progress.setInput, Progress.resumed, keeps.inputTask, keeps.inputSchema]

theorem resumedOutput_opens (b : plugins.IsBuiltIn config)
    (ordered : Order.ofConfig config o.files = .ok o) (keeps : Keeps o saved) (d : Disk) :
    (outputTransaction plugins true o.schema (.resumed saved)).Opens d fun q f =>
      q = o.destination.task ∧ f = o.destination.diff := by
  obtain ⟨-, _, outputConfig, _, -, wanted, -, -, -, written⟩ := Order.ofConfig_ok ordered
  obtain rfl : plugins.outputConfig = outputConfig :=
    Except.ok.inj (b.outputConfig.symm.trans wanted)
  change (plugins.output.resume saved.outputTask o.schema saved.taskCount).Opens d _
  rw [keeps.outputTask]
  rcases Destination.ofConfig_ok written with
    ⟨type, naming, formatterConfig, options, dialect, files, -, -, made⟩ | ⟨type, nothing⟩
  · rw [(b.output_files type).1, files]
    exact FileBasedOutput.resume_opens naming saved.taskCount d made
  · rw [b.output_null type, nothing]
    exact Counting.around_opens _ d

/-- How a resumed flight goes: its tasks have ended, or were never reached. -/
def GoesOn {α : Type} (c : Charter plugins) (pending : List Nat) (w₀ : World) (done : α → Flight → Prop)
    (r : Attempt α) (t : Flight) (w : World) : Prop :=
  (∃ launch, w₀.disk.GrowsTo launch ∧ c.Course pending launch t w) ∧ ∀ a, r = .ok a → done a t

/-- The input of a resumed transfer changes nothing that was saved. -/
theorem resumedInputControl_leads (b : plugins.IsBuiltIn config)
    (ordered : Order.ofConfig config o.files = .ok o) (keeps : Keeps o saved) (fits : o.Fits terms w₀)
    (exec : ExecConfig) (reaches : Reaches terms w₀ w) :
    Leads (resumedInputControl plugins ⟨o.source.task o.files, o.source.schema, saved.taskCount⟩)
      (.ofProgress exec (.resumed saved)) w (GoesOn (o.charter b ordered terms fits.spread)
        (Progress.resumed saved).pendingTasks w₀ fun reports t =>
          (o.charter b ordered terms fits.spread).Delivered t ∧
            .reported .input reports ∈ t.events) := by
  have counted : ¬ (Progress.resumed saved).taskCount ≠ saved.taskCount := not_not_intro rfl
  refine Leads.get_bind ?_
  dsimp only [Flight.ofProgress]
  rw [if_neg counted]
  refine Leads.modify_bind (Leads.get_bind ?_)
  dsimp only
  rw [keeps.resumed_setInput]
  change Leads (runOutput plugins true saved.outputSchema >>= _) (.ofProgress exec (.resumed saved))
    w _
  rw [keeps.outputSchema]
  refine Leads.bind (runOutput_leads (Progress.resumed saved).pendingTasks
    (S := GoesOn (o.charter b ordered terms fits.spread) (Progress.resumed saved).pendingTasks w₀
      fun _ t => (o.charter b ordered terms fits.spread).Delivered t)
    (resumedOutput_opens b ordered keeps w.disk) ?_ ?_) ?_
  · intro e d more _
    obtain ⟨-, ready⟩ := (keeps.entered exec).ready b ordered fits (reaches.grown more)
    exact ⟨⟨d, reaches.grows.trans more, ready.idle⟩, fun _ h => by cases h⟩
  · rintro _ _ d ⟨rfl, rfl⟩ more _
    obtain ⟨begun, ready⟩ := (keeps.entered exec).ready b ordered fits (reaches.grown more)
    exact ⟨_, rfl, rfl, rfl, begun, ready, fun r t w course _ done =>
      ⟨⟨d, reaches.grows.trans more, course⟩, fun _ => done⟩⟩
  · rintro r t w ⟨⟨launch, grows, course⟩, delivered⟩
    cases r with
    | error e => exact Leads.pure ⟨⟨launch, grows, course⟩, fun reports h => by cases h⟩
    | ok _ =>
      refine (handInput_leads course (delivered () rfl)).mono ?_
      rintro r t w ⟨course, -, given⟩
      exact ⟨⟨launch, grows, course⟩, given⟩

/-- A resumed transfer runs the tasks of its order that have not committed. -/
theorem resumption_leads {d : Departure} {registry : Registry}
    (resumes : resumption registry config saved = .ok d)
    (resolved : TransferPlugins.resolve registry config = .ok plugins)
    (b : plugins.IsBuiltIn config) (ordered : Order.ofConfig config o.files = .ok o)
    (keeps : Keeps o saved) (sized : (Pool.ofPageSize d.exec.pageSize).pageSize = terms.pageSize)
    (fits : o.Fits terms w₀) :
    GoesOn (o.charter b ordered terms fits.spread) (Progress.resumed saved).pendingTasks w₀
      (fun diff t => diff = (o.source.listing o.files).diff ∧
        (o.charter b ordered terms fits.spread).Delivered t ∧
          ∃ reports, .reported .input reports ∈ t.events)
        (d.fly.run w₀).1.result (d.fly.run w₀).1.flight (d.fly.run w₀).2 := by
  obtain ⟨exec, _, resolved', rfl⟩ := resumption_ok resumes
  obtain rfl := Except.ok.inj (resolved.symm.trans resolved')
  obtain ⟨-, _, _, _, -, -, -, read, -, -⟩ := Order.ofConfig_ok ordered
  refine fly_leads ?_
  obtain ⟨cut, input⟩ := b.input
  dsimp only
  rw [input, keeps.inputTask]
  refine Leads.drive (FileBasedInput.resume_opens o.files saved.inputSchema saved.taskCount _
    (Source.ofConfig_ok read).2.2) ?_ ?_
  · intro e d more _
    have begun : Reaches terms w₀ { w₀.beginSession exec.pageSize with disk := d } :=
      .begin sized more
    obtain ⟨-, ready⟩ := (keeps.entered exec).ready b ordered fits begun
    exact ⟨⟨d, more, ready.idle⟩, fun diff h => by cases h⟩
  · rintro _ _ d ⟨rfl, rfl⟩ more _
    have begun : Reaches terms w₀ { w₀.beginSession exec.pageSize with disk := d } :=
      .begin sized more
    refine (resumedInputControl_leads b ordered keeps fits exec begun).mono ?_
    rintro r t w ⟨course, given⟩
    refine ⟨course, fun diff h => ?_⟩
    cases r with
    | error e => cases h
    | ok reports =>
      cases h
      exact ⟨rfl, (given reports rfl).1, reports, (given reports rfl).2⟩

/-- A fresh transfer goes on as one whose files are known. -/
theorem departure_found {d : Departure} {source : Source} {files : List String} {disk : Disk}
    (departs : departure Registry.builtIn config = .ok d)
    (resolved : TransferPlugins.resolve Registry.builtIn config = .ok plugins)
    (read : Source.ofConfig plugins.inputConfig = .ok source)
    (listed : LocalInput.list source.search w.disk = (.ok files, disk)) (s : Schema) :
    d.fly.run w =
      { d with
        transaction := (FileBasedInput.cutting .regular).resume (source.task files) s
          files.length }.fly.run
          { w with disk := disk } := by
  obtain ⟨input, b⟩ := TransferPlugins.resolve_cutting (Registry.cutting_regular ▸ resolved)
  have same : d.transaction =
      (FileBasedInput.cutting .regular).transaction plugins.inputConfig := by
    obtain ⟨_, _, _, resolved', rfl⟩ := departure_ok departs
    obtain rfl := Except.ok.inj (resolved.symm.trans resolved')
    dsimp only
    rw [input]
    rfl
  rw [fly_run, fly_run, same]
  dsimp only
  rw [Transaction.drive_run (FileBasedInput.transaction_run b.decoders read
    (w := w.beginSession d.exec.pageSize) listed s)]
  rfl

end Executor

section Known

/-- What is left by a transfer that is known to find these files. -/
def leaves (config : Config) (search : LocalInput.Search) (files : List String) (w : World)
    (check : Landing → World → Bool) : Bool :=
  (Executor.departure Registry.builtIn config).toOption.any fun d =>
    (TransferPlugins.resolve Registry.builtIn config).toOption.any fun plugins =>
      (Source.ofConfig plugins.inputConfig).toOption.any fun source =>
        source.search.start == search.start && source.search.lastPath == search.lastPath &&
          let known := { d with
            transaction := (FileBasedInput.cutting .regular).resume (source.task files) source.schema
              files.length }
          let ran := known.fly.run w
          check ran.1 ran.2

theorem leaves_ends {config : Config} {search : LocalInput.Search} {files : List String} {w : World}
    {disk : Disk} {check : Landing → World → Bool}
    (listed : LocalInput.list search w.disk = (.ok files, disk))
    (h : leaves config search files { w with disk := disk } check = true) :
    ∃ d, Executor.departure Registry.builtIn config = .ok d ∧
      check (d.fly.run w).1 (d.fly.run w).2 = true := by
  unfold leaves at h
  cases departs : Executor.departure Registry.builtIn config with
  | error e => simp [departs, Except.toOption] at h
  | ok d =>
    cases resolved : TransferPlugins.resolve Registry.builtIn config with
    | error e => simp [departs, resolved, Except.toOption] at h
    | ok plugins =>
      cases read : Source.ofConfig plugins.inputConfig with
      | error e => simp [departs, resolved, read, Except.toOption] at h
      | ok source =>
        simp only [departs, resolved, read, Except.toOption, Option.any_some,
          Bool.and_eq_true, beq_iff_eq] at h
        obtain ⟨⟨start, last⟩, checked⟩ := h
        have same : source.search = search := by
          obtain ⟨_, _⟩ := search
          cases start
          cases last
          rfl
        refine ⟨d, rfl, ?_⟩
        rw [Executor.departure_found departs resolved read (same ▸ listed) source.schema]
        exact checked

end Known

section Copies

/-- Rows of one text column are copied from files below a directory. -/
def copying (ending : String) : Config :=
  ⟨[("in", .obj [("type", .str "file"), ("path_prefix", .str "in/"),
      ("parser", .obj [("type", .str "ltsv"),
        ("columns", .arr [.obj [("name", .str "a"), ("type", .str "string")]])])]),
    ("out", .obj [("type", .str "file"), ("path_prefix", .str "o"), ("file_ext", .str ending),
      ("formatter", .obj [("type", .str "csv")])]),
    ("exec", .obj [("max_threads", .ofNat 1)])]⟩

/-- The first of two files to copy, which may not be text. -/
def firstFile (readable : Bool) : Bytes := if readable then Utf8.encode "a:1\n" else [255, 10]

/-- Two files to copy, and the directories that paths with an ending of `d/..` step into and out of. -/
def twoFiles (readable : Bool) : Disk :=
  ⟨[(["in"], .directory), (["in", "1"], .file (firstFile readable)),
    (["in", "2"], .file (Utf8.encode "a:2\n")), (["o000.00.d"], .directory),
    (["o001.00.d"], .directory)], 0, fun _ _ => none⟩

theorem twoFiles_listed (readable : Bool) : LocalInput.list ⟨"in/", none⟩ (twoFiles readable) =
    (.ok ["in/1", "in/2"], (twoFiles readable).counted) := by
  have found : LocalInput.listWithin "in/" ((twoFiles readable).nodes.length + 2) (twoFiles readable)
      [LocalInput.rootOf "in/"] [] = (.ok ["in/1", "in/2"], (twoFiles readable).counted) := by
    cases readable <;> rfl
  exact LocalInput.list_found (s := ⟨"in/", none⟩) found (by decide)

def copiesLeave (ending : String) (readable : Bool) (check : Landing → World → Bool) : Bool :=
  leaves (copying ending) ⟨"in/", none⟩ ["in/1", "in/2"] (.ofDisk (twoFiles readable).counted) check

theorem copies_end {ending : String} {readable : Bool} {check : Landing → World → Bool}
    (h : copiesLeave ending readable check = true) :
    ∃ d, Executor.departure Registry.builtIn (copying ending) = .ok d ∧
      check (d.fly.run (.ofDisk (twoFiles readable))).1
        (d.fly.run (.ofDisk (twoFiles readable))).2 = true :=
  leaves_ends (w := .ofDisk (twoFiles readable)) (twoFiles_listed readable) h

end Copies

end BulkTransfer
