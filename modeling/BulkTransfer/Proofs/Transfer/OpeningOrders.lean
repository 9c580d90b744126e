import BulkTransfer.Proofs.Disk.Operations
import BulkTransfer.Proofs.Local.Pieces
import BulkTransfer.Proofs.Transfer.Order
/-!
# How orders open

The transactions of the built-in plugins open, in a fresh transfer as in a resumed one, with the
tasks that their order freezes; they give up when there is no such order.
-/
namespace BulkTransfer

open Transaction (Opens)

variable {d : Disk} {w : World} {config : Config} {s : Schema}

theorem Transaction.Opens.calledThen {Q R α : Type} {P : Q → (R → Attempt α) → Prop} {q : Q}
    {f : R → Attempt α} (h : P q f) : (callThen q fun r => .done (f r)).Opens d P :=
  called h fun r => by cases r <;> rfl

namespace Ltsv

theorem transaction_opens (config : Config) (d : Disk) :
    (transaction config).Opens d fun q f => ∃ o s, settings config = .ok (o, s) ∧
      q = ⟨o.toTask, s⟩ ∧ f = .ok := by
  unfold transaction settings
  cases config.load Options.shape with
  | error e => exact Opens.failed _
  | ok o =>
    dsimp only
    cases made : o.columns.toSchema with
    | error e => exact Opens.failed _
    | ok s =>
      refine Opens.called ⟨o, s, ?_, rfl, rfl⟩ fun r => by cases r <;> rfl
      simp only [Attempt.ofConfig, Attempt.ofSchema, Except.mapError, bind, Except.bind, made, pure,
        Except.pure]

end Ltsv

namespace Csv

theorem load_sorted {o : Options} (h : config.load Options.shape = .ok o) : o.IsSorted := by
  obtain ⟨_, decoded⟩ := Document.load_decoded h
  exact Options.decode_sorted decoded

theorem settings_ok {o : Options} {d : Dialect} (h : settings config s = .ok (o, d)) :
    o.dialect = .ok d ∧ o.IsSorted := by
  obtain ⟨o', loaded, h⟩ := Attempt.of_bind h
  obtain ⟨_, -, h⟩ := Attempt.of_bind h
  obtain ⟨d', single, h⟩ := Attempt.of_bind h
  cases h
  exact ⟨Attempt.of_mapError single, load_sorted (Attempt.of_mapError loaded)⟩

theorem transaction_opens (config : Config) (s : Schema) (d : Disk) :
    (transaction config s).Opens d fun q f => ∃ o dialect, settings config s = .ok (o, dialect) ∧
      q = o.toTask ∧ f = .ok := by
  unfold transaction settings
  cases config.load Options.shape with
  | error e => exact Opens.failed _
  | ok o =>
    cases valid : o.validate s with
    | error e =>
      simp only [bind, Except.bind, valid]
      exact Opens.failed _
    | ok _ =>
      obtain ⟨d, single, -⟩ := Attempt.of_bind valid
      simp only [bind, Except.bind, valid, pure, Except.pure]
      refine Opens.called ⟨o, d, ?_, rfl, rfl⟩ fun r => by cases r <;> rfl
      simp only [Attempt.ofConfig, Except.mapError, valid, single]

end Csv

namespace Rename

theorem transaction_opens (config : Config) (s : Schema) (d : Disk) :
    (transaction config s).Opens d fun q f => renamed config s = .ok q.schema ∧ f = .ok := by
  unfold transaction renamed
  cases config.load Options.shape with
  | error e => exact Opens.failed _
  | ok o =>
    dsimp only
    cases made : s.rename (List.lookup · o.columns) with
    | error e => exact Opens.failed _
    | ok t =>
      refine Opens.called ⟨?_, rfl⟩ fun r => by cases r <;> rfl
      simp only [Attempt.ofConfig, Attempt.ofSchema, Except.mapError, bind, Except.bind, made]

end Rename

namespace LocalInput

theorem resume_opens (f : Files) (count : Nat) (d : Disk) :
    (resume f.toTask count).Opens d fun q g => q = ⟨f.toTask, count⟩ ∧ g = fun _ => .ok f.diff := by
  unfold resume
  rw [Files.ofTask_toTask]
  exact Opens.calledThen ⟨rfl, rfl⟩

theorem transaction_opens (config : Config) (d : Disk) :
    (transaction config).Opens d fun q g => ∃ search files, config.load Search.shape = .ok search ∧
      (list search d).1 = .ok files ∧
        q = ⟨(Files.mk files search.lastPath).toTask, files.length⟩ ∧
          g = fun _ => .ok (Files.mk files search.lastPath).diff := by
  unfold transaction
  cases loaded : config.load Search.shape with
  | error e => exact Opens.failed _
  | ok search =>
    refine Opens.onDisk (list_grows search d) ?_
    cases listed : (list search d).1 with
    | error e => exact Opens.failed _
    | ok files =>
      refine (resume_opens ⟨files, search.lastPath⟩ files.length _).mono ?_
      rintro q g ⟨rfl, rfl⟩
      exact ⟨search, files, rfl, listed, rfl, rfl⟩

end LocalInput

namespace LocalOutput

theorem resume_opens (task : Task) (count : Nat) (d : Disk) :
    (resume task count).Opens d fun q g => q = task ∧ g = fun _ => .ok Document.empty :=
  Opens.calledThen ⟨rfl, rfl⟩

theorem transaction_opens (config : Config) (count : Nat) (d : Disk) :
    (transaction config count).Opens d fun q g => ∃ n, config.load Naming.shape = .ok n ∧
      q = n.toTask ∧ g = fun _ => .ok Document.empty := by
  unfold transaction
  cases loaded : config.load Naming.shape with
  | error e => exact Opens.failed _
  | ok n =>
    have resumed : ∀ d', (resume n.toTask count).Opens d' fun q g =>
        ∃ m, Except.ok n = (.ok m : Except ConfigError Naming) ∧ q = m.toTask ∧
          g = fun _ => .ok Document.empty :=
      fun d' => (resume_opens n.toTask count d').mono fun q g h => ⟨n, rfl, h.1, h.2⟩
    dsimp only
    split
    · exact resumed d
    · exact resumed d
    · rename_i parent _ _
      refine Opens.onDisk (Disk.makeDirectories_grows d parent) ?_
      cases (d.makeDirectories parent).1 with
      | error cause => exact Opens.failed _
      | ok _ => exact resumed _

end LocalOutput

/-- A stage that ends with its request, inside a stage that gives the request. -/
theorem Transaction.Opens.frozen {Q Q' R α β : Type} {P : Q → (R → Attempt α) → Prop}
    {S : β → Prop} {outer : Transaction Q R α} {stage : Transaction β Unit Unit}
    {freeze : Q → β → Q'} {notRun : PluginError} (h : outer.Opens d P)
    (hs : ∀ d', stage.Opens d' fun b f => S b ∧ f = .ok) :
    (outer.nest fun q => (stage.nest fun b => call (freeze q b) .done).collecting notRun).Opens d
      fun q' g => ∃ q b, P q g ∧ S b ∧ q' = freeze q b := by
  refine (h.nest fun q f d _ _ => ((hs _).nest fun b f' d' _ _ =>
    (called ⟨rfl, rfl⟩ fun r => by cases r <;> rfl :
      (call (freeze q b) .done : Transaction Q' Unit Unit).Opens _
        fun q' f => q' = freeze q b ∧ f = .ok)).collecting).mono ?_
  rintro q' g ⟨q, f, _, hp, ⟨_, ⟨b, _, _, ⟨hb, rfl⟩, ⟨rfl, rfl⟩, rfl⟩, rfl⟩, rfl⟩
  exact ⟨q, b, hp, hb, rfl⟩

namespace FileBasedInput

/-- Local files of labelled fields, read in these pieces. -/
def cutting (cut : LocalInput.Cutting) : FileBasedInput := ⟨cut.plugin, [], Ltsv.parser⟩

variable {cut : LocalInput.Cutting}

theorem around_opens {outer : Transaction FileInputRequest (List Report) Report}
    {P : FileInputRequest → (List Report → Attempt Report) → Prop} (h : outer.Opens d P)
    (parserConfig : Config) :
    ((cutting cut).around [] parserConfig outer).Opens d fun q g => ∃ q₀ o s, P q₀ g ∧
      Ltsv.settings parserConfig = .ok (o, s) ∧
        q = ⟨(FileBasedInputTask.mk [] parserConfig q₀.task [] o.toTask).toTask, s,
          q₀.taskCount⟩ := by
  refine (h.frozen (S := fun b : ParserRequest => ∃ o s, Ltsv.settings parserConfig = .ok (o, s) ∧
    b = ⟨o.toTask, s⟩) fun d' => (Ltsv.transaction_opens parserConfig d').mono ?_).mono ?_
  · rintro b f ⟨o, s, made, rfl, rfl⟩
    exact ⟨⟨o, s, made, rfl⟩, rfl⟩
  · rintro q g ⟨q₀, _, hp, ⟨o, s, made, rfl⟩, rfl⟩
    exact ⟨q₀, o, s, hp, made, rfl⟩

/-- A fresh input opens with the files that it finds. -/
theorem transaction_opens (plain : config.nestedList "decoders" = .ok []) (d : Disk) :
    ((cutting cut).transaction config).Opens d fun q g => ∃ source files,
      Source.ofConfig config = .ok source ∧ (LocalInput.list source.search d).1 = .ok files ∧
        q = ⟨source.task files, source.schema, files.length⟩ ∧
          g = fun _ => .ok (source.listing files).diff := by
  unfold transaction
  rw [plain]
  split
  · exact Opens.failed _
  · exact Opens.failed _
  · rename_i parserConfig decoders named
    cases decoders
    have named : TransferPlugins.section? config "parser" = .ok parserConfig := named
    refine (around_opens (LocalInput.transaction_opens config d) parserConfig).mono ?_
    rintro q g ⟨_, o, s, ⟨search, files, loaded, listed, rfl, rfl⟩, made, rfl⟩
    refine ⟨⟨search, parserConfig, o, s⟩, files, ?_, listed, rfl, rfl⟩
    simp only [Source.ofConfig, Attempt.ofConfig, loaded, named, made, Except.mapError, bind,
      Except.bind, pure, Except.pure]

/-- A resumed input opens with the files that were found before. -/
theorem resume_opens {source : Source} (files : List String) (s : Schema) (count : Nat) (d : Disk)
    (made : Ltsv.settings source.parserConfig = .ok (source.options, source.schema)) :
    ((cutting cut).resume (source.task files) s count).Opens d fun q g =>
      q = ⟨source.task files, source.schema, count⟩ ∧
        g = fun _ => .ok (source.listing files).diff := by
  unfold resume Source.task
  rw [FileBasedInputTask.ofTask_toTask]
  refine (around_opens (LocalInput.resume_opens (source.listing files) count d)
    source.parserConfig).mono ?_
  rintro q g ⟨_, o, s, ⟨rfl, rfl⟩, again, rfl⟩
  rw [made] at again
  cases again
  exact ⟨rfl, rfl⟩

/-- Once the files are found, a fresh input goes on as one that knows them. -/
theorem transaction_run {source : Source} {files : List String} {d : Disk} (plain : config.nestedList "decoders" = .ok [])
    (read : Source.ofConfig config = .ok source)
    (listed : LocalInput.list source.search w.disk = (.ok files, d)) (s : Schema) :
    ((cutting cut).transaction config).run w =
      ((cutting cut).resume (source.task files) s files.length).run { w with disk := d } := by
  obtain ⟨loaded, named, -⟩ := Source.ofConfig_ok read
  have found : (LocalInput.transaction config).run w =
      (LocalInput.resume (source.listing files).toTask files.length).run { w with disk := d } := by
    unfold LocalInput.transaction
    rw [loaded]
    have ran : (Program.onDisk (LocalInput.list source.search) : Action _).run w =
        (.ok files, { w with disk := d }) := by
      change ((LocalInput.list source.search w.disk).1,
        { w with disk := (LocalInput.list source.search w.disk).2 }) = _
      rw [listed]
    dsimp only
    rw [Program.run_andThen, ran]
    rfl
  unfold transaction resume Source.task
  rw [plain, FileBasedInputTask.ofTask_toTask]
  split
  · rename_i failed
    cases failed
  · rename_i failed _
    exact absurd (named.symm.trans failed) (by simp)
  · rename_i parserConfig decoders given
    cases decoders
    obtain rfl : source.parserConfig = parserConfig := Except.ok.inj (named.symm.trans given)
    exact Transaction.nest_run found

end FileBasedInput

namespace FileBasedOutput

/-- The only file-based output that the built-in plugins make. -/
def builtIn : FileBasedOutput := ⟨LocalOutput.plugin, [], Csv.formatter⟩

theorem around_opens {outer : Transaction Task (List Report) Report}
    {P : Task → (List Report → Attempt Report) → Prop} (h : outer.Opens d P)
    (formatterConfig : Config) (s : Schema) :
    (builtIn.around [] formatterConfig s outer).Opens d fun q g => ∃ q₀ o dialect, P q₀ g ∧
      Csv.settings formatterConfig s = .ok (o, dialect) ∧
        q = (FileBasedOutputTask.mk [] formatterConfig q₀ [] o.toTask).toTask := by
  refine (h.frozen (S := fun b : Task => ∃ o dialect, Csv.settings formatterConfig s = .ok (o, dialect) ∧
    b = o.toTask) fun d' => (Csv.transaction_opens formatterConfig s d').mono ?_).mono ?_
  · rintro b f ⟨o, dialect, made, rfl, rfl⟩
    exact ⟨⟨o, dialect, made, rfl⟩, rfl⟩
  · rintro q g ⟨q₀, _, hp, ⟨o, dialect, made, rfl⟩, rfl⟩
    exact ⟨q₀, o, dialect, hp, made, rfl⟩

theorem transaction_opens (type : config.require "type" .string = .ok "file")
    (plain : config.nestedList "encoders" = .ok []) (s : Schema) (count : Nat) (d : Disk) :
    (builtIn.transaction config s count).Opens d fun q g => ∃ destination,
      Destination.ofConfig config s = .ok destination ∧ q = destination.task ∧
        g = destination.diff := by
  unfold transaction
  rw [plain]
  split
  · exact Opens.failed _
  · exact Opens.failed _
  · rename_i formatterConfig encoders named
    cases encoders
    have named : TransferPlugins.section? config "formatter" = .ok formatterConfig := named
    refine (around_opens (LocalOutput.transaction_opens config count d) formatterConfig s).mono ?_
    rintro q g ⟨_, o, dialect, ⟨n, loaded, rfl, rfl⟩, made, rfl⟩
    refine ⟨.files n formatterConfig o dialect, ?_, rfl, rfl⟩
    simp only [Destination.ofConfig, Attempt.ofConfig, type, loaded, named, made, Except.mapError,
      bind, Except.bind, pure, Except.pure, if_true]

theorem resume_opens {formatterConfig : Config} {o : Csv.Options} {dialect : Csv.Dialect} {s : Schema}
    (n : LocalOutput.Naming) (count : Nat) (d : Disk)
    (made : Csv.settings formatterConfig s = .ok (o, dialect)) :
    (builtIn.resume (Destination.files n formatterConfig o dialect).task s count).Opens d fun q g =>
      q = (Destination.files n formatterConfig o dialect).task ∧
        g = (Destination.files n formatterConfig o dialect).diff := by
  unfold resume Destination.task
  rw [FileBasedOutputTask.ofTask_toTask]
  refine (around_opens (LocalOutput.resume_opens n.toTask count d) formatterConfig s).mono ?_
  rintro q g ⟨_, _, _, ⟨rfl, rfl⟩, again, rfl⟩
  rw [made] at again
  cases again
  exact ⟨rfl, rfl⟩

end FileBasedOutput

namespace Counting

theorem around_opens (task : Task) (d : Disk) :
    (around task).Opens d fun q g => q = task ∧ g = Destination.nothing.diff :=
  Opens.called ⟨rfl, rfl⟩ fun r => by cases r <;> rfl

end Counting

end BulkTransfer
