import BulkTransfer.Proofs.Csv.Rendering
import BulkTransfer.Proofs.Plugin.Frozen
import BulkTransfer.Proofs.Plugin.Nesting
import BulkTransfer.Proofs.Schema.Columns
import BulkTransfer.Proofs.Transfer.Filtering
import BulkTransfer.Proofs.Transfer.Order
/-!
# Renamed columns

Names are looked up all at once, so that columns may swap them. What is renamed is a schema again
unless two columns come to the same name, and pages are read with it as before: their bytes depend on
the types of the columns alone. So filters that rename may let pages pass, however many there are.
-/
namespace BulkTransfer

namespace Schema

/-- What becomes of a name. -/
def newName (f : String → Option String) (name : String) : String := (f name).getD name

/-- The names of a chain of mappings, one after the other. -/
def newNames (mappings : List (String → Option String)) (name : String) : String :=
  mappings.foldl (fun name f => newName f name) name

def relabelled (s : Schema) (name : String → String) : List Column :=
  s.columns.map fun c => { c with name := name c.name }

/-- Renamed again and again. -/
def renames (s : Schema) (mappings : List (String → Option String)) : Except SchemaError Schema :=
  mappings.foldlM rename s

/-- The columns have new names, and pages are what they were before: laid out alike, with the same
rows in them. -/
structure Relabels (s t : Schema) (name : String → String) : Prop where
  columns : t.columns = s.relabelled name
  bitmapSize : t.bitmapSize = s.bitmapSize
  slotOffset? : ∀ column, t.slotOffset? column = s.slotOffset? column
  fixedSize : t.fixedSize = s.fixedSize
  rows : ∀ page : Page, page.rows t = page.rows s
  records : ∀ (page : Page) rows, page.IsOf s rows →
    List.Forall₂ Record.HoldsRow (page.records t) rows

variable {s t : Schema} {f : String → Option String} {mappings : List (String → Option String)}

theorem relabelled_relabels {name : String → String} (h : t.columns = s.relabelled name) :
    s.Relabels t name := by
  have types : s.SameTypes t := by
    rw [SameTypes, h, relabelled, List.map_map]
    rfl
  exact {
    columns := h
    bitmapSize := by rw [bitmapSize, bitmapSize, types.size]
    slotOffset? := fun column => (types.slotOffset? column).symm
    fixedSize := types.fixedSize.symm
    rows := fun page => (Page.rows_sameTypes types page).symm
    records := fun page rows isOf => (isOf.renamed types).records_hold }

theorem rename_answers (s : Schema) (f : String → Option String) :
    Answers id (s.relabelled (newName f)) (s.rename f) := make_answers _

theorem rename_relabels (h : s.rename f = .ok t) : s.Relabels t (newName f) :=
  relabelled_relabels (make_columns h)

/-- The indices are never at fault. -/
theorem valid_relabelled {name : String → String} :
    Valid (s.relabelled name) ↔ (s.columns.map fun c => name c.name).Nodup := by
  have indices : (s.relabelled name).map Column.index = List.range (s.relabelled name).length := by
    rw [relabelled, List.map_map, List.length_map]
    exact s.valid.dense
  have names : (s.relabelled name).map Column.name = s.columns.map fun c => name c.name := by
    rw [relabelled, List.map_map]
    rfl
  rw [← names]
  exact ⟨Valid.distinct, fun distinct => ⟨indices, distinct⟩⟩

/-- Two columns come to the same name. -/
def Collides (s : Schema) (name : String → String) : Prop :=
  ∃ (i j : Nat) (c c' : Column), i < j ∧ s.columns[i]? = some c ∧ s.columns[j]? = some c' ∧
    name c.name = name c'.name

theorem valid_relabelled_iff {name : String → String} :
    Valid (s.relabelled name) ↔ ¬ s.Collides name := by
  rw [valid_relabelled, List.nodup_iff_getElem?_ne_getElem?]
  constructor
  · rintro distinct ⟨i, j, c, c', before, hc, hc', same⟩
    have inside : j < s.columns.length := (List.getElem?_eq_some_iff.mp hc').1
    refine distinct i j before (by rwa [List.length_map]) ?_
    rw [List.getElem?_map, List.getElem?_map, hc, hc', Option.map_some, Option.map_some, same]
  · intro free i j before inside same
    rw [List.length_map] at inside
    rw [List.getElem?_map, List.getElem?_map, List.getElem?_eq_getElem inside,
      List.getElem?_eq_getElem (Nat.lt_trans before inside)] at same
    exact free ⟨i, j, _, _, before, List.getElem?_eq_getElem _, List.getElem?_eq_getElem _,
      Option.some.inj same⟩

theorem rename_fails_iff : (∃ e, s.rename f = .error e) ↔ s.Collides (newName f) := by
  rw [(s.rename_answers f).fails_iff, valid_relabelled_iff, not_not]

/-- Renaming after renaming is renaming. -/
theorem renames_relabels (h : s.renames mappings = .ok t) : s.Relabels t (newNames mappings) := by
  refine relabelled_relabels ?_
  induction mappings generalizing s with
  | nil =>
    cases h
    exact (List.map_id _).symm
  | cons f mappings ih =>
    rw [renames, List.foldlM_cons] at h
    cases first : s.rename f with
    | error e => simp [first, bind, Except.bind] at h
    | ok middle =>
      rw [first] at h
      rw [ih h, relabelled, make_columns first, List.map_map]
      rfl

end Schema

namespace Rename

theorem renamed_ok {config : Config} {s t : Schema} : renamed config s = .ok t ↔
    ∃ o, config.load Options.shape = .ok o ∧ s.rename (List.lookup · o.columns) = .ok t := by
  unfold renamed
  cases config.load Options.shape with
  | error e => simp [Attempt.ofConfig, Except.mapError, bind, Except.bind]
  | ok o =>
    cases made : s.rename (List.lookup · o.columns) with
    | error e => simp [Attempt.ofConfig, Attempt.ofSchema, Except.mapError, bind, Except.bind, made]
    | ok u => simp [Attempt.ofConfig, Attempt.ofSchema, Except.mapError, bind, Except.bind, made]

theorem through_cons {config : Config} {rest : List Config} {s t : Schema} :
    through (config :: rest) s = .ok t ↔
      ∃ middle, renamed config s = .ok middle ∧ through rest middle = .ok t := by
  rw [through]
  cases renamed config s with
  | error e => simp [bind, Except.bind]
  | ok middle => simp [bind, Except.bind]

/-- A chain of configs renames as the mappings in them do. -/
theorem through_ok {configs : List Config} {s t : Schema} (h : through configs s = .ok t) :
    ∃ options, List.Forall₂ (fun config o => config.load Options.shape = .ok o) configs options ∧
      s.renames (options.map fun (o : Options) name => o.columns.lookup name) = .ok t := by
  induction configs generalizing s with
  | nil =>
    cases h
    exact ⟨[], .nil, rfl⟩
  | cons config rest ih =>
    obtain ⟨middle, first, h⟩ := through_cons.mp h
    obtain ⟨o, loaded, renamed⟩ := renamed_ok.mp first
    obtain ⟨options, each, rest⟩ := ih h
    refine ⟨o :: options, .cons loaded each, ?_⟩
    rw [List.map_cons, Schema.renames, List.foldlM_cons, renamed]
    exact rest

/-- The transaction hands on the renamed schema, or it fails. -/
theorem transaction_calls {config : Config} {s : Schema} {w w' : World} {q : FilterRequest} :
    (transaction config s).Calls w q w' ↔ w' = w ∧ ∃ o, config.load Options.shape = .ok o ∧
      q.task = o.toTask ∧ s.rename (List.lookup · o.columns) = .ok q.schema := by
  unfold transaction
  cases config.load Options.shape with
  | error e =>
    refine iff_of_false (fun ⟨_, h⟩ => by cases h) ?_
    rintro ⟨-, o, ⟨⟩, -⟩
  | ok o =>
    dsimp only
    cases made : s.rename (List.lookup · o.columns) with
    | error e =>
      refine iff_of_false (fun ⟨_, h⟩ => by cases h) ?_
      rintro ⟨-, o', ⟨⟩, -, renamed⟩
      cases made.symm.trans renamed
    | ok t =>
      rw [Transaction.call_calls]
      constructor
      · rintro ⟨rfl, rfl⟩
        exact ⟨rfl, o, rfl, rfl, made⟩
      · rintro ⟨rfl, o', ⟨⟩, task, renamed⟩
        cases made.symm.trans renamed
        obtain ⟨_, _⟩ := q
        exact ⟨congrArg (FilterRequest.mk · _) task, rfl⟩

/-- What filters that rename are told is what they hand on. -/
theorem openFilters_behaves {filters : List FilterTask} (h : ∀ f ∈ filters, f.plugin = filter) :
    ∃ stage, TaskPlan.openFilters filters = .ok stage ∧ stage.Behaves Eq := by
  induction filters with
  | nil => exact ⟨.passing, rfl, FilterStage.passing_behaves⟩
  | cons f rest ih =>
    obtain ⟨inner, opened, behaves⟩ := ih fun g hg => h g (List.mem_cons_of_mem _ hg)
    refine ⟨FilterStage.passing.followedBy inner, ?_, ?_⟩
    · rw [TaskPlan.openFilters, opened, h f List.mem_cons_self]
      rfl
    · refine FilterStage.Behaves.mono
        (FilterStage.Behaves.followedBy FilterStage.passing_behaves behaves) ?_
      rintro calls _ ⟨_, rfl, rfl⟩
      rfl

end Rename

/-- Every way to a schema accepts just the columns that count from zero and have distinct names, and
otherwise says what is wrong with the first one. A mapping applies to all names at once and is refused
exactly when two columns come to the same name; else the columns keep their places, types and layout, so
every page has the same rows as before. This is so for every chain of mappings, and for the configs of
every chain of filters that rename: what these filters are told is what they hand on. -/
theorem renames_keep_pages :
    (∀ columns, Schema.Answers id columns (Schema.make columns)) ∧
    (∀ named, Schema.Answers id (Schema.numbered named) (Schema.ofNames named)) ∧
    (∀ list : ColumnList,
      Schema.Answers id (Schema.numbered (list.map fun c => (c.name, c.type))) list.toSchema) ∧
    (∀ tree columns, Decoder.list Column.decode tree = .ok columns →
      Schema.Answers (fun fault => DecodeError.refused fault.message) columns (Schema.decode tree)) ∧
    (∀ (s : Schema) f, Schema.Answers id (s.relabelled (Schema.newName f)) (s.rename f) ∧
      ((∃ e, s.rename f = .error e) ↔ s.Collides (Schema.newName f)) ∧
        ∀ t, s.rename f = .ok t → s.Relabels t (Schema.newName f)) ∧
    (∀ (s : Schema) mappings t, s.renames mappings = .ok t →
      s.Relabels t (Schema.newNames mappings)) ∧
    (∀ config s w q w', (Rename.transaction config s).Calls w q w' ↔
      w' = w ∧ ∃ o, config.load Rename.Options.shape = .ok o ∧ q.task = o.toTask ∧
        s.rename (List.lookup · o.columns) = .ok q.schema) ∧
    (∀ configs s t, Rename.through configs s = .ok t → ∃ options,
      List.Forall₂ (fun config o => config.load Rename.Options.shape = .ok o) configs options ∧
        s.Relabels t (Schema.newNames (options.map fun o name => o.columns.lookup name))) ∧
    ∀ filters : List FilterTask, (∀ f ∈ filters, f.plugin = Rename.filter) →
      ∃ stage, TaskPlan.openFilters filters = .ok stage ∧ stage.Behaves Eq := by
  refine ⟨Schema.make_answers, Schema.ofNames_answers, fun list => Schema.ofNames_answers _,
    fun tree columns => Schema.decode_answers, fun s f => ?_, fun s mappings t => Schema.renames_relabels,
    fun config s w q w' => Rename.transaction_calls, fun configs s t through => ?_,
    fun filters => Rename.openFilters_behaves⟩
  · exact ⟨s.rename_answers f, Schema.rename_fails_iff, fun t => Schema.rename_relabels⟩
  · obtain ⟨options, loaded, renamed⟩ := Rename.through_ok through
    exact ⟨options, loaded, Schema.renames_relabels renamed⟩

/-- Two columns swap their names, and swap them back. -/
theorem swapped_columns_keep_pages :
    let columns : List Column := [⟨0, "a", .long⟩, ⟨1, "b", .string⟩]
    let s : Schema := ⟨columns, rfl⟩
    let t : Schema := ⟨[⟨0, "b", .long⟩, ⟨1, "a", .string⟩], rfl⟩
    let swap : String → Option String := fun name => List.lookup name [("a", "b"), ("b", "a")]
    let config : Config := (Rename.Options.mk [("a", "b"), ("b", "a")]).toTask
    let filter : FilterTask := ⟨Rename.filter, config, s, t⟩
    Decoder.list Column.decode s.toTree = .ok columns ∧
      Schema.Answers (fun fault => DecodeError.refused fault.message) columns
        (Schema.decode s.toTree) ∧
      s.rename swap = .ok t ∧ s.Relabels t (Schema.newName swap) ∧
      s.renames [swap, swap] = .ok s ∧ s.Relabels s (Schema.newNames [swap, swap]) ∧
      Rename.through [config, config] s = .ok s ∧
      (∃ options,
        List.Forall₂ (fun config o => config.load Rename.Options.shape = .ok o) [config, config] options ∧
          s.Relabels s (Schema.newNames (options.map fun o name => o.columns.lookup name))) ∧
      (∀ f ∈ [filter, filter], f.plugin = Rename.filter) ∧
      ∃ stage, TaskPlan.openFilters [filter, filter] = .ok stage ∧ stage.Behaves Eq := by
  intro columns s t swap config filter
  obtain ⟨-, -, -, decodes, rename, renames, -, through, filters⟩ := renames_keep_pages
  have read : Decoder.list Column.decode s.toTree = .ok columns := by rfl
  have swapped : s.rename swap = .ok t := by rfl
  have back : s.renames [swap, swap] = .ok s := by rfl
  have sorted : (Rename.Options.mk [("a", "b"), ("b", "a")]).IsSorted := by
    rw [Rename.Options.IsSorted]
    decide
  have loaded := Rename.Options.load_toTask sorted
  have passed : Rename.through [config, config] s = .ok s :=
    Rename.through_cons.mpr ⟨t, Rename.renamed_ok.mpr ⟨_, loaded, swapped⟩,
      Rename.through_cons.mpr ⟨s, Rename.renamed_ok.mpr ⟨_, loaded, by rfl⟩, rfl⟩⟩
  have named : ∀ f ∈ [filter, filter], f.plugin = Rename.filter := by simp [filter]
  exact ⟨read, decodes _ _ read, swapped, (rename s swap).2.2 t swapped, back, renames s _ s back,
    passed, through _ s s passed, named, filters _ named⟩

end BulkTransfer
