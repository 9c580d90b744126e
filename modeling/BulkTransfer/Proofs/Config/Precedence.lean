import BulkTransfer.Proofs.Config.Pointwise
/-!
# Many reports merged

Reports are merged from the last to the first, so at every path of keys the first one that has a say
there decides. A report that is silent at a path and on the way to it leaves the path to the others.
-/
namespace BulkTransfer.Document

/-- A document has a say at a path if it holds something there or, on the way, something that is no
object. What it holds below a path lies in an object at the path. -/
def Touches (d : Document) (path : List String) : Prop :=
  (d.at? path).isSome ∨ ∃ upper value, upper <+: path ∧ upper ≠ path ∧ d.at? upper = some value ∧ ¬ value.IsObject

instance (d : Document) (path : List String) : Decidable (d.Touches path) :=
  decidable_of_iff ((d.at? path).isSome ∨
      ∃ upper ∈ path.inits, upper ≠ path ∧ ∃ value ∈ d.at? upper, ¬ value.IsObject) <| by
    simp only [Touches, List.mem_inits, Option.mem_def, exists_and_left]

variable {d base top : Document} {reports before : List Document} {path : List String} {value : Tree}

/-- A report that is silent at a path and on the way to it leaves the path as it was. -/
theorem at?_merge_untouched (distinct : top.toTree.Distinct) (silent : ¬ top.Touches path) :
    (base.merge top).at? path = base.at? path := by
  have nothing : top.at? path = none := by
    by_contra held
    exact silent (.inl (Option.isSome_iff_ne_none.mpr held))
  have merged : MergedAt base top (base.merge top) path := merge_mergedAt distinct path
  by_cases through : base.toTree.ShowsThrough top.toTree path
  · exact merged.shown nothing through
  · rw [merged.hidden nothing through]
    symm
    by_contra held
    -- the lower document holds something at the path, so it has objects all along the way
    refine through fun upper above present => ?_
    obtain ⟨value, there⟩ := Option.isSome_iff_exists.mp present
    have apart : upper ≠ path := by
      rintro rfl
      cases nothing.symm.trans there
    refine ⟨Tree.objectAt_above (Option.isSome_iff_ne_none.mpr held) above apart, ?_⟩
    by_contra other
    exact silent (.inr ⟨upper, value, above, apart, there, fun ⟨entries, same⟩ => other ⟨entries, same ▸ there⟩⟩)

/-- What a merged document holds comes from one of the two, and so do the values in its objects. -/
theorem at?_merge_comes (distinct : top.toTree.Distinct) (held : (base.merge top).at? path = some value) :
    ((base.at? path).isSome ∨ (top.at? path).isSome) ∧
      (¬ value.IsObject → base.at? path = some value ∨ top.at? path = some value) := by
  have merged : MergedAt base top (base.merge top) path := merge_mergedAt distinct path
  cases above : top.at? path with
  | none =>
    by_cases through : base.toTree.ShowsThrough top.toTree path
    · have below := (merged.shown above through).symm.trans held
      exact ⟨.inl (Option.isSome_of_eq_some below), fun _ => .inl below⟩
    · cases (merged.hidden above through).symm.trans held
  | some higher =>
    refine ⟨.inr rfl, fun leaf => .inr ?_⟩
    by_cases object : higher.IsObject
    · obtain ⟨ts, rfl⟩ := object
      refine absurd ?_ leaf
      by_cases along : base.toTree.ObjectsAlong path
      · obtain ⟨bs, below⟩ := along path List.prefix_rfl
        obtain ⟨entries, there, -⟩ := merged.joined bs ts along below above
        exact ⟨entries, Option.some.inj (held.symm.trans there)⟩
      · exact ⟨ts, Option.some.inj (held.symm.trans (merged.entered ts along above))⟩
    · exact (merged.replaced higher above object).symm.trans held

section MergeAll

theorem mergeAll_cons (first : Document) (rest : List Document) :
    mergeAll (first :: rest) = (mergeAll rest).merge first := by
  rw [mergeAll, List.reverse_cons, List.foldl_append]
  rfl

/-- The first reports count for nothing at a path that they leave alone. -/
theorem mergeAll_skip (reports : List Document) (distinct : ∀ d ∈ before, d.toTree.Distinct)
    (silent : ∀ d ∈ before, ¬ d.Touches path) :
    (mergeAll (before ++ reports)).at? path = (mergeAll reports).at? path := by
  induction before with
  | nil => rfl
  | cons first before ih =>
    rw [List.cons_append, mergeAll_cons,
      at?_merge_untouched (distinct first List.mem_cons_self) (silent first List.mem_cons_self)]
    exact ih (fun d mem => distinct d (List.mem_cons_of_mem _ mem)) fun d mem => silent d (List.mem_cons_of_mem _ mem)

theorem mergeAll_comes (distinct : ∀ d ∈ reports, d.toTree.Distinct)
    (held : (mergeAll reports).at? path = some value) :
    ((reports = [] ∧ path = []) ∨ ∃ d ∈ reports, (d.at? path).isSome) ∧
      (¬ value.IsObject → ∃ d ∈ reports, d.at? path = some value) := by
  induction reports generalizing value with
  | nil =>
    cases path with
    | nil => exact ⟨.inl ⟨rfl, rfl⟩, fun leaf => absurd ⟨[], (Option.some.inj held).symm⟩ leaf⟩
    | cons key path => cases held
  | cons first rest ih =>
    rw [mergeAll_cons] at held
    obtain ⟨comes, leaves⟩ := at?_merge_comes (distinct first List.mem_cons_self) held
    have later : ∀ d ∈ rest, d.toTree.Distinct := fun d mem => distinct d (List.mem_cons_of_mem _ mem)
    have root : path = [] → (first.at? path).isSome := fun empty => by rw [empty, at?, Tree.at?_nil]; rfl
    constructor
    · right
      rcases comes with below | above
      · obtain ⟨under, there⟩ := Option.isSome_iff_exists.mp below
        rcases (ih later there).1 with ⟨-, empty⟩ | ⟨d, mem, has⟩
        · exact ⟨first, List.mem_cons_self, root empty⟩
        · exact ⟨d, List.mem_cons_of_mem _ mem, has⟩
      · exact ⟨first, List.mem_cons_self, above⟩
    · intro leaf
      rcases leaves leaf with below | above
      · obtain ⟨d, mem, has⟩ := (ih later below).2 leaf
        exact ⟨d, List.mem_cons_of_mem _ mem, has⟩
      · exact ⟨first, List.mem_cons_self, above⟩

/-- A report that is alone with what it says at a path has its way there, object or not. -/
theorem mergeAll_alone (distinct : ∀ other ∈ d :: reports, other.toTree.Distinct)
    (silent : ∀ other ∈ reports, ¬ other.Touches path) : (mergeAll (d :: reports)).at? path = d.at? path := by
  have upper : d.toTree.Distinct := distinct d List.mem_cons_self
  have nothing : (mergeAll reports).at? path = none ∨ (reports = [] ∧ path = []) := by
    cases held : (mergeAll reports).at? path with
    | none => exact .inl rfl
    | some value =>
      rcases (mergeAll_comes (fun other mem => distinct other (List.mem_cons_of_mem _ mem)) held).1 with
        empty | ⟨other, mem, has⟩
      · exact .inr empty
      · exact absurd (.inl has) (silent other mem)
  rw [mergeAll_cons]
  rcases nothing with nothing | ⟨rfl, rfl⟩
  · cases above : d.at? path with
    | some value => rw [at?_merge_covered upper above, nothing]; rfl
    | none =>
      cases held : ((mergeAll reports).merge d).at? path with
      | none => rfl
      | some value =>
        have comes := (at?_merge_comes upper held).1
        simp [nothing, above] at comes
  · rw [show (mergeAll []).merge d = d from congrArg mk (Entries.overlay_nil upper.keys)]

end MergeAll

/-- The first report that has a say at a path decides there if it holds anything but an object; nothing
shows that no report holds; and a report that alone has a say at a path has its way there. -/
theorem mergeAll_prefers_first (distinct : ∀ d ∈ reports, d.toTree.Distinct) (path : List String) :
    (∀ i (_ : i < reports.length) value, (∀ j (_ : j < i), ¬ reports[j].Touches path) →
      reports[i].at? path = some value → ¬ value.IsObject → (mergeAll reports).at? path = some value) ∧
    (∀ value, (mergeAll reports).at? path = some value →
      ((reports = [] ∧ path = []) ∨ ∃ d ∈ reports, (d.at? path).isSome) ∧
        (¬ value.IsObject → ∃ d ∈ reports, d.at? path = some value)) ∧
    ∀ i (_ : i < reports.length), (∀ j (_ : j < reports.length), j ≠ i → ¬ reports[j].Touches path) →
      (mergeAll reports).at? path = reports[i].at? path := by
  have split : ∀ i (_ : i < reports.length), reports.take i ++ reports[i] :: reports.drop (i + 1) = reports := by
    intro i bound
    rw [← List.drop_eq_getElem_cons bound, List.take_append_drop]
  have skip : ∀ i (_ : i < reports.length), (∀ j (_ : j < i), ¬ reports[j].Touches path) →
      (mergeAll reports).at? path = (mergeAll (reports[i] :: reports.drop (i + 1))).at? path := by
    intro i bound silent
    have early : ∀ d ∈ reports.take i, ¬ d.Touches path := by
      intro d mem
      obtain ⟨j, earlier, rfl⟩ := List.mem_take_iff_getElem.mp mem
      exact silent j (by omega)
    have skipped := mergeAll_skip (reports[i] :: reports.drop (i + 1))
      (fun d mem => distinct d (List.mem_of_mem_take mem)) early
    rwa [split i bound] at skipped
  refine ⟨fun i bound value silent held leaf => ?_, fun value held => mergeAll_comes distinct held,
    fun i bound silent => ?_⟩
  · rw [skip i bound silent, mergeAll_cons]
    exact (merge_mergedAt (distinct _ (List.getElem_mem bound)) path).replaced value held leaf
  · rw [skip i bound fun j earlier => silent j (by omega) (by omega)]
    refine mergeAll_alone (fun other mem => distinct other ?_) fun other mem => ?_
    · rw [← split i bound]
      exact List.mem_append_right _ mem
    · obtain ⟨j, later, rfl⟩ := List.mem_drop_iff_getElem.mp mem
      exact silent _ (by omega) (by omega)

/-- The second report puts an object where the third has a number; the first is alone with `only`. -/
theorem mergeAll_prefers_first_mixed :
    let reports : List Document := [⟨[("last", .obj [("part", .ofInt 0)]), ("only", .obj [("k", .null)])]⟩,
      ⟨[("last", .ofInt 1), ("deep", .obj [("k", .str "second")])]⟩, ⟨[("deep", .ofInt 2), ("last", .null)]⟩]
    (∀ d ∈ reports, d.toTree.Distinct) ∧ (mergeAll reports).at? ["last", "part"] = some (.ofInt 0) ∧
      (mergeAll reports).at? ["deep", "k"] = some (.str "second") ∧
      (mergeAll reports).at? ["only"] = some (.obj [("k", .null)]) ∧ (mergeAll reports).at? ["last", "other"] = none := by
  intro reports
  have leaf : ∀ tree : Tree, (∀ entries, tree ≠ .obj entries) → tree.Distinct := fun _ => .leaf
  have distinct : ∀ d ∈ reports, d.toTree.Distinct := by
    simp [-Prod.forall, reports, toTree, Tree.Distinct.obj_iff, Entries.keys, Tree.ofInt, leaf]
  refine ⟨distinct, ?_, ?_, ?_, ?_⟩
  · exact (mergeAll_prefers_first distinct _).1 0 (by decide) _ (by omega) rfl (by decide)
  · exact (mergeAll_prefers_first distinct _).1 1 (by decide) _ (by decide) rfl (by decide)
  · exact (mergeAll_prefers_first distinct _).2.2 0 (by decide) (by decide)
  · cases held : (mergeAll reports).at? ["last", "other"] with
    | none => rfl
    | some value => exact absurd ((mergeAll_prefers_first distinct _).2.1 value held).1 (by decide)

end BulkTransfer.Document
