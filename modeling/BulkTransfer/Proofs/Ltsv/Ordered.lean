import BulkTransfer.Proofs.Ltsv.Parsing
import Mathlib.Data.List.Nodup
/-!
# Lines in the order of the columns

A line whose fields stand in the order of the columns says the same whether its fields are found by their
places or by their labels. Trailing columns may be missing, and fields that belong to no column may follow
when none is.
-/
namespace BulkTransfer.Ltsv

namespace Options

def byPlace (o : Options) : Options := { o with allowsAnyOrder := false }

def byLabel (o : Options) : Options := { o with allowsAnyOrder := true }

end Options

/-- The labels are the names of the first `k` columns in order, and then `extra` ones that name no column.
These only follow when no column is missing. -/
structure FollowsColumns (columns : List Column) (k : Nat) (extra labels : List String) : Prop where
  parts : labels = (columns.take k).map Column.name ++ extra
  within : k ≤ columns.length
  whole : extra ≠ [] → k = columns.length
  foreign : ∀ label ∈ extra, ∀ c ∈ columns, label ≠ c.name

namespace FollowsColumns

variable {columns : List Column} {k i j : Nat} {extra labels : List String} {c : Column} {s : Schema}

theorem label_at (h : FollowsColumns columns k extra labels) (hc : columns[i]? = some c) :
    labels[i]? = if i < k then some c.name else none := by
  rw [h.parts]
  split
  case isTrue present =>
    have there : ((columns.take k).map Column.name)[i]? = some c.name := by
      rw [List.getElem?_map, List.getElem?_take_of_lt present, hc]
      rfl
    obtain ⟨inside, -⟩ := List.getElem?_eq_some_iff.mp there
    rw [List.getElem?_append_left inside, there]
  case isFalse missing =>
    obtain ⟨inside, -⟩ := List.getElem?_eq_some_iff.mp hc
    -- a column is missing, so nothing follows the fields of those that are there
    have none : extra = [] := by
      by_contra more
      have := h.whole more
      omega
    have length : ((columns.take k).map Column.name ++ extra).length = k := by
      rw [none, List.append_nil, List.length_map, List.length_take, Nat.min_eq_left h.within]
    exact List.getElem?_eq_none (by omega)

/-- A label that names a column stands at its place. -/
theorem place_of_label (h : FollowsColumns s.columns k extra labels) (hc : s.columns[i]? = some c)
    (hl : labels[j]? = some c.name) : j = i := by
  rw [h.parts] at hl
  by_cases first : j < ((s.columns.take k).map Column.name).length
  · rw [List.getElem?_append_left first, List.getElem?_map] at hl
    obtain ⟨d, hd, same⟩ := Option.map_eq_some_iff.mp hl
    have there : s.columns[j]? = some d := by
      rw [List.length_map, List.length_take] at first
      rwa [List.getElem?_take_of_lt (by omega)] at hd
    have names : (s.columns.map Column.name)[j]? = (s.columns.map Column.name)[i]? := by
      rw [List.getElem?_map, List.getElem?_map, there, hc, Option.map_some, Option.map_some, same]
    obtain ⟨inside, -⟩ := List.getElem?_eq_some_iff.mp there
    exact (List.getElem?_inj (by rwa [List.length_map]) s.valid.distinct).mp names
  · rw [List.getElem?_append_right (Nat.le_of_not_lt first)] at hl
    exact absurd rfl (h.foreign _ (List.mem_of_getElem? hl) c (List.mem_of_getElem? hc))

end FollowsColumns

variable {o : Options} {s : Schema} {fields : List Field} {k i : Nat} {extra : List String} {c : Column}

/-- The last field with a column's label is the one at its place. -/
theorem fieldOf_byLabel (h : FollowsColumns s.columns k extra (fields.map Field.label))
    (hc : s.columns[i]? = some c) : fieldOf o.byLabel fields c = fields[i]? := by
  have only : ∀ j f, fields[j]? = some f → f.label = c.name → j = i := by
    intro j f hf same
    refine h.place_of_label hc ?_
    rw [List.getElem?_map, hf, Option.map_some, same]
  have label := h.label_at hc
  rw [List.getElem?_map] at label
  rw [fieldOf, Options.byLabel, if_pos rfl]
  cases there : fields[i]? with
  | none =>
    refine List.find?_eq_none.mpr fun f mem same => ?_
    obtain ⟨j, hf⟩ := List.mem_iff_getElem?.mp (List.mem_reverse.mp mem)
    obtain rfl := only j f hf (of_decide_eq_true same)
    cases there.symm.trans hf
  | some f =>
    have same : f.label = c.name := by
      rw [there, Option.map_some] at label
      split at label
      · exact Option.some.inj label
      · cases label
    obtain ⟨inside, rfl⟩ := List.getElem?_eq_some_iff.mp there
    refine List.find?_eq_some_iff_append.mpr ⟨decide_eq_true same, (fields.drop (i + 1)).reverse,
      (fields.take i).reverse, ?_, ?_⟩
    · have parts : fields = fields.take i ++ fields[i] :: fields.drop (i + 1) := by
        rw [← List.drop_eq_getElem_cons inside, List.take_append_drop]
      calc fields.reverse = (fields.take i ++ fields[i] :: fields.drop (i + 1)).reverse := by rw [← parts]
        _ = (fields.drop (i + 1)).reverse ++ fields[i] :: (fields.take i).reverse := by simp
    · intro g mem
      obtain ⟨j, hg⟩ := List.mem_iff_getElem?.mp (List.mem_reverse.mp mem)
      rw [List.getElem?_drop] at hg
      have other : g.label ≠ c.name := fun label => by
        have := only _ g hg label
        omega
      simpa using other

theorem columnCell_byLabel (h : FollowsColumns s.columns k extra (fields.map Field.label))
    (hc : c ∈ s.columns) : columnCell o.byLabel fields c = columnCell o.byPlace fields c := by
  obtain ⟨i, there⟩ := List.mem_iff_getElem?.mp hc
  have placed : fieldOf o.byPlace fields c = fields[i]? := by
    rw [fieldOf, Options.byPlace, if_neg Bool.false_ne_true, s.index_eq there]
  have text : textOf o.byLabel fields c = textOf o.byPlace fields c := by
    rw [textOf, textOf, fieldOf_byLabel h there, placed]
    rfl
  rw [columnCell, columnCell, text]
  rfl

section Members

variable {m : Type → Type} [Monad m] {α β : Type} {as : List α}

theorem mapM_members [LawfulMonad m] {f g : α → m β} (same : ∀ a ∈ as, f a = g a) : as.mapM f = as.mapM g := by
  induction as with
  | nil => rfl
  | cons a as ih =>
    rw [List.forall_mem_cons] at same
    rw [List.mapM_cons, List.mapM_cons, same.1, ih same.2]

theorem forIn_members {f g : α → β → m (ForInStep β)} (same : ∀ a ∈ as, f a = g a) (b : β) :
    forIn as b f = forIn as b g := by
  induction as generalizing b with
  | nil => rfl
  | cons a as ih =>
    rw [List.forall_mem_cons] at same
    rw [List.forIn_cons, List.forIn_cons, same.1]
    refine bind_congr fun next => ?_
    cases next with
    | done => rfl
    | yield b => exact ih same.2 b

end Members

/-- A line in the order of the columns makes the same record, or fails for the same reason, whether its
fields are found by label or by place, and is added to the pages in the same way. -/
theorem ordered_lines_read_alike (o : Options) (s : Schema) {line : String}
    (split : splitFields line = .ok fields)
    (ordered : FollowsColumns s.columns k extra (fields.map Field.label)) :
    rowOf o.byLabel s.columns line = rowOf o.byPlace s.columns line ∧
      addLine o.byLabel s line = addLine o.byPlace s line := by
  have cells : ∀ c ∈ s.columns, columnCell o.byLabel fields c = columnCell o.byPlace fields c :=
    fun c hc => columnCell_byLabel ordered hc
  constructor
  · rw [rowOf, rowOf, split]
    exact mapM_members cells
  · have known : ∀ f : List Field → Building Unit,
        (Building.ofAttempt ((Except.ok fields : Except FieldFault _).mapError fun fault =>
          .invalidFormat fault.message) >>= f) = f fields := fun _ => rfl
    rw [addLine, addLine, split, known, known]
    congr 1
    refine forIn_members (fun c hc => ?_) PUnit.unit
    rw [cells c hc]

/-- Fields of no column follow twice, and the first field is no number. -/
theorem crowded_line_fails_alike :
    let line := "a:9x\tb:y\tc:1\tc:2"
    let fields : List Field := [⟨"a", "9x"⟩, ⟨"b", "y"⟩, ⟨"c", "1"⟩, ⟨"c", "2"⟩]
    splitFields line = .ok fields ∧
      FollowsColumns numberAndText.columns 2 ["c", "c"] (fields.map Field.label) ∧
        rowOf irregular.byPlace numberAndText.columns line =
          .error (.invalidRecord
            "column 'a' (long): cannot parse '9x': invalid digit found in string") ∧
          rowOf irregular.byLabel numberAndText.columns line =
            rowOf irregular.byPlace numberAndText.columns line ∧
            addLine irregular.byLabel numberAndText line = addLine irregular.byPlace numberAndText line := by
  intro line fields
  have split : splitFields line = .ok fields := by decide
  have ordered : FollowsColumns numberAndText.columns 2 ["c", "c"] (fields.map Field.label) :=
    ⟨rfl, by decide, fun _ => rfl, by decide⟩
  exact ⟨split, ordered, by cbv, ordered_lines_read_alike irregular numberAndText split ordered⟩

/-- In another order the place and the label lead to different fields. -/
example : rowOf irregular.byLabel numberAndText.columns "b:y\ta:7" = .ok [.long 7, .string "y"] ∧
    ∃ e, rowOf irregular.byPlace numberAndText.columns "b:y\ta:7" = .error e := ⟨by rfl, _, by rfl⟩

end BulkTransfer.Ltsv
