import BulkTransfer.Proofs.Config.Merging
import Mathlib.Data.List.Infix
/-!
# Merged documents, path by path

What a merged document holds at a path of keys depends only on what the two documents hold along that
path. An upper value covers what is below it, unless both are objects; where the upper document is
silent the lower one shows through, as long as nothing on the way to it is covered.
-/
namespace BulkTransfer

/-- Laid on nothing, an object is what it was. -/
theorem Entries.overlay_nil {top : Entries} (distinct : top.keys.Nodup) : overlay [] top = top := by
  have order : keys (overlay [] top) = top.keys := by
    rw [keys_overlay distinct, keys, List.map_nil, List.nil_append]
    exact List.filter_eq_self.mpr fun key _ => by simp
  refine ext_keys (order ▸ distinct) order fun key => ?_
  rw [get?_overlay distinct, get?, List.lookup_nil]
  cases top.get? key <;> rfl

namespace Tree

/-- What a tree holds at a path of keys, reached through objects. -/
def at? : Tree → List String → Option Tree
  | tree, [] => some tree
  | .obj entries, key :: path => (Entries.get? entries key).bind fun value => at? value path
  | _, _ :: _ => none

def IsObject (tree : Tree) : Prop := ∃ entries, tree = .obj entries

instance (tree : Tree) : Decidable tree.IsObject :=
  match tree with
  | .obj entries => isTrue ⟨entries, rfl⟩
  | .null | .bool _ | .num _ | .str _ | .arr _ => isFalse nofun

def ObjectAt (tree : Tree) (path : List String) : Prop := ∃ entries, tree.at? path = some (.obj entries)

def ObjectsAlong (tree : Tree) (path : List String) : Prop := ∀ upper, upper <+: path → tree.ObjectAt upper

/-- Wherever `top` holds something on the way to a place, both trees have objects there. -/
def ShowsThrough (base top : Tree) (path : List String) : Prop :=
  ∀ upper, upper <+: path → (top.at? upper).isSome → base.ObjectAt upper ∧ top.ObjectAt upper

variable {tree value base top : Tree} {entries bs ts : Entries} {key : String} {path upper : List String}

theorem not_isObject : ¬ tree.IsObject ↔ ∀ entries, tree ≠ .obj entries := not_exists

@[simp] theorem at?_nil : tree.at? [] = some tree := by cases tree <;> rw [at?]

theorem at?_obj : (obj entries).at? (key :: path) = (entries.get? key).bind (at? · path) := by rw [at?]

theorem at?_leaf (leaf : ¬ tree.IsObject) : tree.at? (key :: path) = none := by
  cases tree with
  | obj entries => exact absurd ⟨entries, rfl⟩ leaf
  | _ => rw [at?]; simp

theorem objectAt_nil : tree.ObjectAt [] ↔ tree.IsObject := by simp [ObjectAt, IsObject]

theorem objectAt_obj : (obj entries).ObjectAt (key :: path) ↔
    ∃ value, entries.get? key = some value ∧ value.ObjectAt path := by
  simp only [ObjectAt, at?_obj, Option.bind_eq_some_iff]
  exact ⟨fun ⟨inner, value, found, there⟩ => ⟨value, found, inner, there⟩,
    fun ⟨value, found, inner, there⟩ => ⟨inner, value, found, there⟩⟩

/-- What lies at a path lies in the tree at any part of the path. -/
theorem at?_append (tree : Tree) (upper path : List String) :
    tree.at? (upper ++ path) = (tree.at? upper).bind (at? · path) := by
  induction upper generalizing tree with
  | nil => simp
  | cons key upper ih =>
    by_cases object : tree.IsObject
    · obtain ⟨entries, rfl⟩ := object
      rw [List.cons_append, at?_obj, at?_obj, Option.bind_assoc]
      exact Option.bind_congr fun value _ => ih value
    · rw [List.cons_append, at?_leaf object, at?_leaf object, Option.bind_none]

/-- Everything above a place where a tree holds something is an object. -/
theorem objectAt_above (held : (tree.at? path).isSome) (above : upper <+: path) (apart : upper ≠ path) :
    tree.ObjectAt upper := by
  obtain ⟨rest, rfl⟩ := above
  cases rest with
  | nil => exact absurd (List.append_nil upper).symm apart
  | cons key rest =>
    rw [at?_append] at held
    cases there : tree.at? upper with
    | none => simp [there] at held
    | some value =>
      by_cases object : value.IsObject
      · obtain ⟨entries, rfl⟩ := object
        exact ⟨entries, there⟩
      · simp [there, at?_leaf object] at held

theorem objectsAlong_iff : tree.ObjectsAlong path ↔ tree.ObjectAt path := by
  refine ⟨fun along => along path List.prefix_rfl, fun ⟨entries, there⟩ upper above => ?_⟩
  by_cases same : upper = path
  · exact same ▸ ⟨entries, there⟩
  · exact objectAt_above (Option.isSome_of_eq_some there) above same

theorem Distinct.at (h : tree.Distinct) (there : tree.at? path = some value) : value.Distinct := by
  induction path generalizing tree with
  | nil => exact Option.some.inj (at?_nil.symm.trans there) ▸ h
  | cons key path ih =>
    by_cases object : tree.IsObject
    · obtain ⟨entries, rfl⟩ := object
      rw [at?_obj] at there
      obtain ⟨inner, found, there⟩ := Option.bind_eq_some_iff.mp there
      exact ih (h.value found) there
    · cases (at?_leaf object).symm.trans there

section Overlay

/-- One key further in, a merged object holds the values of that key merged, or the one that there is. -/
theorem at?_overlay_obj (distinct : (obj ts).Distinct) : (overlay (.obj bs) (.obj ts)).at? (key :: path) =
    (Option.merge overlay (bs.get? key) (ts.get? key)).bind (at? · path) := by
  rw [overlay_obj, at?_obj, Entries.get?_overlay distinct.keys]

/-- Where the upper tree holds something, that is laid on what the lower one holds there. -/
theorem at?_overlay_covered (distinct : top.Distinct) (held : top.at? path = some value) :
    (overlay base top).at? path = some (((base.at? path).map (overlay · value)).getD value) := by
  induction path generalizing base top with
  | nil =>
    cases at?_nil.symm.trans held
    simp
  | cons key path ih =>
    by_cases object : top.IsObject
    · obtain ⟨ts, rfl⟩ := object
      by_cases under : base.IsObject
      · obtain ⟨bs, rfl⟩ := under
        rw [at?_obj] at held
        obtain ⟨inner, found, held⟩ := Option.bind_eq_some_iff.mp held
        rw [at?_overlay_obj distinct, at?_obj, found]
        cases Entries.get? bs key with
        | none => simpa using held
        | some below => simpa using ih (distinct.value found) held
      · rw [overlay_on_leaf (not_isObject.mp under), at?_leaf under, held]
        rfl
    · cases (at?_leaf object).symm.trans held

/-- Through objects a lower tree shows if it does so under the value that the upper one has at the next key. -/
theorem showsThrough_obj : ShowsThrough (.obj bs) (.obj ts) (key :: path) ↔
    ∀ above, ts.get? key = some above → ∃ below, bs.get? key = some below ∧ ShowsThrough below above path := by
  constructor
  · intro through above found
    have inside : ∀ upper, upper <+: path → (above.at? upper).isSome →
        ∃ below, bs.get? key = some below ∧ below.ObjectAt upper ∧ above.ObjectAt upper := by
      intro upper within held
      obtain ⟨below, above'⟩ := through (key :: upper) ((List.prefix_cons_inj key).mpr within)
        (by rwa [at?_obj, found])
      obtain ⟨below, there, under⟩ := objectAt_obj.mp below
      obtain ⟨same, found', higher⟩ := objectAt_obj.mp above'
      exact ⟨below, there, under, Option.some.inj (found.symm.trans found') ▸ higher⟩
    obtain ⟨below, there, -⟩ := inside [] List.nil_prefix (by simp)
    refine ⟨below, there, fun upper within held => ?_⟩
    obtain ⟨same, there', both⟩ := inside upper within held
    exact Option.some.inj (there.symm.trans there') ▸ both
  · intro next upper within held
    rcases List.prefix_cons_iff.mp within with rfl | ⟨rest, rfl, inner⟩
    · exact ⟨objectAt_nil.mpr ⟨bs, rfl⟩, objectAt_nil.mpr ⟨ts, rfl⟩⟩
    · rw [at?_obj] at held
      cases found : ts.get? key with
      | none => simp [found] at held
      | some above =>
        obtain ⟨below, there, through⟩ := next above found
        obtain ⟨under, higher⟩ := through rest inner (by simpa [found] using held)
        exact ⟨objectAt_obj.mpr ⟨below, there, under⟩, objectAt_obj.mpr ⟨above, found, higher⟩⟩

/-- Where the upper tree holds nothing, either the lower one shows through or nothing is there. -/
theorem at?_overlay_silent (base : Tree) (distinct : top.Distinct) (silent : top.at? path = none) :
    (ShowsThrough base top path → (overlay base top).at? path = base.at? path) ∧
      (¬ ShowsThrough base top path → (overlay base top).at? path = none) := by
  induction path generalizing base top with
  | nil => cases at?_nil.symm.trans silent
  | cons key path ih =>
    by_cases objects : base.IsObject ∧ top.IsObject
    · obtain ⟨⟨bs, rfl⟩, ⟨ts, rfl⟩⟩ := objects
      rw [at?_overlay_obj distinct, at?_obj, showsThrough_obj]
      rw [at?_obj] at silent
      cases above : Entries.get? ts key with
      | none => cases Entries.get? bs key <;> simp
      | some higher =>
        have silent : higher.at? path = none := by simpa [above] using silent
        cases below : Entries.get? bs key with
        | none => simp [silent]
        | some under => simpa using ih under (distinct.value above) silent
    · have covered : overlay base top = top := by
        by_cases higher : top.IsObject
        · exact overlay_on_leaf (not_isObject.mp fun under => objects ⟨under, higher⟩)
        · exact overlay_leaf (not_isObject.mp higher)
      refine ⟨fun through => absurd ?_ objects, fun _ => by rw [covered, silent]⟩
      exact (through [] List.nil_prefix (by simp)).imp objectAt_nil.mp objectAt_nil.mp

theorem overlay_self (distinct : top.Distinct) : overlay top top = top := by
  induction distinct with
  | leaf h => exact overlay_leaf h
  | @obj ts keys values ih =>
    have order : Entries.keys (Entries.overlay ts ts) = ts.keys := by
      rw [Entries.keys_overlay keys, List.filter_eq_nil_iff.mpr fun key mem => by simpa using mem,
        List.append_nil]
    rw [overlay_obj]
    refine congrArg Tree.obj (Entries.ext_keys (order ▸ keys) order fun key => ?_)
    rw [Entries.get?_overlay keys]
    cases found : Entries.get? ts key with
    | none => rfl
    | some value => exact congrArg some (ih (key, value) (Entries.get?_mem found))

/-- Nothing comes between two equal trees. -/
theorem Interrupted.apart {a b c : Tree} (h : Interrupted a b c) : b ≠ c := by
  induction h with
  | @here as cs b other _ => exact other cs
  | under key _ second third _ ih =>
    intro same
    cases same
    exact ih (Option.some.inj (second.symm.trans third))

end Overlay

end Tree

namespace Document

/-- What a document holds at a path of keys; at the empty path that is the document itself. -/
def at? (d : Document) (path : List String) : Option Tree := d.toTree.at? path

/-- What the merge of two documents holds at a path. -/
structure MergedAt (base top merged : Document) (path : List String) : Prop where
  replaced : ∀ value, top.at? path = some value → ¬ value.IsObject → merged.at? path = some value
  /-- Where both have objects, the keys of `base` keep their order and new ones follow in that of `top`. -/
  joined : ∀ bs ts : Entries, base.toTree.ObjectsAlong path → base.at? path = some (.obj bs) →
    top.at? path = some (.obj ts) → ∃ entries : Entries, merged.at? path = some (.obj entries) ∧
      entries.keys = bs.keys ++ ts.keys.filter (· ∉ bs.keys)
  entered : ∀ ts : Entries, ¬ base.toTree.ObjectsAlong path → top.at? path = some (.obj ts) →
    merged.at? path = some (.obj ts)
  shown : top.at? path = none → base.toTree.ShowsThrough top.toTree path → merged.at? path = base.at? path
  hidden : top.at? path = none → ¬ base.toTree.ShowsThrough top.toTree path → merged.at? path = none

variable {base top : Document} {path : List String} {value : Tree}

theorem toTree_merge : (base.merge top).toTree = Tree.overlay base.toTree top.toTree := by
  rw [toTree, toTree, toTree, Tree.overlay_obj]
  rfl

theorem at?_merge_covered (distinct : top.toTree.Distinct) (held : top.at? path = some value) :
    (base.merge top).at? path = some (((base.at? path).map (Tree.overlay · value)).getD value) := by
  rw [at?, toTree_merge]
  exact Tree.at?_overlay_covered distinct held

theorem at?_merge_silent (distinct : top.toTree.Distinct) (silent : top.at? path = none) :
    (base.toTree.ShowsThrough top.toTree path → (base.merge top).at? path = base.at? path) ∧
      (¬ base.toTree.ShowsThrough top.toTree path → (base.merge top).at? path = none) := by
  rw [at?, toTree_merge]
  exact Tree.at?_overlay_silent base.toTree distinct silent

theorem merge_mergedAt (distinct : top.toTree.Distinct) (path : List String) :
    MergedAt base top (base.merge top) path := by
  constructor
  case replaced =>
    intro value held leaf
    have covers : ∀ below, Tree.overlay below value = value := fun _ => Tree.overlay_leaf (Tree.not_isObject.mp leaf)
    rw [at?_merge_covered distinct held]
    cases base.at? path <;> simp [covers]
  case joined =>
    intro bs ts _ below above
    refine ⟨Entries.overlay bs ts, ?_, Entries.keys_overlay (distinct.at above).keys⟩
    rw [at?_merge_covered distinct above, below, Option.map_some, Option.getD_some, Tree.overlay_obj]
  case entered =>
    intro ts apart above
    rw [at?_merge_covered distinct above]
    cases below : base.at? path with
    | none => rfl
    | some value =>
      have leaf : ¬ value.IsObject := fun ⟨bs, same⟩ =>
        apart (Tree.objectsAlong_iff.mpr ⟨bs, same ▸ below⟩)
      rw [Option.map_some, Option.getD_some, Tree.overlay_on_leaf (Tree.not_isObject.mp leaf)]
  case shown => exact fun silent => (at?_merge_silent distinct silent).1
  case hidden => exact fun silent => (at?_merge_silent distinct silent).2

theorem merge_again (lower : base.toTree.Distinct) (upper : top.toTree.Distinct) :
    (base.merge top).merge top = base.merge top := by
  have trees : Tree.overlay (Tree.overlay base.toTree top.toTree) top.toTree =
      Tree.overlay base.toTree (Tree.overlay top.toTree top.toTree) :=
    Tree.overlay_assoc_of lower upper upper fun between => between.apart rfl
  rw [Tree.overlay_self upper, ← toTree_merge, ← toTree_merge] at trees
  exact congrArg mk (Tree.obj.inj trees)

/-- Two merged documents hold at every path of keys what the upper one says there or, where it is silent
and has not covered the way, what the lower one does. Merging the upper one again changes nothing. -/
theorem merge_pointwise (lower : base.toTree.Distinct) (upper : top.toTree.Distinct) :
    (∀ path, MergedAt base top (base.merge top) path) ∧ (base.merge top).merge top = base.merge top :=
  ⟨merge_mergedAt upper, merge_again lower upper⟩

/-- A number in the way of an object, an object in the way of a number, and a list replaced whole. -/
theorem merge_pointwise_mixed :
    let a : Document := ⟨[("x", .obj [("p", .ofInt 1), ("q", .arr [.ofInt 1])]), ("y", .ofInt 1),
      ("z", .obj [("k", .ofInt 1)])]⟩
    let b : Document := ⟨[("n", .null), ("z", .ofInt 2), ("y", .obj [("l", .ofInt 3)]),
      ("x", .obj [("r", .ofInt 4), ("q", .arr [])])]⟩
    let m := a.merge b
    (a.toTree.Distinct ∧ b.toTree.Distinct) ∧ (∀ path, MergedAt a b m path) ∧ m.merge b = m ∧
      m = ⟨[("x", .obj [("p", .ofInt 1), ("q", .arr []), ("r", .ofInt 4)]), ("y", .obj [("l", .ofInt 3)]),
        ("z", .ofInt 2), ("n", .null)]⟩ := by
  intro a b m
  have null : Tree.Distinct .null := .leaf nofun
  have number : ∀ n, Tree.Distinct (.num n) := fun _ => .leaf nofun
  have list : ∀ items, Tree.Distinct (.arr items) := fun _ => .leaf nofun
  have ha : a.toTree.Distinct := by
    simp [a, toTree, Tree.Distinct.obj_iff, Entries.keys, Tree.ofInt, number, list]
  have hb : b.toTree.Distinct := by
    simp [b, toTree, Tree.Distinct.obj_iff, Entries.keys, Tree.ofInt, number, null, list]
  obtain ⟨held, again⟩ := merge_pointwise ha hb
  exact ⟨⟨ha, hb⟩, held, again, by decide⟩

end Document

end BulkTransfer
