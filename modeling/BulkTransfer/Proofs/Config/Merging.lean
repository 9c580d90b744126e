import BulkTransfer.Proofs.Config.Sections
import BulkTransfer.Proofs.Tree.Equality
import Mathlib.Data.List.Nodup
import Mathlib.Data.Option.Basic
/-!
# Merging of three documents

Laying one object on another acts on each key alone, and keys keep the order in which they first come
up. So of three documents it does not matter which two are merged first, but for one kind of place:
where the outer two have objects and the one between them has something else. Merged from the left,
that other value has already replaced the lowest object when the highest comes; merged from the right,
the lowest object is still there.
-/
namespace BulkTransfer

namespace Entries

variable {base top entries entries' : Entries} {key other : String} {value : Tree}

theorem get?_put : (entries.put key value).get? other = if other = key then some value else entries.get? other := by
  split
  · next same => rw [same, get?_put_self]
  · next differ => exact get?_put_other differ

theorem get?_isSome : (entries.get? key).isSome ↔ key ∈ entries.keys := by
  simp only [get?, List.lookup_isSome_iff, keys, List.mem_map, beq_iff_eq]
  constructor <;>
  · rintro ⟨entry, mem, same⟩
    exact ⟨entry, mem, same.symm⟩

theorem get?_none : entries.get? key = none ↔ key ∉ entries.keys := by
  rw [← get?_isSome, Option.not_isSome_iff_eq_none]

theorem get?_mem (found : entries.get? key = some value) : (key, value) ∈ entries := by
  induction entries with
  | nil => simp [get?] at found
  | cons entry rest ih =>
    obtain ⟨head, first⟩ := entry
    rw [get?, List.lookup_cons] at found
    by_cases same : key = head
    · subst same
      simp only [BEq.rfl, Option.some.injEq] at found
      exact found ▸ List.mem_cons_self
    · rw [beq_eq_false_iff_ne.mpr same] at found
      exact List.mem_cons_of_mem _ (ih found)

theorem keys_put : (entries.put key value).keys =
    if key ∈ entries.keys then entries.keys else entries.keys ++ [key] := by
  induction entries with
  | nil => simp [put, keys]
  | cons entry rest ih =>
    obtain ⟨head, first⟩ := entry
    by_cases same : head = key
    · simp [put, keys, same]
    · have onward : (key ∈ keys ((head, first) :: rest)) ↔ key ∈ keys rest := by
        simp [keys, Ne.symm same]
      rw [put, if_neg same, keys, List.map_cons, ← keys, ih]
      simp only [onward]
      split <;> rfl

/-- Objects whose keys are distinct are equal if they have the same keys in the same order, and the same
values at them. -/
theorem ext_keys (distinct : entries.keys.Nodup) (order : entries.keys = entries'.keys)
    (values : ∀ key, entries.get? key = entries'.get? key) : entries = entries' := by
  induction entries generalizing entries' with
  | nil => exact (List.map_eq_nil_iff.mp order.symm).symm
  | cons entry rest ih =>
    obtain ⟨head, first⟩ := entry
    cases entries' with
    | nil => cases order
    | cons entry' rest' =>
      obtain ⟨head', first'⟩ := entry'
      obtain ⟨rfl, later⟩ := List.cons.inj order
      have unseen : head ∉ keys rest := (List.nodup_cons.mp distinct).1
      have unseen' : head ∉ keys rest' := by rwa [keys, ← later]
      have same : first = first' := by simpa [get?] using values head
      have others : rest = rest' := ih (List.nodup_cons.mp distinct).2 later fun key => by
        by_cases here : key = head
        · rw [here, get?_none.mpr unseen, get?_none.mpr unseen']
        · simpa [get?, List.lookup_cons, beq_eq_false_iff_ne.mpr here] using values key
      rw [same, others]

/-- What is laid on an object shows at each of its keys, and leaves the values of the other keys alone. -/
theorem get?_overlay (distinct : top.keys.Nodup) :
    get? (overlay base top) key = Option.merge Tree.overlay (base.get? key) (top.get? key) := by
  induction top generalizing base with
  | nil => rw [overlay, get?, get?, List.lookup_nil]; cases base.lookup key <;> rfl
  | cons entry rest ih =>
    obtain ⟨head, first⟩ := entry
    obtain ⟨unseen, distinct⟩ := List.nodup_cons.mp distinct
    rw [overlay_cons, ih distinct, get?_put]
    by_cases here : key = head
    · subst here
      rw [if_pos rfl, get?_none.mpr unseen, get?, get?, List.lookup_cons_self]
      cases base.lookup key <;> rfl
    · rw [if_neg here, get?, get?, get?, List.lookup_cons, beq_eq_false_iff_ne.mpr here]

/-- The keys of what is laid on an object come behind those that were there, as far as they are new. -/
theorem keys_overlay (distinct : top.keys.Nodup) :
    keys (overlay base top) = base.keys ++ top.keys.filter (· ∉ base.keys) := by
  induction top generalizing base with
  | nil => simp [overlay, keys]
  | cons entry rest ih =>
    obtain ⟨head, first⟩ := entry
    obtain ⟨unseen, distinct⟩ := List.nodup_cons.mp distinct
    rw [overlay_cons, ih distinct, keys_put, show keys ((head, first) :: rest) = head :: keys rest from rfl]
    split
    · next there => rw [List.filter_cons_of_neg (by simpa using there)]
    · next new =>
      rw [List.filter_cons_of_pos (by simpa using new), List.append_assoc, List.singleton_append]
      congr 2
      refine List.filter_congr fun later mem => ?_
      have differ : later ≠ head := fun same => unseen (same ▸ mem)
      simp [differ]

theorem nodup_overlay (distinct : base.keys.Nodup) (distinct' : top.keys.Nodup) :
    (keys (overlay base top)).Nodup := by
  rw [keys_overlay distinct']
  refine List.Nodup.append distinct (distinct'.filter _) fun key below above => ?_
  simpa [below] using (List.mem_filter.mp above).2

end Entries

namespace Tree

/-- No object in a tree has a key twice. Lists are replaced whole, so what is in them does not matter. -/
inductive Distinct : Tree → Prop
  | obj {entries : Entries} (keys : entries.keys.Nodup) (values : ∀ entry ∈ entries, Distinct entry.2) :
      Distinct (.obj entries)
  | leaf {tree : Tree} (h : ∀ entries, tree ≠ .obj entries) : Distinct tree

/-- At some place, reached through objects of all three trees, the first and the third tree have objects
and the second, between them, has something else, and the first object would show under the third. -/
inductive Interrupted : Tree → Tree → Tree → Prop
  | here {as cs : Entries} {b : Tree} (other : ∀ bs, b ≠ .obj bs) (shows : Entries.overlay as cs ≠ cs) :
      Interrupted (.obj as) b (.obj cs)
  | under {as bs cs : Entries} {a b c : Tree} (key : String) (first : as.get? key = some a)
      (second : bs.get? key = some b) (third : cs.get? key = some c) (inside : Interrupted a b c) :
      Interrupted (.obj as) (.obj bs) (.obj cs)

variable {a b c : Tree} {as bs cs : Entries}

theorem overlay_obj : overlay (.obj as) (.obj bs) = .obj (Entries.overlay as bs) := by rw [overlay]

theorem overlay_leaf (h : ∀ bs, b ≠ .obj bs) : overlay a b = b := by
  cases b with
  | obj bs => exact absurd rfl (h bs)
  | _ => cases a <;> rw [overlay] <;> simp

theorem overlay_on_leaf (h : ∀ as, a ≠ .obj as) : overlay a b = b := by
  cases a with
  | obj as => exact absurd rfl (h as)
  | _ => cases b <;> rw [overlay] <;> simp

namespace Distinct

theorem obj_iff : Distinct (.obj as) ↔ as.keys.Nodup ∧ ∀ entry ∈ as, Distinct entry.2 := by
  refine ⟨fun h => ?_, fun ⟨keys, values⟩ => .obj keys values⟩
  cases h with
  | obj keys values => exact ⟨keys, values⟩
  | leaf no => exact absurd rfl (no as)

theorem keys (h : Distinct (.obj as)) : as.keys.Nodup := (obj_iff.mp h).1

theorem value {key : String} (h : Distinct (.obj as)) (found : as.get? key = some a) : Distinct a :=
  (obj_iff.mp h).2 (key, a) (Entries.get?_mem found)

end Distinct

end Tree

/-- At each key an overlay of three objects is the overlay of their values, so it is enough that those
are not interrupted. -/
theorem Entries.overlay_assoc {as bs cs : Entries} (first : as.keys.Nodup) (second : bs.keys.Nodup)
    (third : cs.keys.Nodup) (values : ∀ key a b c, as.get? key = some a → bs.get? key = some b →
      cs.get? key = some c → Tree.overlay (Tree.overlay a b) c = Tree.overlay a (Tree.overlay b c)) :
    overlay (overlay as bs) cs = overlay as (overlay bs cs) := by
  have upper : (keys (overlay bs cs)).Nodup := nodup_overlay second third
  refine ext_keys (nodup_overlay (nodup_overlay first second) third) ?_ fun key => ?_
  · rw [keys_overlay third, keys_overlay upper, keys_overlay second, keys_overlay third,
      List.filter_append, List.append_assoc, List.filter_filter]
    refine congrArg _ (congrArg _ (List.filter_congr fun key _ => ?_))
    simp only [List.mem_append, List.mem_filter, decide_eq_true_eq]
    grind
  · rw [get?_overlay third, get?_overlay upper, get?_overlay second, get?_overlay third]
    cases lowest : as.get? key with
    | none => cases bs.get? key <;> cases cs.get? key <;> rfl
    | some a =>
      cases middle : bs.get? key with
      | none => cases cs.get? key <;> rfl
      | some b =>
        cases highest : cs.get? key with
        | none => rfl
        | some c => exact congrArg some (values key a b c lowest middle highest)

namespace Tree

variable {a b c : Tree}

theorem overlay_assoc_of (ha : a.Distinct) (hb : b.Distinct) (hc : c.Distinct)
    (whole : ¬ Interrupted a b c) : overlay (overlay a b) c = overlay a (overlay b c) := by
  -- the induction is on the lowest tree, the one that the two orders treat differently
  induction ha generalizing b c with
  | leaf h => rw [overlay_on_leaf h, overlay_on_leaf h]
  | @obj as keys values ih =>
    by_cases top : ∀ cs, c ≠ .obj cs
    · rw [overlay_leaf top, overlay_leaf top, overlay_leaf top]
    obtain ⟨cs, rfl⟩ : ∃ cs, c = .obj cs := by simpa using top
    by_cases between : ∀ bs, b ≠ .obj bs
    · rw [overlay_leaf between, overlay_on_leaf between, overlay_obj]
      refine congrArg Tree.obj (Eq.symm (Classical.byContradiction fun shows => ?_))
      exact whole (.here between shows)
    obtain ⟨bs, rfl⟩ : ∃ bs, b = .obj bs := by simpa using between
    rw [overlay_obj, overlay_obj, overlay_obj, overlay_obj]
    refine congrArg Tree.obj (Entries.overlay_assoc keys hb.keys hc.keys fun key a b c first second third => ?_)
    exact ih (key, a) (Entries.get?_mem first) (hb.value second) (hc.value third)
      fun inside => whole (.under key first second third inside)

theorem Interrupted.overlay_ne (h : Interrupted a b c) (hb : b.Distinct) (hc : c.Distinct) :
    overlay (overlay a b) c ≠ overlay a (overlay b c) := by
  induction h with
  | here other shows =>
    rw [overlay_leaf other, overlay_on_leaf other, overlay_obj]
    exact fun same => shows (Tree.obj.inj same).symm
  | @under as bs cs a b c key first second third _ ih =>
    rw [overlay_obj, overlay_obj, overlay_obj, overlay_obj]
    intro same
    refine ih (hb.value second) (hc.value third) (Option.some.inj ?_)
    have atKey := congrArg (Entries.get? · key) (Tree.obj.inj same)
    rwa [Entries.get?_overlay hc.keys, Entries.get?_overlay hb.keys,
      Entries.get?_overlay (Entries.nodup_overlay hb.keys hc.keys), Entries.get?_overlay hc.keys,
      first, second, third] at atKey

end Tree

namespace Document

variable {a b c : Document}

/-- Three documents can be merged from either end, with the same keys in the same order, exactly if at no
place the middle one comes with something else between two objects of which the lower would show. -/
theorem merge_assoc_iff (ha : a.toTree.Distinct) (hb : b.toTree.Distinct) (hc : c.toTree.Distinct) :
    (a.merge b).merge c = a.merge (b.merge c) ↔ ¬ Tree.Interrupted a.toTree b.toTree c.toTree := by
  have trees : (a.merge b).merge c = a.merge (b.merge c) ↔
      Tree.overlay (Tree.overlay a.toTree b.toTree) c.toTree =
        Tree.overlay a.toTree (Tree.overlay b.toTree c.toTree) := by
    simp only [toTree, Tree.overlay_obj, Tree.obj.injEq, merge, mk.injEq]
  rw [trees]
  exact ⟨fun same inside => inside.overlay_ne hb hc same, Tree.overlay_assoc_of ha hb hc⟩

/-- Nested objects are merged from either end alike. -/
theorem merge_assoc_iff_nested :
    let a : Document := ⟨[("x", .obj [("p", .ofInt 1)]), ("y", .ofInt 1)]⟩
    let b : Document := ⟨[("x", .obj [("q", .arr [.ofInt 2])])]⟩
    let c : Document := ⟨[("x", .obj [("p", .ofInt 3)]), ("z", .null)]⟩
    (a.toTree.Distinct ∧ b.toTree.Distinct ∧ c.toTree.Distinct) ∧
      ((a.merge b).merge c = a.merge (b.merge c) ↔ ¬ Tree.Interrupted a.toTree b.toTree c.toTree) := by
  intro a b c
  have null : Tree.Distinct .null := .leaf nofun
  have number : ∀ n, Tree.Distinct (.num n) := fun _ => .leaf nofun
  have list : ∀ items, Tree.Distinct (.arr items) := fun _ => .leaf nofun
  have ha : a.toTree.Distinct := by
    simp [a, toTree, Tree.Distinct.obj_iff, Entries.keys, Tree.ofInt, number]
  have hb : b.toTree.Distinct := by
    simp [b, toTree, Tree.Distinct.obj_iff, Entries.keys, list]
  have hc : c.toTree.Distinct := by
    simp [c, toTree, Tree.Distinct.obj_iff, Entries.keys, Tree.ofInt, number, null]
  exact ⟨⟨ha, hb, hc⟩, merge_assoc_iff ha hb hc⟩

/-- A number between two objects, the upper of them empty: what is left is the lower object or nothing,
as the merge goes. -/
theorem merge_not_assoc :
    let a : Document := ⟨[("k", .obj [("x", .ofInt 1)])]⟩
    let b : Document := ⟨[("k", .ofInt 5)]⟩
    let c : Document := ⟨[("k", .obj [])]⟩
    ((a.merge b).merge c).same (a.merge (b.merge c)) = false ∧
      (a.merge b).merge c = c ∧ a.merge (b.merge c) = a := by
  decide

end Document

end BulkTransfer
