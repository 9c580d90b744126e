import BulkTransfer.Transfer.Plugins
/-!
# Sections of configs

A section of a config is what is found at its key. It stays what it is when another section is put
into the config, or when a diff is laid over the config that says nothing of it.
-/
namespace BulkTransfer

namespace Entries

variable {entries : Entries} {key other : String} {value : Tree}

theorem get?_put_self : (entries.put key value).get? key = some value := by
  induction entries with
  | nil => simp [put, get?]
  | cons entry rest ih =>
    obtain ⟨head, old⟩ := entry
    by_cases same : head = key
    · rw [put, if_pos same, get?, List.lookup_cons_self]
    · rw [put, if_neg same, get?, List.lookup_cons, beq_eq_false_iff_ne.mpr (Ne.symm same)]
      exact ih

theorem get?_put_other (differ : other ≠ key) : (entries.put key value).get? other = entries.get? other := by
  induction entries with
  | nil => simp [put, get?, List.lookup_cons, beq_eq_false_iff_ne.mpr differ]
  | cons entry rest ih =>
    obtain ⟨head, old⟩ := entry
    by_cases same : head = key
    · subst same
      rw [put, if_pos rfl, get?, get?, List.lookup_cons, List.lookup_cons,
        beq_eq_false_iff_ne.mpr differ]
    · rw [put, if_neg same, get?, get?, List.lookup_cons, List.lookup_cons]
      cases other == head with
      | true => rfl
      | false => exact ih

theorem overlay_cons (base rest : Entries) (key : String) (value : Tree) :
    overlay base ((key, value) :: rest) =
      overlay (base.put key (((base.get? key).map (Tree.overlay · value)).getD value)) rest := by
  rw [overlay]
  cases base.get? key <;> rfl

end Entries

/-- Nothing is laid on an object. -/
theorem Tree.overlay_empty (entries : Entries) : overlay (.obj entries) (.obj []) = .obj entries := by
  rw [overlay, Entries.overlay]

namespace Document

/-- Both documents have the same but for what they have at this key. -/
def AgreesBut (d d' : Document) (key : String) : Prop :=
  ∀ other, other ≠ key → d.find? other = d'.find? other

variable {d d' : Document} {key other : String}

theorem agreesBut_set (d : Document) (key : String) (value : Tree) :
    d.AgreesBut (d.set key value) key :=
  fun _ differ => (Entries.get?_put_other differ).symm

namespace AgreesBut

variable (h : d.AgreesBut d' key) (differ : other ≠ key)

include h differ

theorem nested : d.nested other = d'.nested other := by
  unfold Document.nested
  rw [h other differ]

theorem nestedList : d.nestedList other = d'.nestedList other := by
  unfold Document.nestedList
  rw [h other differ]

theorem section_eq : TransferPlugins.section? d other = TransferPlugins.section? d' other := by
  unfold TransferPlugins.section?
  rw [h.nested differ]

end AgreesBut

end Document

namespace TransferPlugins

variable {config inner : Config} {key : String}

theorem find_section : section? config key = .ok inner ↔ config.find? key = some (.obj inner.entries) := by
  unfold section? Document.nested
  cases config.find? key with
  | none => simp
  | some tree =>
    cases tree with
    | obj entries =>
      simp only [Except.ok.injEq, Option.some.injEq, Tree.obj.injEq]
      exact ⟨fun same => same ▸ rfl, fun same => same ▸ rfl⟩
    | _ => simp

/-- A diff that says nothing of the output leaves its section as it is. -/
theorem section_merge (diff : Report) (h : section? config "out" = .ok inner) : section? (config.merge
    ((Document.empty.setNested "in" diff).setNested "out" Document.empty)) "out" = .ok inner := by
  rw [find_section] at h ⊢
  have parts : ((Document.empty.setNested "in" diff).setNested "out" Document.empty).entries =
      [("in", .obj diff.entries), ("out", .obj [])] := by
    simp [Document.setNested, Document.set, Document.empty, Document.toTree, Entries.put]
  have kept : ∀ laid, (Entries.put config.entries "in" laid).get? "out" = some (.obj inner.entries) :=
    fun laid => (Entries.get?_put_other (by decide)).trans h
  rw [Document.find?, Document.merge, parts, Entries.overlay_cons, Entries.overlay_cons, kept,
    Entries.overlay, Entries.get?_put_self, Option.map_some, Option.getD_some, Tree.overlay_empty]

end TransferPlugins

end BulkTransfer
