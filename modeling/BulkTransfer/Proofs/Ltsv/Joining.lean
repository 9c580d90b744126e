import BulkTransfer.Proofs.Ltsv.Fields
import Mathlib.Data.List.Destutter
import Mathlib.Data.List.DropRight
/-!
# Fields joined again

Fields are joined by tabs, a label and a value by a colon. Splitting takes exactly the lines that are joined
fields but for their tabs: those at both ends are passed over, and tabs in a row count as one. What is joined
is split again without loss.
-/
namespace BulkTransfer.Ltsv

/-- A field as it stands in a line. -/
def Field.text (f : Field) : String := f.label ++ ":" ++ f.value

def joined (fields : List Field) : String := "\t".intercalate (fields.map Field.text)

/-- Neither a tab nor the first colon can be taken for another one. -/
structure Field.IsPlain (f : Field) : Prop where
  labelTab : '\t' ∉ f.label.toList
  labelColon : ':' ∉ f.label.toList
  valueTab : '\t' ∉ f.value.toList

def isTab (c : Char) : Bool := c == '\t'

/-- A text without the tabs at its end, and with one tab in place of each run of them. -/
def collapsed (text : List Char) : List Char :=
  (text.rdropWhile isTab).destutter fun a b => ¬ (a = '\t' ∧ b = '\t')

/-- A text without the tabs at both ends, and with one tab in place of each run of them. -/
def tidied (text : List Char) : List Char :=
  ((text.rdropWhile isTab).dropWhile isTab).destutter fun a b => ¬ (a = '\t' ∧ b = '\t')

example : tidied "\t\ta:1\t\t\tb:2 \t".toList = "a:1\tb:2 ".toList := by decide

section Tabs

variable {c : Char} {text : List Char}

theorem isTab_other (other : c ≠ '\t') : isTab c = false := beq_eq_false_iff_ne.mpr other

theorem rdropWhile_cons {α : Type} (p : α → Bool) (a : α) (as : List α) :
    (a :: as).rdropWhile p = if as.rdropWhile p = [] then [a].rdropWhile p else a :: as.rdropWhile p := by
  simp only [List.rdropWhile, List.reverse_cons, List.dropWhile_append, List.isEmpty_iff, List.reverse_eq_nil_iff,
    List.reverse_nil, List.nil_append]
  split
  · rfl
  · rw [List.reverse_append]
    rfl

theorem rdropWhile_other (other : c ≠ '\t') : (c :: text).rdropWhile isTab = c :: text.rdropWhile isTab := by
  rw [rdropWhile_cons]
  split
  · rename_i none
    rw [none, List.rdropWhile_singleton, isTab_other other]
    rfl
  · rfl

theorem collapsed_other (other : c ≠ '\t') : collapsed (c :: text) = c :: collapsed text := by
  rw [collapsed, collapsed, rdropWhile_other other, List.destutter_cons']
  cases text.rdropWhile isTab with
  | nil => rfl
  | cons next rest =>
    rw [List.destutter'_cons_pos _ (fun both => other both.1), List.destutter_cons']

/-- Behind a tab others are passed over. -/
theorem destutter_tab (text : List Char) :
    List.destutter' (fun a b => ¬ (a = '\t' ∧ b = '\t')) '\t' text =
      '\t' :: (text.dropWhile isTab).destutter fun a b => ¬ (a = '\t' ∧ b = '\t') := by
  induction text with
  | nil => rfl
  | cons c text ih =>
    by_cases tab : c = '\t'
    · subst tab
      rw [List.destutter'_cons, if_neg (by simp), ih]
      rfl
    · rw [List.destutter'_cons, if_pos (fun both => tab both.2), List.dropWhile_cons, isTab_other tab]
      rfl

theorem collapsed_tab : collapsed ('\t' :: text) = if text.rdropWhile isTab = [] then [] else '\t' :: tidied text := by
  rw [collapsed, rdropWhile_cons]
  split
  · rfl
  · rw [List.destutter_cons', destutter_tab, tidied]

theorem tidied_tab : tidied ('\t' :: text) = tidied text := by
  rw [tidied, tidied, rdropWhile_cons]
  split
  · rename_i none
    rw [none]
    rfl
  · rfl

theorem tidied_other (other : c ≠ '\t') : tidied (c :: text) = collapsed (c :: text) := by
  rw [tidied, collapsed, rdropWhile_other other, List.dropWhile_cons, isTab_other other]
  rfl

end Tabs

section Parts

variable {c : Char} {text : List Char}

theorem partsOf_tab (text : List Char) : partsOf ('\t' :: text) = partsOf text := by
  have split := List.splitOn_append_cons_self (a := '\t') [] text
  rw [List.nil_append] at split
  rw [partsOf, split, partsOf, List.filter_append]
  simp

theorem partsOf_other_tab (other : c ≠ '\t') (text : List Char) : partsOf (c :: '\t' :: text) = [c] :: partsOf text := by
  have split := List.splitOn_append_cons_self (a := '\t') [c] text
  rw [List.singleton_append] at split
  rw [partsOf, split, partsOf, List.filter_append, List.splitOn, List.splitOnP_eq_singleton]
  · rfl
  · intro x hx
    rw [List.mem_singleton.mp hx]
    exact beq_eq_false_iff_ne.mpr other

/-- A character that is no tab belongs to the first part. -/
theorem splitOn_other (other : c ≠ '\t') (text : List Char) :
    ∃ first rest, text.splitOn '\t' = first :: rest ∧ (c :: text).splitOn '\t' = (c :: first) :: rest := by
  obtain ⟨first, rest, split⟩ := List.exists_cons_of_ne_nil (List.splitOnP_ne_nil (· == '\t') text)
  refine ⟨first, rest, split, ?_⟩
  rw [List.splitOn, List.splitOnP_cons_eq_if_modifyHead, if_neg (by simpa using other), split]
  rfl

theorem partsOf_other (other : c ≠ '\t') {next : Char} (plain : next ≠ '\t') (text : List Char) :
    ∃ first rest, partsOf (next :: text) = (next :: first) :: rest ∧
      partsOf (c :: next :: text) = (c :: next :: first) :: rest := by
  obtain ⟨first, rest, -, split⟩ := splitOn_other plain text
  obtain ⟨first', rest', split', longer⟩ := splitOn_other other (next :: text)
  rw [split] at split'
  obtain ⟨rfl, rfl⟩ := List.cons.inj split'
  refine ⟨first, rest.filter (!·.isEmpty), ?_, ?_⟩
  · rw [partsOf, split, List.filter_cons_of_pos (by simp)]
  · rw [partsOf, longer, List.filter_cons_of_pos (by simp)]

theorem partsOf_eq_nil : partsOf text = [] ↔ text.rdropWhile isTab = [] := by
  rw [List.rdropWhile_eq_nil_iff]
  induction text with
  | nil => simp [partsOf]
  | cons c text ih =>
    by_cases tab : c = '\t'
    · subst tab
      rw [partsOf_tab, ih, List.forall_mem_cons]
      exact (and_iff_right rfl).symm
    · obtain ⟨first, rest, -, split⟩ := splitOn_other tab text
      rw [partsOf, split, List.filter_cons_of_pos (by simp), List.forall_mem_cons, isTab_other tab]
      simp

/-- The parts of a text, with tabs between them, are the text with its tabs tidied up. -/
theorem intercalate_partsOf (text : List Char) : ['\t'].intercalate (partsOf text) = tidied text := by
  -- A part is never at its end before the character behind it is known, so what follows a character that is
  -- no tab is said beside it.
  suffices ['\t'].intercalate (partsOf text) = tidied text ∧ ∀ c ≠ '\t',
      ['\t'].intercalate (partsOf (c :: text)) = c :: collapsed text from this.1
  induction text with
  | nil =>
    refine ⟨by simp [partsOf, tidied], fun c other => ?_⟩
    obtain ⟨first, rest, split, longer⟩ := splitOn_other other []
    rw [List.splitOn_nil] at split
    obtain ⟨rfl, rfl⟩ := List.cons.inj split
    rw [partsOf, longer]
    rfl
  | cons a text ih =>
    obtain ⟨tidy, behind⟩ := ih
    by_cases tab : a = '\t'
    · subst tab
      refine ⟨by rw [partsOf_tab, tidied_tab, tidy], fun c other => ?_⟩
      rw [partsOf_other_tab other, collapsed_tab]
      cases parts : partsOf text with
      | nil =>
        rw [if_pos (partsOf_eq_nil.mp parts)]
        rfl
      | cons first rest =>
        have some : text.rdropWhile isTab ≠ [] := by
          intro none
          rw [partsOf_eq_nil.mpr none] at parts
          cases parts
        rw [if_neg some, List.intercalate_cons_cons, ← parts, tidy]
        rfl
    · refine ⟨by rw [tidied_other tab, collapsed_other tab, behind a tab], fun c other => ?_⟩
      obtain ⟨first, rest, parts, longer⟩ := partsOf_other other tab text
      have here := behind a tab
      rw [parts] at here
      rw [longer, collapsed_other tab, ← here]
      cases rest with
      | nil => rfl
      | cons second rest => rw [List.intercalate_cons_cons, List.intercalate_cons_cons]; rfl

theorem not_tab_of_split (text : List Char) : ∀ part ∈ text.splitOn '\t', '\t' ∉ part := by
  induction text with
  | nil => simp
  | cons c text ih =>
    by_cases tab : c = '\t'
    · subst tab
      have split := List.splitOn_append_cons_self (a := '\t') [] text
      rw [List.nil_append] at split
      rw [split]
      intro part hm
      rcases List.mem_append.mp hm with empty | later
      · rw [List.splitOn_nil, List.mem_singleton] at empty
        rw [empty]
        exact List.not_mem_nil
      · exact ih part later
    · obtain ⟨first, rest, split, longer⟩ := splitOn_other tab text
      rw [split, List.forall_mem_cons] at ih
      rw [longer, List.forall_mem_cons]
      refine ⟨?_, ih.2⟩
      intro hm
      rcases List.mem_cons.mp hm with same | hm
      · exact tab same.symm
      · exact ih.1 hm

end Parts

section Fields

variable {f : Field} {fields : List Field} {line : String}

theorem Field.text_chars (f : Field) : f.text.toList = f.label.toList ++ ':' :: f.value.toList := by
  simp [Field.text]

theorem joined_chars (fields : List Field) :
    (joined fields).toList = ['\t'].intercalate (fields.map fun f => f.text.toList) := by
  rw [joined, String.toList_intercalate, List.map_map]
  rfl

theorem texts_of_split {parts : List (List Char)} (split : List.Forall₂ IsField parts fields) :
    fields.map (fun f => f.text.toList) = parts := by
  induction split with
  | nil => rfl
  | cons first _ ih => rw [List.map_cons, ih, Field.text_chars, first.1]

theorem IsField.plain {part : List Char} (h : IsField part f) (clean : '\t' ∉ part) : f.IsPlain := by
  rw [h.1, List.mem_append, List.mem_cons, not_or, not_or] at clean
  exact ⟨clean.1, h.2, clean.2.2⟩

theorem plain_of_split {parts : List (List Char)} (split : List.Forall₂ IsField parts fields)
    (clean : ∀ part ∈ parts, '\t' ∉ part) : ∀ f ∈ fields, f.IsPlain := by
  induction split with
  | nil => simp
  | cons first _ ih =>
    rw [List.forall_mem_cons] at clean ⊢
    exact ⟨first.plain clean.1, ih clean.2⟩

/-- A plain field is a part of its own. -/
theorem Field.IsPlain.not_tab (h : f.IsPlain) : '\t' ∉ f.text.toList := by
  rw [f.text_chars]
  intro tab
  rcases List.mem_append.mp tab with label | value
  · exact h.labelTab label
  · rcases List.mem_cons.mp value with colon | value
    · cases colon
    · exact h.valueTab value

theorem partsOf_joined (plain : ∀ f ∈ fields, f.IsPlain) :
    partsOf (joined fields).toList = fields.map fun f => f.text.toList := by
  cases fields with
  | nil => exact partsOf_empty
  | cons f others =>
    have apart : ∀ part ∈ (f :: others).map (fun f => f.text.toList), '\t' ∉ part := by
      intro part hp
      obtain ⟨g, hg, rfl⟩ := List.mem_map.mp hp
      exact (plain g hg).not_tab
    rw [joined_chars, partsOf, List.splitOn_intercalate '\t' apart (by simp), List.filter_eq_self]
    intro part hp
    obtain ⟨g, -, rfl⟩ := List.mem_map.mp hp
    simp [g.text_chars]

/-- A field that is plain is what its text says. -/
theorem Field.IsPlain.isField (h : f.IsPlain) : IsField f.text.toList f := ⟨f.text_chars, h.labelColon⟩

theorem splitFields_joined (plain : ∀ f ∈ fields, f.IsPlain) : splitFields (joined fields) = .ok fields := by
  apply splitFields_split
  rw [partsOf_joined plain, List.forall₂_map_left_iff, List.forall₂_same]
  exact fun f hf => (plain f hf).isField

/-- Fields that a line splits into are the line again when they are joined, but for tabs. -/
theorem joined_splitFields (split : List.Forall₂ IsField (partsOf line.toList) fields) :
    (joined fields).toList = tidied line.toList ∧ ∀ f ∈ fields, f.IsPlain := by
  constructor
  · rw [joined_chars, texts_of_split split, intercalate_partsOf]
  · apply plain_of_split split
    intro part hp
    exact not_tab_of_split line.toList part (List.mem_filter.mp hp).1

/-- A line splits into fields if all of its parts have a colon. These are plain, and joined they are the line with
its tabs tidied up. Otherwise the first part without a colon is named. Any plain fields that are joined are split
into the same again. -/
theorem splitFields_inverts_joined :
    (∀ line : String,
      ((∃ fields, splitFields line = .ok fields) ↔ ∀ part ∈ partsOf line.toList, ':' ∈ part) ∧
        (∀ fields, splitFields line = .ok fields →
          (joined fields).toList = tidied line.toList ∧ ∀ f ∈ fields, f.IsPlain) ∧
        ∀ fault, splitFields line = .error fault → ∃ before part after,
          partsOf line.toList = before ++ part :: after ∧ (∀ p ∈ before, ':' ∈ p) ∧ ':' ∉ part ∧
            fault.part = String.ofList part ∧
              fault.message = "cannot split field '" ++ String.ofList part ++ "' by separator ':'") ∧
      ∀ fields : List Field, (∀ f ∈ fields, f.IsPlain) → splitFields (joined fields) = .ok fields := by
  refine ⟨fun line => ?_, fun fields => splitFields_joined⟩
  rcases parts_cases line with ⟨fields, split⟩ | ⟨before, part, after, parts, good, bad⟩
  · have divided := splitFields_split split
    refine ⟨⟨fun _ part hp => ?_, fun _ => ⟨fields, divided⟩⟩, fun others same => ?_, fun fault failed => ?_⟩
    · rw [← texts_of_split split] at hp
      obtain ⟨f, -, rfl⟩ := List.mem_map.mp hp
      simp [f.text_chars]
    · obtain rfl := Except.ok.inj (divided.symm.trans same)
      exact joined_splitFields split
    · cases divided.symm.trans failed
  · have refused := splitFields_refused parts good bad
    refine ⟨⟨fun ⟨fields, divided⟩ => ?_, fun all => ?_⟩, fun fields divided => ?_, fun fault failed => ?_⟩
    · cases refused.symm.trans divided
    · apply absurd (all part _) bad
      rw [parts]
      exact List.mem_append_right _ List.mem_cons_self
    · cases refused.symm.trans divided
    · obtain rfl := Except.error.inj (refused.symm.trans failed)
      exact ⟨before, part, after, parts, good, bad, rfl, rfl⟩

/-- A label and a value may be empty, and a value may have colons. -/
theorem odd_fields_are_split :
    let fields : List Field := [⟨"time", "10:20"⟩, ⟨"", "x"⟩, ⟨"ua", ""⟩]
    splitFields "\ttime:10:20\t\t:x\tua:\t" = .ok fields ∧
      (joined fields).toList = tidied "\ttime:10:20\t\t:x\tua:\t".toList ∧
        splitFields (joined fields) = .ok fields ∧
          splitFields "a:1\tbroken\tworse" = .error ⟨"broken"⟩ := by
  intro fields
  have divided : splitFields "\ttime:10:20\t\t:x\tua:\t" = .ok fields := by decide
  have plain := ((splitFields_inverts_joined.1 _).2.1 fields divided).2
  exact ⟨divided, ((splitFields_inverts_joined.1 _).2.1 fields divided).1, splitFields_inverts_joined.2 fields plain,
    by decide⟩

end Fields

end BulkTransfer.Ltsv
