import BulkTransfer.Ltsv.Fields
import Mathlib.Data.List.Forall2
import Mathlib.Data.List.TakeWhile
/-!
# The fields of a line

What the fields of a line are, said without a way to find them: its parts between tabs, but for the
empty ones, each a label without a colon, a colon and a value.
-/
namespace BulkTransfer.Ltsv

/-- The parts of a text between tabs that are not empty. -/
def partsOf (text : List Char) : List (List Char) := (text.splitOn '\t').filter (!·.isEmpty)

theorem partsOf_empty : partsOf "".toList = [] := by simp [partsOf]

/-- A part is the label of a field, a colon, the first one, and the value. -/
def IsField (part : List Char) (f : Field) : Prop :=
  part = f.label.toList ++ ':' :: f.value.toList ∧ ':' ∉ f.label.toList

theorem partsFrom_eq (text part : List Char) :
    partsFrom text part = (text.splitOnPPrepend (· == '\t') part).filter (!·.isEmpty) := by
  induction text generalizing part with
  | nil => cases part <;> simp [partsFrom]
  | cons c text ih =>
    by_cases tab : c = '\t'
    · rw [partsFrom, if_pos tab, List.splitOnPPrepend_cons_pos (by simp [tab]), List.splitOnP, ih]
      cases part <;> simp
    · rw [partsFrom, if_neg tab, List.splitOnPPrepend_cons_neg (by simp [tab]), ih]

theorem partsFrom_nil (text : List Char) : partsFrom text [] = partsOf text := partsFrom_eq text []

theorem divide_field {part : List Char} {f : Field} (h : IsField part f) : divide part = .ok f := by
  obtain ⟨rfl, first⟩ := h
  have other : ∀ c ∈ f.label.toList, decide (c ≠ ':') = true := by
    intro c mem
    apply decide_eq_true
    rintro rfl
    exact first mem
  have head : (f.label.toList ++ ':' :: f.value.toList).takeWhile (· ≠ ':') = f.label.toList := by
    rw [List.takeWhile_append_of_pos other]
    simp
  simp only [divide, head, List.drop_left, String.ofList_toList]

theorem divide_none {part : List Char} (none : ':' ∉ part) : divide part = .error ⟨String.ofList part⟩ := by
  have head : part.takeWhile (· ≠ ':') = part := by
    refine List.takeWhile_eq_self_iff.mpr fun c mem => decide_eq_true ?_
    rintro rfl
    exact none mem
  simp only [divide, head, List.drop_length]

/-- A part is divided at its first colon, or it has none. -/
theorem divide_cases (part : List Char) :
    (∃ f, divide part = .ok f ∧ IsField part f) ∨
      divide part = .error ⟨String.ofList part⟩ ∧ ':' ∉ part := by
  by_cases colon : ':' ∈ part
  · obtain ⟨label, value, rfl, first⟩ := List.eq_append_cons_of_mem colon
    have isField : IsField (label ++ ':' :: value) ⟨String.ofList label, String.ofList value⟩ := by
      simpa [IsField] using first
    exact .inl ⟨_, divide_field isField, isField⟩
  · exact .inr ⟨divide_none colon, colon⟩

/-- A step is done for all members of a list, or there is a first one for which it fails. -/
theorem mapM_cases {α β ε : Type} (f : α → Except ε β) (as : List α) :
    (∃ bs, as.mapM f = .ok bs ∧ List.Forall₂ (fun a b => f a = .ok b) as bs) ∨
      ∃ before a after e, as = before ++ a :: after ∧ (∀ x ∈ before, ∃ b, f x = .ok b) ∧
        f a = .error e ∧ as.mapM f = .error e := by
  induction as with
  | nil => exact .inl ⟨[], rfl, .nil⟩
  | cons a as ih =>
    cases first : f a with
    | error e => exact .inr ⟨[], a, as, e, rfl, by simp, first, by rw [List.mapM_cons, first]; rfl⟩
    | ok b =>
      rcases ih with ⟨bs, all, are⟩ | ⟨before, bad, after, e, rfl, good, failed, all⟩
      · exact .inl ⟨b :: bs, by rw [List.mapM_cons, first, all]; rfl, .cons first are⟩
      · refine .inr ⟨a :: before, bad, after, e, rfl, ?_, failed, by rw [List.mapM_cons, first, all]; rfl⟩
        intro x mem
        rcases List.mem_cons.mp mem with rfl | mem
        · exact ⟨b, first⟩
        · exact good x mem

theorem mapM_ok {α β ε : Type} {f : α → Except ε β} {as : List α} {bs : List β}
    (h : List.Forall₂ (fun a b => f a = .ok b) as bs) : as.mapM f = .ok bs := by
  induction h with
  | nil => rfl
  | cons first _ ih =>
    rw [List.mapM_cons, first, ih]
    rfl

theorem mapM_error {α β ε : Type} {f : α → Except ε β} {before after : List α} {a : α} {e : ε}
    (good : ∀ x ∈ before, ∃ b, f x = .ok b) (bad : f a = .error e) :
    (before ++ a :: after).mapM f = .error e := by
  induction before with
  | nil =>
    rw [List.nil_append, List.mapM_cons, bad]
    rfl
  | cons x before ih =>
    obtain ⟨b, first⟩ := good x List.mem_cons_self
    rw [List.cons_append, List.mapM_cons, first, ih fun y mem => good y (List.mem_cons_of_mem x mem)]
    rfl

/-- All parts of a line are fields, or there is a first one that is none. -/
theorem parts_cases (line : String) :
    (∃ fields, List.Forall₂ IsField (partsOf line.toList) fields) ∨
      ∃ before part after, partsOf line.toList = before ++ part :: after ∧ (∀ p ∈ before, ':' ∈ p) ∧
        ':' ∉ part := by
  rcases mapM_cases divide (partsOf line.toList) with
    ⟨fields, -, are⟩ | ⟨before, part, after, e, split, good, failed, -⟩
  · refine .inl ⟨fields, are.imp fun part f divided => ?_⟩
    rcases divide_cases part with ⟨g, again, isField⟩ | ⟨failed, -⟩
    · obtain rfl := Except.ok.inj (divided.symm.trans again)
      exact isField
    · cases divided.symm.trans failed
  · rcases divide_cases part with ⟨f, divided, -⟩ | ⟨-, none⟩
    · cases failed.symm.trans divided
    refine .inr ⟨before, part, after, split, fun p mem => ?_, none⟩
    obtain ⟨f, divided⟩ := good p mem
    rcases divide_cases p with ⟨g, -, isField⟩ | ⟨refused, -⟩
    · rw [isField.1]
      exact List.mem_append_right _ List.mem_cons_self
    · cases divided.symm.trans refused

theorem splitFields_split {line : String} {fields : List Field}
    (split : List.Forall₂ IsField (partsOf line.toList) fields) : splitFields line = .ok fields := by
  rw [splitFields, partsFrom_nil]
  exact mapM_ok (split.imp fun _ _ => divide_field)

theorem splitFields_refused {line : String} {before after : List (List Char)} {part : List Char}
    (parts : partsOf line.toList = before ++ part :: after) (good : ∀ p ∈ before, ':' ∈ p) (bad : ':' ∉ part) :
    splitFields line = .error ⟨String.ofList part⟩ := by
  rw [splitFields, partsFrom_nil, parts]
  refine mapM_error (fun p mem => ?_) (divide_none bad)
  rcases divide_cases p with ⟨f, divided, -⟩ | ⟨-, none⟩
  · exact ⟨f, divided⟩
  · exact absurd (good p mem) none

end BulkTransfer.Ltsv
