import BulkTransfer.Proofs.Disk.Ways
import Mathlib.Data.List.Induction
/-!
# Directories above a path

The parent of a path has all of its steps but the last, however many slashes and single dots are between them.
So the directories that are missing on the way of a path are made one below the other, and nothing else is.
-/
namespace BulkTransfer

namespace Path

variable {path parent : String}

section Segments

theorem cutAtSlashes_eq (text name : List Char) :
    cutAtSlashes text name = text.splitOnPPrepend (· == '/') name := by
  induction text generalizing name with
  | nil => rfl
  | cons c text ih =>
    by_cases slash : c = '/'
    · rw [slash, cutAtSlashes_cons_slash, List.splitOnPPrepend_cons_pos (by simp), List.splitOnP, ih]
    · rw [cutAtSlashes_cons_other slash, List.splitOnPPrepend_cons_neg (by simp [slash]), ih]

theorem cutAtSlashes_between {text name : List Char} (plain : '/' ∉ name) :
    ∀ part ∈ cutAtSlashes text name, '/' ∉ part := by
  induction text generalizing name with
  | nil => simpa [cutAtSlashes_nil] using plain
  | cons c text ih =>
    by_cases slash : c = '/'
    · rw [slash, cutAtSlashes_cons_slash, List.forall_mem_cons, List.mem_reverse]
      exact ⟨plain, ih List.not_mem_nil⟩
    · rw [cutAtSlashes_cons_other slash]
      apply ih
      rw [List.mem_cons, not_or]
      exact ⟨Ne.symm slash, plain⟩

theorem segments_eq (path : String) : segments path = (path.toList.splitOn '/').map String.ofList := by
  rw [segments, cutAtSlashes_eq]
  rfl

/-- Some of the segments joined again have these segments. -/
theorem segments_intercalate (path : String) {parts : List String} (filled : parts ≠ [])
    (some : ∀ part ∈ parts, part ∈ segments path) : segments ("/".intercalate parts) = parts := by
  have plain : ∀ l ∈ parts.map String.toList, '/' ∉ l := by
    intro l hl
    obtain ⟨part, hp, rfl⟩ := List.mem_map.mp hl
    obtain ⟨chars, hc, rfl⟩ := List.mem_map.mp (some part hp)
    rw [String.toList_ofList]
    exact cutAtSlashes_between List.not_mem_nil chars hc
  have split := List.splitOn_intercalate '/' plain (by simpa using filled)
  rw [segments_eq, String.toList_intercalate]
  refine (congrArg (List.map String.ofList) split).trans ?_
  simp [Function.comp_def]

/-- An absolute path has nothing before its first slash. -/
theorem isAbsolute_iff : isAbsolute path = true ↔ ∃ next rest, segments path = "" :: next :: rest := by
  obtain ⟨head, tail, cut⟩ := cutAtSlashes_rest path.toList.tail
  cases chars : path.toList with
  | nil => simp [isAbsolute, segments, chars, cutAtSlashes]
  | cons c text =>
    rw [chars, List.tail_cons] at cut
    by_cases slash : c = '/'
    · simp [isAbsolute, segments, chars, cutAtSlashes, slash, cut]
    · simp [isAbsolute, segments, chars, cutAtSlashes, slash, cut]

end Segments

section Steps

/-- The name leads on, or back. -/
def isStep (name : String) : Bool := name ≠ "" && name ≠ "."

/-- The names that lead anywhere. -/
def steps (path : String) : List String := (segments path).filter isStep

theorem steps_eq (path : String) : steps path = (names path).filter (· ≠ ".") := by
  rw [steps, names, List.filter_filter]
  apply List.filter_congr
  intro name _
  simp [isStep, Bool.and_comm]

/-- The components, with their positions. -/
def components (path : String) : List (String × Nat) := 
  (segments path).zipIdx.filter fun entry => isComponent entry.1 entry.2

theorem componentPlaces_eq (path : String) : componentPlaces path = (components path).map Prod.snd := rfl

theorem isComponent_of_step {name : String} (h : isStep name = true) (i : Nat) : isComponent name i = true := by
  obtain ⟨filled, dot⟩ := (by simpa [isStep] using h : name ≠ "" ∧ name ≠ ".")
  simp [isComponent, filled, dot]

theorem isComponent_later (name : String) {i : Nat} (later : 0 < i) : isComponent name i = isStep name := by
  unfold isComponent isStep
  have first : i ≠ 0 := by omega
  simp [first]

/-- Behind the first name the components are the names that lead anywhere. -/
theorem components_later (names : List String) {i : Nat} (later : 0 < i) :
    ((names.zipIdx i).filter fun entry => isComponent entry.1 entry.2).map Prod.fst =
      names.filter isStep := by
  have steps : ∀ entry ∈ names.zipIdx i, isComponent entry.1 entry.2 = (isStep ∘ Prod.fst) entry := by
    intro entry he
    have position := List.le_snd_of_mem_zipIdx he
    exact isComponent_later entry.1 (by omega)
  rw [List.filter_congr steps, ← List.filter_map, List.zipIdx_map_fst]

/-- Only a single dot at the start is a component that leads nowhere. -/
theorem steps_components (path : String) : steps path = ((components path).map Prod.fst).filter isStep := by
  rw [List.filter_map, components, List.filter_filter]
  have same : ∀ entry ∈ (segments path).zipIdx,
      ((isStep ∘ Prod.fst) entry && isComponent entry.1 entry.2) = (isStep ∘ Prod.fst) entry := by
    intro entry _
    by_cases step : isStep entry.1 = true
    · rw [isComponent_of_step step, Bool.and_true]
    · rw [Function.comp_apply, Bool.eq_false_iff.mpr step, Bool.false_and]
  rw [List.filter_congr same, ← List.filter_map, List.zipIdx_map_fst]
  rfl

theorem steps_none (h : parent? path = none) : steps path = [] := by
  have none : components path = [] := by
    unfold parent? at h
    split at h
    · rename_i places
      rwa [List.reverse_eq_nil_iff, componentPlaces_eq, List.map_eq_nil_iff] at places
    · cases h
    · cases h
  rw [steps_components, none]
  rfl

/-- A component with another one behind it cuts the segments in two. -/
theorem segments_cut {previous last : Nat} {more : List Nat}
    (places : componentPlaces path = more ++ [previous, last]) : ∃ front name back final,
      segments path = front ++ name :: back ∧ front.length = previous ∧ name ≠ "" ∧ back ≠ [] ∧
        back.filter isStep = [final] := by
  rw [componentPlaces_eq] at places
  obtain ⟨before, both, parts, -, two⟩ := List.map_eq_append_iff.mp places
  obtain ⟨⟨name, at_⟩, rest, rfl, rfl, one⟩ := List.map_eq_cons_iff.mp two
  obtain ⟨⟨final, end_⟩, nothing, rfl, rfl, none⟩ := List.map_eq_cons_iff.mp one
  obtain rfl := List.map_eq_nil_iff.mp none
  obtain ⟨first, second, cut, -, kept⟩ := List.filter_eq_append_iff.mp parts
  obtain ⟨gap, third, rfl, -, component, others⟩ := List.filter_eq_cons_iff.mp kept
  rw [← List.append_assoc] at cut
  obtain ⟨front, behind, whole, -, numbered⟩ := List.zipIdx_eq_append_iff.mp cut
  obtain ⟨name', back, rfl, here, rfl⟩ := List.zipIdx_eq_cons_iff.mp numbered.symm
  obtain ⟨rfl, rfl⟩ := Prod.mk.inj here
  have steps : back.filter isStep = [final] := by
    have names := congrArg (List.map Prod.fst) others
    rwa [components_later back (by omega)] at names
  refine ⟨front, name, back, final, whole, by simp, ?_, ?_, steps⟩
  · rintro rfl
    simp [isComponent] at component
  · rintro rfl
    cases steps

/-- The parent of a path has all of its steps but the last. -/
theorem steps_parent (h : parent? path = some parent) :
    steps parent = (steps path).dropLast ∧ isAbsolute parent = isAbsolute path := by
  unfold parent? at h
  split at h
  · cases h
  · rename_i only places
    rw [List.reverse_eq_iff, componentPlaces_eq] at places
    obtain ⟨entry, one⟩ : ∃ entry, components path = [entry] := by
      rw [← List.length_eq_one_iff, ← List.length_map Prod.snd, places]
      rfl
    have few : (steps path).dropLast = [] := by
      rw [steps_components, one, List.map_singleton, List.filter_cons]
      split <;> rfl
    rw [few, ← Option.some.inj h]
    by_cases absolute : isAbsolute path = true
    · rw [if_pos absolute, absolute]
      decide
    · rw [if_neg absolute, Bool.eq_false_iff.mpr absolute]
      decide
  · rename_i last previous more places
    rw [List.reverse_eq_iff, List.reverse_cons, List.reverse_cons, List.append_assoc] at places
    obtain ⟨front, name, back, final, whole, rfl, filled, others, one⟩ := segments_cut places
    have taken : (segments path).take (front.length + 1) = front ++ [name] := by
      rw [whole, List.take_length_add_append]
      rfl
    rw [taken, Option.some.injEq] at h
    subst h
    have parts : segments ("/".intercalate (front ++ [name])) = front ++ [name] :=
      segments_intercalate path (by simp) fun part hp => List.mem_of_mem_take (taken ▸ hp)
    constructor
    · rw [steps, steps, parts, whole, List.append_cons front name back,
        List.filter_append (front ++ [name]), one, List.dropLast_concat]
    · rw [Bool.eq_iff_iff, isAbsolute_iff, isAbsolute_iff, parts, whole]
      cases front with
      | nil => simp [filled]
      | cons first front => cases front <;> simp

end Steps

end Path

namespace Disk

variable {d d' : Disk} {l m : Location} {names : List String} {path parent : String}

section Entered

theorem entered_steps (l : Location) (names : List String) : entered l (names.filter (· ≠ ".")) = entered l names := by
  induction names generalizing l with
  | nil => rfl
  | cons name names ih =>
    by_cases dot : name = "."
    · rw [List.filter_cons_of_neg (by simpa using dot), ih, entered, if_pos (.inl dot), enter, if_pos dot]
    · rw [List.filter_cons_of_pos (by simpa using dot), entered, entered, ih]

theorem foldl_steps (l : Location) (names : List String) : (names.filter (· ≠ ".")).foldl enter l = names.foldl enter l := by
  induction names generalizing l with
  | nil => rfl
  | cons name names ih =>
    by_cases dot : name = "."
    · rw [List.filter_cons_of_neg (by simpa using dot), ih, List.foldl_cons, enter, if_pos dot]
    · rw [List.filter_cons_of_pos (by simpa using dot), List.foldl_cons, List.foldl_cons, ih]

theorem entered_dropLast : m ∈ entered l names.dropLast → m ∈ entered l names := by
  intro hm
  rcases List.eq_nil_or_concat names with rfl | ⟨front, last, rfl⟩
  · exact hm
  · rw [List.concat_eq_append] at hm ⊢
    rw [List.dropLast_concat] at hm
    rw [entered_append]
    exact List.mem_append_left _ hm

theorem entered_last (hm : m ∈ entered l names) : m.getLast? ≠ some ".." := by
  induction names generalizing l with
  | nil => cases hm
  | cons name names ih =>
    rw [entered] at hm
    split at hm
    · exact ih hm
    · rename_i other
      rcases List.mem_cons.mp hm with rfl | hm
      · rw [not_or] at other
        simp [enter, other]
      · exact ih hm

/-- What is above a place has been entered on the way, if it is not always there. -/
theorem above_entered (base : isBase l = true) (names : List String) :
    ∀ m, m <+: names.foldl enter l → isBase m = true ∨ m ∈ entered l names := by
  have above : ∀ {m p : Location}, m <+: p → isBase p = true → isBase m = true := by
    intro m p before base
    exact List.all_eq_true.mpr fun name hn => List.all_eq_true.mp base name (before.subset hn)
  induction names using List.reverseRecOn with
  | nil => exact fun m before => .inl (above before base)
  | append_singleton names name ih =>
    rw [List.foldl_append, List.foldl_cons, List.foldl_nil, entered_append]
    generalize names.foldl enter l = place at ih ⊢
    have earlier : ∀ m, m <+: place → isBase m = true ∨ m ∈ entered l names ++ entered place [name] := by
      intro m before
      exact (ih m before).imp_right (List.mem_append_left _)
    intro m before
    unfold enter at before
    split at before
    · exact earlier m before
    split at before
    · unfold parentOf at before
      split at before
      · exact earlier m before
      split at before
      · rename_i none
        rw [List.getLast?_eq_none_iff.mp none] at before
        exact .inl (above before rfl)
      · rename_i step
        rcases ih place List.prefix_rfl with here | inside
        · refine .inl (above before ?_)
          rw [isBase, List.all_append, Bool.and_eq_true]
          exact ⟨here, rfl⟩
        · exact absurd step (entered_last inside)
      · exact earlier m (before.trans (List.dropLast_prefix _))
    · rename_i dot up
      rcases List.prefix_concat_iff.mp before with rfl | before
      · right
        simp [entered, enter, dot, up]
      · exact earlier m before

end Entered

section Making

/-- The directories that the steps of a path enter. -/
def passed (path : String) : List Location := entered (root path) (Path.steps path)

theorem passed_eq (path : String) : passed path = entered (root path) (Path.names path) := by
  rw [passed, Path.steps_eq, entered_steps]

/-- What the last step enters is the place of the path. -/
theorem passed_last (path : String) :
    ∀ m ∈ passed path, m ∈ entered (root path) (Path.steps path).dropLast ∨ m = Path.place path := by
  have place : (Path.steps path).foldl enter (root path) = Path.place path := by
    rw [Path.steps_eq, foldl_steps]
    rfl
  unfold passed
  rcases List.eq_nil_or_concat (Path.steps path) with none | ⟨front, last, steps⟩
  · rw [none]
    simp [entered]
  · rw [List.concat_eq_append] at steps
    rw [steps, List.foldl_append, List.foldl_cons, List.foldl_nil] at place
    rw [steps, List.dropLast_concat, entered_append]
    intro m hm
    refine (List.mem_append.mp hm).imp_right fun here => ?_
    rw [entered] at here
    split at here
    · cases here
    · rw [← place]
      exact List.mem_singleton.mp here

theorem root_isBase (path : String) : isBase (root path) = true := by
  unfold root
  split <;> rfl

/-- Where all that the path passes are directories, it leads to a directory. -/
theorem place_directory (all : ∀ m ∈ passed path, d.node? m = some .directory) :
    d.node? (Path.place path) = some .directory := by
  rcases above_entered (root_isBase path) (Path.names path) _ List.prefix_rfl with always | inside
  · exact isBase_directory always
  · rw [← passed_eq] at inside
    exact all _ inside

theorem passed_parent (h : Path.parent? path = some parent) :
    passed parent = entered (root path) (Path.steps path).dropLast := by
  obtain ⟨steps, absolute⟩ := Path.steps_parent h
  rw [passed, steps, root, root, absolute]

/-- There are no more directories than before besides those that the path passes. -/
def Passes (path : String) (d d' : Disk) : Prop :=
  ∀ l, d'.node? l = some .directory → d.node? l = some .directory ∨ l ∈ passed path

theorem Passes.refl (path : String) (d : Disk) : Passes path d d := fun _ => .inl

theorem Passes.trans {d'' : Disk} (h : Passes path d d') (h' : Passes path d' d'') : Passes path d d'' := by
  intro l held
  rcases h' l held with before | made
  · exact h l before
  · exact .inr made

theorem Passes.of_parent (h : Passes parent d d') (above : Path.parent? path = some parent) : Passes path d d' := by
  intro l held
  refine (h l held).imp_right fun made => ?_
  rw [passed_parent above] at made
  exact entered_dropLast made

theorem makeDirectory_passes (d : Disk) (path : String) : Passes path d (d.makeDirectory path).2 := by
  rcases d.makeDirectory_cases path with ⟨fault, h⟩ | ⟨way, none, h⟩
  · rw [h]
    exact .refl path d
  · rw [h]
    have plain := plain_of_none none
    intro l held
    rw [node?_putNode plain] at held
    split at held
    · rename_i here
      subst here
      rcases above_entered (root_isBase path) (Path.names path) _ List.prefix_rfl with always | made
      · exact absurd always (Bool.eq_false_iff.mp plain)
      · rw [passed_eq]
        exact .inr made
    · exact .inl held

theorem makeDirectory_there (made : d.makeDirectory path = (.ok (), d')) : d'.isDirectory path = true := by
  rcases d.makeDirectory_cases path with ⟨fault, h⟩ | ⟨way, none, h⟩
  · cases made.symm.trans h
  · have grows := d.makeDirectory_grows path
    rw [made] at grows
    have held : d'.node? (Path.place path) = some .directory := by
      rw [(Prod.mk.inj (made.symm.trans h)).2, node?_putNode (plain_of_none none), if_pos rfl]
    rw [isDirectory, nodeAt, resolve_mono grows.directory way]
    simp [bind, Except.bind, held, pure, Except.pure]

theorem ensureDirectory_cases (d : Disk) (path : String) : Passes path d (d.ensureDirectory path).2 ∧
    ((d.ensureDirectory path).1 = .ok () → (d.ensureDirectory path).2.isDirectory path = true) := by
  have passes := d.makeDirectory_passes path
  unfold ensureDirectory
  split
  · rename_i made
    rw [made] at passes
    exact ⟨passes, fun _ => makeDirectory_there made⟩
  · rename_i failed
    rw [failed] at passes
    refine ⟨passes, fun ok => ?_⟩
    by_contra missing
    rw [if_neg missing] at ok
    cases ok

/-- From the top down the missing directories on the way of a path are made, and no others. -/
theorem makeDirectoriesWithin_cases (depth : Nat) (d : Disk) (path : String) :
    Passes path d (makeDirectoriesWithin depth d path).2 ∧
      ((makeDirectoriesWithin depth d path).1 = .ok () → path ≠ "" →
        (makeDirectoriesWithin depth d path).2.isDirectory path = true) := by
  induction depth generalizing d path with
  | zero => exact ⟨.refl path d, fun ok => by cases ok⟩
  | succ depth ih =>
    have passes := d.makeDirectory_passes path
    unfold makeDirectoriesWithin
    split
    · rename_i empty
      exact ⟨.refl path d, fun _ filled => absurd (String.isEmpty_iff.mp empty) filled⟩
    split
    · rename_i made
      rw [made] at passes
      exact ⟨passes, fun _ _ => makeDirectory_there made⟩
    · rename_i after failed
      rw [failed] at passes
      split
      · exact ⟨passes, fun ok => by cases ok⟩
      · rename_i parent above
        have higher := (ih after parent).1.of_parent above
        split
        · rename_i between ended
          rw [ended] at higher
          obtain ⟨last, there⟩ := between.ensureDirectory_cases path
          exact ⟨(passes.trans higher).trans last, fun ok _ => there ok⟩
        · rename_i stopped
          exact ⟨passes.trans higher, fun ok => (stopped _ (Prod.ext ok rfl)).elim⟩
    · rename_i failed
      rw [failed] at passes
      refine ⟨passes, fun ok _ => ?_⟩
      by_contra missing
      rw [if_neg missing] at ok
      cases ok

/-- If they are made, the directories are those of before and those that the path passes. -/
theorem makeDirectories_exact (made : (d.makeDirectories path).1 = .ok ()) (l : Location) :
    (d.makeDirectories path).2.node? l = some .directory ↔ d.node? l = some .directory ∨ l ∈ passed path := by
  obtain ⟨passes, there⟩ := makeDirectoriesWithin_cases (path.length + 1) d path
  constructor
  · exact passes l
  · rintro (before | inside)
    · exact (d.makeDirectories_grows path).directory l before
    · have filled : path ≠ "" := by
        rintro rfl
        cases inside
      rw [passed_eq] at inside
      exact isDirectory_entered (there made filled) l inside

end Making

end Disk

end BulkTransfer
