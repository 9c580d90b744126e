import BulkTransfer.Proofs.Disk.Parents
import BulkTransfer.Proofs.Local.Naming
/-!
# Output paths of their own

A task moves its files to their final paths, and writes them beside these before. All of these paths
differ in their components: the number of a task and that of a file end at a dot, so they can be told from
what stands around them, and a path never is the one beside it. When nothing behind the numbers steps
up to a parent, the paths lead to different places as well.
-/
namespace BulkTransfer

namespace Path

variable {path name : String} {before tail : List String}

/-- What a path is compared by: the root, if it starts there, and its components. -/
def compared (path : String) : List String :=
  (if isAbsolute path then ["/"] else []) ++ (components path).map Prod.fst

theorem components_cut (cut : segments path = before ++ name :: tail) (step : isStep name = true) :
    (components path).map Prod.fst =
      (before.zipIdx.filter fun entry => isComponent entry.1 entry.2).map Prod.fst ++
        name :: tail.filter isStep := by
  have here := isComponent_of_step step (0 + before.length)
  rw [components, cut, List.zipIdx_append, List.zipIdx_cons, List.filter_append, List.filter_cons, here,
    if_pos rfl, List.map_append, List.map_cons, components_later tail (Nat.succ_pos _)]

/-- A step that is not back, with no step back behind it, leads down from where it starts. -/
theorem place_cut (cut : segments path = before ++ name :: tail) (step : isStep name = true)
    (down : ".." ∉ name :: tail) : place path =
      (before.filter isStep).foldl Disk.enter (Disk.root path) ++ name :: tail.filter isStep := by
  have steps : steps path = before.filter isStep ++ (name :: tail).filter isStep := by
    rw [steps, cut, List.filter_append]
  have root : place path = (Path.steps path).foldl Disk.enter (Disk.root path) := by
    rw [steps_eq, Disk.foldl_steps]
    rfl
  have kept : ((name :: tail).filter isStep).filter (· ≠ ".") = (name :: tail).filter isStep := by
    rw [List.filter_eq_self]
    intro other member
    have leads := (List.mem_filter.mp member).2
    simp only [isStep, Bool.and_eq_true] at leads
    exact leads.2
  rw [root, steps, List.foldl_append, foldl_enter fun hm => down (List.mem_filter.mp hm).1, kept,
    List.filter_cons, if_pos step]

end Path

namespace LocalOutput

open Naming

/-- A path that a file of a task is moved to, or one that it is written to before. -/
inductive OutputPath where
  | final (task file : Nat)
  | temp (task file : Nat)
  deriving DecidableEq, Repr

namespace OutputPath

def text (n : Naming) : OutputPath → String
  | final task file => n.path task file
  | temp task file => tempPath (n.path task file)

/-- The numbers in a path. -/
def label : OutputPath → List Char
  | final task file => mark task file
  | temp task file => mark task file

/-- What follows the numbers. -/
def ending (n : Naming) : OutputPath → String
  | final _ _ => n.ending
  | temp _ _ => n.ending ++ ".tmp"

variable {n : Naming} {p q : OutputPath}

theorem text_chars (n : Naming) (p : OutputPath) :
    (p.text n).toList = n.start.toList ++ (p.label ++ (p.ending n).toList) := by
  cases p with
  | final task file => simp [text, label, ending, path, mark, dotted, serial]
  | temp task file => simp [text, label, ending, tempPath, path, mark, dotted, serial]

theorem label_plain (p : OutputPath) : '/' ∉ p.label := by
  cases p with
  | final task file => exact mark_plain task file
  | temp task file => exact mark_plain task file

theorem labelled_plain (stem head : List Char) (p : OutputPath) :
    String.ofList (stem ++ (p.label ++ head)) ∉ ["", ".", "..", "/"] := by
  cases p with
  | final task file => exact marked_plain stem head task file
  | temp task file => exact marked_plain stem head task file

theorem labelled_isStep (stem head : List Char) (p : OutputPath) :
    Path.isStep (String.ofList (stem ++ (p.label ++ head))) := by
  have plain := labelled_plain stem head p
  simp only [List.mem_cons, not_or] at plain
  rw [Path.isStep, decide_eq_true plain.1, decide_eq_true plain.2.1]
  rfl

theorem isAbsolute_text (n : Naming) (p : OutputPath) :
    Path.isAbsolute (p.text n) = Path.isAbsolute n.start := by
  refine Path.isAbsolute_append (text_chars n p) rfl ?_
  cases p with
  | final task file => exact mark_head task file _
  | temp task file => exact mark_head task file _

section Endings

variable {text : String} {head head' : List Char} {tail tail' : List String}

/-- What is put behind a text goes to its last name, which is the first one if there is no other. -/
theorem segments_tmp (ends : Path.segments text = String.ofList head :: tail)
    (ends' : Path.segments (text ++ ".tmp") = String.ofList head' :: tail') :
    tail = [] ∧ tail' = [] ∧ head' = head ++ ".tmp".toList ∨
      head' = head ∧ ∃ between last, tail = between ++ [String.ofList last] ∧
        tail' = between ++ [String.ofList (last ++ ".tmp".toList)] := by
  obtain ⟨front, last, plain, continued⟩ :=
    Path.cutAtSlashes_last text.toList [] (b := ".tmp".toList) (by decide)
  rw [Path.segments, plain, List.map_append] at ends
  rw [Path.segments, String.toList_append, continued, List.map_append] at ends'
  cases front with
  | nil =>
    obtain ⟨same, rfl⟩ := List.cons.inj ends
    obtain ⟨same', rfl⟩ := List.cons.inj ends'
    exact .inl ⟨rfl, rfl, by rw [← String.ofList_injective same, ← String.ofList_injective same']⟩
  | cons first between =>
    obtain ⟨same, rfl⟩ := List.cons.inj ends
    obtain ⟨same', rfl⟩ := List.cons.inj ends'
    exact .inr ⟨String.ofList_injective (same'.symm.trans same), _, last, rfl, rfl⟩

/-- No text has the names of the one beside it. -/
theorem tails_apart (ends : Path.segments text = String.ofList head :: tail)
    (ends' : Path.segments (text ++ ".tmp") = String.ofList head' :: tail') (heads : head = head') :
    tail.filter Path.isStep ≠ tail'.filter Path.isStep := by
  rcases segments_tmp ends ends' with ⟨-, -, longer⟩ | ⟨-, between, last, rfl, rfl⟩
  · exact absurd (heads.trans longer) (tmp_continues head)
  · have kept : Path.isStep (String.ofList (last ++ ".tmp".toList)) = true := by
      simpa [Path.isStep] using (tmp_isName last).imp_right And.left |>.symm
    intro same
    rw [List.filter_append, List.filter_append, List.append_cancel_left_eq,
      List.filter_cons_of_pos kept, List.filter_nil] at same
    have there : String.ofList (last ++ ".tmp".toList) ∈ [String.ofList last] :=
      (List.mem_filter.mp (same ▸ List.mem_singleton_self _)).1
    exact tmp_continues last (String.ofList_injective (List.mem_singleton.mp there)).symm

/-- A path is known by the name with its numbers and by the names behind that one. -/
theorem eq_of_names (ends : Path.segments (p.ending n) = String.ofList head :: tail)
    (ends' : Path.segments (q.ending n) = String.ofList head' :: tail')
    (labels : p.label ++ head = q.label ++ head')
    (names : tail.filter Path.isStep = tail'.filter Path.isStep) : p = q := by
  cases p with
  | final task file =>
    cases q with
    | final task' file' =>
      obtain ⟨rfl, rfl, -⟩ := mark_injective labels
      rfl
    | temp task' file' =>
      obtain ⟨-, -, heads⟩ := mark_injective labels
      exact absurd names (tails_apart ends ends' heads)
  | temp task file =>
    cases q with
    | final task' file' =>
      obtain ⟨-, -, heads⟩ := mark_injective labels
      exact absurd names.symm (tails_apart ends' ends heads.symm)
    | temp task' file' =>
      obtain ⟨rfl, rfl, -⟩ := mark_injective labels
      rfl

/-- With an ending that does not step up, neither does what is behind the numbers of a path. -/
theorem ending_down (down : ".." ∉ (Path.segments n.ending).tail) (p : OutputPath) :
    ".." ∉ (Path.segments (p.ending n)).tail := by
  cases p with
  | final task file => exact down
  | temp task file =>
    obtain ⟨_, _, around⟩ := Path.segments_around ""
    obtain ⟨head, tail, ends, -⟩ := around n.ending
    obtain ⟨head', tail', ends', -⟩ := around (n.ending ++ ".tmp")
    rw [ends, List.tail_cons] at down
    rw [ending, ends', List.tail_cons]
    rcases segments_tmp ends ends' with ⟨-, rfl, -⟩ | ⟨-, between, last, rfl, rfl⟩
    · exact List.not_mem_nil
    · rw [List.mem_append, not_or] at down ⊢
      exact ⟨down.1, fun hm => (tmp_isName last).2.2 (List.mem_singleton.mp hm).symm⟩

end Endings

/-- The names before the numbers are the same for all paths. -/
theorem segments_text (n : Naming) : ∃ before stem, ∀ p : OutputPath, ∃ head tail,
    Path.segments (p.ending n) = String.ofList head :: tail ∧
      Path.segments (p.text n) = before ++ String.ofList (stem ++ (p.label ++ head)) :: tail := by
  obtain ⟨before, stem, around⟩ := Path.segments_around n.start
  refine ⟨before, stem, fun p => ?_⟩
  obtain ⟨head, tail, ends, within⟩ := around (p.ending n)
  exact ⟨head, tail, ends, within _ _ p.label_plain (text_chars n p)⟩

/-- What shows, behind the same names for all paths, the name with the numbers and those behind it that
lead on. -/
def Shows (n : Naming) (view : OutputPath → List String) : Prop :=
  ∃ front stem, ∀ p, ∃ head tail, Path.segments (p.ending n) = String.ofList head :: tail ∧
    view p = front ++ String.ofList (stem ++ (p.label ++ head)) :: tail.filter Path.isStep

theorem Shows.injective {view : OutputPath → List String} (shows : Shows n view) :
    Function.Injective view := by
  obtain ⟨front, stem, parts⟩ := shows
  intro p q same
  obtain ⟨head, tail, ends, shown⟩ := parts p
  obtain ⟨head', tail', ends', shown'⟩ := parts q
  rw [shown, shown'] at same
  obtain ⟨numbered, names⟩ := List.cons.inj (List.append_cancel_left same)
  exact eq_of_names ends ends' (List.append_cancel_left (String.ofList_injective numbered)) names

theorem compared_shows (n : Naming) : Shows n fun p => Path.compared (p.text n) := by
  obtain ⟨before, stem, parts⟩ := segments_text n
  refine ⟨(if Path.isAbsolute n.start then ["/"] else []) ++
    (before.zipIdx.filter fun entry => Path.isComponent entry.1 entry.2).map Prod.fst, stem, fun p => ?_⟩
  obtain ⟨head, tail, ends, cut⟩ := parts p
  refine ⟨head, tail, ends, ?_⟩
  change Path.compared (p.text n) = _
  rw [Path.compared, isAbsolute_text, Path.components_cut cut (labelled_isStep stem head p),
    List.append_assoc]

theorem places_show (down : ".." ∉ (Path.segments n.ending).tail) :
    Shows n fun p => Path.place (p.text n) := by
  obtain ⟨before, stem, parts⟩ := segments_text n
  refine ⟨(before.filter Path.isStep).foldl Disk.enter (Disk.root n.start), stem, fun p => ?_⟩
  obtain ⟨head, tail, ends, cut⟩ := parts p
  refine ⟨head, tail, ends, ?_⟩
  have below : ".." ∉ String.ofList (stem ++ (p.label ++ head)) :: tail := by
    have behind := ending_down down p
    have plain := labelled_plain stem head p
    rw [ends, List.tail_cons] at behind
    simp only [List.mem_cons, not_or] at plain ⊢
    exact ⟨Ne.symm plain.2.2.1, behind⟩
  have root : Disk.root (p.text n) = Disk.root n.start := by
    rw [Disk.root, isAbsolute_text, Disk.root]
  change Path.place (p.text n) = _
  rw [Path.place_cut cut (labelled_isStep stem head p) below, root]

end OutputPath

/-- With an ending that does not step up, the files of all tasks are in places of their own. -/
theorem Naming.apart_of_ending {n : Naming} (down : ".." ∉ (Path.segments n.ending).tail) (count : Nat) :
    n.Apart count := by
  have apart : ∀ p q : OutputPath, Path.place (p.text n) = Path.place (q.text n) → p = q :=
    fun _ _ same => (OutputPath.places_show down).injective same
  constructor
  · intro i _ j _ same
    exact (OutputPath.final.inj (apart (.final i 0) (.final j 0) same)).1
  · intro i _ j _ same
    exact (OutputPath.temp.inj (apart (.temp i 0) (.temp j 0) same)).1
  · intro i _ j _ same
    cases apart (.final i 0) (.temp j 0) same

/-- Whatever the start and the ending of the names, and however many digits the numbers have: no two of
the final paths and the paths beside them are the same, not even as paths that are compared by their
components. They lead to different places, too, unless the ending steps up to a parent. -/
theorem output_paths_are_distinct (n : Naming) :
    (Function.Injective fun p : OutputPath => Path.compared (p.text n)) ∧
      (".." ∉ (Path.segments n.ending).tail →
        Function.Injective fun p : OutputPath => Path.place (p.text n)) :=
  ⟨(OutputPath.compared_shows n).injective, fun down => (OutputPath.places_show down).injective⟩

/-- Numbers with more digits than they are padded to, and names that go on like numbers and files. -/
theorem outgrown_numbers_are_distinct :
    let n : Naming := ⟨"out/1", "00/01.tmp"⟩
    ".." ∉ (Path.segments n.ending).tail ∧
      Path.compared (n.path 1000 100) ≠ Path.compared (tempPath (n.path 1000 100)) ∧
        Path.place (n.path 100 0) ≠ Path.place (n.path 1000 0) := by
  intro n
  have down : ".." ∉ (Path.segments n.ending).tail := by decide
  obtain ⟨components, places⟩ := output_paths_are_distinct n
  refine ⟨down, fun same => ?_, fun same => ?_⟩
  · have equal : OutputPath.final 1000 100 = .temp 1000 100 := components same
    cases equal
  · have equal : OutputPath.final 100 0 = .final 1000 0 := places down same
    exact absurd (OutputPath.final.inj equal).1 (by decide)

-- an ending that steps up leads back out of what is numbered
example : Path.place (Naming.path ⟨"o", "d/../x"⟩ 0 0) = Path.place (Naming.path ⟨"o", "d/../x"⟩ 1 0) := by
  decide

end LocalOutput

end BulkTransfer
