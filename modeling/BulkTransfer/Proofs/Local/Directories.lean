import BulkTransfer.Proofs.Disk.Parents
import BulkTransfer.Proofs.Local.Listing
import BulkTransfer.Proofs.Local.Naming
import BulkTransfer.Proofs.Plugin.Opening
/-!
# The directories of output files

Before any task runs, the directories are made that the start of the paths names, all but its last name. So the
files have a directory if that last name is the beginning of theirs. When the start ends in a slash or in a single
dot, its last name is that of the directory itself, and nothing makes it.
-/
namespace BulkTransfer

namespace Path

variable {directory tail : String}

/-- What is behind the last slash is the last segment. -/
theorem segments_tail (text : IsDirectoryText directory) (plain : '/' ∉ tail.toList) : ∃ above,
    segments directory = above ++ [""] ∧ segments (directory ++ tail) = above ++ [tail] := by
  have last : (cutAtSlashes tail.toList []).map String.ofList = [tail] := by
    rw [cutAtSlashes_plain plain]
    simp
  rcases text with rfl | ⟨a, ends⟩
  · refine ⟨[], rfl, ?_⟩
    rwa [String.empty_append]
  · refine ⟨(cutAtSlashes a []).map String.ofList, ?_, ?_⟩
    · rw [segments, ends, cutAtSlashes_slash, List.map_append]
      rfl
    · rw [segments, String.toList_append, ends, List.append_assoc, List.singleton_append, cutAtSlashes_slash,
        List.map_append, last]

theorem steps_tail (text : IsDirectoryText directory) (plain : '/' ∉ tail.toList) :
    steps (directory ++ tail) = steps directory ++ [tail].filter isStep := by
  obtain ⟨above, closed, continued⟩ := segments_tail text plain
  rw [steps, steps, closed, continued, List.filter_append, List.filter_append]
  simp [isStep]

theorem root_tail (text : IsDirectoryText directory) (plain : '/' ∉ tail.toList) :
    Disk.root (directory ++ tail) = Disk.root directory := by
  obtain ⟨above, closed, continued⟩ := segments_tail text plain
  have same : isAbsolute (directory ++ tail) = isAbsolute directory := by
    rw [Bool.eq_iff_iff, isAbsolute_iff, isAbsolute_iff, closed, continued]
    rcases above with _ | ⟨first, _ | ⟨second, others⟩⟩ <;> simp
  rw [Disk.root, Disk.root, same]

end Path

namespace Disk

variable {d : Disk} {directory name : String}

/-- The directory is there, and so are all that its path passes. -/
def HasDirectory (d : Disk) (directory : String) : Prop :=
  d.node? (Path.place directory) = some .directory ∧ ∀ m ∈ passed directory, d.node? m = some .directory

/-- The directory that the file of a path is in is there, and so are all on the way. -/
def HasPlaceFor (d : Disk) (path : String) : Prop :=
  d.node? (Path.place path).dropLast = some .directory ∧ ∀ m ∈ gates path, d.node? m = some .directory

instance (d : Disk) (path : String) : Decidable (d.HasPlaceFor path) :=
  inferInstanceAs (Decidable (_ ∧ _))

theorem hasPlaceFor_entry (text : Path.IsDirectoryText directory) (named : Path.IsFileName name) :
    d.HasPlaceFor (directory ++ name) ↔ d.HasDirectory directory := by
  rw [HasPlaceFor, HasDirectory, Path.place_entry text named, List.dropLast_concat, gates_entry text named, passed_eq]

end Disk

namespace LocalOutput

open LocalInput (rootOf rootOf_isDirectoryText)

variable {n : Naming} {config : Config} {count : Nat} {w w' : World}

section Names

theorem rootOf_append (start : String) : ∃ tail, '/' ∉ tail.toList ∧ start = rootOf start ++ tail := by
  refine ⟨String.ofList (start.toList.reverse.takeWhile (· ≠ '/')).reverse, ?_, ?_⟩
  · rw [String.toList_ofList, List.mem_reverse]
    intro slash
    have other := List.all_eq_true.mp List.all_takeWhile '/' slash
    simp at other
  · apply String.toList_injective
    rw [rootOf, String.toList_append, String.toList_ofList, String.toList_ofList, ← List.reverse_append,
      List.takeWhile_append_dropWhile, List.reverse_reverse]

/-- A file is an entry of the directory that the start of its path is in. -/
theorem path_isEntry (n : Naming) (task file : Nat) (plain : '/' ∉ n.ending.toList) :
    ∃ name, Path.IsFileName name ∧ n.path task file = rootOf n.start ++ name := by
  obtain ⟨tail, behind, whole⟩ := rootOf_append n.start
  refine ⟨tail ++ Naming.padded 3 task ++ "." ++ Naming.padded 2 file ++ "." ++ n.ending, ⟨?_, ?_⟩, ?_⟩
  · obtain ⟨c, number⟩ := Naming.padded_filled 3 task
    have other := (Naming.padded_plain 3 task c number).1
    have inside : c ∈ (tail ++ Naming.padded 3 task ++ "." ++ Naming.padded 2 file ++ "." ++ n.ending).toList := by
      simp [number]
    intro hm
    simp only [List.mem_cons, List.not_mem_nil, or_false] at hm
    rcases hm with same | same | same
    all_goals
      rw [same] at inside
      simp [other] at inside
  · have first : '/' ∉ (Naming.padded 3 task).toList := fun slash => (Naming.padded_plain 3 task '/' slash).2 rfl
    have second : '/' ∉ (Naming.padded 2 file).toList := fun slash => (Naming.padded_plain 2 file '/' slash).2 rfl
    simp [behind, plain, first, second]
  · rw [Naming.path]
    conv_lhs => rw [whole]
    simp only [String.append_assoc]

end Names

section Making

/-- The directories that are made for the files. -/
def Naming.directories (n : Naming) : List Location :=
  Disk.entered (Disk.root n.start) (Path.steps n.start).dropLast

/-- The start of the paths ends in a name that files can begin with, or in a step up. -/
def Naming.EndsInStep (n : Naming) : Prop := ∃ name ∈ (Path.segments n.start).getLast?, Path.isStep name = true

/-- A transaction that goes on has made the directories, and no others. -/
theorem transaction_makes {task : Task} {resume : Attempt (List Report) → Action (Attempt Report)}
    (called : (transaction config count).run w = (.called task resume, w')) :
    ∃ n, config.load Naming.shape = .ok n ∧ task = n.toTask ∧ ∀ l, w'.disk.node? l = some .directory ↔
      w.disk.node? l = some .directory ∨ l ∈ n.directories := by
  unfold transaction at called
  cases loaded : config.load Naming.shape with
  | error e =>
    rw [loaded] at called
    cases called
  | ok n =>
    rw [loaded] at called
    refine ⟨n, rfl, ?_⟩
    dsimp only at called
    split at called
    · rename_i none
      cases called
      simp [Naming.directories, Path.steps_none none, Disk.entered]
    · rename_i above
      cases called
      have nothing := (Path.steps_parent above).1
      simp [Naming.directories, ← nothing, Disk.entered, show Path.steps "" = [] by decide]
    · rename_i parent _ above
      simp only [Program.onDisk, Program.andThen, Program.run] at called
      cases ended : (w.disk.makeDirectories parent).1 with
      | error cause =>
        rw [ended] at called
        cases called
      | ok _ =>
        rw [ended] at called
        cases called
        refine ⟨rfl, fun l => (Disk.makeDirectories_exact ended l).trans ?_⟩
        rw [Disk.passed_parent above]
        rfl

theorem endsInStep_iff {tail : String} (behind : '/' ∉ tail.toList) (whole : n.start = rootOf n.start ++ tail) :
    n.EndsInStep ↔ Path.isStep tail = true := by
  obtain ⟨above, -, segments⟩ := Path.segments_tail (rootOf_isDirectoryText n.start) behind
  rw [Naming.EndsInStep, whole, segments, List.getLast?_concat]
  simp

/-- The directory of the files is missing only if it is the last name of their start. -/
theorem hasDirectory_iff {d d' : Disk}
    (makes : ∀ l, d'.node? l = some .directory ↔ d.node? l = some .directory ∨ l ∈ n.directories) :
    d'.HasDirectory (rootOf n.start) ↔ n.EndsInStep ∨
      d.node? (Path.place (rootOf n.start)) = some .directory ∨ Path.place (rootOf n.start) ∈ n.directories := by
  obtain ⟨tail, behind, whole⟩ := rootOf_append n.start
  have text := rootOf_isDirectoryText n.start
  have steps : Path.steps n.start = Path.steps (rootOf n.start) ++ [tail].filter Path.isStep := by
    rw [← Path.steps_tail text behind, ← whole]
  have root : Disk.root n.start = Disk.root (rootOf n.start) := by
    rw [← Path.root_tail text behind, ← whole]
  have made : ∀ m ∈ n.directories, d'.node? m = some .directory := fun m hm => (makes m).mpr (.inr hm)
  rw [Naming.directories, root, steps] at made
  rw [endsInStep_iff behind whole, ← makes]
  by_cases step : Path.isStep tail = true
  · rw [List.filter_cons_of_pos step, List.filter_nil, List.dropLast_concat] at made
    exact ⟨fun _ => .inl step, fun _ => ⟨Disk.place_directory made, made⟩⟩
  · rw [List.filter_cons_of_neg step, List.filter_nil, List.append_nil] at made
    refine ⟨fun has => .inr has.1, fun there => ?_⟩
    have held := there.resolve_left step
    refine ⟨held, fun m hm => ?_⟩
    rcases Disk.passed_last _ m hm with above | last
    · exact made m above
    · rw [last]
      exact held

/-- When the transaction calls its control it has made all directories that the start of the paths names but for
its last step. A file of any task then has a directory, the one up to the last slash of the start, exactly if
the start ends in a step behind that slash, or the directory was there, or it is one of those that were made. -/
theorem called_with_directories {task : Task} {resume : Attempt (List Report) → Action (Attempt Report)}
    (called : (transaction config count).run w = (.called task resume, w')) :
    ∃ n, config.load Naming.shape = .ok n ∧ task = n.toTask ∧
      (∀ l, w'.disk.node? l = some .directory ↔ w.disk.node? l = some .directory ∨ l ∈ n.directories) ∧
      ('/' ∉ n.ending.toList → ∀ i j,
        (∃ name, Path.IsFileName name ∧ n.path i j = rootOf n.start ++ name) ∧
          (w'.disk.HasPlaceFor (n.path i j) ↔ n.EndsInStep ∨
            w.disk.node? (Path.place (rootOf n.start)) = some .directory ∨
              Path.place (rootOf n.start) ∈ n.directories)) := by
  obtain ⟨n, loaded, frozen, makes⟩ := transaction_makes called
  refine ⟨n, loaded, frozen, makes, fun plain i j => ?_⟩
  obtain ⟨name, named, path⟩ := path_isEntry n i j plain
  refine ⟨⟨name, named, path⟩, ?_⟩
  rw [path, Disk.hasPlaceFor_entry (rootOf_isDirectoryText n.start) named]
  exact hasDirectory_iff makes

def writingTo (start : String) : Config :=
  (Document.empty.set "path_prefix" (.str start)).set "file_ext" (.str "csv")

theorem writingTo_load (start : String) : (writingTo start).load Naming.shape = .ok ⟨start, "csv"⟩ := rfl

/-- Single dots and steps up in the start are no matter. -/
theorem nested_directory_is_made : ∃ task resume w',
    (transaction (writingTo "a/./../b/x") 2).run (.ofDisk Disk.empty) = (.called task resume, w') ∧
      '/' ∉ "csv".toList ∧ w'.disk.HasPlaceFor ((⟨"a/./../b/x", "csv"⟩ : Naming).path 1 0) := by
  obtain ⟨task, resume, w', called, -⟩ := @Transaction.called_of_opened _ _ _ Disk.empty
    (transaction (writingTo "a/./../b/x") 2) (fun _ => true) (by decide +kernel)
  have plain : '/' ∉ "csv".toList := by decide
  refine ⟨task, resume, w', called, plain, ?_⟩
  obtain ⟨n, loaded, -, -, places⟩ := called_with_directories called
  obtain rfl := Except.ok.inj ((writingTo_load _).symm.trans loaded)
  exact (places plain 1 0).2.mpr (.inl ⟨"x", by decide, by decide⟩)

/-- The directory is missing when the start ends in its slash, and no file can be made there. -/
theorem directory_with_slash_is_missing : ∃ task resume w',
    (transaction (writingTo "out/") 1).run (.ofDisk Disk.empty) = (.called task resume, w') ∧
      '/' ∉ "csv".toList ∧ ¬ w'.disk.HasPlaceFor ((⟨"out/", "csv"⟩ : Naming).path 0 0) ∧
        (w'.disk.create (tempPath ((⟨"out/", "csv"⟩ : Naming).path 0 0))).1 = .error .notFound := by
  obtain ⟨task, resume, w', called, checked⟩ := @Transaction.called_of_opened _ _ _ Disk.empty
    (transaction (writingTo "out/") 1) (fun d => !decide (d.HasPlaceFor ((⟨"out/", "csv"⟩ : Naming).path 0 0)) &&
      decide ((d.create (tempPath ((⟨"out/", "csv"⟩ : Naming).path 0 0))).1 = .error .notFound)) (by decide +kernel)
  rw [Bool.and_eq_true, Bool.not_eq_true', decide_eq_false_iff_not, decide_eq_true_iff] at checked
  exact ⟨task, resume, w', called, by decide, checked⟩

end Making

end LocalOutput

end BulkTransfer
