import BulkTransfer.Local.Input
import BulkTransfer.Proofs.Disk.Ways
/-!
# The files that are listed

Listing changes nothing on the disk, and what is listed are files that lie in directories.
-/
namespace BulkTransfer.LocalInput

variable {d : Disk} {path start : String}

/-- The path leads to a place with a file. -/
def IsFile (d : Disk) (path : String) : Prop :=
  ∃ content, d.node? (Path.place path) = some (.file content)

theorem rootOf_isDirectoryText (start : String) : Path.IsDirectoryText (rootOf start) := by
  unfold rootOf
  cases rest : start.toList.reverse.dropWhile (· ≠ '/') with
  | nil => exact .inl rfl
  | cons c rest' =>
    have slash := List.head?_dropWhile_not (· ≠ '/') start.toList.reverse
    rw [rest] at slash
    obtain rfl : c = '/' := by simpa using slash
    exact .inr ⟨rest'.reverse, by simp⟩

/-- A directory leads to the same place whether or not it is written as one. -/
theorem place_listed (directory : String) :
    Path.place (if directory.isEmpty then "." else directory) = Path.place directory := by
  split
  · rename_i empty
    rw [String.isEmpty_iff.mp empty]
    rfl
  · rfl

theorem scan_files {directory : String} (proper : d.IsProper) (text : Path.IsDirectoryText directory) :
    ∀ path ∈ (scan start directory (d.entriesOf (Path.place directory))).1,
      IsFile d path ∧ ∃ name, Path.IsFileName name ∧ path = directory ++ name := by
  intro path hm
  obtain ⟨entry, he, rfl⟩ := List.mem_map.mp (List.mem_filter.mp hm).1
  obtain ⟨he, kind⟩ := List.mem_filter.mp he
  obtain ⟨name, isDirectory⟩ := entry
  obtain rfl : isDirectory = false := of_decide_eq_true kind
  obtain ⟨named, held⟩ := proper.entry he
  refine ⟨?_, name, named, rfl⟩
  rw [IsFile, Path.place_entry text named]
  exact held

theorem scan_texts (start directory : String) (entries : List (String × Bool)) :
    ∀ next ∈ (scan start directory entries).2, Path.IsDirectoryText next := by
  intro next hm
  obtain ⟨below, -, rfl⟩ := List.mem_map.mp (List.mem_filter.mp hm).1
  exact .inr ⟨below.toList, by simp⟩

/-- Only the clock goes on while directories are listed. -/
theorem listWithin_clock (fuel : Nat) (d : Disk) (directories found : List String) :
    ∃ n, (listWithin start fuel d directories found).2 = { d with clock := n } := by
  induction fuel generalizing d directories found with
  | zero => exact ⟨d.clock, rfl⟩
  | succ fuel ih =>
    cases directories with
    | nil => exact ⟨d.clock, rfl⟩
    | cons directory rest =>
      have counted := d.list_counted (if directory.isEmpty then "." else directory)
      unfold listWithin
      dsimp only
      split
      · rename_i after h
        obtain rfl : after = d.counted := by rw [← counted, h]
        exact ih d.counted rest found
      · rename_i after _ h
        obtain rfl : after = d.counted := by rw [← counted, h]
        exact ⟨d.clock + 1, rfl⟩
      · rename_i entries after h
        obtain rfl : after = d.counted := by rw [← counted, h]
        exact ih d.counted _ _

/-- What holds of the matches in each directory holds of all that is found. -/
theorem listWithin_all {P : String → Prop} (fuel : Nat) (directories found : List String)
    (texts : ∀ directory ∈ directories, Path.IsDirectoryText directory)
    (each : ∀ directory, Path.IsDirectoryText directory →
      d.isDirectory (if directory.isEmpty then "." else directory) = true →
        ∀ path ∈ (scan start directory (d.entriesOf (Path.place directory))).1, P path)
    (before : ∀ path ∈ found, P path) {all : List String}
    (h : (listWithin start fuel d directories found).1 = .ok all) : ∀ path ∈ all, P path := by
  induction fuel generalizing d directories found with
  | zero =>
    cases h
    exact before
  | succ fuel ih =>
    cases directories with
    | nil =>
      cases h
      exact before
    | cons directory rest =>
      have later : ∀ other ∈ rest, Path.IsDirectoryText other :=
        fun other hm => texts other (List.mem_cons_of_mem _ hm)
      have text := texts directory List.mem_cons_self
      have counted := d.list_counted (if directory.isEmpty then "." else directory)
      have still : ∀ directory, Path.IsDirectoryText directory →
          d.counted.isDirectory (if directory.isEmpty then "." else directory) = true →
            ∀ path ∈ (scan start directory (d.counted.entriesOf (Path.place directory))).1, P path :=
        fun other text here => each other text
          ((Disk.isDirectory_congr (show d.nodes = d.counted.nodes from rfl)).trans here)
      unfold listWithin at h
      dsimp only at h
      split at h
      · rename_i after listed
        obtain rfl : after = d.counted := by rw [← counted, listed]
        exact ih (d := d.counted) rest found later still before h
      · cases h
      · rename_i entries after listed
        obtain rfl : after = d.counted := by rw [← counted, listed]
        have answer : (d.list (if directory.isEmpty then "." else directory)).1 = .ok entries := by
          rw [listed]
        have same : entries = d.entriesOf _ := Disk.list_ok answer
        rw [place_listed] at same
        have new := each directory text (Disk.isDirectory_of_list answer)
        rw [← same] at new
        refine ih (d := d.counted) _ _ ?_ still ?_ h
        · intro next hm
          rcases List.mem_append.mp hm with hm | hm
          · exact scan_texts _ _ _ next (List.mem_reverse.mp hm)
          · exact later next hm
        · intro path hm
          rcases List.mem_append.mp hm with hm | hm
          · exact before path hm
          · exact new path hm

theorem list_grows (s : Search) (d : Disk) : d.GrowsTo (list s d).2 := by
  obtain ⟨n, same⟩ := @listWithin_clock s.start (d.nodes.length + 2) d [rootOf s.start] []
  have grows : d.GrowsTo { d with clock := n } := ⟨fun _ _ => .rfl, fun _ h => h, rfl⟩
  unfold list
  split
  · rename_i h
    rwa [← same, h] at grows
  · rename_i h
    rwa [← same, h] at grows

section Listed

variable {s : Search} {files : List String}

theorem list_all {P : String → Prop} (each : ∀ directory, Path.IsDirectoryText directory →
      d.isDirectory (if directory.isEmpty then "." else directory) = true →
        ∀ path ∈ (scan s.start directory (d.entriesOf (Path.place directory))).1, P path)
    (h : (list s d).1 = .ok files) : ∀ path ∈ files, P path := by
  unfold list at h
  split at h
  · cases h
  · rename_i found _ listed
    cases h
    have all := listWithin_all (d.nodes.length + 2) [rootOf s.start] []
      (by simpa using rootOf_isDirectoryText s.start) each (by simp) (by rw [listed])
    exact fun path hm => all path (List.mem_mergeSort.mp (List.mem_filter.mp hm).1)

theorem list_files (proper : d.IsProper) (h : (list s d).1 = .ok files) :
    ∀ path ∈ files, IsFile d path :=
  list_all (fun _ text _ path hm => (scan_files proper text path hm).1) h

/-- What is on the way to a file that is listed are directories. -/
theorem list_gates (proper : d.IsProper) (h : (list s d).1 = .ok files) :
    ∀ path ∈ files, ∀ m ∈ Disk.gates path, d.node? m = some .directory := by
  refine list_all (fun directory text here path hm => ?_) h
  obtain ⟨-, name, named, rfl⟩ := scan_files proper text path hm
  rw [Disk.gates_entry text named]
  split at here
  · rename_i empty
    rw [String.isEmpty_iff.mp empty]
    simp [Path.names, Path.segments, Path.cutAtSlashes, Disk.entered]
  · exact Disk.isDirectory_entered here

end Listed

/-- Files that are found in their order are listed so. -/
theorem list_found {s : Search} {d d' : Disk} {files : List String}
    (found : listWithin s.start (d.nodes.length + 2) d [rootOf s.start] [] = (.ok files, d'))
    (sorted : files.Pairwise (· ≤ ·)) :
    list s d = (.ok (files.filter fun path => s.lastPath.all (· < path)), d') := by
  unfold list
  rw [found]
  dsimp only
  rw [List.mergeSort_of_pairwise (sorted.imp fun h => decide_eq_true h)]

end BulkTransfer.LocalInput
