import BulkTransfer.Proofs.Local.Listing
import Mathlib.Algebra.Ring.Nat
/-!
# What a search finds

A search goes through all directories that can hold a match. What it lists are exactly the files below
the directory where it begins whose paths start with the wanted text, each of them once and in order.
-/
namespace BulkTransfer

namespace Disk

variable {d d' : Disk} {path name : String} {l : Location}

/-- A directory is listed unless that is refused. -/
theorem list_of_isDirectory (h : d.isDirectory path = true) :
    (∃ fault, d.refusal d.clock (.list path) = some fault ∧ (d.list path).1 = .error fault) ∨
      (d.list path).1 = .ok (d.entriesOf (Path.place path)) := by
  cases refused : d.refusal d.clock (.list path) with
  | some fault => exact .inl ⟨fault, rfl, by simp only [list, attempt, refused]⟩
  | none =>
    have here : d.counted.isDirectory path = true :=
      (show d.counted.isDirectory path = d.isDirectory path from isDirectory_congr rfl).trans h
    refine .inr (congrArg Prod.fst (attempt_ok refused (?_ : _ = Except.ok (_, d.counted))))
    rw [nodeAt_of_isDirectory here]
    rfl

/-- The entry of a directory that stands for a node. -/
def entryIn (l : Location) (held : Location × DiskNode) : Option (String × Bool) :=
  match held.1.getLast? with
  | some name => if held.1.dropLast = l then some (name, held.2 = .directory) else none
  | none => none

theorem entriesOf_eq (d : Disk) (l : Location) : d.entriesOf l = d.nodes.filterMap (entryIn l) := rfl

theorem entryIn_eq {held : Location × DiskNode} {isDirectory : Bool} :
    entryIn l held = some (name, isDirectory) ↔
      held.1 = l ++ [name] ∧ decide (held.2 = .directory) = isDirectory := by
  obtain ⟨place, n⟩ := held
  rcases List.eq_nil_or_concat place with rfl | ⟨front, last, rfl⟩
  · simp [entryIn]
  · simp [entryIn, and_assoc]

theorem mem_entriesOf {isDirectory : Bool} : (name, isDirectory) ∈ d.entriesOf l ↔
    ∃ n, (l ++ [name], n) ∈ d.nodes ∧ decide (n = .directory) = isDirectory := by
  rw [entriesOf_eq, List.mem_filterMap]
  constructor
  · rintro ⟨⟨_, n⟩, hm, he⟩
    obtain ⟨rfl, kind⟩ := entryIn_eq.mp he
    exact ⟨n, hm, kind⟩
  · rintro ⟨n, hm, kind⟩
    exact ⟨_, hm, entryIn_eq.mpr ⟨rfl, kind⟩⟩

/-- The entries of a directory have names of their own. -/
theorem IsProper.entries_distinct (h : d.IsProper) :
    (d.entriesOf l).Pairwise fun a b => a.1 ≠ b.1 := by
  refine (List.pairwise_map.mp h.distinct).filterMap _ ?_
  rintro held held' differ ⟨name, _⟩ ha ⟨_, _⟩ hb rfl
  exact differ ((entryIn_eq.mp ha).1.trans (entryIn_eq.mp hb).1.symm)

end Disk

namespace LocalInput

variable {d d' : Disk} {directory path name start : String}

/-- The path that a directory is listed by. -/
def shown (directory : String) : String := if directory.isEmpty then "." else directory

/-- The path leads from a directory over directories that are there to a file. -/
inductive Below (d : Disk) : (directory path : String) → Prop where
  | file {directory name : String} {content : Bytes} (here : d.isDirectory (shown directory) = true)
      (entry : (Path.place directory ++ [name], .file content) ∈ d.nodes) :
      Below d directory (directory ++ name)
  | within {directory name path : String} (here : d.isDirectory (shown directory) = true)
      (entry : (Path.place directory ++ [name], .directory) ∈ d.nodes)
      (below : Below d (directory ++ name ++ "/") path) : Below d directory path

namespace Below

theorem congr (same : d'.nodes = d.nodes) (h : Below d directory path) : Below d' directory path := by
  induction h with
  | file here entry => exact .file ((Disk.isDirectory_congr same).trans here) (same ▸ entry)
  | within here entry _ ih => exact .within ((Disk.isDirectory_congr same).trans here) (same ▸ entry) ih

theorem here (h : Below d directory path) : d.isDirectory (shown directory) = true := by
  cases h <;> assumption

/-- The path begins with the directory. -/
theorem begins (h : Below d directory path) : ∃ rest, path = directory ++ rest := by
  induction h with
  | @file _ name => exact ⟨name, rfl⟩
  | @within _ name _ _ _ _ ih =>
    obtain ⟨rest, rfl⟩ := ih
    exact ⟨name ++ "/" ++ rest, by simp only [String.append_assoc]⟩

end Below

section Names

/-- Names of entries can be told apart by what follows a directory. -/
theorem name_unique {name name' rest rest' : String} (plain : '/' ∉ name.toList)
    (plain' : '/' ∉ name'.toList)
    (same : directory ++ name ++ "/" ++ rest = directory ++ name' ++ "/" ++ rest') : name = name' := by
  have chars := congrArg String.toList same
  simp only [String.toList_append, List.append_assoc, List.append_cancel_left_eq] at chars
  have heads := congrArg (List.takeWhile (· ≠ '/')) chars
  have whole : ∀ {name : String} (rest : List Char), '/' ∉ name.toList →
      (name.toList ++ ("/".toList ++ rest)).takeWhile (· ≠ '/') = name.toList := by
    intro name rest plain
    have other : ∀ c ∈ name.toList, decide (c ≠ '/') = true := by
      intro c hc
      refine decide_eq_true fun slash => plain ?_
      rwa [← slash]
    rw [List.takeWhile_append_of_pos other]
    simp
  rw [whole _ plain, whole _ plain'] at heads
  exact String.toList_injective heads

theorem name_ne_within {name name' rest : String} (plain : '/' ∉ name.toList) :
    directory ++ name ≠ directory ++ name' ++ "/" ++ rest := by
  intro same
  have chars := congrArg String.toList same
  simp only [String.toList_append, List.append_assoc, List.append_cancel_left_eq] at chars
  exact plain (chars ▸ by simp)

theorem names_directory (text : Path.IsDirectoryText directory) (named : Path.IsFileName name) :
    Path.names (directory ++ name ++ "/") = Path.names directory ++ [name] := by
  rw [← Path.names_entry text named, Path.names, Path.names, Path.segments, Path.segments, String.toList_append]
  have cut := Path.cutAtSlashes_slash (directory ++ name).toList [] []
  rw [show "/".toList = ['/'] from rfl, cut, List.map_append, List.filter_append]
  simp [Path.cutAtSlashes]

theorem isAbsolute_directory (text : Path.IsDirectoryText directory) (named : Path.IsFileName name) :
    Path.isAbsolute (directory ++ name ++ "/") = Path.isAbsolute directory := by
  rw [← Path.isAbsolute_entry text named, Path.isAbsolute, Path.isAbsolute, String.toList_append]
  cases chars : (directory ++ name).toList with
  | nil =>
    rw [String.toList_append, List.append_eq_nil_iff] at chars
    exact absurd (String.toList_eq_nil_iff.mp chars.2) fun empty => named.1 (by simp [empty])
  | cons c rest => rfl

/-- A directory's path leads to the same place with a slash behind its name. -/
theorem place_directory (text : Path.IsDirectoryText directory) (named : Path.IsFileName name) :
    Path.place (directory ++ name ++ "/") = Path.place directory ++ [name] := by
  rw [← Path.place_entry text named, Path.place, Path.place, names_directory text named, Path.names_entry text named,
    isAbsolute_directory text named, Path.isAbsolute_entry text named]

end Names

section Scans

variable {d : Disk} {directory path start : String}

theorem mem_scan_files {entries : List (String × Bool)} :
    path ∈ (scan start directory entries).1 ↔
      (∃ name, (name, false) ∈ entries ∧ path = directory ++ name) ∧ startsWith path start = true := by
  simp only [scan, List.mem_filter, List.mem_map, Prod.exists, decide_eq_true_eq]
  constructor
  · rintro ⟨⟨name, _, ⟨hm, rfl⟩, rfl⟩, starts⟩
    exact ⟨⟨name, hm, rfl⟩, starts⟩
  · rintro ⟨⟨name, hm, rfl⟩, starts⟩
    exact ⟨⟨name, _, ⟨hm, rfl⟩, rfl⟩, starts⟩

/-- The names of the directories that are gone into. -/
def entered (start directory : String) (entries : List (String × Bool)) : List String :=
  ((entries.filter (·.2 = true)).map Prod.fst).filter fun name =>
    mayHold start (directory ++ name ++ "/")

theorem mem_entered {entries : List (String × Bool)} {name : String} :
    name ∈ entered start directory entries ↔
      (name, true) ∈ entries ∧ mayHold start (directory ++ name ++ "/") = true := by
  simp [entered]

theorem scan_directories (start directory : String) (entries : List (String × Bool)) :
    (scan start directory entries).2 =
      (entered start directory entries).map fun name => directory ++ name ++ "/" := by
  simp only [scan, entered, List.map_map, List.filter_map]
  rfl

theorem entered_distinct (start directory : String) (proper : d.IsProper) {l : Location} :
    (entered start directory (d.entriesOf l)).Nodup :=
  (List.pairwise_map.mpr (proper.entries_distinct.filter _)).filter _

theorem entered_entry {l : Location} {name : String}
    (hm : name ∈ entered start directory (d.entriesOf l)) : (l ++ [name], .directory) ∈ d.nodes := by
  obtain ⟨n, entry, kind⟩ := Disk.mem_entriesOf.mp (mem_entered.mp hm).1
  obtain rfl : n = .directory := of_decide_eq_true kind
  exact entry

/-- Directories that are passed over hold no match. -/
theorem mayHold_of_startsWith {rest : String} (starts : startsWith (directory ++ rest) start = true) :
    mayHold start directory = true := by
  rw [startsWith, List.isPrefixOf_iff_prefix, String.toList_append] at starts
  rw [mayHold, startsWith, startsWith, Bool.or_eq_true, List.isPrefixOf_iff_prefix, List.isPrefixOf_iff_prefix]
  exact List.prefix_or_prefix_of_prefix starts (List.prefix_append _ _)

theorem Below.mayHold (h : Below d directory path) (starts : startsWith path start = true) :
    mayHold start directory = true := by
  obtain ⟨rest, rfl⟩ := h.begins
  exact mayHold_of_startsWith starts

theorem Below.of_scan (here : d.isDirectory (shown directory) = true) {next : String}
    (hm : next ∈ (scan start directory (d.entriesOf (Path.place directory))).2)
    (h : Below d next path) : Below d directory path := by
  rw [scan_directories] at hm
  obtain ⟨name, named, rfl⟩ := List.mem_map.mp hm
  exact .within here (entered_entry named) h

/-- The matches below a directory are those in it and those below its directories. -/
theorem below_iff (path start : String) (here : d.isDirectory (shown directory) = true) :
    Below d directory path ∧ startsWith path start = true ↔
      path ∈ (scan start directory (d.entriesOf (Path.place directory))).1 ∨
        ∃ next ∈ (scan start directory (d.entriesOf (Path.place directory))).2,
          Below d next path ∧ startsWith path start = true := by
  constructor
  · rintro ⟨below, starts⟩
    cases below with
    | file _ entry =>
      exact .inl (mem_scan_files.mpr ⟨⟨_, Disk.mem_entriesOf.mpr ⟨_, entry, rfl⟩, rfl⟩, starts⟩)
    | within _ entry below =>
      rw [scan_directories]
      exact .inr ⟨_, List.mem_map_of_mem (mem_entered.mpr
        ⟨Disk.mem_entriesOf.mpr ⟨_, entry, rfl⟩, below.mayHold starts⟩), below, starts⟩
  · rintro (found | ⟨next, hm, below, starts⟩)
    · obtain ⟨⟨name, hm, rfl⟩, starts⟩ := mem_scan_files.mp found
      obtain ⟨n, entry, kind⟩ := Disk.mem_entriesOf.mp hm
      cases n with
      | file content => exact ⟨.file here entry, starts⟩
      | directory => cases kind
    · exact ⟨below.of_scan here hm, starts⟩

/-- Nothing is below both of them. -/
def Apart (d : Disk) (a b : String) : Prop := ∀ path, Below d a path → ¬ Below d b path

/-- What a directory gives is there once: its files have names of their own, and so have the
directories in it. -/
theorem scan_distinct (start directory : String) (proper : d.IsProper) :
    (scan start directory (d.entriesOf (Path.place directory))).1.Nodup ∧
      (scan start directory (d.entriesOf (Path.place directory))).2.Pairwise (Apart d) ∧
        ∀ path ∈ (scan start directory (d.entriesOf (Path.place directory))).1,
          ∀ next ∈ (scan start directory (d.entriesOf (Path.place directory))).2,
            ¬ Below d next path := by
  rw [scan_directories]
  refine ⟨?_, ?_, ?_⟩
  · refine (List.pairwise_map.mpr ((proper.entries_distinct.filter _).imp ?_)).filter _
    exact fun differ same => differ ((String.append_right_inj _).mp same)
  · refine List.pairwise_map.mpr ((entered_distinct start directory proper).imp_of_mem ?_)
    intro name name' hn hn' differ path below below'
    obtain ⟨rest, rfl⟩ := below.begins
    obtain ⟨rest', same⟩ := below'.begins
    exact differ (name_unique (proper.fileName (entered_entry hn)).2
      (proper.fileName (entered_entry hn')).2 same)
  · intro path found next hm below
    obtain ⟨⟨name, named, rfl⟩, -⟩ := mem_scan_files.mp found
    obtain ⟨name', -, rfl⟩ := List.mem_map.mp hm
    obtain ⟨n, entry, -⟩ := Disk.mem_entriesOf.mp named
    obtain ⟨rest, same⟩ := below.begins
    exact name_ne_within (proper.fileName entry).2 same

end Scans

section Fuel

variable {d : Disk} {l : Location}

theorem countP_add_le {α : Type} {p q r : α → Bool} (hp : ∀ a, p a → r a) (hq : ∀ a, q a → r a)
    (apart : ∀ a, p a → ¬ q a) (as : List α) : as.countP p + as.countP q ≤ as.countP r := by
  induction as with
  | nil => exact Nat.le_refl 0
  | cons a as ih =>
    simp only [List.countP_cons]
    by_cases first : p a
    · rw [if_pos first, if_pos (hp a first), if_neg (apart a first)]
      omega
    · by_cases second : q a
      · rw [if_neg first, if_pos second, if_pos (hq a second)]
        omega
      · rw [if_neg first, if_neg second]
        omega

/-- The number of directories at or below a place. -/
def directoriesFrom (d : Disk) (l : Location) : Nat :=
  d.nodes.countP fun held => held.2 = .directory ∧ l <+: held.1

def directoriesBelow (d : Disk) (l : Location) : Nat :=
  d.nodes.countP fun held => held.2 = .directory ∧ l <+: held.1 ∧ held.1 ≠ l

theorem directoriesFrom_entry (entry : (l, .directory) ∈ d.nodes) :
    1 + directoriesBelow d l ≤ directoriesFrom d l := by
  have one : 0 < d.nodes.countP (· = (l, .directory)) :=
    List.countP_pos_iff.mpr ⟨_, entry, decide_eq_true rfl⟩
  refine Nat.le_trans (Nat.add_le_add_right one _) (countP_add_le ?_ ?_ ?_ _)
  · intro held same
    rw [of_decide_eq_true same]
    exact decide_eq_true ⟨rfl, List.prefix_rfl⟩
  · intro held below
    have below := of_decide_eq_true below
    exact decide_eq_true ⟨below.1, below.2.1⟩
  · intro held same below
    rw [of_decide_eq_true same] at below
    exact (of_decide_eq_true below).2.2 rfl

/-- The directories in a place are apart from each other, and all are below it. -/
theorem directories_of_entries {names : List String} (once : names.Nodup)
    (entries : ∀ name ∈ names, (l ++ [name], .directory) ∈ d.nodes) :
    (names.map fun name => 1 + directoriesBelow d (l ++ [name])).sum ≤
      d.nodes.countP fun held => held.2 = .directory ∧ ∃ name ∈ names, l ++ [name] <+: held.1 := by
  induction names with
  | nil => exact Nat.zero_le _
  | cons name names ih =>
    rw [List.nodup_cons] at once
    rw [List.map_cons, List.sum_cons]
    have first := directoriesFrom_entry (entries name List.mem_cons_self)
    have later := ih once.2 fun name hm => entries name (List.mem_cons_of_mem _ hm)
    refine Nat.le_trans (Nat.add_le_add first later) (countP_add_le ?_ ?_ ?_ _)
    · intro held here
      have here := of_decide_eq_true here
      exact decide_eq_true ⟨here.1, name, List.mem_cons_self, here.2⟩
    · intro held there
      obtain ⟨kind, other, hm, below⟩ := of_decide_eq_true there
      exact decide_eq_true ⟨kind, other, List.mem_cons_of_mem _ hm, below⟩
    · intro held here there
      obtain ⟨-, other, hm, below⟩ := of_decide_eq_true there
      have same := List.prefix_of_prefix_length_le (of_decide_eq_true here).2 below (by simp)
      have same := List.append_cancel_left (same.eq_of_length (by simp))
      cases same
      exact once.1 hm

end Fuel

section Searches

variable {d d' : Disk} {start : String}

/-- How many directories are listed for one that is waiting, itself included. -/
def weight (d : Disk) (directory : String) : Nat := 1 + directoriesBelow d (Path.place directory)

theorem weight_scan (start : String) {directory : String} (proper : d.IsProper)
    (text : Path.IsDirectoryText directory) :
    ((scan start directory (d.entriesOf (Path.place directory))).2.map (weight d)).sum <
      weight d directory := by
  have once := entered_distinct start directory proper (l := Path.place directory)
  have weights : ∀ name ∈ entered start directory (d.entriesOf (Path.place directory)),
      (weight d ∘ fun name => directory ++ name ++ "/") name =
        1 + directoriesBelow d (Path.place directory ++ [name]) := by
    intro name hm
    have named := proper.fileName (entered_entry hm)
    exact congrArg (1 + directoriesBelow d ·) (place_directory text named)
  rw [scan_directories, List.map_map, List.map_congr_left weights, weight, Nat.lt_one_add_iff]
  refine Nat.le_trans (directories_of_entries once fun _ => entered_entry) (List.countP_mono_left ?_)
  intro held _ below
  obtain ⟨kind, name, -, below⟩ := of_decide_eq_true below
  refine decide_eq_true ⟨kind, (List.prefix_append _ _).trans below, fun same => ?_⟩
  have short := below.length_le
  rw [same, List.length_append, List.length_singleton] at short
  omega

/-- With fuel for all directories that are waiting, what is found is what was found before and all
matches below those directories, each once. -/
theorem listWithin_exact (fuel : Nat) (pending found : List String) (proper : d.IsProper)
    (present : ∀ n path, d.refusal n (.list path) ≠ some .notFound) (same : d'.nodes = d.nodes)
    (refuses : d'.refusal = d.refusal) (texts : ∀ directory ∈ pending, Path.IsDirectoryText directory)
    (enough : (pending.map (weight d)).sum ≤ fuel) {all : List String}
    (h : (listWithin start fuel d' pending found).1 = .ok all) :
    (∀ path, path ∈ all ↔ path ∈ found ∨
        ∃ directory ∈ pending, Below d directory path ∧ startsWith path start = true) ∧
      (found.Nodup → pending.Pairwise (Apart d) →
        (∀ path ∈ found, ∀ directory ∈ pending, ¬ Below d directory path) → all.Nodup) := by
  induction fuel generalizing d' pending found with
  | zero =>
    cases pending with
    | nil =>
      cases h
      exact ⟨by simp, fun once _ _ => once⟩
    | cons directory rest =>
      rw [List.map_cons, List.sum_cons, weight] at enough
      omega
  | succ fuel ih =>
    cases pending with
    | nil =>
      cases h
      exact ⟨by simp, fun once _ _ => once⟩
    | cons directory rest =>
      rw [List.map_cons, List.sum_cons] at enough
      have later : ∀ other ∈ rest, Path.IsDirectoryText other :=
        fun other hm => texts other (List.mem_cons_of_mem _ hm)
      have counted := d'.list_counted (shown directory)
      unfold listWithin at h
      dsimp only at h
      split at h
      · rename_i after listed
        obtain rfl : after = d'.counted := by rw [← counted, shown, listed]
        have gone : ∀ path, ¬ Below d directory path := by
          intro path below
          have here := (Disk.isDirectory_congr same).trans below.here
          rcases Disk.list_of_isDirectory here with ⟨fault, refused, failed⟩ | found
          · rw [shown, listed] at failed
            cases failed
            rw [refuses] at refused
            exact present _ _ refused
          · rw [shown, listed] at found
            cases found
        have fewer : (rest.map (weight d)).sum ≤ fuel := by
          rw [weight] at enough
          omega
        have kept : d'.counted.nodes = d.nodes := same
        obtain ⟨finds, once⟩ := ih rest found kept refuses later fewer h
        refine ⟨fun path => ?_, fun distinct apart fresh => ?_⟩
        · rw [finds]
          simp [gone]
        · exact once distinct (List.pairwise_cons.mp apart).2
            fun path hm other ho => fresh path hm other (List.mem_cons_of_mem _ ho)
      · cases h
      · rename_i entries after listed
        obtain rfl : after = d'.counted := by rw [← counted, shown, listed]
        have ok : (d'.list (shown directory)).1 = .ok entries := by rw [shown, listed]
        have here := (Disk.isDirectory_congr same).symm.trans (Disk.isDirectory_of_list ok)
        obtain rfl : entries = d.entriesOf (Path.place directory) := by
          rw [Disk.list_ok ok, shown, place_listed, Disk.entriesOf, Disk.entriesOf, same]
        have text := texts directory List.mem_cons_self
        have lighter := weight_scan start proper text
        have below := fun path => below_iff path start here
        obtain ⟨distinct, apart, fresh⟩ := scan_distinct start directory proper
        have below_texts : ∀ next ∈ (scan start directory (d.entriesOf (Path.place directory))).2,
            Path.IsDirectoryText next := by
          rw [scan_directories]
          intro next hm
          obtain ⟨name, -, rfl⟩ := List.mem_map.mp hm
          exact .inr ⟨(directory ++ name).toList, by simp⟩
        have inside : ∀ next ∈ (scan start directory (d.entriesOf (Path.place directory))).2, ∀ path,
            Below d next path → Below d directory path := fun next hm path h => h.of_scan here hm
        generalize scan start directory (d.entriesOf (Path.place directory)) = scanned at *
        obtain ⟨files, directories⟩ := scanned
        dsimp only at *
        have kept : d'.counted.nodes = d.nodes := same
        obtain ⟨finds, once⟩ := ih (directories.reverse ++ rest) (found ++ files) kept
          refuses (by simpa [or_imp, forall_and] using ⟨below_texts, later⟩)
          (by rw [List.map_append, List.map_reverse, List.sum_append, List.sum_reverse]; omega) h
        refine ⟨fun path => ?_, fun before aside unfound => ?_⟩
        · rw [finds]
          simp only [List.mem_append, List.mem_reverse, List.mem_cons, or_and_right, exists_or,
            exists_eq_left, below, or_assoc]
        · obtain ⟨beside, aside⟩ := List.pairwise_cons.mp aside
          have new : ∀ path ∈ files, Below d directory path :=
            fun path hm => ((below path).mpr (.inl hm)).1
          refine once ?_ ?_ ?_
          · refine List.nodup_append.mpr ⟨before, distinct, fun path hm other ho same => ?_⟩
            exact unfound path hm directory List.mem_cons_self (same ▸ new other ho)
          · refine List.pairwise_append.mpr ⟨List.pairwise_reverse.mpr ?_, aside, ?_⟩
            · exact apart.imp fun h path below' below => h path below below'
            · exact fun next hm other ho path h =>
                beside other ho path (inside next (List.mem_reverse.mp hm) path h)
          · intro path hm next hn
            rcases List.mem_append.mp hm with hm | hm <;> rcases List.mem_append.mp hn with hn | hn
            · exact fun h => unfound path hm directory List.mem_cons_self
                (inside next (List.mem_reverse.mp hn) path h)
            · exact unfound path hm next (List.mem_cons_of_mem _ hn)
            · exact fresh path hm next (List.mem_reverse.mp hn)
            · exact beside next hn path (new path hm)

/-- What is listed are the files below the directory where the search begins whose paths start with the
wanted text and come behind the last path, each of them once and in order. -/
theorem list_exact {s : Search} {files : List String} (proper : d.IsProper)
    (present : ∀ n path, d.refusal n (.list path) ≠ some .notFound)
    (h : (list s d).1 = .ok files) : files.Pairwise (· < ·) ∧ ∀ path, path ∈ files ↔
      Below d (rootOf s.start) path ∧ startsWith path s.start = true ∧ ∀ last ∈ s.lastPath, last < path := by
  have fuel : ([rootOf s.start].map (weight d)).sum ≤ d.nodes.length + 2 := by
    have some : directoriesBelow d (Path.place (rootOf s.start)) ≤ d.nodes.length := List.countP_le_length
    simp only [List.map_cons, List.map_nil, List.sum_cons, List.sum_nil, weight]
    omega
  unfold list at h
  split at h
  · cases h
  · rename_i found _ listed
    cases h
    have ok : (listWithin s.start (d.nodes.length + 2) d [rootOf s.start] []).1 = .ok found := by
      rw [listed]
    obtain ⟨finds, once⟩ := listWithin_exact (d.nodes.length + 2) [rootOf s.start] [] proper present rfl
      rfl (by simpa using rootOf_isDirectoryText s.start) fuel ok
    have distinct := once .nil (List.pairwise_singleton _ _) (by simp)
    constructor
    · have sorted : (found.mergeSort (· ≤ ·)).Pairwise (· ≤ ·) := by
        refine (List.pairwise_mergeSort ?_ ?_ found).imp of_decide_eq_true
        · exact fun a b c first second => decide_eq_true
            (String.le_trans (of_decide_eq_true first) (of_decide_eq_true second))
        · intro a b
          rcases String.le_total a b with le | le <;> simp [le]
      have apart : (found.mergeSort (· ≤ ·)).Nodup := (List.mergeSort_perm found _).nodup_iff.mpr distinct
      refine ((sorted.and apart).imp fun both => ?_).filter _
      exact Decidable.byContradiction fun less =>
        both.2 (String.le_antisymm both.1 (String.not_lt.mp less))
    · intro path
      rw [List.mem_filter, List.mem_mergeSort, finds, Option.all_eq_true]
      simp [and_assoc]

end Searches

end LocalInput

end BulkTransfer
