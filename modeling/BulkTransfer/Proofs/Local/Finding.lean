import BulkTransfer.Proofs.Disk.Removal
import BulkTransfer.Proofs.Local.Search
import BulkTransfer.Proofs.Text.Utf8
import Mathlib.Logic.Relation
/-!
# How a search ends

A search goes on until no directory is waiting, or until one of them cannot be listed although something is
there. The first is what happens unless the search is to begin behind a file, or the path of a directory is too
long for the system. What is found then is exactly what is to be found, wherever it lies.
-/
namespace BulkTransfer

namespace Disk

variable {d d' : Disk} {path name directory : String} {l l' : Location} {names front : List String}

/-- From a place names lead over directories to a file. -/
inductive Leads (d : Disk) : Location → List String → Prop where
  | file {l : Location} {name : String} {content : Bytes} (entry : (l ++ [name], .file content) ∈ d.nodes) :
      Leads d l [name]
  | within {l : Location} {name : String} {names : List String} (entry : (l ++ [name], .directory) ∈ d.nodes)
      (later : Leads d (l ++ [name]) names) : Leads d l (name :: names)

theorem Leads.filled (h : d.Leads l names) : names ≠ [] := by
  cases h <;> exact List.cons_ne_nil _ _

/-- The names of nodes are such as the system takes. -/
def HasShortNames (d : Disk) : Prop :=
  ∀ entry ∈ d.nodes, ∀ name ∈ entry.1.getLast?, name.utf8ByteSize ≤ greatestNameSize ∧ Char.ofNat 0 ∉ name.toList

instance (d : Disk) : Decidable d.HasShortNames :=
  inferInstanceAs (Decidable (∀ entry ∈ d.nodes, ∀ name ∈ entry.1.getLast?, _ ∧ _))

/-- The system looks only at paths that are not too long. -/
theorem fits_of_nodeAt (h : ∀ fault, d.nodeAt path = .error fault → fault = .notFound) :
    path.utf8ByteSize ≤ greatestPathSize := by
  have way : ∀ fault, d.resolve path = .error fault → fault = .notFound := by
    intro fault failed
    apply h
    rw [nodeAt, failed]
    rfl
  by_contra long
  rw [Nat.not_le] at long
  unfold resolve at way
  split at way
  · rename_i empty
    rw [String.isEmpty_iff.mp empty] at long
    exact Nat.not_lt_zero _ long
  split at way
  · cases way _ rfl
  cases way _ rfl

section Lists

variable (granted : ∀ n path, d.refusal n (.list path) = none)
include granted

theorem list_granted (path : String) : (d.list path).1 =
    match d.nodeAt path with
    | .ok (l, some .directory) => .ok (d.entriesOf l)
    | .ok (_, some (.file _)) => .error .notADirectory
    | .ok (_, none) => .error .notFound
    | .error fault => .error fault := by
  have counted : d.counted.nodeAt path = d.nodeAt path := nodeAt_congr rfl
  unfold list
  cases found : d.nodeAt path with
  | error fault =>
    rw [attempt_error (granted d.clock path)]
    rw [counted, found]
    rfl
  | ok pair =>
    obtain ⟨l, node⟩ := pair
    rcases node with _ | content | _
    · rw [attempt_error (granted d.clock path)]
      rw [counted, found]
      rfl
    · rw [attempt_error (granted d.clock path)]
      rw [counted, found]
      rfl
    · refine congrArg Prod.fst (attempt_ok (granted d.clock path) (?_ : _ = Except.ok (_, d.counted)))
      rw [counted, found]
      rfl

/-- Later the answer is the same. -/
theorem list_same (same : d'.nodes = d.nodes) (refuses : d'.refusal = d.refusal) (path : String) :
    (d'.list path).1 = (d.list path).1 := by
  rw [list_granted granted, list_granted (refuses ▸ granted), nodeAt_congr same]
  have entries : ∀ l, d'.entriesOf l = d.entriesOf l := fun l => by rw [entriesOf, entriesOf, same]
  simp only [entries]

theorem list_gone : (d.list path).1 = .error .notFound ↔ d.IsGone path := by
  rw [list_granted granted, IsGone]
  cases found : d.nodeAt path with
  | error fault => simp
  | ok pair =>
    obtain ⟨l, node⟩ := pair
    rcases node with _ | content | _ <;> simp

theorem list_opens (here : d.isDirectory path = true) : (d.list path).1 = .ok (d.entriesOf (Path.place path)) := by
  rw [list_granted granted, nodeAt_of_isDirectory here]

end Lists

section Ways

/-- A way to a directory goes on to what is in it. -/
theorem walk_entry (way : d.walk l names = .ok l') (here : d.node? l' = some .directory)
    (named : Path.IsFileName name) : d.walk l (names ++ [name]) =
      if name.utf8ByteSize > greatestNameSize then .error .nameTooLong else .ok (l' ++ [name]) := by
  obtain ⟨-, dot, up⟩ := (by simpa using named.1 : name ≠ "" ∧ name ≠ "." ∧ name ≠ "..")
  induction names generalizing l with
  | nil =>
    cases way
    rw [List.nil_append, Disk.walk, if_neg dot, if_neg up]
  | cons first rest ih =>
    rw [List.cons_append, Disk.walk]
    rw [Disk.walk] at way
    by_cases first_dot : first = "."
    · rw [if_pos first_dot] at way ⊢
      exact ih way
    rw [if_neg first_dot] at way ⊢
    by_cases first_up : first = ".."
    · rw [if_pos first_up] at way ⊢
      exact ih way
    rw [if_neg first_up] at way ⊢
    by_cases long : first.utf8ByteSize > greatestNameSize
    · rw [if_pos long] at way
      cases way
    rw [if_neg long] at way ⊢
    cases rest with
    | nil =>
      cases way
      rw [List.nil_append]
      dsimp only
      rw [here]
      exact ih rfl
    | cons next others =>
      dsimp only [List.cons_append] at way ⊢
      split at way
      · exact ih way
      · cases way
      · cases way

end Ways

end Disk

namespace LocalInput

variable {d d' : Disk} {directory path name start : String}

section Entries

/-- The way to a directory that can be listed. -/
theorem walk_shown (here : d.isDirectory (shown directory) = true) :
    d.walk (Disk.root directory) (Path.names directory) = .ok (Path.place directory) ∧
      d.node? (Path.place directory) = some .directory ∧ Char.ofNat 0 ∉ directory.toList := by
  by_cases empty : directory = ""
  · subst empty
    exact ⟨rfl, rfl, List.not_mem_nil⟩
  · have same : shown directory = directory := if_neg (by simpa using empty)
    rw [same] at here
    obtain ⟨-, way, held, -⟩ := Disk.nodeAt_ok (Disk.nodeAt_of_isDirectory here)
    unfold Disk.resolve at way
    split at way
    · cases way
    split at way
    · cases way
    rename_i clean
    split at way
    · cases way
    exact ⟨way, held, by simpa using clean⟩

/-- A directory in one that can be listed leads to its place, if its path is one that the system takes. -/
theorem resolve_entry (text : Path.IsDirectoryText directory) (named : Path.IsFileName name)
    (here : d.isDirectory (shown directory) = true) : d.resolve (directory ++ name ++ "/") =
      if Char.ofNat 0 ∈ name.toList then .error .nulInPath
      else if (directory ++ name ++ "/").utf8ByteSize > Disk.greatestPathSize ∨
        name.utf8ByteSize > Disk.greatestNameSize then .error .nameTooLong
      else .ok (Path.place directory ++ [name]) := by
  obtain ⟨way, held, clean⟩ := walk_shown here
  have walked := Disk.walk_entry way held named
  have filled : ¬ (directory ++ name ++ "/").isEmpty = true := by simp
  have nul : (directory ++ name ++ "/").toList.contains (Char.ofNat 0) = true ↔ Char.ofNat 0 ∈ name.toList := by
    simp [clean]
  have same : (if Path.isAbsolute directory then ["/"] else []) = Disk.root directory := rfl
  rw [Disk.resolve, if_neg filled, names_directory text named, isAbsolute_directory text named, same, walked]
  by_cases inside : Char.ofNat 0 ∈ name.toList
  · rw [if_pos inside, if_pos (nul.mpr inside)]
  rw [if_neg inside, if_neg (fun h => inside (nul.mp h))]
  by_cases long : (directory ++ name ++ "/").utf8ByteSize > Disk.greatestPathSize
  · rw [if_pos long, if_pos (.inl long)]
  · simp only [long, if_false, false_or]

/-- A directory that is an entry can be listed, unless its path is longer than the system takes. -/
theorem isDirectory_entry (proper : d.IsProper) (short : d.HasShortNames) (text : Path.IsDirectoryText directory)
    (here : d.isDirectory (shown directory) = true) (entry : (Path.place directory ++ [name], .directory) ∈ d.nodes) :
    if (directory ++ name ++ "/").utf8ByteSize ≤ Disk.greatestPathSize then
      d.isDirectory (shown (directory ++ name ++ "/")) = true
    else d.nodeAt (shown (directory ++ name ++ "/")) = .error .nameTooLong := by
  have named := proper.fileName entry
  obtain ⟨size, clean⟩ := short _ entry name (by simp)
  have way := resolve_entry text named here
  have same : shown (directory ++ name ++ "/") = directory ++ name ++ "/" := if_neg (by simp)
  rw [if_neg clean] at way
  rw [same]
  split
  · rename_i fits
    rw [if_neg (by omega)] at way
    rw [Disk.isDirectory, Disk.nodeAt, way]
    simp [bind, Except.bind, proper.node?_entry entry, pure, Except.pure]
  · rename_i long
    rw [if_pos (by omega)] at way
    rw [Disk.nodeAt, way]
    rfl

end Entries

section Searches

/-- A search from directories that are waiting ends with this, when it goes on until none is waiting or one of
them cannot be listed although something is there. -/
inductive Searches (start : String) (d : Disk) :
    (pending found : List String) → Except PluginError (List String) → Prop where
  | ends (found : List String) : Searches start d [] found (.ok found)
  | gone {directory : String} {rest found : List String} {result : Except PluginError (List String)}
      (listed : (d.list (shown directory)).1 = .error .notFound) (later : Searches start d rest found result) :
      Searches start d (directory :: rest) found result
  | fails {directory : String} {rest found : List String} {cause : IoError}
      (listed : (d.list (shown directory)).1 = .error cause) (there : cause ≠ .notFound) :
      Searches start d (directory :: rest) found (.error (.file (shown directory) cause))
  | opens {directory : String} {rest found : List String} {entries : List (String × Bool)}
      {result : Except PluginError (List String)} (listed : (d.list (shown directory)).1 = .ok entries)
      (later : Searches start d ((scan start directory entries).2.reverse ++ rest)
        (found ++ (scan start directory entries).1) result) :
      Searches start d (directory :: rest) found result

/-- One directory follows another in a search. -/
def Next (start : String) (d : Disk) (directory next : String) : Prop :=
  d.isDirectory (shown directory) = true ∧ ∃ name, (Path.place directory ++ [name], .directory) ∈ d.nodes ∧
    mayHold start (directory ++ name ++ "/") = true ∧ next = directory ++ name ++ "/"

/-- The directories that a search comes to. -/
def Visits (start : String) (d : Disk) : String → Prop := Relation.ReflTransGen (Next start d) (rootOf start)

/-- The directory can be listed, or there is nothing at its path. -/
def Listable (d : Disk) (directory : String) : Prop :=
  ∀ cause, (d.list (shown directory)).1 = .error cause → cause = .notFound

theorem next_iff_scan (here : d.isDirectory (shown directory) = true) (next : String) : Next start d directory next ↔
    next ∈ (scan start directory (d.entriesOf (Path.place directory))).2 := by
  rw [scan_directories, List.mem_map]
  constructor
  · rintro ⟨-, name, entry, may, rfl⟩
    exact ⟨name, mem_entered.mpr ⟨Disk.mem_entriesOf.mpr ⟨_, entry, rfl⟩, may⟩, rfl⟩
  · rintro ⟨name, named, rfl⟩
    exact ⟨here, name, entered_entry named, (mem_entered.mp named).2, rfl⟩

theorem Next.text {next : String} (h : Next start d directory next) : Path.IsDirectoryText next := by
  obtain ⟨-, name, -, -, rfl⟩ := h
  exact .inr ⟨(directory ++ name).toList, by simp⟩

theorem Visits.text (h : Visits start d directory) : Path.IsDirectoryText directory := by
  cases h with
  | refl => exact rootOf_isDirectoryText start
  | tail _ next => exact next.text

variable (granted : ∀ n path, d.refusal n (.list path) = none)
include granted

theorem list_shown (here : d.isDirectory (shown directory) = true) :
    (d.list (shown directory)).1 = .ok (d.entriesOf (Path.place directory)) := by
  rw [Disk.list_opens granted here, shown, place_listed]

/-- With fuel for all directories that are waiting a search ends by itself. -/
theorem listWithin_searches (fuel : Nat) (pending found : List String) (proper : d.IsProper)
    (same : d'.nodes = d.nodes) (refuses : d'.refusal = d.refusal)
    (texts : ∀ directory ∈ pending, Path.IsDirectoryText directory) (enough : (pending.map (weight d)).sum ≤ fuel) :
    Searches start d pending found (listWithin start fuel d' pending found).1 := by
  induction fuel generalizing d' pending found with
  | zero =>
    cases pending with
    | nil => exact .ends found
    | cons directory rest =>
      rw [List.map_cons, List.sum_cons, weight] at enough
      omega
  | succ fuel ih =>
    cases pending with
    | nil => exact .ends found
    | cons directory rest =>
      rw [List.map_cons, List.sum_cons] at enough
      rw [List.forall_mem_cons] at texts
      have counted := d'.list_counted (shown directory)
      have answer := Disk.list_same granted same refuses (shown directory)
      have kept : d'.counted.nodes = d.nodes := same
      unfold listWithin
      dsimp only
      split
      · rename_i after listed
        obtain rfl : after = d'.counted := by rw [← counted, shown, listed]
        rw [shown, listed] at answer
        refine .gone answer.symm (ih rest found kept refuses texts.2 ?_)
        rw [weight] at enough
        omega
      · rename_i cause after there listed
        rw [shown, listed] at answer
        exact .fails answer.symm there
      · rename_i entries after listed
        obtain rfl : after = d'.counted := by rw [← counted, shown, listed]
        rw [shown, listed] at answer
        have here := Disk.isDirectory_of_list answer.symm
        obtain rfl : entries = d.entriesOf (Path.place directory) := Except.ok.inj (answer.trans (list_shown granted here))
        have lighter := weight_scan start proper texts.1
        refine .opens answer.symm (ih _ _ kept refuses ?_ ?_)
        · intro next hm
          rcases List.mem_append.mp hm with hm | hm
          · exact ((next_iff_scan here next).mpr (List.mem_reverse.mp hm)).text
          · exact texts.2 next hm
        · rw [List.map_append, List.map_reverse, List.sum_append, List.sum_reverse]
          omega

/-- A search that fails has come to a directory that cannot be listed. -/
theorem Searches.failed {pending found : List String} {result : Except PluginError (List String)}
    (h : Searches start d pending found result) (visits : ∀ directory ∈ pending, Visits start d directory)
    {e : PluginError} (fails : result = .error e) : ∃ directory cause, Visits start d directory ∧
      (d.list (shown directory)).1 = .error cause ∧ cause ≠ .notFound ∧ e = .file (shown directory) cause := by
  induction h with
  | ends found => cases fails
  | gone _ _ ih => exact ih (fun other hm => visits other (List.mem_cons_of_mem _ hm)) fails
  | @fails directory rest found cause listed there =>
    cases fails
    exact ⟨directory, cause, visits directory List.mem_cons_self, listed, there, rfl⟩
  | @opens directory rest found entries result listed _ ih =>
    have here := Disk.isDirectory_of_list listed
    obtain rfl := Except.ok.inj (listed.symm.trans (list_shown granted here))
    refine ih (fun next hm => ?_) fails
    rcases List.mem_append.mp hm with hm | hm
    · exact (visits directory List.mem_cons_self).tail ((next_iff_scan here next).mpr (List.mem_reverse.mp hm))
    · exact visits next (List.mem_cons_of_mem _ hm)

/-- A search that does not fail has listed all directories that follow those that were waiting. -/
theorem Searches.listable {pending found : List String} {result : Except PluginError (List String)}
    (h : Searches start d pending found result) {all : List String} (ok : result = .ok all) :
    ∀ directory ∈ pending, ∀ later, Relation.ReflTransGen (Next start d) directory later → Listable d later := by
  induction h with
  | ends found => simp
  | @gone directory rest found result listed _ ih =>
    rw [List.forall_mem_cons]
    refine ⟨fun later follows => ?_, ih ok⟩
    rcases follows.cases_head with rfl | ⟨next, follows, -⟩
    · intro cause failed
      exact (Except.error.inj (listed.symm.trans failed)).symm
    · cases listed.symm.trans (list_shown granted follows.1)
  | fails => cases ok
  | @opens directory rest found entries result listed _ ih =>
    have here := Disk.isDirectory_of_list listed
    obtain rfl := Except.ok.inj (listed.symm.trans (list_shown granted here))
    rw [List.forall_mem_cons]
    constructor
    · intro later follows
      rcases follows.cases_head with rfl | ⟨next, follows, beyond⟩
      · intro cause failed
        cases listed.symm.trans failed
      · exact ih ok next (List.mem_append_left _ (List.mem_reverse.mpr ((next_iff_scan here next).mp follows))) later
          beyond
    · intro other hm
      exact ih ok other (List.mem_append_right _ hm)

end Searches

section Matches

/-- The path leads from a directory that is there over names to a file. -/
def Lies (d : Disk) (directory path : String) : Prop :=
  d.isDirectory (shown directory) = true ∧
    ∃ names, d.Leads (Path.place directory) names ∧ path = directory ++ "/".intercalate names

/-- What is behind a directory among the names is behind it in the path. -/
theorem path_within (directory name : String) {names : List String} (filled : names ≠ []) :
    directory ++ "/".intercalate (name :: names) = directory ++ name ++ "/" ++ "/".intercalate names := by
  obtain ⟨first, others, rfl⟩ := List.exists_cons_of_ne_nil filled
  rw [String.intercalate_cons_cons, String.append_assoc, String.append_assoc, String.append_assoc]

theorem Below.lies (h : Below d directory path) (proper : d.IsProper) (text : Path.IsDirectoryText directory) :
    Lies d directory path := by
  induction h with
  | @file directory name content here entry =>
    exact ⟨here, [name], .file entry, by rw [String.intercalate_singleton]⟩
  | @within directory name path here entry _ ih =>
    obtain ⟨-, names, leads, rfl⟩ := ih (.inr ⟨(directory ++ name).toList, by simp⟩)
    rw [place_directory text (proper.fileName entry)] at leads
    exact ⟨here, name :: names, .within entry leads, (path_within directory name leads.filled).symm⟩

section Exactness

variable (proper : d.IsProper) (short : d.HasShortNames) (granted : ∀ n path, d.refusal n (.list path) = none)
include proper short granted

/-- A directory that is an entry and can be listed is one whose path is not too long. -/
theorem listable_entry (text : Path.IsDirectoryText directory) (here : d.isDirectory (shown directory) = true)
    (entry : (Path.place directory ++ [name], .directory) ∈ d.nodes) (listable : Listable d (directory ++ name ++ "/")) :
    (directory ++ name ++ "/").utf8ByteSize ≤ Disk.greatestPathSize ∧
      d.isDirectory (shown (directory ++ name ++ "/")) = true := by
  have opens := isDirectory_entry proper short text here entry
  split at opens
  · rename_i fits
    exact ⟨fits, opens⟩
  · have failed := Disk.list_granted granted (shown (directory ++ name ++ "/"))
    rw [opens] at failed
    cases listable _ failed

/-- In a search that comes to no directory that cannot be listed, the way to a match is gone all along. -/
theorem below_of_leads (all : ∀ next, Visits start d next → Listable d next) {l : Location} {names : List String}
    (leads : d.Leads l names) (visits : Visits start d directory) (place : Path.place directory = l)
    (here : d.isDirectory (shown directory) = true)
    (starts : startsWith (directory ++ "/".intercalate names) start = true) :
    Below d directory (directory ++ "/".intercalate names) := by
  induction leads generalizing directory with
  | file entry =>
    subst place
    rw [String.intercalate_singleton]
    exact .file here entry
  | @within l name names entry later ih =>
    subst place
    rw [path_within directory name later.filled] at starts ⊢
    have next : Visits start d (directory ++ name ++ "/") :=
      visits.tail ⟨here, name, entry, mayHold_of_startsWith starts, rfl⟩
    have opens := (listable_entry proper short granted visits.text here entry (all _ next)).2
    exact .within here entry (ih next (place_directory visits.text (proper.fileName entry)) opens starts)

/-- A search comes to no directory that cannot be listed if it begins at one, or at nothing, and no path of a
directory is too long. -/
theorem listable_iff (start : String) :
    (∀ directory, Visits start d directory → Listable d directory) ↔
      (d.isDirectory (shown (rootOf start)) = true ∨ d.IsGone (shown (rootOf start))) ∧
        ∀ directory, Visits start d directory → directory.utf8ByteSize ≤ Disk.greatestPathSize := by
  constructor
  · intro all
    have root := all _ .refl
    have begins : d.isDirectory (shown (rootOf start)) = true ∨ d.IsGone (shown (rootOf start)) := by
      cases listed : (d.list (shown (rootOf start))).1 with
      | ok entries => exact .inl (Disk.isDirectory_of_list listed)
      | error cause =>
        obtain rfl := root cause listed
        exact .inr ((Disk.list_gone granted).mp listed)
    refine ⟨begins, fun directory visits => ?_⟩
    cases visits with
    | refl =>
      by_cases empty : rootOf start = ""
      · rw [empty]
        exact Nat.zero_le _
      have same : shown (rootOf start) = rootOf start := if_neg (by simpa using empty)
      rw [same] at begins
      apply Disk.fits_of_nodeAt
      intro fault failed
      rcases begins with here | nowhere | ⟨l, missing⟩
      · cases failed.symm.trans (Disk.nodeAt_of_isDirectory here)
      · exact Except.error.inj (failed.symm.trans nowhere)
      · cases failed.symm.trans missing
    | @tail above _ before next =>
      have listable := all _ (before.tail next)
      obtain ⟨here, name, entry, -, rfl⟩ := next
      exact (listable_entry proper short granted (Visits.text before) here entry listable).1
  · rintro ⟨begins, fits⟩ directory visits
    cases visits with
    | refl =>
      intro cause failed
      rcases begins with here | gone
      · cases failed.symm.trans (Disk.list_opens granted here)
      · exact Except.error.inj (failed.symm.trans ((Disk.list_gone granted).mpr gone))
    | @tail above _ before next =>
      have size := fits _ (before.tail next)
      obtain ⟨here, name, entry, -, rfl⟩ := next
      have opens := isDirectory_entry proper short (Visits.text before) here entry
      rw [if_pos size] at opens
      intro cause failed
      cases failed.symm.trans (Disk.list_opens granted opens)

end Exactness

section Examples

/-- Directories whose names begin alike, one of them within another. -/
def nested : Disk := ⟨[(["in"], .directory), (["in", "ab"], .directory), (["in", "ab", "x"], .directory),
  (["in", "ab", "x", "2"], .file []), (["in", "a"], .directory), (["in", "a", "1"], .file []),
  (["in", "b"], .directory), (["in", "b", "3"], .file [])], 0, fun _ _ => none⟩

theorem nested_listed : LocalInput.list ⟨"in/a", some "in/a/1"⟩ nested =
    (.ok ["in/ab/x/2"], (list ⟨"in/a", some "in/a/1"⟩ nested).2) := by
  have found : listWithin "in/a" (nested.nodes.length + 2) nested [rootOf "in/a"] [] =
      (.ok ["in/a/1", "in/ab/x/2"], (listWithin "in/a" (nested.nodes.length + 2) nested [rootOf "in/a"] []).2) := rfl
  rw [list_found (s := ⟨"in/a", some "in/a/1"⟩) found (by decide)]
  rfl

def fileOnTheWay : Disk := ⟨[(["f"], .file [])], 0, fun _ _ => none⟩

end Examples

end Matches

end LocalInput

end BulkTransfer
