import BulkTransfer.Proofs.Disk.Agreement
import BulkTransfer.Proofs.Disk.Names
/-!
# Along the way

The way of a path enters places by their names, and each of them but the last has to be a directory.
What these places hold decides whether the path leads anywhere, and with which fault it does not.
-/
namespace BulkTransfer

namespace Disk

variable {d d' : Disk} {l m : Location} {names rest : List String} {P : Location → Prop} {path : String}

/-- The places that names enter, one after the other; steps to parents enter none. -/
def entered : Location → List String → List Location
  | _, [] => []
  | l, name :: rest =>
    if name = "." ∨ name = ".." then entered (enter l name) rest
    else enter l name :: entered (enter l name) rest

theorem entered_append (l : Location) (first second : List String) :
    entered l (first ++ second) = entered l first ++ entered (first.foldl enter l) second := by
  induction first generalizing l with
  | nil => rfl
  | cons name first ih =>
    rw [List.cons_append, entered, entered, List.foldl_cons, ih]
    split
    · rfl
    · rw [List.cons_append]

theorem walk_enters {name next : String} (dot : name ≠ ".") (up : name ≠ "..") :
    d.walk l (name :: next :: rest) =
      if name.utf8ByteSize > greatestNameSize then .error .nameTooLong
      else match d.node? (l ++ [name]) with
        | some .directory => d.walk (l ++ [name]) (next :: rest)
        | some (.file _) => .error .notADirectory
        | none => .error .notFound := by
  rw [Disk.walk, if_neg dot]
  exact if_neg up

/-- Where directories stay, a walk ends alike if what it enters besides them is the same. -/
theorem AgreesOn.walk (h : AgreesOn P d d')
    (known : ∀ m ∈ entered l names.dropLast, d.node? m ≠ some .directory → P m) :
    d'.walk l names = d.walk l names := by
  induction names generalizing l with
  | nil => rfl
  | cons name rest ih =>
    cases rest with
    | nil => simp only [Disk.walk]
    | cons next others =>
      rw [List.dropLast_cons_cons, entered, enter] at known
      by_cases dot : name = "."
      · simp only [dot, true_or, if_true] at known
        simp only [Disk.walk, dot, if_true]
        exact ih known
      by_cases up : name = ".."
      · rw [if_neg dot, if_pos up, if_pos (.inr up)] at known
        simp only [Disk.walk, if_neg dot, if_pos up]
        exact ih known
      simp only [dot, up, or_self, if_false, List.forall_mem_cons] at known
      rw [walk_enters dot up, walk_enters dot up]
      split
      · rfl
      by_cases directory : d.node? (l ++ [name]) = some .directory
      · rw [(h.directory _).mpr directory, directory]
        exact ih known.2
      · rw [h.node _ (known.1 directory)]
        cases found : d.node? (l ++ [name]) with
        | none => rfl
        | some n =>
          cases n with
          | file content => rfl
          | directory => exact absurd found directory

/-- A way that is there enters directories. -/
theorem walk_entered {l' : Location} (way : d.walk l names = .ok l') :
    ∀ m ∈ entered l names.dropLast, d.node? m = some .directory := by
  induction names generalizing l with
  | nil => simp [entered]
  | cons name rest ih =>
    cases rest with
    | nil => simp [entered]
    | cons next others =>
      rw [List.dropLast_cons_cons, entered, enter]
      by_cases dot : name = "."
      · rw [Disk.walk, if_pos dot] at way
        simp only [dot, true_or, if_true]
        exact ih way
      by_cases up : name = ".."
      · rw [Disk.walk, if_neg dot, if_pos up] at way
        simp only [up, or_true, if_true]
        exact ih way
      simp only [dot, up, or_self, if_false, List.forall_mem_cons]
      rw [walk_enters dot up] at way
      split at way
      · cases way
      split at way
      · rename_i directory
        exact ⟨directory, ih way⟩
      · cases way
      · cases way

section Directories

theorem isDirectory_congr (same : d'.nodes = d.nodes) : d'.isDirectory path = d.isDirectory path := by
  rw [isDirectory, isDirectory, nodeAt_congr same]

theorem nodeAt_of_isDirectory (h : d.isDirectory path = true) :
    d.nodeAt path = .ok (Path.place path, some .directory) := by
  unfold isDirectory at h
  split at h
  · rename_i l found
    rw [found, (nodeAt_ok found).1]
  · cases h

theorem isDirectory_of_list {entries : List (String × Bool)} (h : (d.list path).1 = .ok entries) :
    d.isDirectory path = true := by
  rw [← show d.counted.isDirectory path = d.isDirectory path from isDirectory_congr rfl]
  rcases attempt_cases d (.list path) _ with ⟨fault, e⟩ | ⟨result, d', done, e⟩
  · rw [list, e] at h
    cases h
  · unfold isDirectory
    cases found : d.counted.nodeAt path with
    | error e => simp [found, bind, Except.bind] at done
    | ok pair =>
      obtain ⟨l, node⟩ := pair
      rw [found] at done
      match node, done with
      | some .directory, _ => rfl
      | some (.file _), done => cases done
      | none, done => cases done

end Directories

/-- Where the names of a path start. -/
def root (path : String) : Location := if Path.isAbsolute path then ["/"] else []

/-- The places on the way of a path that have to be directories. -/
def gates (path : String) : List Location := entered (root path) (Path.names path).dropLast

theorem resolve_gates (way : d.resolve path = .ok l) :
    ∀ m ∈ gates path, d.node? m = some .directory := by
  unfold resolve at way
  split at way
  · cases way
  · split at way
    · cases way
    · split at way
      · cases way
      · exact walk_entered way

/-- What a path enters that leads to a directory are directories. -/
theorem isDirectory_entered (h : d.isDirectory path = true) :
    ∀ m ∈ entered (root path) (Path.names path), d.node? m = some .directory := by
  obtain ⟨-, way, held, -⟩ := nodeAt_ok (nodeAt_of_isDirectory h)
  have gates := resolve_gates way
  have place : (Path.names path).foldl enter (root path) = Path.place path := rfl
  unfold Disk.gates at gates
  rcases List.eq_nil_or_concat (Path.names path) with none | ⟨front, last, names⟩
  · simp [none, entered]
  · rw [List.concat_eq_append] at names
    rw [names, List.dropLast_concat] at gates
    rw [names, List.foldl_append] at place
    rw [names, entered_append]
    intro m hm
    rcases List.mem_append.mp hm with before | here
    · exact gates m before
    · rw [entered] at here
      split at here
      · simp [entered] at here
      · rw [entered, List.mem_singleton] at here
        rw [List.foldl_cons, List.foldl_nil] at place
        rw [here, place]
        exact held

/-- An entry of a directory is reached through what the directory is. -/
theorem gates_entry {directory name : String} (text : Path.IsDirectoryText directory)
    (named : Path.IsFileName name) :
    gates (directory ++ name) = entered (root directory) (Path.names directory) := by
  rw [gates, root, root, Path.names_entry text named, Path.isAbsolute_entry text named,
    List.dropLast_concat]

/-- A path leads alike where what is on its way besides directories is the same. -/
theorem AgreesOn.sameWay (h : AgreesOn P d d')
    (gates : ∀ m ∈ gates path, d.node? m ≠ some .directory → P m) (known : P (Path.place path)) :
    SameWay P d d' path := by
  refine ⟨?_, fun l way => resolve_place way ▸ known⟩
  have same : d'.walk (root path) (Path.names path) = d.walk (root path) (Path.names path) :=
    h.walk gates
  rw [root] at same
  rw [resolve, resolve, same]

section Below

/-- Names behind a name either stay below it, or lead to a place that it has no say in. -/
theorem enter_below (start : Location) (names : List String) {stem : Location} (down : ".." ∉ stem) :
    (∃ rest, ∀ x, x ∉ [".", "..", "/"] → names.foldl enter (start ++ x :: stem) = start ++ x :: rest ∧
        ∀ m ∈ entered (start ++ x :: stem) names, ∃ below, m = start ++ x :: below) ∨
      ∃ l, ∀ x, x ∉ [".", "..", "/"] → names.foldl enter (start ++ x :: stem) = l := by
  induction names generalizing stem with
  | nil => exact .inl ⟨stem, fun x _ => ⟨rfl, by simp [entered]⟩⟩
  | cons name names ih =>
    simp only [List.foldl_cons, entered, enter]
    by_cases dot : name = "."
    · simp only [dot, true_or, if_true]
      exact ih down
    by_cases up : name = ".."
    · simp only [up, or_true, if_true]
      have parent : ∀ (l : Location) (last : String), last ≠ ".." → l ++ [last] ≠ ["/"] →
          parentOf (l ++ [last]) = l := by
        intro l last step other
        rw [parentOf, if_neg other, List.getLast?_concat]
        split
        · rename_i none
          cases none
        · rename_i same
          exact absurd (Option.some.inj same) step
        · exact List.dropLast_concat
      rcases List.eq_nil_or_concat stem with rfl | ⟨front, last, rfl⟩
      · refine .inr ⟨names.foldl enter start, fun x hx => ?_⟩
        simp only [List.mem_cons, List.not_mem_nil, or_false, not_or] at hx
        rw [if_neg (by decide), parent start x hx.2.1]
        intro same
        cases start with
        | nil => exact hx.2.2 (List.cons.inj same).1
        | cons first others => simp at same
      · simp only [List.concat_eq_append, List.mem_append, List.mem_singleton, not_or] at down ⊢
        have back : ∀ x, parentOf (start ++ x :: (front ++ [last])) = start ++ x :: front := by
          intro x
          rw [← List.cons_append, ← List.append_assoc]
          refine parent _ last (Ne.symm down.2) fun same => ?_
          have length := congrArg List.length same
          simp only [List.length_append, List.length_cons, List.length_nil] at length
          omega
        simp only [back, show ¬ ".." = "." by decide, if_false]
        exact ih down.1
    · simp only [dot, up, or_self, if_false, List.append_assoc, List.cons_append, List.forall_mem_cons]
      rcases @ih (stem ++ [name]) (by simpa using ⟨down, Ne.symm up⟩) with ⟨rest, below⟩ | apart
      · exact .inl ⟨rest, fun x hx => ⟨(below x hx).1, ⟨_, rfl⟩, (below x hx).2⟩⟩
      · exact .inr apart

end Below

end Disk

end BulkTransfer
