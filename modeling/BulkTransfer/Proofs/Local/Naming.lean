import BulkTransfer.Local.Output
import BulkTransfer.Proofs.Disk.Ways
/-!
# The places of output files

The names of output files are numbered, so they can be told apart, but they may step back up to where
the numbers no longer count. Where all files are in places of their own, what is behind the number stays
below it, so no file stands in the way of another one, unless nothing of that task can be written at all.

A file is written beside its final path, in the same directory and under a name of its own. Whatever
the naming, no file of a task is written to where one of its files is moved.
-/
namespace BulkTransfer.LocalOutput

namespace Naming

/-- The files of so many tasks, and those beside them, are all in places of their own. -/
structure Apart (n : Naming) (count : Nat) : Prop where
  finals : ∀ i < count, ∀ j < count, Path.place (n.path i 0) = Path.place (n.path j 0) → i = j
  temps : ∀ i < count, ∀ j < count,
    Path.place (tempPath (n.path i 0)) = Path.place (tempPath (n.path j 0)) → i = j
  crossed : ∀ i < count, ∀ j < count, Path.place (n.path i 0) ≠ Path.place (tempPath (n.path j 0))

section Numbers

/-- The digits of a number, with zeros before them. -/
theorem padded_digits (width n : Nat) : ∃ zeros,
    (padded width n).toList = List.replicate zeros '0' ++ Nat.toDigits 10 n := by
  refine ⟨width - (toString n).length, ?_⟩
  simp [padded]

theorem padded_injective {width m n : Nat} (h : (padded width m).toList = (padded width n).toList) :
    m = n := by
  have value : ∀ k, Nat.ofDigitChars 10 (padded width k).toList 0 = k := by
    intro k
    obtain ⟨zeros, digits⟩ := padded_digits width k
    rw [digits, Nat.ofDigitChars_append, Nat.ofDigitChars_replicate_zero, Nat.mul_zero,
      Nat.ofDigitChars_ten_toDigits]
  rw [← value m, h, value n]

/-- A padded number has neither dots nor slashes, and is not empty. -/
theorem padded_plain (width n : Nat) : ∀ c ∈ (padded width n).toList, c ≠ '.' ∧ c ≠ '/' := by
  intro c hc
  obtain ⟨zeros, digits⟩ := padded_digits width n
  rw [digits] at hc
  have digit : c.isDigit := by
    rcases List.mem_append.mp hc with hc | hc
    · rw [List.eq_of_mem_replicate hc]
      rfl
    · exact Nat.isDigit_of_mem_toDigits (by decide) (by decide) hc
  constructor
  · rintro rfl
    cases digit
  · rintro rfl
    cases digit

theorem padded_filled (width n : Nat) : ∃ c, c ∈ (padded width n).toList := by
  obtain ⟨zeros, digits⟩ := padded_digits width n
  obtain ⟨c, hc⟩ := List.exists_mem_of_ne_nil _ (Nat.toDigits_ne_nil (n := n) (b := 10))
  rw [digits]
  exact ⟨c, List.mem_append_right _ hc⟩

/-- A padded number with the dot behind it. -/
def dotted (width n : Nat) : List Char := (padded width n).toList ++ ['.']

theorem dotted_plain (width n : Nat) : '/' ∉ dotted width n := by
  intro slash
  rcases List.mem_append.mp slash with slash | slash
  · exact (padded_plain width n _ slash).2 rfl
  · simp at slash

/-- The dot tells a number from what follows it, however many digits it has. -/
theorem dotted_injective {width i j : Nat} {rest rest' : List Char}
    (h : dotted width i ++ rest = dotted width j ++ rest') : i = j ∧ rest = rest' := by
  have number : ∀ k (rest : List Char),
      (dotted width k ++ rest).takeWhile (· ≠ '.') = (padded width k).toList := by
    intro k rest
    rw [dotted, List.append_assoc, List.takeWhile_append_of_pos]
    · simp
    · intro c hc
      simpa using (padded_plain width k c hc).1
  have numbers := congrArg (List.takeWhile (· ≠ '.')) h
  rw [number, number] at numbers
  obtain rfl := padded_injective numbers
  exact ⟨rfl, List.append_cancel_left h⟩

/-- What tells the files of a task apart. -/
def serial (i : Nat) : List Char := (padded 2 i).toList ++ ['.']

/-- What tells the files of all tasks apart. -/
def mark (task file : Nat) : List Char := dotted 3 task ++ serial file

theorem serial_plain (i : Nat) : '/' ∉ serial i := dotted_plain 2 i

theorem serial_injective {i j : Nat} {rest rest' : List Char} (h : serial i ++ rest = serial j ++ rest') :
    i = j ∧ rest = rest' := dotted_injective h

theorem mark_plain (task file : Nat) : '/' ∉ mark task file := by
  rw [mark, List.mem_append, not_or]
  exact ⟨dotted_plain 3 task, serial_plain file⟩

theorem mark_head (task file : Nat) (rest : List Char) :
    (mark task file ++ rest).head? ≠ some '/' := by
  intro slash
  obtain ⟨first, others, filled⟩ := List.exists_cons_of_ne_nil (l := mark task file) (by simp [mark, dotted])
  rw [filled, List.cons_append, List.head?_cons, Option.some.injEq] at slash
  exact mark_plain task file (by rw [filled, slash]; exact List.mem_cons_self)

theorem mark_injective {task task' file file' : Nat} {rest rest' : List Char}
    (h : mark task file ++ rest = mark task' file' ++ rest') :
    task = task' ∧ file = file' ∧ rest = rest' := by
  rw [mark, mark, List.append_assoc, List.append_assoc] at h
  obtain ⟨tasks, files⟩ := dotted_injective h
  exact ⟨tasks, serial_injective files⟩

/-- A name with the numbers of a file in it leads down to where nothing else does. -/
theorem marked_plain (stem head : List Char) (task file : Nat) :
    String.ofList (stem ++ (mark task file ++ head)) ∉ ["", ".", "..", "/"] := by
  obtain ⟨c, number⟩ := padded_filled 3 task
  have inside : c ∈ (String.ofList (stem ++ (mark task file ++ head))).toList := by
    simp [mark, dotted, number]
  have other := padded_plain 3 task c number
  intro hm
  simp only [List.mem_cons, List.not_mem_nil, or_false] at hm
  rcases hm with same | same | same | same
  all_goals
    rw [same] at inside
    simp [other] at inside

end Numbers

section Places

variable {n : Naming} {i j : Nat}

/-- What names a file of a task between the parts that are the same for all tasks. -/
def label (i : Nat) : List Char := (padded 3 i).toList ++ '.' :: (padded 2 0).toList ++ ['.']

theorem path_chars (n : Naming) (i : Nat) :
    (n.path i 0).toList = n.start.toList ++ (label i ++ n.ending.toList) := by
  simp [path, label]

theorem label_eq (i : Nat) : label i = mark i 0 := by
  simp [label, mark, dotted, serial]

theorem label_plain (i : Nat) : '/' ∉ label i := by
  rw [label_eq]
  exact mark_plain i 0

/-- The number of a task can be told from what follows it. -/
theorem label_injective {rest rest' : List Char} (h : label i ++ rest = label j ++ rest') :
    i = j ∧ rest = rest' := by
  rw [label_eq, label_eq] at h
  obtain ⟨tasks, -, rests⟩ := mark_injective h
  exact ⟨tasks, rests⟩

/-- A name with the number of a task in it. -/
def numbered (stem : List Char) (i : Nat) (head : List Char) : String :=
  String.ofList (stem ++ (label i ++ head))

theorem numbered_injective {stem head head' : List Char}
    (h : numbered stem i head = numbered stem j head') : i = j ∧ head = head' :=
  label_injective (List.append_cancel_left (String.ofList_injective h))

theorem numbered_plain (stem : List Char) (i : Nat) (head : List Char) :
    numbered stem i head ∉ ["", ".", "..", "/"] := by
  rw [numbered, label_eq]
  exact marked_plain stem head i 0

/-- Paths with the same names but for the number in one of them. -/
structure Counts (q : Nat → String) (start : Location) (front : List String) (stem head : List Char)
    (rest : List String) : Prop where
  root : ∀ k, Disk.root (q k) = start
  names : ∀ k, Path.names (q k) = front ++ numbered stem k head :: rest

/-- The names of the final paths and of those beside them are the same but for what ends them. -/
theorem counts (n : Naming) : ∃ start front stem head rest head' rest',
    Counts (n.path · 0) start front stem head rest ∧
      Counts (fun k => tempPath (n.path k 0)) start front stem head' rest' := by
  obtain ⟨before, stem, around⟩ := Path.segments_around n.start
  have follows : ∀ ending : String, ∃ head rest, ∀ (q : Nat → String),
      (∀ k, (q k).toList = n.start.toList ++ (label k ++ ending.toList)) →
        Counts q (Disk.root n.start) (before.filter (· ≠ "")) stem head rest := by
    intro ending
    obtain ⟨head, tail, -, within⟩ := around ending
    refine ⟨head, tail.filter (· ≠ ""), fun q chars => ⟨fun k => ?_, fun k => ?_⟩⟩
    · have plain : (label k ++ ending.toList).head? ≠ some '/' := label_eq k ▸ mark_head k 0 _
      rw [Disk.root, Disk.root, Path.isAbsolute_append (chars k) rfl plain]
    · have some := numbered_plain stem k head
      simp only [List.mem_cons, not_or] at some
      rw [Path.names, within _ _ (label_plain k) (chars k), List.filter_append]
      exact congrArg _ (List.filter_cons_of_pos (decide_eq_true some.1))
  obtain ⟨head, rest, final⟩ := follows n.ending
  obtain ⟨head', rest', temp⟩ := follows (n.ending ++ ".tmp")
  refine ⟨_, _, _, head, rest, head', rest', final _ (path_chars n), temp _ fun k => ?_⟩
  rw [tempPath, String.toList_append, path_chars, String.toList_append, List.append_assoc,
    List.append_assoc]

namespace Counts

variable {q : Nat → String} {start : Location} {front rest : List String} {stem head : List Char}

theorem place_eq (h : Counts q start front stem head rest) (k : Nat) : Path.place (q k) =
    rest.foldl Disk.enter (front.foldl Disk.enter start ++ [numbered stem k head]) := by
  have plain := numbered_plain stem k head
  simp only [List.mem_cons, not_or] at plain
  have root : Path.place (q k) = (Path.names (q k)).foldl Disk.enter (Disk.root (q k)) := rfl
  rw [root, h.root, h.names, List.foldl_append, List.foldl_cons, Disk.enter, if_neg plain.2.1,
    if_neg plain.2.2.1]

end Counts

theorem tmp_isName (m : List Char) : String.ofList (m ++ ".tmp".toList) ≠ "" ∧
    String.ofList (m ++ ".tmp".toList) ≠ "." ∧ String.ofList (m ++ ".tmp".toList) ≠ ".." := by
  have four : ".tmp".toList.length = 4 := by decide
  have long : 4 ≤ (String.ofList (m ++ ".tmp".toList)).toList.length := by
    rw [String.toList_ofList, List.length_append]
    omega
  refine ⟨?_, ?_, ?_⟩
  all_goals
    intro same
    rw [same] at long
    exact absurd long (by decide)

theorem tmp_continues (m : List Char) : m ≠ m ++ ".tmp".toList := by
  intro same
  have lengths := congrArg List.length same
  simp at lengths

end Places

section Ways

variable {n : Naming} {count i j : Nat} {m : Location} {path : String}

namespace Counts

variable {q : Nat → String} {start : Location} {front rest : List String} {stem head : List Char}

theorem gates_eq (h : Counts q start front stem head rest) (k : Nat) : Disk.gates (q k) =
    Disk.entered start front ++
      Disk.entered (front.foldl Disk.enter start) (numbered stem k head :: rest).dropLast := by
  rw [Disk.gates, h.root, h.names, List.dropLast_append_of_ne_nil (List.cons_ne_nil _ _),
    Disk.entered_append]

/-- Where two of the paths lead to different places, each stays below its number, as does its way. -/
theorem below (h : Counts q start front stem head rest) (apart : Path.place (q i) ≠ Path.place (q j)) :
    (∀ k, ∃ down, Path.place (q k) = front.foldl Disk.enter start ++ numbered stem k head :: down) ∧
      ∀ k, ∀ m ∈ Disk.gates (q k), m ∈ Disk.entered start front ∨
        ∃ down, m = front.foldl Disk.enter start ++ numbered stem k head :: down := by
  have plain : ∀ k, numbered stem k head ∉ [".", "..", "/"] :=
    fun k hm => numbered_plain stem k head (List.mem_cons_of_mem _ hm)
  rcases @Disk.enter_below (front.foldl Disk.enter start) rest [] (by simp) with
    ⟨down, stays⟩ | ⟨l, leaves⟩
  · refine ⟨fun k => ⟨down, (h.place_eq k).trans (stays _ (plain k)).1⟩, fun k m hm => ?_⟩
    rw [h.gates_eq] at hm
    rcases List.mem_append.mp hm with before | behind
    · exact .inl before
    · refine .inr ?_
      cases rest with
      | nil => simp [Disk.entered] at behind
      | cons next others =>
        have step := plain k
        simp only [List.mem_cons, not_or] at step
        rw [List.dropLast_cons_cons, Disk.entered, Disk.enter, if_neg step.1, if_neg step.2.1,
          if_neg (by simp [step]), List.mem_cons] at behind
        rcases behind with rfl | behind
        · exact ⟨[], rfl⟩
        · have parts := List.dropLast_concat_getLast (List.cons_ne_nil next others)
          have inside := (stays _ (plain k)).2 m
          rw [← parts, Disk.entered_append] at inside
          exact inside (List.mem_append_left _ behind)
  · refine absurd ?_ apart
    rw [h.place_eq, h.place_eq, leaves _ (plain i), leaves _ (plain j)]

end Counts

/-- What is on the way to a file of a task is not the place of a file of another task, unless it is on
the way to that file too. -/
theorem Apart.gates_apart (apart : n.Apart count) (hi : i < count) (hj : j < count) (other : i ≠ j)
    (own : path = n.path i 0 ∨ path = tempPath (n.path i 0)) (hm : m ∈ Disk.gates path) :
    m ∈ Disk.gates (tempPath (n.path j 0)) ∨
      m ≠ Path.place (n.path j 0) ∧ m ≠ Path.place (tempPath (n.path j 0)) := by
  obtain ⟨start, front, stem, head, _, head', _, final, temp⟩ := n.counts
  have finals := final.below fun same => other (apart.finals i hi j hj same)
  have temps := temp.below fun same => other (apart.temps i hi j hj same)
  have way : m ∈ Disk.entered start front ∨
      ∃ last down, m = front.foldl Disk.enter start ++ numbered stem i last :: down := by
    rcases own with rfl | rfl
    · exact (finals.2 i m hm).imp_right fun ⟨down, same⟩ => ⟨head, down, same⟩
    · exact (temps.2 i m hm).imp_right fun ⟨down, same⟩ => ⟨head', down, same⟩
  rcases way with shared | ⟨last, down, rfl⟩
  · refine .inl ?_
    rw [temp.gates_eq j]
    exact List.mem_append_left _ shared
  · have foreign : ∀ last' down', front.foldl Disk.enter start ++ numbered stem i last :: down ≠
        front.foldl Disk.enter start ++ numbered stem j last' :: down' :=
      fun last' down' same =>
        other (numbered_injective (List.cons.inj (List.append_cancel_left same)).1).1
    obtain ⟨below, there⟩ := finals.1 j
    obtain ⟨below', there'⟩ := temps.1 j
    rw [there, there']
    exact .inr ⟨foreign _ _, foreign _ _⟩

end Ways

end Naming

section Beside

/-- A path whose last name is one that files have leads to that name in a directory. -/
theorem place_of_segments {path name : String} {front : List String}
    (ends : Path.segments path = front ++ [name]) (plain : name ∉ ["", ".", ".."]) :
    Path.place path = (front.filter (· ≠ "")).foldl Disk.enter (Disk.root path) ++ [name] := by
  obtain ⟨some, dot, up⟩ := (by simpa using plain : name ≠ "" ∧ name ≠ "." ∧ name ≠ "..")
  have names : Path.names path = front.filter (· ≠ "") ++ [name] := by
    rw [Path.names, ends, List.filter_append]
    simp [some]
  rw [Path.place, names, List.foldl_append, List.foldl_cons, List.foldl_nil, Disk.enter, if_neg dot,
    if_neg up]
  rfl

/-- A path and the one beside it have the same names but for the end of the last one. -/
theorem segments_beside (path : String) : ∃ front last, Path.segments path = front ++ [last] ∧
    Path.segments (tempPath path) = front ++ [last ++ ".tmp"] ∧ last ++ ".tmp" ∉ ["", ".", ".."] ∧
      Disk.root (tempPath path) = Disk.root path := by
  obtain ⟨front, last, ends, continued⟩ :=
    Path.cutAtSlashes_last path.toList [] (b := ".tmp".toList) (by decide)
  refine ⟨front.map String.ofList, String.ofList last, ?_, ?_, ?_, ?_⟩
  · rw [Path.segments, ends, List.map_append, List.map_singleton]
  · rw [Path.segments, tempPath, String.toList_append, continued, List.map_append, List.map_singleton,
      String.ofList_append, String.ofList_toList]
  · have name := Naming.tmp_isName last
    rw [String.ofList_append, String.ofList_toList] at name
    simpa using name
  · rw [Disk.root, Disk.root, Path.isAbsolute, Path.isAbsolute, tempPath, String.toList_append]
    cases path.toList <;> rfl

theorem endsAsDirectory_beside (path : String) : Path.endsAsDirectory (tempPath path) = false := by
  obtain ⟨front, last, -, beside, named, -⟩ := segments_beside path
  rw [Path.endsAsDirectory, beside, List.getLast?_concat]
  exact decide_eq_false named

/-- A path and the one beside it lead to the same directory, and their names there differ in their ends. -/
theorem place_beside (path : String) : ∃ above name, (Path.segments path).getLast? = some name ∧
    Path.place (tempPath path) = above ++ [name ++ ".tmp"] ∧
      (Path.endsAsDirectory path = false → Path.place path = above ++ [name]) := by
  obtain ⟨front, last, segments, beside, named, root⟩ := segments_beside path
  refine ⟨(front.filter (· ≠ "")).foldl Disk.enter (Disk.root path), last,
    by rw [segments, List.getLast?_concat], ?_, fun plain => ?_⟩
  · rw [place_of_segments beside named, root]
  · rw [Path.endsAsDirectory, segments, List.getLast?_concat] at plain
    exact place_of_segments segments (of_decide_eq_false plain)

/-- No name leads to where the name beside it does. -/
theorem enter_ne_beside (above : Location) (name : String) :
    Disk.enter above name ≠ above ++ [name ++ ".tmp"] := by
  intro same
  have longer : ∀ last : String, above ≠ above ++ [last] := fun last same => by simp at same
  rw [Disk.enter] at same
  by_cases dot : name = "."
  · rw [if_pos dot] at same
    exact longer _ same
  by_cases up : name = ".."
  · rw [if_neg dot, if_pos up, up, Disk.parentOf] at same
    split at same
    · exact longer _ same
    split at same
    · exact absurd (List.head_eq_of_cons_eq (List.append_inj' same rfl).2) (by decide)
    · exact absurd (List.head_eq_of_cons_eq (List.append_inj' same rfl).2) (by decide)
    · have length := congrArg List.length same
      rw [List.length_dropLast, List.length_append, List.length_singleton] at length
      omega
  · rw [if_neg dot, if_neg up] at same
    have names := congrArg String.toList (List.head_eq_of_cons_eq (List.append_inj' same rfl).2)
    rw [String.toList_append] at names
    exact Naming.tmp_continues _ names

/-- A path and the one beside it never lead to one place. -/
theorem place_beside_ne (path : String) : Path.place (tempPath path) ≠ Path.place path := by
  obtain ⟨front, last, segments, beside, named, root⟩ := segments_beside path
  rw [place_of_segments beside named, root, Path.place, Path.names, segments, List.filter_append, List.foldl_append]
  by_cases empty : last = ""
  · rw [empty]
    intro same
    simp [Disk.root] at same
  · rw [List.filter_cons_of_pos (by simpa using empty)]
    exact (enter_ne_beside _ _).symm

/-- What is on the way of a path is on the way of the one beside it. -/
theorem gates_beside (path : String) : ∀ m ∈ Disk.gates path, m ∈ Disk.gates (tempPath path) := by
  obtain ⟨front, last, segments, beside, named, root⟩ := segments_beside path
  have names : Path.names (tempPath path) = front.filter (· ≠ "") ++ [last ++ ".tmp"] := by
    rw [Path.names, beside, List.filter_append, List.filter_cons_of_pos (by simp)]
    rfl
  intro m hm
  rw [Disk.gates, names, root, List.dropLast_concat]
  rw [Disk.gates, Path.names, segments, List.filter_append] at hm
  by_cases empty : last = ""
  · rw [empty, List.filter_cons_of_neg (by simp), List.filter_nil, List.append_nil] at hm
    rcases List.eq_nil_or_concat (front.filter (· ≠ "")) with none | ⟨before, name, filtered⟩
    · rw [none] at hm
      exact absurd hm (by simp [Disk.entered])
    · rw [filtered, List.concat_eq_append, List.dropLast_concat] at hm
      rw [filtered, List.concat_eq_append, Disk.entered_append]
      exact List.mem_append_left _ hm
  · rw [List.filter_cons_of_pos (by simpa using empty), List.filter_nil, List.dropLast_concat] at hm
    exact hm

/-- Files that are moved to one place are written to one place. -/
theorem beside_same {p q : String} (plain : Path.endsAsDirectory p = false)
    (plain' : Path.endsAsDirectory q = false) (same : Path.place p = Path.place q) :
    Path.place (tempPath p) = Path.place (tempPath q) := by
  obtain ⟨above, name, -, beside, place⟩ := place_beside p
  obtain ⟨above', name', -, beside', place'⟩ := place_beside q
  rw [place plain, place' plain'] at same
  obtain ⟨rfl, names⟩ := List.append_inj' same rfl
  rw [beside, beside', List.head_eq_of_cons_eq names]

namespace Naming

variable {n : Naming} {task i j : Nat}

theorem path_serial (n : Naming) (task i : Nat) : (n.path task i).toList =
    (n.start ++ padded 3 task ++ ".").toList ++ (serial i ++ n.ending.toList) := by
  simp [path, serial]

/-- The last names of the paths of a task are one and the same, or are numbered. -/
theorem last_names (n : Naming) (task : Nat) :
    (∃ name, ∀ i, (Path.segments (n.path task i)).getLast? = some (String.ofList name)) ∨
      ∃ stem head, ∀ i,
        (Path.segments (n.path task i)).getLast? = some (String.ofList (stem ++ (serial i ++ head))) := by
  obtain ⟨before, stem, around⟩ := Path.segments_around (n.start ++ padded 3 task ++ ".")
  obtain ⟨head, tail, -, within⟩ := around n.ending
  have segments : ∀ i, Path.segments (n.path task i) =
      before ++ String.ofList (stem ++ (serial i ++ head)) :: tail :=
    fun i => within _ _ (serial_plain i) (path_serial n task i)
  rcases List.eq_nil_or_concat tail with rfl | ⟨between, last, rfl⟩
  · refine .inr ⟨stem, head, fun i => ?_⟩
    rw [segments]
    exact List.getLast?_concat
  · refine .inl ⟨last.toList, fun i => ?_⟩
    rw [segments, List.concat_eq_append, ← List.cons_append, ← List.append_assoc,
      String.ofList_toList]
    exact List.getLast?_concat

/-- No last name is another one that goes on. -/
theorem last_names_apart {name name' : String} (h : (Path.segments (n.path task i)).getLast? = some name)
    (h' : (Path.segments (n.path task j)).getLast? = some name') : name ++ ".tmp" ≠ name' := by
  have continued : ∀ {a b : List Char}, String.ofList a ++ ".tmp" = String.ofList b →
      a ++ ".tmp".toList = b := fun {a b} same =>
    String.ofList_injective (by rw [String.ofList_append, String.ofList_toList, same])
  intro same
  rcases n.last_names task with ⟨shared, last⟩ | ⟨stem, head, last⟩
  · rw [last, Option.some.injEq] at h h'
    rw [← h, ← h'] at same
    exact tmp_continues _ (continued same).symm
  · rw [last, Option.some.injEq] at h h'
    rw [← h, ← h'] at same
    have chars := continued same
    rw [List.append_assoc, List.append_assoc] at chars
    exact tmp_continues _ (serial_injective (List.append_cancel_left chars)).2.symm

/-- No file of a task is written to where one of its files is moved. -/
theorem beside_apart (plain : Path.endsAsDirectory (n.path task j) = false) :
    Path.place (tempPath (n.path task i)) ≠ Path.place (n.path task j) := by
  obtain ⟨above, name, last, beside, -⟩ := place_beside (n.path task i)
  obtain ⟨above', name', last', -, place⟩ := place_beside (n.path task j)
  rw [beside, place plain]
  intro same
  exact last_names_apart last last' (List.head_eq_of_cons_eq (List.append_inj' same rfl).2)

end Naming

end Beside

end BulkTransfer.LocalOutput
