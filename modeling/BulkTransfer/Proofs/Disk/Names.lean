import BulkTransfer.Proofs.Disk.Operations
/-!
# Names on the way to a place

A path that is continued keeps the names before its last slash. The entries of a directory have names
that lead to a place right below it.
-/
namespace BulkTransfer

namespace Path

variable {a b name : List Char}

theorem cutAtSlashes_nil (name : List Char) : cutAtSlashes [] name = [name.reverse] := rfl

theorem cutAtSlashes_cons_slash (rest name : List Char) :
    cutAtSlashes ('/' :: rest) name = name.reverse :: cutAtSlashes rest [] :=
  if_pos rfl

theorem cutAtSlashes_cons_other {c : Char} (other : c ≠ '/') (rest name : List Char) :
    cutAtSlashes (c :: rest) name = cutAtSlashes rest (c :: name) :=
  if_neg other

theorem cutAtSlashes_slash (a b name : List Char) :
    cutAtSlashes (a ++ '/' :: b) name = cutAtSlashes a name ++ cutAtSlashes b [] := by
  induction a generalizing name with
  | nil => exact cutAtSlashes_cons_slash b name
  | cons c a ih =>
    by_cases slash : c = '/'
    · rw [slash, List.cons_append, cutAtSlashes_cons_slash, cutAtSlashes_cons_slash, ih, List.cons_append]
    · rw [List.cons_append, cutAtSlashes_cons_other slash, cutAtSlashes_cons_other slash, ih]

theorem cutAtSlashes_plain_append (h : '/' ∉ a) (b name : List Char) :
    cutAtSlashes (a ++ b) name = cutAtSlashes b (a.reverse ++ name) := by
  induction a generalizing name with
  | nil => rfl
  | cons c a ih =>
    have other : c ≠ '/' := fun slash => h (slash ▸ List.mem_cons_self)
    rw [List.cons_append, cutAtSlashes_cons_other other, ih fun hm => h (List.mem_cons_of_mem _ hm),
      List.reverse_cons, List.append_assoc]
    rfl

theorem cutAtSlashes_plain (h : '/' ∉ a) : cutAtSlashes a name = [name.reverse ++ a] := by
  have cut := cutAtSlashes_plain_append h [] name
  rwa [List.append_nil, cutAtSlashes_nil, List.reverse_append, List.reverse_reverse] at cut

/-- However a text goes on, its names stay, and its last one is continued. -/
theorem cutAtSlashes_start (a name : List Char) :
    ∃ before stem, ∀ rest, cutAtSlashes (a ++ rest) name = before ++ cutAtSlashes rest stem := by
  induction a generalizing name with
  | nil => exact ⟨[], name, fun rest => rfl⟩
  | cons c a ih =>
    by_cases slash : c = '/'
    · obtain ⟨before, stem, h⟩ := ih []
      refine ⟨name.reverse :: before, stem, fun rest => ?_⟩
      rw [slash, List.cons_append, cutAtSlashes_cons_slash, h, List.cons_append]
    · obtain ⟨before, stem, h⟩ := ih (c :: name)
      refine ⟨before, stem, fun rest => ?_⟩
      rw [List.cons_append, cutAtSlashes_cons_other slash, h]

/-- What is behind a text without a slash of its own belongs to the last name. -/
theorem cutAtSlashes_last (a name : List Char) (plain : '/' ∉ b) :
    ∃ front last, cutAtSlashes a name = front ++ [last] ∧
      cutAtSlashes (a ++ b) name = front ++ [last ++ b] := by
  obtain ⟨before, stem, h⟩ := cutAtSlashes_start a name
  refine ⟨before, stem.reverse, ?_, ?_⟩
  · rw [← List.append_nil a, h, cutAtSlashes_nil]
  · rw [h, cutAtSlashes_plain plain]

/-- However a text begins, only the first name of its rest depends on that. -/
theorem cutAtSlashes_rest (a : List Char) :
    ∃ head tail, ∀ name, cutAtSlashes a name = (name.reverse ++ head) :: tail := by
  by_cases slash : '/' ∈ a
  · induction a with
    | nil => cases slash
    | cons c a ih =>
      by_cases here : c = '/'
      · refine ⟨[], cutAtSlashes a [], fun name => ?_⟩
        rw [here, cutAtSlashes_cons_slash, List.append_nil]
      · have later : '/' ∈ a := by
          rcases List.mem_cons.mp slash with first | later
          · exact absurd first.symm here
          · exact later
        obtain ⟨head, tail, h⟩ := ih later
        refine ⟨c :: head, tail, fun name => ?_⟩
        rw [cutAtSlashes_cons_other here, h]
        simp
  · exact ⟨a, [], fun name => cutAtSlashes_plain slash⟩

/-- What stands between the start of a path and its end, without a slash of its own, is in one name. The
names before that one depend on the start alone, and those behind it on the end alone. -/
theorem segments_around (start : String) : ∃ (before : List String) (stem : List Char),
    ∀ ending : String, ∃ (head : List Char) (tail : List String),
      segments ending = String.ofList head :: tail ∧
        ∀ (path : String) (mark : List Char), '/' ∉ mark →
          path.toList = start.toList ++ (mark ++ ending.toList) →
            segments path = before ++ String.ofList (stem ++ (mark ++ head)) :: tail := by
  obtain ⟨before, stem, starts⟩ := cutAtSlashes_start start.toList []
  refine ⟨before.map String.ofList, stem.reverse, fun ending => ?_⟩
  obtain ⟨head, tail, ends⟩ := cutAtSlashes_rest ending.toList
  refine ⟨head, tail.map String.ofList, by rw [segments, ends]; rfl, fun path mark plain chars => ?_⟩
  rw [segments, chars, starts, cutAtSlashes_plain_append plain, ends]
  simp

/-- A name that an entry of a directory can have. -/
def IsFileName (name : String) : Prop := name ∉ ["", ".", ".."] ∧ '/' ∉ name.toList

instance (name : String) : Decidable (IsFileName name) :=
  inferInstanceAs (Decidable (_ ∧ _))

/-- The empty text, or one that ends in a slash. -/
def IsDirectoryText (text : String) : Prop := text = "" ∨ ∃ a, text.toList = a ++ ['/']

theorem enter_name {name : String} (h : IsFileName name) (l : Location) :
    Disk.enter l name = l ++ [name] := by
  obtain ⟨some, dot, up⟩ := (by simpa using h.1 : name ≠ "" ∧ name ≠ "." ∧ name ≠ "..")
  rw [Disk.enter, if_neg dot, if_neg up]

theorem names_name {name : String} (h : IsFileName name) : names name = [name] := by
  obtain ⟨some, -⟩ := (by simpa using h.1 : name ≠ "" ∧ name ≠ "." ∧ name ≠ "..")
  rw [names, segments, cutAtSlashes_plain h.2]
  simp [some]

theorem names_entry {text name : String} (h : IsDirectoryText text) (hn : IsFileName name) :
    names (text ++ name) = names text ++ [name] := by
  rcases h with rfl | ⟨a, ends⟩
  · rw [String.empty_append]
    exact names_name hn
  · rw [← names_name hn, names, names, names, segments, segments, segments, String.toList_append,
      ends, List.append_assoc, List.singleton_append, cutAtSlashes_slash, cutAtSlashes_slash,
      List.map_append, List.map_append, List.filter_append, List.filter_append]
    simp [cutAtSlashes_nil]

theorem isAbsolute_entry {text name : String} (h : IsDirectoryText text) (hn : IsFileName name) :
    isAbsolute (text ++ name) = isAbsolute text := by
  rcases h with rfl | ⟨a, ends⟩
  · rw [String.empty_append]
    refine decide_eq_false fun slash => ?_
    exact hn.2 (List.mem_of_mem_head? slash)
  · rw [isAbsolute, isAbsolute, String.toList_append, ends]
    cases a <;> rfl

theorem place_entry {text name : String} (h : IsDirectoryText text) (hn : IsFileName name) :
    place (text ++ name) = place text ++ [name] := by
  rw [place, place, names_entry h hn, isAbsolute_entry h hn, List.foldl_append]
  exact enter_name hn _

theorem isAbsolute_append {a rest : List Char} {text start : String} (whole : text.toList = a ++ rest)
    (begins : start.toList = a) (plain : rest.head? ≠ some '/') :
    isAbsolute text = isAbsolute start := by
  rw [isAbsolute, isAbsolute, whole, begins]
  cases a with
  | nil =>
    rw [List.nil_append, List.head?_nil, decide_eq_false plain]
    rfl
  | cons c a => rfl

/-- Without steps to parents every name leads one further down. -/
theorem foldl_enter {names : List String} (h : ".." ∉ names) (l : Location) :
    names.foldl Disk.enter l = l ++ names.filter (· ≠ ".") := by
  induction names generalizing l with
  | nil => rw [List.foldl_nil, List.filter_nil, List.append_nil]
  | cons name names ih =>
    have up : name ≠ ".." := fun same => h (same ▸ List.mem_cons_self)
    rw [List.foldl_cons, ih fun hm => h (List.mem_cons_of_mem _ hm), Disk.enter]
    by_cases dot : name = "."
    · rw [if_pos dot, List.filter_cons_of_neg (by simpa using dot)]
    · rw [if_neg dot, if_neg up, List.filter_cons_of_pos (by simpa using dot), List.append_assoc]
      rfl

end Path

namespace Disk

variable {d : Disk} {l : Location} {name : String}

/-- The nodes have places of their own, each with a name for an entry of the directory above. -/
structure IsProper (d : Disk) : Prop where
  distinct : (d.nodes.map Prod.fst).Nodup
  named : ∀ entry ∈ d.nodes, ∀ name ∈ entry.1.getLast?, Path.IsFileName name

instance : Decidable d.IsProper :=
  decidable_of_iff ((d.nodes.map Prod.fst).Nodup ∧
    ∀ entry ∈ d.nodes, ∀ name ∈ entry.1.getLast?, Path.IsFileName name)
    ⟨fun h => ⟨h.1, h.2⟩, fun h => ⟨h.distinct, h.named⟩⟩

theorem lookup_of_mem {nodes : List (Location × DiskNode)} (distinct : (nodes.map Prod.fst).Nodup)
    {n : DiskNode} (h : (l, n) ∈ nodes) : nodes.lookup l = some n := by
  induction nodes with
  | nil => cases h
  | cons entry rest ih =>
    rw [List.map_cons, List.nodup_cons] at distinct
    rw [lookup_cons_eq]
    rcases List.mem_cons.mp h with rfl | later
    · rw [if_pos rfl]
    · rw [if_neg ?_, ih distinct.2 later]
      rintro rfl
      exact distinct.1 (List.mem_map.mpr ⟨_, later, rfl⟩)

theorem IsProper.fileName (h : d.IsProper) {n : DiskNode} (hm : (l ++ [name], n) ∈ d.nodes) :
    Path.IsFileName name := h.named _ hm name (by simp)

theorem IsProper.node?_entry (h : d.IsProper) {n : DiskNode} (hm : (l ++ [name], n) ∈ d.nodes) :
    d.node? (l ++ [name]) = some n := by
  have named := h.fileName hm
  have plain : isBase (l ++ [name]) = false := by
    refine Bool.eq_false_iff.mpr fun base => ?_
    have own := List.all_eq_true.mp base name (by simp)
    rcases (by simpa using own : name = ".." ∨ name = "/") with rfl | rfl
    · exact named.1 (by simp)
    · exact named.2 (by simp)
  rw [node?, plain]
  exact lookup_of_mem h.distinct hm

theorem IsProper.entry (h : d.IsProper) (he : (name, false) ∈ d.entriesOf l) :
    Path.IsFileName name ∧ ∃ content, d.node? (l ++ [name]) = some (.file content) := by
  obtain ⟨⟨place, n⟩, hm, he⟩ := List.mem_filterMap.mp he
  cases last : place.getLast? with
  | none => simp [last] at he
  | some x =>
    simp only [last, Option.ite_none_right_eq_some, Option.some.injEq, Prod.mk.injEq,
      decide_eq_false_iff_not] at he
    obtain ⟨rfl, rfl, file⟩ := he
    have parts : place.dropLast ++ [x] = place := by
      obtain ⟨front, rfl⟩ := List.getLast?_eq_some_iff.mp last
      rw [List.dropLast_concat]
    rw [← parts] at hm
    refine ⟨h.fileName hm, ?_⟩
    cases n with
    | directory => exact absurd rfl file
    | file content => exact ⟨content, h.node?_entry hm⟩

end Disk

end BulkTransfer
