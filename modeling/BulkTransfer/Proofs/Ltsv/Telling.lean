import BulkTransfer.Proofs.Ltsv.Fields
import BulkTransfer.Proofs.Ltsv.Rows
import BulkTransfer.Proofs.Text.LineDecoder
/-!
# What labelled lines say

The records of labelled lines and the first error among them, said without the parser: what a field is,
which field a column has, what its text means. These are the records and the error that are found by going
through the lines.
-/
namespace BulkTransfer

namespace Ltsv

/-- The field of a column, by its place, or the last one with its label. -/
inductive Finds (o : Options) (fields : List Field) (c : Column) : Option Field → Prop where
  | placed (ordered : o.allowsAnyOrder = false) : Finds o fields c fields[c.index]?
  | labelled {before after : List Field} {f : Field} (anyOrder : o.allowsAnyOrder = true)
      (parts : fields = before ++ f :: after) (same : f.label = c.name)
      (last : ∀ g ∈ after, g.label ≠ c.name) : Finds o fields c (some f)
  | missing (anyOrder : o.allowsAnyOrder = true) (nowhere : ∀ g ∈ fields, g.label ≠ c.name) :
      Finds o fields c none

/-- The text that a column has to convert. -/
inductive Means (o : Options) (fields : List Field) (c : Column) : Option String → Prop where
  | missing (found : Finds o fields c none) : Means o fields c none
  | empty {f : Field} (found : Finds o fields c (some f)) (empty : f.value = "") : Means o fields c none
  | null {f : Field} (found : Finds o fields c (some f)) (null : o.nullText = some f.value) :
      Means o fields c none
  | value {f : Field} (found : Finds o fields c (some f)) (filled : f.value ≠ "")
      (other : o.nullText ≠ some f.value) : Means o fields c (some f.value)

inductive HasCell (o : Options) (fields : List Field) (c : Column) : Cell → Prop where
  | null (means : Means o fields c none) : HasCell o fields c .null
  | value {text : String} {cell : Cell} (means : Means o fields c (some text))
      (read : cellOf c.type (o.columns.formatOf c.index) text = .ok cell) : HasCell o fields c cell

inductive Verdict where
  | skipped
  | row (cells : List Cell)
  | bad (cause : PluginError)

/-- What a line says: nothing, a record, or the first thing that is wrong with it. -/
inductive LineTells (o : Options) (columns : List Column) : Bytes → Verdict → Prop where
  | empty : LineTells o columns [] .skipped
  | notText {line : Bytes} {cause : PluginError} (none : ∀ text, Utf8.encode text ≠ line)
      (refused : Lines.decodeLine line = .error cause) : LineTells o columns line (.bad cause)
  | noColon {text : String} {before after : List (List Char)} {part : List Char}
      (parts : partsOf text.toList = before ++ part :: after) (good : ∀ p ∈ before, ':' ∈ p)
      (bad : ':' ∉ part) :
      LineTells o columns (Utf8.encode text)
        (.bad (.invalidFormat (FieldFault.message ⟨String.ofList part⟩)))
  | badColumn {text raw reason : String} {fields : List Field} {before after : List Column} {c : Column}
      (split : List.Forall₂ IsField (partsOf text.toList) fields) (parts : columns = before ++ c :: after)
      (good : ∀ d ∈ before, ∃ cell, HasCell o fields d cell) (means : Means o fields c (some raw))
      (bad : cellOf c.type (o.columns.formatOf c.index) raw = .error reason) :
      LineTells o columns (Utf8.encode text) (.bad (.invalidRecord (conversionMessage c raw reason)))
  | row {text : String} {fields : List Field} {cells : List Cell} (filled : text ≠ "")
      (split : List.Forall₂ IsField (partsOf text.toList) fields)
      (read : List.Forall₂ (HasCell o fields) columns cells) :
      LineTells o columns (Utf8.encode text) (.row cells)

/-- The records of the lines of a file up to the first bad one, and its error. -/
inductive FileTells (o : Options) (columns : List Column) :
    List Bytes → List (List Cell) → Option PluginError → Prop where
  | nil : FileTells o columns [] [] none
  | skipped {line : Bytes} {lines : List Bytes} {rows : List (List Cell)} {e : Option PluginError}
      (told : LineTells o columns line .skipped) (rest : FileTells o columns lines rows e) :
      FileTells o columns (line :: lines) rows e
  | row {line : Bytes} {cells : List Cell} {lines : List Bytes} {rows : List (List Cell)}
      {e : Option PluginError} (told : LineTells o columns line (.row cells))
      (rest : FileTells o columns lines rows e) : FileTells o columns (line :: lines) (cells :: rows) e
  | bad {line : Bytes} {lines : List Bytes} {cause : PluginError}
      (told : LineTells o columns line (.bad cause)) : FileTells o columns (line :: lines) [] (some cause)

/-- The records of some files, file by file up to the first bad line of all, and its error. -/
inductive InputTells (o : Options) (columns : List Column) :
    List (List Bytes) → List (List (List Cell)) → Option PluginError → Prop where
  | nil : InputTells o columns [] [] none
  | whole {lines : List Bytes} {rows : List (List Cell)} {files : List (List Bytes)}
      {groups : List (List (List Cell))} {e : Option PluginError} (told : FileTells o columns lines rows none)
      (rest : InputTells o columns files groups e) : InputTells o columns (lines :: files) (rows :: groups) e
  | stopped {lines : List Bytes} {rows : List (List Cell)} {files : List (List Bytes)}
      {cause : PluginError} (told : FileTells o columns lines rows (some cause)) :
      InputTells o columns (lines :: files) [rows] (some cause)

/-- The lines of a file that comes in these pieces. -/
def HasLines (n : Newline) (pieces lines : List Bytes) : Prop :=
  ∃ whole rest, n.Divides pieces.flatten whole rest ∧
    lines = whole.map n.textOf ++ if rest = [] then [] else [rest]

variable {o : Options} {fields : List Field} {c : Column} {columns : List Column} {line : Bytes}

theorem fieldOf_finds (o : Options) (fields : List Field) (c : Column) :
    Finds o fields c (fieldOf o fields c) := by
  rw [fieldOf]
  cases anyOrder : o.allowsAnyOrder with
  | false => exact .placed anyOrder
  | true =>
    rw [if_pos rfl]
    cases found : fields.reverse.find? (·.label = c.name) with
    | none =>
      refine .missing anyOrder fun g mem same => ?_
      exact List.find?_eq_none.mp found g (List.mem_reverse.mpr mem) (decide_eq_true same)
    | some f =>
      obtain ⟨same, after, before, parts, last⟩ := List.find?_eq_some_iff_append.mp found
      have split : fields = before.reverse ++ f :: after.reverse := by
        rw [← List.reverse_reverse fields, parts]
        simp
      refine .labelled anyOrder split (of_decide_eq_true same) ?_
      · intro g mem same
        have other := last g (List.mem_reverse.mp mem)
        simp [same] at other

theorem textOf_means (o : Options) (fields : List Field) (c : Column) :
    Means o fields c (textOf o fields c) := by
  have finds := fieldOf_finds o fields c
  rw [textOf]
  cases found : fieldOf o fields c with
  | none =>
    rw [found] at finds
    exact .missing finds
  | some f =>
    rw [found] at finds
    by_cases empty : f.value = ""
    · have blank : f.value.isEmpty = true ∨ o.nullText = some f.value := .inl (String.isEmpty_iff.mpr empty)
      simp only [if_pos blank]
      exact .empty finds empty
    · by_cases null : o.nullText = some f.value
      · have blank : f.value.isEmpty = true ∨ o.nullText = some f.value := .inr null
        simp only [if_pos blank]
        exact .null finds null
      · have filled : ¬ (f.value.isEmpty = true ∨ o.nullText = some f.value) := by
          rintro (is_empty | same)
          · exact empty (String.isEmpty_iff.mp is_empty)
          · exact null same
        simp only [if_neg filled]
        exact .value finds empty null

theorem columnCell_cases (o : Options) (fields : List Field) (c : Column) :
    (∃ cell, columnCell o fields c = .ok cell ∧ HasCell o fields c cell) ∨
      ∃ raw reason, Means o fields c (some raw) ∧
        cellOf c.type (o.columns.formatOf c.index) raw = .error reason ∧
          columnCell o fields c = .error (.invalidRecord (conversionMessage c raw reason)) := by
  have means := textOf_means o fields c
  cases text : textOf o fields c with
  | none =>
    rw [text] at means
    exact .inl ⟨.null, by rw [columnCell, text], .null means⟩
  | some raw =>
    rw [text] at means
    cases read : cellOf c.type (o.columns.formatOf c.index) raw with
    | ok cell => exact .inl ⟨cell, by simp only [columnCell, text, read], .value means read⟩
    | error reason => exact .inr ⟨raw, reason, means, read, by simp only [columnCell, text, read]⟩

theorem Finds.eq {found : Option Field} (h : Finds o fields c found) : fieldOf o fields c = found := by
  cases h with
  | placed ordered => rw [fieldOf, ordered, if_neg Bool.false_ne_true]
  | @labelled before after f anyOrder parts same last =>
    rw [fieldOf, if_pos anyOrder, parts, List.reverse_append, List.reverse_cons, List.append_assoc]
    refine List.find?_eq_some_iff_append.mpr ⟨decide_eq_true same, after.reverse, before.reverse, rfl, ?_⟩
    intro g mem
    simpa using last g (List.mem_reverse.mp mem)
  | missing anyOrder nowhere =>
    rw [fieldOf, if_pos anyOrder]
    refine List.find?_eq_none.mpr fun g mem => ?_
    simpa using nowhere g (List.mem_reverse.mp mem)

theorem Means.eq {text : Option String} (h : Means o fields c text) : textOf o fields c = text := by
  cases h with
  | missing found => simp only [textOf, found.eq]
  | empty found empty => simp [textOf, found.eq, empty]
  | null found null => simp [textOf, found.eq, null]
  | value found filled other => simp [textOf, found.eq, filled, other]

theorem HasCell.eq {cell : Cell} (h : HasCell o fields c cell) : columnCell o fields c = .ok cell := by
  cases h with
  | null means => rw [columnCell, means.eq]
  | value means read => simp only [columnCell, means.eq, read]

theorem columnCell_bad {raw reason : String} (means : Means o fields c (some raw))
    (bad : cellOf c.type (o.columns.formatOf c.index) raw = .error reason) :
    columnCell o fields c = .error (.invalidRecord (conversionMessage c raw reason)) := by
  simp only [columnCell, means.eq, bad]

theorem rowOf_split {text : String} (split : List.Forall₂ IsField (partsOf text.toList) fields)
    (columns : List Column) : rowOf o columns text = columns.mapM (columnCell o fields) := by
  rw [rowOf, splitFields_split split]
  rfl

theorem rowOf_noColon {text : String} {before after : List (List Char)} {part : List Char}
    (parts : partsOf text.toList = before ++ part :: after) (good : ∀ p ∈ before, ':' ∈ p)
    (bad : ':' ∉ part) (columns : List Column) :
    rowOf o columns text = .error (.invalidFormat (FieldFault.message ⟨String.ofList part⟩)) := by
  rw [rowOf, splitFields_refused parts good bad]
  rfl

/-- A line that is not empty says its row, or what is wrong with it. -/
theorem rowOf_tells (o : Options) (columns : List Column) {text : String} (filled : text ≠ "") :
    match rowOf o columns text with
    | .ok cells => LineTells o columns (Utf8.encode text) (.row cells)
    | .error cause => LineTells o columns (Utf8.encode text) (.bad cause) := by
  -- All parts are divided before the first column is looked at.
  rcases parts_cases text with ⟨fields, split⟩ | ⟨before, part, after, parts, good, bad⟩
  · have row := rowOf_split (o := o) split columns
    have ok : ∀ c cell, columnCell o fields c = .ok cell → HasCell o fields c cell := by
      intro c cell same
      rcases columnCell_cases o fields c with ⟨other, again, has⟩ | ⟨_, _, _, _, failed⟩
      · obtain rfl := Except.ok.inj (same.symm.trans again)
        exact has
      · cases same.symm.trans failed
    rcases mapM_cases (columnCell o fields) columns with
      ⟨cells, all, are⟩ | ⟨before, c, after, e, parts, good, failed, all⟩
    · rw [row, all]
      exact .row filled split (are.imp ok)
    · rcases columnCell_cases o fields c with ⟨cell, same, -⟩ | ⟨raw, reason, means, bad, refused⟩
      · cases failed.symm.trans same
      obtain rfl := Except.error.inj (failed.symm.trans refused)
      rw [row, all]
      refine .badColumn split parts (fun d mem => ?_) means bad
      obtain ⟨cell, same⟩ := good d mem
      exact ⟨cell, ok d cell same⟩
  · rw [rowOf_noColon parts good bad]
    exact .noColon parts good bad

/-- The rows of some lines up to the first error. -/
def rowsUntil (o : Options) (columns : List Column) :
    List (Attempt String) → List (List Cell) × Option PluginError
  | [] => ([], none)
  | .error e :: _ => ([], some e)
  | .ok text :: rest =>
    if text.isEmpty then rowsUntil o columns rest
    else
      match rowOf o columns text with
      | .error e => ([], some e)
      | .ok row => (row :: (rowsUntil o columns rest).1, (rowsUntil o columns rest).2)

def groupsUntil (o : Options) (columns : List Column) :
    List (List (Attempt String)) → List (List (List Cell)) × Option PluginError
  | [] => ([], none)
  | file :: files =>
    match rowsUntil o columns file with
    | (rows, some e) => ([rows], some e)
    | (rows, none) => (rows :: (groupsUntil o columns files).1, (groupsUntil o columns files).2)

theorem rowsUntil_blank (o : Options) (columns : List Column) {text : String} (blank : text.isEmpty = true)
    (lines : List (Attempt String)) :
    rowsUntil o columns (.ok text :: lines) = rowsUntil o columns lines := by
  rw [rowsUntil, if_pos blank]

theorem rowsUntil_row {text : String} (filled : ¬ text.isEmpty = true) {cells : List Cell}
    (read : rowOf o columns text = .ok cells) (lines : List (Attempt String)) :
    rowsUntil o columns (.ok text :: lines) =
      (cells :: (rowsUntil o columns lines).1, (rowsUntil o columns lines).2) := by
  rw [rowsUntil, if_neg filled, read]

theorem rowsUntil_bad {text : String} (filled : ¬ text.isEmpty = true) {e : PluginError}
    (bad : rowOf o columns text = .error e) (lines : List (Attempt String)) :
    rowsUntil o columns (.ok text :: lines) = ([], some e) := by
  rw [rowsUntil, if_neg filled, bad]

theorem rowsUntil_tells (o : Options) (columns : List Column) (lines : List Bytes) :
    FileTells o columns lines (rowsUntil o columns (lines.map Lines.decodeLine)).1
      (rowsUntil o columns (lines.map Lines.decodeLine)).2 := by
  induction lines with
  | nil => exact .nil
  | cons line lines ih =>
    rw [List.map_cons]
    rcases Lines.decodeLine_cases line with ⟨text, rfl, read⟩ | ⟨none, message, refused⟩
    · rw [read]
      by_cases blank : text.isEmpty
      · rw [rowsUntil_blank o columns blank]
        obtain rfl := String.isEmpty_iff.mp blank
        exact .skipped .empty ih
      · have told := rowOf_tells o columns fun same : text = "" => blank (String.isEmpty_iff.mpr same)
        cases row : rowOf o columns text with
        | ok cells =>
          rw [row] at told
          rw [rowsUntil_row blank row]
          exact .row told ih
        | error e =>
          rw [row] at told
          rw [rowsUntil_bad blank row]
          exact .bad told
    · rw [refused]
      exact .bad (.notText none refused)

/-- What lines say is what is found in them, and nothing else. -/
theorem FileTells.eq {lines : List Bytes} {rows : List (List Cell)} {e : Option PluginError}
    (h : FileTells o columns lines rows e) :
    rowsUntil o columns (lines.map Lines.decodeLine) = (rows, e) := by
  induction h with
  | nil => rfl
  | skipped told rest ih =>
    cases told with
    | empty => exact ih
  | row told rest ih =>
    cases told with
    | row filled split read =>
      have row := (rowOf_split split columns).trans (mapM_ok (read.imp fun _ _ has => has.eq))
      rw [List.map_cons, Lines.decodeLine_encode, rowsUntil_row (mt String.isEmpty_iff.mp filled) row, ih]
  | bad told =>
    cases told with
    | notText none refused => rw [List.map_cons, refused, rowsUntil]
    | @noColon text _ _ _ parts good bad =>
      have filled : ¬ text.isEmpty = true := by
        intro blank
        rw [String.isEmpty_iff.mp blank, partsOf_empty] at parts
        cases List.append_eq_nil_iff.mp parts.symm |>.2
      rw [List.map_cons, Lines.decodeLine_encode, rowsUntil_bad filled (rowOf_noColon parts good bad columns)]
    | @badColumn text _ _ _ _ _ c split parts good means bad =>
      have filled : ¬ text.isEmpty = true := by
        intro blank
        rw [String.isEmpty_iff.mp blank, partsOf_empty] at split
        cases split
        simpa [textOf, fieldOf] using means.eq
      have before := fun d mem => (good d mem).imp fun _ has => has.eq
      have row := rowOf_split (o := o) split columns
      rw [parts, mapM_error before (columnCell_bad means bad)] at row
      rw [List.map_cons, Lines.decodeLine_encode, parts, rowsUntil_bad filled row]

theorem groupsUntil_whole {file : List (Attempt String)} {rows : List (List Cell)}
    (whole : rowsUntil o columns file = (rows, none)) (files : List (List (Attempt String))) :
    groupsUntil o columns (file :: files) =
      (rows :: (groupsUntil o columns files).1, (groupsUntil o columns files).2) := by
  rw [groupsUntil, whole]

theorem groupsUntil_stopped {file : List (Attempt String)} {rows : List (List Cell)} {e : PluginError}
    (stopped : rowsUntil o columns file = (rows, some e)) (files : List (List (Attempt String))) :
    groupsUntil o columns (file :: files) = ([rows], some e) := by
  rw [groupsUntil, stopped]

theorem groupsUntil_tells (o : Options) (columns : List Column) (files : List (List Bytes)) :
    InputTells o columns files (groupsUntil o columns (files.map (·.map Lines.decodeLine))).1
      (groupsUntil o columns (files.map (·.map Lines.decodeLine))).2 := by
  induction files with
  | nil => exact .nil
  | cons lines files ih =>
    have told := rowsUntil_tells o columns lines
    rw [List.map_cons]
    rcases first : rowsUntil o columns (lines.map Lines.decodeLine) with ⟨rows, e⟩
    rw [first] at told
    cases e with
    | none =>
      rw [groupsUntil_whole first]
      exact .whole told ih
    | some e =>
      rw [groupsUntil_stopped first]
      exact .stopped told

theorem InputTells.eq {files : List (List Bytes)} {groups : List (List (List Cell))}
    {e : Option PluginError} (h : InputTells o columns files groups e) :
    groupsUntil o columns (files.map (·.map Lines.decodeLine)) = (groups, e) := by
  induction h with
  | nil => rfl
  | whole told rest ih => rw [List.map_cons, groupsUntil_whole told.eq, ih]
  | stopped told => rw [List.map_cons, groupsUntil_stopped told.eq]

theorem HasLines.eq {n : Newline} {files contents : List (List Bytes)}
    (h : List.Forall₂ (HasLines n) files contents) :
    files.map (fun pieces => Lines.ofPolls n (pieces.map .ok)) = contents.map (·.map Lines.decodeLine) := by
  induction h with
  | nil => rfl
  | cons lines _ ih =>
    obtain ⟨whole, rest, divides, rfl⟩ := lines
    rw [List.map_cons, List.map_cons, ih, Lines.ofPolls_divided divides]
    rfl

theorem hasLines_exists (n : Newline) (files : List (List Bytes)) :
    ∃ contents, List.Forall₂ (HasLines n) files contents := by
  choose whole rest divides using fun pieces : List Bytes => n.divides_exists pieces.flatten
  refine ⟨files.map fun pieces => (whole pieces).map n.textOf ++
    if rest pieces = [] then [] else [rest pieces], ?_⟩
  rw [List.forall₂_map_right_iff, List.forall₂_same]
  exact fun pieces _ => ⟨whole pieces, rest pieces, divides pieces, rfl⟩

end Ltsv

end BulkTransfer
