import BulkTransfer.Proofs.Csv.Reading
/-!
# Rows that bytes tell apart

Two files of comma-separated records with the same number of columns have the same bytes only if they have the
same rows, even if the delimiter is one of the characters that end lines. It is otherwise only when there are
quotes between two or more columns: those cannot be told from quotes around a field.
-/
namespace BulkTransfer.Csv

/-- Nothing in the text makes it necessary to put it in quotes. -/
def Dialect.IsPlain (d : Dialect) (text : List Char) : Prop :=
  ∀ c ∈ text, c ≠ d.delimiter ∧ c ≠ '"' ∧ c ≠ '\r' ∧ c ≠ '\n'

/-- How a field may stand in a record: plain as it is, or in quotes. -/
inductive Dialect.Shows (d : Dialect) : (shown text : List Char) → Prop where
  | plain {text : List Char} (h : d.IsPlain text) : Shows d text text
  | quoted (text : List Char) : Shows d ('"' :: (doubled text ++ ['"'])) text

/-- A character that ends a field, whether it is plain or in quotes. -/
structure Dialect.Ends (d : Dialect) (c : Char) : Prop where
  special : c = d.delimiter ∨ c = '\r' ∨ c = '\n'
  noQuote : c ≠ '"'

section Fields

variable {d : Dialect} {c c' : Char} {text text' shown shown' rest rest' : List Char}

theorem Dialect.Ends.not_plain (h : d.Ends c) (plain : d.IsPlain text) : c ∉ text := by
  intro hm
  obtain ⟨delimiter, -, return_, feed⟩ := plain c hm
  rcases h.special with same | same | same
  · exact delimiter same
  · exact return_ same
  · exact feed same

/-- Where the quotes around a field end can be told from the quotes inside, as no quote follows. -/
theorem doubled_cancel (noQuote : c ≠ '"') (noQuote' : c' ≠ '"')
    (same : doubled text ++ '"' :: c :: rest = doubled text' ++ '"' :: c' :: rest') :
    text = text' ∧ c = c' ∧ rest = rest' := by
  induction text generalizing text' with
  | nil =>
    cases text' with
    | nil => simpa [doubled] using same
    | cons y text' =>
      by_cases quote : y = '"'
      · simp [doubled, quote, noQuote] at same
      · simp [doubled, quote, Ne.symm quote] at same
  | cons x text ih =>
    cases text' with
    | nil =>
      by_cases quote : x = '"'
      · simp [doubled, quote, Ne.symm noQuote'] at same
      · simp [doubled, quote] at same
    | cons y text' =>
      by_cases quote : x = '"'
      · by_cases quote' : y = '"'
        · simp only [doubled, quote, quote', if_true, List.cons_append, List.cons.injEq, true_and] at same
          obtain ⟨rfl, behind⟩ := ih same
          exact ⟨by rw [quote, quote'], behind⟩
        · simp [doubled, quote, quote', Ne.symm quote'] at same
      · by_cases quote' : y = '"'
        · simp [doubled, quote, quote'] at same
        · simp only [doubled, quote, quote', if_false, List.cons_append, List.cons.injEq] at same
          obtain ⟨rfl, same⟩ := same
          obtain ⟨rfl, behind⟩ := ih same
          exact ⟨rfl, behind⟩

theorem Dialect.IsPlain.cancel (plain : d.IsPlain text) (plain' : d.IsPlain text') (ends : d.Ends c)
    (ends' : d.Ends c') (same : text ++ c :: rest = text' ++ c' :: rest') :
    text = text' ∧ c = c' ∧ rest = rest' := by
  rcases List.append_eq_append_iff.mp same with ⟨more, longer, behind⟩ | ⟨more, longer, behind⟩
  · cases more with
    | nil =>
      obtain ⟨rfl, rfl⟩ := List.cons.inj behind
      exact ⟨by simpa using longer.symm, rfl, rfl⟩
    | cons first more =>
      obtain ⟨rfl, -⟩ := List.cons.inj behind
      exact absurd (longer ▸ by simp) (ends.not_plain plain')
  · cases more with
    | nil =>
      obtain ⟨rfl, rfl⟩ := List.cons.inj behind
      exact ⟨by simpa using longer, rfl, rfl⟩
    | cons first more =>
      obtain ⟨rfl, -⟩ := List.cons.inj behind
      exact absurd (longer ▸ by simp) (ends'.not_plain plain)

/-- A plain field does not begin like one in quotes. -/
theorem Dialect.IsPlain.ne_quoted (plain : d.IsPlain text) (ends : d.Ends c) :
    text ++ c :: rest ≠ '"' :: rest' := by
  intro same
  cases text with
  | nil => exact ends.noQuote (List.cons.inj same).1
  | cons first text => exact (plain first List.mem_cons_self).2.1 (List.cons.inj same).1

/-- A field and what follows it can be told from how they stand. -/
theorem Dialect.Shows.cancel (h : d.Shows shown text) (h' : d.Shows shown' text') (ends : d.Ends c)
    (ends' : d.Ends c') (same : shown ++ c :: rest = shown' ++ c' :: rest') :
    text = text' ∧ c = c' ∧ rest = rest' := by
  cases h with
  | plain plain =>
    cases h' with
    | plain plain' => exact plain.cancel plain' ends ends' same
    | quoted => exact absurd same (plain.ne_quoted ends)
  | quoted =>
    cases h' with
    | plain plain' => exact absurd same.symm (plain'.ne_quoted ends')
    | quoted =>
      simp only [List.cons_append, List.append_assoc, List.nil_append, List.cons.injEq, true_and] at same
      exact doubled_cancel ends.noQuote ends'.noQuote same

end Fields

section Records

variable {d : Dialect} {n : Nat}

theorem writeField_shows (d : Dialect) (field : String) : d.Shows (writeField d field).toList field.toList := by
  by_cases quoted : needsQuotes d field = true
  · have quotes : d.Shows _ field.toList := .quoted field.toList
    simpa [writeField, quoted] using quotes
  · rw [writeField, if_neg quoted]
    apply Dialect.Shows.plain
    intro c hc
    simp only [needsQuotes, List.any_eq_true, not_exists, not_and, Bool.or_eq_true, decide_eq_true_eq] at quoted
    have none := quoted c hc
    tauto

/-- A line end begins with a character that ends a field. -/
theorem separator_ends (d : Dialect) : ∃ first more, d.newline.separator.toList = first :: more ∧ d.Ends first := by
  cases d.newline with
  | lf => exact ⟨'\n', [], rfl, .inr (.inr rfl), by decide⟩
  | crlf => exact ⟨'\r', ['\n'], rfl, .inr (.inl rfl), by decide⟩
  | cr => exact ⟨'\r', [], rfl, .inr (.inl rfl), by decide⟩

/-- In a record stand its fields. If all of it would be empty, its one field is in quotes. -/
theorem writeRecord_shows (d : Dialect) {fields : List String} (some_ : fields ≠ []) :
    ∃ shown, List.Forall₂ d.Shows shown (fields.map String.toList) ∧ (writeRecord d fields).toList =
      [d.delimiter].intercalate shown ++ d.newline.separator.toList := by
  have line : ((String.singleton d.delimiter).intercalate (fields.map (writeField d))).toList =
      [d.delimiter].intercalate (fields.map fun field => (writeField d field).toList) := by
    rw [String.toList_intercalate, String.toList_singleton, List.map_map]
    rfl
  by_cases empty : (String.singleton d.delimiter).intercalate (fields.map (writeField d)) = ""
  · refine ⟨[['"', '"']], ?_, ?_⟩
    · rw [empty] at line
      cases fields with
      | nil => exact absurd rfl some_
      | cons first others =>
        cases others with
        | cons second others => simp [List.intercalate_cons_cons] at line
        | nil =>
          have shows := writeField_shows d first
          rw [List.map_singleton, List.intercalate_singleton] at line
          rw [← line] at shows
          cases none : first.toList with
          | cons c rest =>
            rw [String.toList_empty, none] at shows
            nomatch shows
          | nil =>
            rw [List.map_singleton, none]
            exact .cons (.quoted []) .nil
    · rw [writeRecord, empty, String.toList_append, List.intercalate_singleton]
      rfl
  · refine ⟨fields.map fun field => (writeField d field).toList, ?_, ?_⟩
    · rw [List.forall₂_map_left_iff, List.forall₂_map_right_iff, List.forall₂_same]
      exact fun field _ => writeField_shows d field
    · rw [writeRecord, if_neg (by simpa using empty), String.toList_append, line]

/-- The fields of a record and what follows it can be told from how they stand, if there are so many. -/
theorem fields_cancel {shown shown' texts texts' : List (List Char)} {first : Char} {more rest rest' : List Char}
    (h : List.Forall₂ d.Shows shown texts) (h' : List.Forall₂ d.Shows shown' texts') (ends : d.Ends first)
    (delimited : d.delimiter ≠ '"' ∨ texts.length = 1) (some_ : texts ≠ []) (alike : texts.length = texts'.length)
    (same : [d.delimiter].intercalate shown ++ first :: (more ++ rest) =
      [d.delimiter].intercalate shown' ++ first :: (more ++ rest')) : texts = texts' ∧ rest = rest' := by
  induction h generalizing shown' texts' with
  | nil => exact absurd rfl some_
  | @cons field text shown texts here there ih =>
    cases h' with
    | nil => cases alike
    | @cons field' text' shown' texts' here' there' =>
      cases there with
      | nil =>
        cases there' with
        | cons _ _ => simp at alike
        | nil =>
          rw [List.intercalate_singleton, List.intercalate_singleton] at same
          obtain ⟨rfl, -, behind⟩ := here.cancel here' ends ends same
          exact ⟨rfl, List.append_cancel_left behind⟩
      | cons next others =>
        cases there' with
        | nil => simp at alike
        | cons next' others' =>
          have noQuote : d.delimiter ≠ '"' := by
            rcases delimited with noQuote | single
            · exact noQuote
            · simp at single
          have delimiter : d.Ends d.delimiter := ⟨.inl rfl, noQuote⟩
          simp only [List.intercalate_cons_cons, List.append_assoc, List.singleton_append] at same
          obtain ⟨rfl, -, behind⟩ := here.cancel here' delimiter delimiter same
          obtain ⟨others, rest⟩ := ih (.cons next' others') (.inl noQuote) (List.cons_ne_nil _ _)
            (by simpa using alike) behind
          exact ⟨by rw [others], rest⟩

theorem writeRecord_cancel (delimited : d.delimiter ≠ '"' ∨ n = 1) (some_ : n ≠ 0) {row row' : List String}
    (size : row.length = n) (size' : row'.length = n) {rest rest' : List Char}
    (same : (writeRecord d row).toList ++ rest = (writeRecord d row').toList ++ rest') :
    row = row' ∧ rest = rest' := by
  obtain ⟨first, more, separator, ends⟩ := separator_ends d
  have filled : row ≠ [] := fun none => some_ (by rw [← size, none]; rfl)
  have filled' : row' ≠ [] := fun none => some_ (by rw [← size', none]; rfl)
  obtain ⟨shown, shows, text⟩ := writeRecord_shows d filled
  obtain ⟨shown', shows', text'⟩ := writeRecord_shows d filled'
  rw [text, text', separator, List.append_assoc, List.append_assoc] at same
  obtain ⟨fields, behind⟩ := fields_cancel shows shows' ends (by simpa [size] using delimited) (by simpa using filled)
    (by simp [size, size']) same
  exact ⟨List.map_injective_iff.mpr (fun _ _ => String.toList_injective) fields, behind⟩

/-- Records with the same number of fields are told by what is written. -/
theorem writeRecords_injective (delimited : d.delimiter ≠ '"' ∨ n = 1) (some_ : n ≠ 0) {rows rows' : List (List String)}
    (size : ∀ row ∈ rows, row.length = n) (size' : ∀ row ∈ rows', row.length = n)
    (same : writeRecords d rows = writeRecords d rows') : rows = rows' := by
  have parts : ∀ row rows, (writeRecords d (row :: rows)).toList =
      (writeRecord d row).toList ++ (writeRecords d rows).toList := by
    intro row rows
    simp [writeRecords]
  have filled : ∀ row, (writeRecord d row).toList ≠ [] := by
    intro row
    obtain ⟨first, more, separator, -⟩ := separator_ends d
    rw [writeRecord, String.toList_append, separator]
    simp
  induction rows generalizing rows' with
  | nil =>
    cases rows' with
    | nil => rfl
    | cons row' rows' =>
      have chars := congrArg String.toList same
      rw [parts] at chars
      exact absurd (List.append_eq_nil_iff.mp chars.symm).1 (filled row')
  | cons row rows ih =>
    cases rows' with
    | nil =>
      have chars := congrArg String.toList same
      rw [parts] at chars
      exact absurd (List.append_eq_nil_iff.mp chars).1 (filled row)
    | cons row' rows' =>
      rw [List.forall_mem_cons] at size size'
      have chars := congrArg String.toList same
      rw [parts, parts] at chars
      obtain ⟨rfl, others⟩ := writeRecord_cancel delimited some_ size.1 size'.1 chars
      rw [ih size.2 size'.2 (String.toList_injective others)]

/-- Quotes between two fields are taken for quotes around the one or the other. -/
theorem writeRecord_quotes (quote : d.delimiter = '"') (others : List String) :
    writeRecord d ("\"" :: "" :: others) = writeRecord d ("" :: "\"" :: others) := by
  have quoted : writeField d "\"" = "\"\"\"\"" := by simp [writeField, needsQuotes, doubled]
  have plain : writeField d "" = "" := by simp [writeField, needsQuotes]
  have line : ∀ a b : String, (String.singleton '"').intercalate (a :: b :: others.map (writeField d)) =
      a ++ "\"" ++ b ++ (String.singleton '"').intercalate ("" :: others.map (writeField d)) := by
    intro a b
    cases others <;> simp [String.intercalate_cons_cons, String.append_assoc]
  have same : "\"\"\"\"" ++ "\"" ++ "" = "" ++ "\"" ++ "\"\"\"\"" := by decide
  rw [writeRecord, writeRecord, quote, List.map_cons, List.map_cons, List.map_cons, List.map_cons, quoted, plain, line,
    line, same]

end Records

section Files

variable {σ : Type} {o : Options} {d : Dialect} {schema : Schema}

/-- The bytes of a file with these rows, and the names of the columns before them if they are wanted. -/
def bytesOf (o : Options) (d : Dialect) (schema : Schema) (rows : List (List String)) : Bytes :=
  Utf8.encode (writeRecords d (headerRecords o schema ++ rows))

/-- Each row has a field for each column. -/
def FitsRows (schema : Schema) (rows : List (List String)) : Prop := ∀ row ∈ rows, row.length = schema.size

/-- What a sink for comma-separated records that is opened and given pages gives to its files, if it opens. -/
def bytesGiven (o : Options) (d : Dialect) (schema : Schema) (files : FileSink σ) (s : σ) (w : World)
    (pages : List Page) : Option Bytes :=
  let sink := pageSink o d schema files.recorded
  let opened := (sink.start.attempt (s, [])).run w
  opened.1.1.toOption.map fun _ => (sink.addAll pages opened.1.2 opened.2).1.2

/-- The bytes that are given are those of the rendered rows. -/
theorem bytesGiven_some {files : FileSink σ} {s : σ} {w : World} {pages : List Page} {bytes : Bytes}
    (h : bytesGiven o d schema files s w pages = some bytes) :
    bytes = bytesOf o d schema (pages.flatMap (pageRecords o schema)) := by
  unfold bytesGiven at h
  dsimp only at h
  cases started : (((pageSink o d schema files.recorded).start.attempt (s, [])).run w).1.1 with
  | error e =>
    rw [started] at h
    cases h
  | ok u =>
    rw [started] at h
    obtain rfl := Option.some.inj h
    rw [addAll_recorded, start_recorded started, List.nil_append, ← Utf8.encode_append, ← writeRecords_append, bytesOf]

theorem fitsRows_rendered (pages : List Page) : FitsRows schema (pages.flatMap (pageRecords o schema)) := by
  intro row mem
  obtain ⟨page, -, mem⟩ := List.mem_flatMap.mp mem
  exact pageRecords_length mem

theorem bytesOf_injective (delimited : d.delimiter ≠ '"' ∨ schema.size = 1) (columns : schema.columns ≠ [])
    {rows rows' : List (List String)} (fits : FitsRows schema rows) (fits' : FitsRows schema rows')
    (same : bytesOf o d schema rows = bytesOf o d schema rows') : rows = rows' := by
  have header : FitsRows schema (headerRecords o schema) := by
    intro row mem
    unfold headerRecords at mem
    split at mem
    · rw [List.mem_singleton.mp mem, List.length_map]
      rfl
    · cases mem
  have all : ∀ {rows}, FitsRows schema rows → ∀ row ∈ headerRecords o schema ++ rows, row.length = schema.size := by
    intro rows fits row mem
    rcases List.mem_append.mp mem with mem | mem
    · exact header row mem
    · exact fits row mem
  have some_ : schema.size ≠ 0 := fun none => columns (List.length_eq_zero_iff.mp none)
  have texts := Utf8.encode_injective same
  exact List.append_cancel_left (writeRecords_injective delimited some_ (all fits) (all fits') texts)

/-- With quotes between two or more columns there are rows with the same bytes. -/
theorem bytesOf_collide (quote : d.delimiter = '"') (columns : 2 ≤ schema.size) :
    ∃ rows rows', FitsRows schema rows ∧ FitsRows schema rows' ∧ rows ≠ rows' ∧
      bytesOf o d schema rows = bytesOf o d schema rows' := by
  let others := List.replicate (schema.size - 2) ""
  refine ⟨["\"" :: "" :: others], ["" :: "\"" :: others], ?_, ?_, by simp, ?_⟩
  · simp only [FitsRows, List.forall_mem_singleton, List.length_cons, others, List.length_replicate]
    omega
  · simp only [FitsRows, List.forall_mem_singleton, List.length_cons, others, List.length_replicate]
    omega
  · have record : writeRecords d ["\"" :: "" :: others] = writeRecords d ["" :: "\"" :: others] := by
      simp only [writeRecords, List.map_singleton, writeRecord_quotes quote]
    rw [bytesOf, bytesOf, writeRecords_append, writeRecords_append, record]

/-- Accepted options give a dialect. The bytes that a sink gives to its files are those of the rendered rows, one
field for each column, and they tell the rows exactly if the delimiter is no quote or there is just one column. -/
theorem accepted_options_tell_rows (accepted : o.validate schema = .ok ()) (columns : schema.columns ≠ []) :
    ∃ d, o.dialect = .ok d ∧
      (∀ {σ : Type} (files : FileSink σ) (s : σ) (w : World) (pages : List Page) (bytes : Bytes),
        bytesGiven o d schema files s w pages = some bytes →
          bytes = bytesOf o d schema (pages.flatMap (pageRecords o schema)) ∧
            FitsRows schema (pages.flatMap (pageRecords o schema))) ∧
        ((∀ rows rows', FitsRows schema rows → FitsRows schema rows' →
            bytesOf o d schema rows = bytesOf o d schema rows' → rows = rows') ↔
          d.delimiter ≠ '"' ∨ schema.size = 1) := by
  obtain ⟨d, chosen, -⟩ := Attempt.of_bind accepted
  refine ⟨d, chosen, ?_, ?_, ?_⟩
  · intro σ files s w pages bytes given
    exact ⟨bytesGiven_some given, fitsRows_rendered pages⟩
  · intro tells
    by_contra ambiguous
    rw [not_or, not_not] at ambiguous
    have some_ : schema.size ≠ 0 := fun none => columns (List.length_eq_zero_iff.mp none)
    obtain ⟨rows, rows', fits, fits', differ, same⟩ : ∃ rows rows', FitsRows schema rows ∧ FitsRows schema rows' ∧
        rows ≠ rows' ∧ bytesOf o d schema rows = bytesOf o d schema rows' := bytesOf_collide ambiguous.1 (by omega)
    exact differ (tells rows rows' fits fits' same)
  · intro delimited rows rows' fits fits' same
    exact bytesOf_injective delimited columns fits fits' same

def twoTexts : Schema := ⟨[⟨0, "a", .string⟩, ⟨1, "b", .string⟩], rfl⟩

/-- A page with one row of two texts. -/
def pageOf (a b : String) : List Page :=
  ((PageSession.start twoTexts (.ofPageSize 64)).run
    [.set 0 (.string a), .set 1 (.string b), .add, .flush]).2.pages

/-- Lines end fields as well, and are still told apart. -/
theorem fields_on_lines_are_told :
    let o : Options := ⟨"\n", true, "", .lf, []⟩
    let text := "a\nb\nx\n\"\n\"\n"
    o.validate twoTexts = .ok () ∧ twoTexts.columns ≠ [] ∧
      bytesGiven o ⟨'\n', .lf⟩ twoTexts takingAll () default (pageOf "x" "\n") = some (Utf8.encode text) ∧
        ∀ rows, FitsRows twoTexts rows → bytesOf o ⟨'\n', .lf⟩ twoTexts rows = Utf8.encode text →
          rows = [["x", "\n"]] := by
  intro o text
  have dialect : o.dialect = .ok ⟨'\n', .lf⟩ := by simp [Options.dialect, o]
  have accepted : o.validate twoTexts = .ok () := by
    rw [Options.validate, dialect]
    rfl
  have columns : twoTexts.columns ≠ [] := by decide
  have given : bytesGiven o ⟨'\n', .lf⟩ twoTexts takingAll () default (pageOf "x" "\n") = some (Utf8.encode text) := by
    decide +kernel
  refine ⟨accepted, columns, given, fun rows fits same => ?_⟩
  obtain ⟨d, chosen, written, told⟩ := accepted_options_tell_rows accepted columns
  obtain rfl := Except.ok.inj (dialect.symm.trans chosen)
  obtain ⟨bytes, fits'⟩ := written takingAll () default (pageOf "x" "\n") _ given
  have rendered : (pageOf "x" "\n").flatMap (pageRecords o twoTexts) = [["x", "\n"]] := by decide +kernel
  rw [rendered] at bytes fits'
  exact told.mpr (.inl (by decide)) rows _ fits fits' (same.trans bytes)

/-- Options with a quote as the delimiter are accepted, and different rows give the same bytes. -/
theorem quotes_between_fields_hide_rows :
    let o : Options := ⟨"\"", false, "", .crlf, []⟩
    let given := bytesGiven o ⟨'"', .crlf⟩ twoTexts takingAll () default
    let rows := fun pages => pages.flatMap (pageRecords o twoTexts)
    o.validate twoTexts = .ok () ∧ o.dialect = .ok ⟨'"', .crlf⟩ ∧ twoTexts.columns ≠ [] ∧
      rows (pageOf "\"" "") = [["\"", ""]] ∧ rows (pageOf "" "\"") = [["", "\""]] ∧
        given (pageOf "\"" "") = some (Utf8.encode "\"\"\"\"\"\r\n") ∧
          given (pageOf "" "\"") = some (Utf8.encode "\"\"\"\"\"\r\n") := by
  intro o given rows
  have dialect : o.dialect = .ok ⟨'"', .crlf⟩ := by simp [Options.dialect, o]
  have accepted : o.validate twoTexts = .ok () := by
    rw [Options.validate, dialect]
    rfl
  exact ⟨accepted, dialect, by decide, by decide +kernel, by decide +kernel, by decide +kernel, by decide +kernel⟩

end Files

end BulkTransfer.Csv
