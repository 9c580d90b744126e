import BulkTransfer.Proofs.Csv.Rendering
import BulkTransfer.Proofs.Page.RoundTrip
import BulkTransfer.Proofs.Plugin.Opening
import BulkTransfer.Proofs.Text.Utf8
import BulkTransfer.Proofs.World.Region
/-!
# Reading comma-separated records back

A reader of RFC 4180: fields between delimiters, records ended by a line end, and quoted fields, in which
a quote is written twice and anything else may stand. It goes through the bytes one by one and refuses
what has no place. Whatever the texts of a record are, the reader finds them in what was written.
-/
namespace BulkTransfer

namespace Utf8

/-- A small character is one byte, the same in number, and the bytes of other characters are large. -/
theorem utf8EncodeChar_small {c : Char} (small : c.toNat < 128) :
    String.utf8EncodeChar c = [UInt8.ofNat c.toNat] := by
  have value : c.val.toNat = c.toNat := rfl
  simp only [String.utf8EncodeChar, value]
  rw [if_pos (by omega)]

theorem utf8EncodeChar_large {c : Char} (large : 128 ≤ c.toNat) :
    ∀ b ∈ String.utf8EncodeChar c, 128 ≤ b.toNat := by
  have valid := code_point_range c
  have value : c.val.toNat = c.toNat := rfl
  simp only [String.utf8EncodeChar, value]
  split_ifs with h1 h2 h3
  · omega
  all_goals
    simp only [List.forall_mem_cons, List.not_mem_nil, false_imp_iff, implies_true, and_true,
      UInt8.toNat_ofNat']
    omega

theorem encode_empty : encode "" = [] := by
  rw [encode_eq]
  rfl

end Utf8

namespace Csv

section Reader

/-- What a byte is to a reader, outside of quotes. -/
inductive Mark where
  | quote
  | delimiter
  | lineEnd
  /-- A line end of another kind. -/
  | stray
  | data
  deriving DecidableEq, Repr

def quoteByte : UInt8 := 0x22

/-- The byte with which the line end of records begins. -/
def lineEndByte : Newline → UInt8
  | .lf => Newline.lineFeed
  | .crlf | .cr => Newline.carriageReturn

def Dialect.mark (d : Dialect) (b : UInt8) : Mark :=
  if b = quoteByte then .quote
  else if b.toNat = d.delimiter.toNat then .delimiter
  else if b = lineEndByte d.newline then .lineEnd
  else if b = Newline.lineFeed ∨ b = Newline.carriageReturn then .stray
  else .data

inductive Place where
  /-- Before the first byte of a record. -/
  | record
  /-- Behind a delimiter. -/
  | field
  | plain
  | quoted
  /-- Behind a quote in quotes: they end there, unless another quote follows. -/
  | quote
  /-- Within a line end of two bytes; the line may have been blank. -/
  | lineFeed (isBlank : Bool)
  deriving DecidableEq, Repr

structure Reader where
  place : Place
  field : Bytes
  fields : List Bytes
  records : List (List Bytes)
  deriving DecidableEq, Repr

namespace Reader

/-- Between records. -/
def between (records : List (List Bytes)) : Reader := ⟨.record, [], [], records⟩

def take (r : Reader) (place : Place) (b : UInt8) : Reader := { r with place, field := r.field ++ [b] }

def closeField (r : Reader) : Reader := ⟨.field, [], r.fields ++ [r.field], r.records⟩

def closeRecord (r : Reader) : Reader := between (r.records ++ [r.fields ++ [r.field]])

/-- Some readers pass over lines without anything, to others they are records of one empty field. -/
def closeLine (passesBlank isBlank : Bool) (r : Reader) : Reader :=
  if passesBlank && isBlank then between r.records else r.closeRecord

def endLine (d : Dialect) (passesBlank isBlank : Bool) (r : Reader) : Reader :=
  match d.newline with
  | .crlf => { r with place := .lineFeed isBlank }
  | .lf | .cr => r.closeLine passesBlank isBlank

def step (d : Dialect) (passesBlank : Bool) (r : Reader) (b : UInt8) : Option Reader :=
  match r.place, d.mark b with
  | .record, .lineEnd => some (r.endLine d passesBlank true)
  | .field, .lineEnd | .plain, .lineEnd | .quote, .lineEnd => some (r.endLine d passesBlank false)
  | .record, .quote | .field, .quote => some { r with place := .quoted }
  | .record, .data | .field, .data | .plain, .data => some (r.take .plain b)
  | .record, .delimiter | .field, .delimiter | .plain, .delimiter | .quote, .delimiter =>
    some r.closeField
  | .quoted, .quote => some { r with place := .quote }
  | .quoted, _ | .quote, .quote => some (r.take .quoted b)
  | .lineFeed isBlank, _ =>
    if b = Newline.lineFeed then some (r.closeLine passesBlank isBlank) else none
  | _, _ => none

/-- The last record needs no line end. -/
def finish (r : Reader) : Option (List (List Bytes)) :=
  match r.place with
  | .record => some r.records
  | .field | .plain | .quote => some (r.records ++ [r.fields ++ [r.field]])
  | .quoted | .lineFeed _ => none

def run (d : Dialect) (passesBlank : Bool) (r : Reader) (bytes : Bytes) : Option Reader :=
  bytes.foldlM (step d passesBlank) r

end Reader

/-- The records of a file as texts, or nothing if it is not one of this dialect. -/
def readRecords (d : Dialect) (passesBlank : Bool) (bytes : Bytes) : Option (List (List String)) := do
  let r ← Reader.run d passesBlank (.between []) bytes
  (← r.finish).mapM fun fields => fields.mapM fun field => (Utf8.decode field).toOption

example : readRecords ⟨',', .lf⟩ true (Utf8.encode "a,\"b\"\"\n\"\n\n,") = some [["a", "b\"\n"], ["", ""]] := by
  decide +kernel

end Reader

/-- A delimiter of one byte that is neither a quote nor part of a line end. -/
structure Dialect.IsReadable (d : Dialect) : Prop where
  small : d.delimiter.toNat < 128
  noQuote : d.delimiter ≠ '"'
  noReturn : d.delimiter ≠ '\r'
  noFeed : d.delimiter ≠ '\n'

section Marks

variable {d : Dialect} {c : Char} {b : UInt8}

theorem byte_ne {special : Char} (small : special.toNat < 128) (other : c ≠ special)
    (hb : b ∈ String.utf8EncodeChar c) : b.toNat ≠ special.toNat := by
  by_cases ascii : c.toNat < 128
  · rw [Utf8.utf8EncodeChar_small ascii, List.mem_singleton] at hb
    rw [hb, UInt8.toNat_ofNat', Nat.mod_eq_of_lt (by omega)]
    exact fun same => other (Char.toNat_inj.mp same)
  · have large := Utf8.utf8EncodeChar_large (Nat.not_lt.mp ascii) b hb
    omega

theorem mark_quote (d : Dialect) : d.mark quoteByte = .quote := if_pos rfl

theorem mark_ne_quote (other : c ≠ '"') (hb : b ∈ String.utf8EncodeChar c) : d.mark b ≠ .quote := by
  have differ : b ≠ quoteByte := fun same => byte_ne (by decide) other hb (congrArg UInt8.toNat same)
  rw [Dialect.mark, if_neg differ]
  split_ifs <;> nofun

theorem mark_delimiter (h : d.IsReadable) : d.mark (UInt8.ofNat d.delimiter.toNat) = .delimiter := by
  have small := h.small
  have value : (UInt8.ofNat d.delimiter.toNat).toNat = d.delimiter.toNat := by
    rw [UInt8.toNat_ofNat', Nat.mod_eq_of_lt (by omega)]
  have differ : UInt8.ofNat d.delimiter.toNat ≠ quoteByte := by
    intro same
    rw [same] at value
    exact h.noQuote (Char.toNat_inj.mp value.symm)
  rw [Dialect.mark, if_neg differ, if_pos value]

/-- The bytes of a character without a meaning have none. -/
theorem mark_data (h : d.IsReadable) (noDelimiter : c ≠ d.delimiter) (noQuote : c ≠ '"') (noReturn : c ≠ '\r')
    (noFeed : c ≠ '\n') (hb : b ∈ String.utf8EncodeChar c) : d.mark b = .data := by
  have quote : b ≠ quoteByte := fun same => byte_ne (by decide) noQuote hb (congrArg UInt8.toNat same)
  have delimiter := byte_ne h.small noDelimiter hb
  have return_ : b ≠ Newline.carriageReturn :=
    fun same => byte_ne (by decide) noReturn hb (congrArg UInt8.toNat same)
  have feed : b ≠ Newline.lineFeed := fun same => byte_ne (by decide) noFeed hb (congrArg UInt8.toNat same)
  have lineEnd : b ≠ lineEndByte d.newline := by
    cases d.newline with
    | lf => exact feed
    | crlf => exact return_
    | cr => exact return_
  rw [Dialect.mark, if_neg quote, if_neg delimiter, if_neg lineEnd, if_neg (by simp [feed, return_])]

theorem mark_lineEnd (h : d.IsReadable) : d.mark (lineEndByte d.newline) = .lineEnd := by
  have quote : lineEndByte d.newline ≠ quoteByte := by cases d.newline <;> decide
  have delimiter : (lineEndByte d.newline).toNat ≠ d.delimiter.toNat := by
    intro same
    cases kind : d.newline with
    | lf => exact h.noFeed (Char.toNat_inj.mp (by rw [← same, kind]; rfl))
    | crlf => exact h.noReturn (Char.toNat_inj.mp (by rw [← same, kind]; rfl))
    | cr => exact h.noReturn (Char.toNat_inj.mp (by rw [← same, kind]; rfl))
  rw [Dialect.mark, if_neg quote, if_neg delimiter, if_pos rfl]

end Marks

section Runs

namespace Reader

variable {d : Dialect} {passesBlank : Bool} {p : Place} {f : Bytes} {fs : List Bytes}
  {rs : List (List Bytes)} {bytes : Bytes}

theorem run_append (r : Reader) (first second : Bytes) :
    r.run d passesBlank (first ++ second) = (r.run d passesBlank first).bind (·.run d passesBlank second) :=
  List.foldlM_append

theorem run_cons (r : Reader) (b : UInt8) (bytes : Bytes) :
    r.run d passesBlank (b :: bytes) = (r.step d passesBlank b).bind (·.run d passesBlank bytes) :=
  List.foldlM_cons

theorem run_singleton (r : Reader) (b : UInt8) : r.run d passesBlank [b] = r.step d passesBlank b := by
  rw [run_cons]
  cases r.step d passesBlank b <;> rfl

/-- Data are taken into a field that is not quoted. -/
theorem run_data (open_ : p = .record ∨ p = .field ∨ p = .plain) (data : ∀ b ∈ bytes, d.mark b = .data) :
    Reader.run d passesBlank ⟨p, f, fs, rs⟩ bytes =
      some ⟨if bytes = [] then p else .plain, f ++ bytes, fs, rs⟩ := by
  induction bytes generalizing p f with
  | nil => simp [run]
  | cons b bytes ih =>
    have taken : Reader.step d passesBlank ⟨p, f, fs, rs⟩ b = some ⟨.plain, f ++ [b], fs, rs⟩ := by
      rw [step, data b List.mem_cons_self]
      rcases open_ with rfl | rfl | rfl <;> rfl
    rw [run_cons, taken, Option.bind_some,
      ih (.inr (.inr rfl)) fun b hb => data b (List.mem_cons_of_mem _ hb)]
    simp

/-- In quotes everything but a quote is taken as it is. -/
theorem run_quoted_data (other : ∀ b ∈ bytes, d.mark b ≠ .quote) :
    Reader.run d passesBlank ⟨.quoted, f, fs, rs⟩ bytes = some ⟨.quoted, f ++ bytes, fs, rs⟩ := by
  induction bytes generalizing f with
  | nil => simp [run]
  | cons b bytes ih =>
    have taken : Reader.step d passesBlank ⟨.quoted, f, fs, rs⟩ b = some ⟨.quoted, f ++ [b], fs, rs⟩ := by
      have kind := other b List.mem_cons_self
      rw [step]
      cases mark : d.mark b with
      | quote => exact absurd mark kind
      | _ => rfl
    rw [run_cons, taken, Option.bind_some, ih fun b hb => other b (List.mem_cons_of_mem _ hb)]
    simp

theorem step_open (open_ : p = .record ∨ p = .field) :
    Reader.step d passesBlank ⟨p, f, fs, rs⟩ quoteByte = some ⟨.quoted, f, fs, rs⟩ := by
  rw [step, mark_quote]
  rcases open_ with rfl | rfl <;> rfl

theorem step_quote :
    Reader.step d passesBlank ⟨.quoted, f, fs, rs⟩ quoteByte = some ⟨.quote, f, fs, rs⟩ := by
  rw [step, mark_quote]

theorem utf8_quote : String.utf8EncodeChar '"' = [quoteByte] := by decide

/-- A quote that is written twice is one quote of the field. -/
theorem run_doubled (cs : List Char) :
    Reader.run d passesBlank ⟨.quoted, f, fs, rs⟩ ((doubled cs).flatMap String.utf8EncodeChar) =
      some ⟨.quoted, f ++ cs.flatMap String.utf8EncodeChar, fs, rs⟩ := by
  induction cs generalizing f with
  | nil => simp [doubled, run]
  | cons c cs ih =>
    by_cases quote : c = '"'
    · subst quote
      have again : Reader.step d passesBlank ⟨.quote, f, fs, rs⟩ quoteByte =
          some ⟨.quoted, f ++ [quoteByte], fs, rs⟩ := by
        rw [step, mark_quote]
        rfl
      rw [doubled, if_pos rfl, List.flatMap_cons, List.flatMap_cons, utf8_quote, List.singleton_append,
        List.singleton_append, run_cons, step_quote, Option.bind_some, run_cons, again, Option.bind_some, ih,
        List.flatMap_cons, utf8_quote, List.append_assoc]
    · rw [doubled, if_neg quote, List.flatMap_cons, run_append,
        run_quoted_data fun b hb => mark_ne_quote quote hb, Option.bind_some, ih, List.flatMap_cons,
        List.append_assoc]

/-- Behind a field: the reader has read it, and the bytes that it took were its text, quoted or not. -/
theorem run_field (passesBlank : Bool) (fs : List Bytes) (rs : List (List Bytes)) (h : d.IsReadable)
    (open_ : p = .record ∨ p = .field) (field : String) :
    ∃ q, Reader.run d passesBlank ⟨p, [], fs, rs⟩ (Utf8.encode (writeField d field)) =
        some ⟨q, Utf8.encode field, fs, rs⟩ ∧
      (q = .field ∨ q = .plain ∨ q = .quote ∨ (q = .record ∧ p = .record ∧ writeField d field = "")) := by
  by_cases quoted : needsQuotes d field = true
  · refine ⟨.quote, ?_, .inr (.inr (.inl rfl))⟩
    have quote : Utf8.encode "\"" = [quoteByte] := by
      rw [Utf8.encode_eq]
      exact utf8_quote
    rw [writeField, if_pos quoted, Utf8.encode_append, Utf8.encode_append, quote, run_append, run_append,
      run_singleton, step_open open_, Option.bind_some, Utf8.encode_eq, Utf8.encode_eq, String.toList_ofList,
      run_doubled, Option.bind_some, run_singleton, step_quote, List.nil_append]
  · have plain : ∀ c ∈ field.toList, c ≠ d.delimiter ∧ c ≠ '"' ∧ c ≠ '\r' ∧ c ≠ '\n' := by
      intro c hc
      simp only [needsQuotes, List.any_eq_true, not_exists, not_and, Bool.or_eq_true, decide_eq_true_eq] at quoted
      have none := quoted c hc
      tauto
    have data : ∀ b ∈ Utf8.encode field, d.mark b = .data := by
      intro b hb
      rw [Utf8.encode_eq] at hb
      obtain ⟨c, hc, hb⟩ := List.mem_flatMap.mp hb
      obtain ⟨delimiter, quote, return_, feed⟩ := plain c hc
      exact mark_data h delimiter quote return_ feed hb
    rw [writeField, if_neg quoted, run_data (open_.imp_right .inl) data, List.nil_append]
    refine ⟨_, rfl, ?_⟩
    split
    · next empty =>
      have none : field = "" := by
        have decoded := Utf8.decode_encode field
        rw [empty] at decoded
        exact (Except.ok.inj decoded).symm
      rcases open_ with rfl | rfl
      · exact .inr (.inr (.inr ⟨rfl, rfl, none⟩))
      · exact .inl rfl
    · exact .inr (.inl rfl)

theorem run_delimiter (passesBlank : Bool) (f : Bytes) (fs : List Bytes) (rs : List (List Bytes))
    (h : d.IsReadable) (open_ : p = .field ∨ p = .plain ∨ p = .quote ∨ p = .record) :
    Reader.run d passesBlank ⟨p, f, fs, rs⟩ (Utf8.encode (String.singleton d.delimiter)) =
      some ⟨.field, [], fs ++ [f], rs⟩ := by
  have byte : Utf8.encode (String.singleton d.delimiter) = [UInt8.ofNat d.delimiter.toNat] := by
    rw [Utf8.encode_eq, String.toList_singleton, List.flatMap_singleton, Utf8.utf8EncodeChar_small h.small]
  rw [byte, run_singleton, step, mark_delimiter h]
  rcases open_ with rfl | rfl | rfl | rfl <;> rfl

/-- Behind the fields of a record: all but the last one are closed. -/
theorem run_fields (passesBlank : Bool) (fs : List Bytes) (rs : List (List Bytes)) (h : d.IsReadable)
    (open_ : p = .record ∨ p = .field) {fields : List String} (some_ : fields ≠ []) :
    ∃ q init last, fields = init ++ [last] ∧
      Reader.run d passesBlank ⟨p, [], fs, rs⟩
          (Utf8.encode ((String.singleton d.delimiter).intercalate (fields.map (writeField d)))) =
        some ⟨q, Utf8.encode last, fs ++ init.map Utf8.encode, rs⟩ ∧
      (q = .field ∨ q = .plain ∨ q = .quote ∨ (q = .record ∧ p = .record ∧
        (String.singleton d.delimiter).intercalate (fields.map (writeField d)) = "")) := by
  induction fields generalizing p fs with
  | nil => exact absurd rfl some_
  | cons first rest ih =>
    obtain ⟨q, read, kind⟩ := run_field passesBlank fs rs h open_ first
    cases rest with
    | nil =>
      rw [List.map_singleton, String.intercalate_singleton]
      exact ⟨q, [], first, rfl, by simpa using read, kind⟩
    | cons second rest =>
      have closes := run_delimiter passesBlank (Utf8.encode first) fs rs h (p := q) (by tauto)
      obtain ⟨q', init, last, parts, reads, kind'⟩ :=
        ih (fs ++ [Utf8.encode first]) (p := .field) (.inr rfl) (List.cons_ne_nil _ _)
      refine ⟨q', first :: init, last, by rw [parts]; rfl, ?_, ?_⟩
      · rw [List.map_cons, List.map_cons, String.intercalate_cons_cons, ← List.map_cons, Utf8.encode_append,
          Utf8.encode_append, run_append, run_append, read, Option.bind_some, closes, Option.bind_some, reads]
        simp
      · rcases kind' with field | plain | quote | ⟨-, other, -⟩
        · exact .inl field
        · exact .inr (.inl plain)
        · exact .inr (.inr (.inl quote))
        · cases other

/-- A line end behind a field closes the record. -/
theorem run_lineEnd (h : d.IsReadable) (open_ : p = .field ∨ p = .plain ∨ p = .quote) :
    Reader.run d passesBlank ⟨p, f, fs, rs⟩ (Utf8.encode d.newline.separator) =
      some (between (rs ++ [fs ++ [f]])) := by
  have closes : Reader.step d passesBlank ⟨p, f, fs, rs⟩ (lineEndByte d.newline) =
      some (endLine d passesBlank false ⟨p, f, fs, rs⟩) := by
    rw [step, mark_lineEnd h]
    rcases open_ with rfl | rfl | rfl <;> rfl
  have single : ∀ c : Char, Utf8.encode (String.singleton c) = String.utf8EncodeChar c := fun c => by
    rw [Utf8.encode_eq, String.toList_singleton, List.flatMap_singleton]
  cases kind : d.newline with
  | lf =>
    rw [kind] at closes
    rw [show Newline.lf.separator = String.singleton '\n' from rfl, single,
      show String.utf8EncodeChar '\n' = [lineEndByte .lf] by decide, run_singleton, closes, endLine, kind]
    simp [closeLine, closeRecord]
  | cr =>
    rw [kind] at closes
    rw [show Newline.cr.separator = String.singleton '\r' from rfl, single,
      show String.utf8EncodeChar '\r' = [lineEndByte .cr] by decide, run_singleton, closes, endLine, kind]
    simp [closeLine, closeRecord]
  | crlf =>
    rw [kind] at closes
    rw [show Newline.crlf.separator = String.singleton '\r' ++ String.singleton '\n' from rfl,
      Utf8.encode_append, single, single, show String.utf8EncodeChar '\r' = [lineEndByte .crlf] by decide,
      show String.utf8EncodeChar '\n' = [Newline.lineFeed] by decide, run_append, run_singleton, closes,
      Option.bind_some, run_singleton, endLine, kind]
    simp [step, closeLine, closeRecord]

/-- A record is read where one begins. A record that would be an empty line was written in quotes. -/
theorem run_record (h : d.IsReadable) {fields : List String} (some_ : fields ≠ []) :
    Reader.run d passesBlank (between rs) (Utf8.encode (writeRecord d fields)) =
      some (between (rs ++ [fields.map Utf8.encode])) := by
  obtain ⟨q, init, last, parts, read, kind⟩ :=
    run_fields passesBlank [] rs h (.inl rfl) some_
  rw [writeRecord]
  generalize (String.singleton d.delimiter).intercalate (fields.map (writeField d)) = line at read kind
  rw [Utf8.encode_append, run_append]
  by_cases empty : line = ""
  · subst empty
    rw [Utf8.encode_empty] at read
    obtain ⟨-, none, first, -⟩ := Reader.mk.inj (Option.some.inj read)
    have quotes : Utf8.encode "\"\"" = [quoteByte, quoteByte] := by decide +kernel
    rw [if_pos (by rfl), quotes, run_cons, between, step_open (.inl rfl), Option.bind_some, run_singleton,
      step_quote, Option.bind_some, run_lineEnd h (.inr (.inr rfl)), parts, List.map_append,
      List.map_singleton, ← none, first]
    rfl
  · have ends : q = .field ∨ q = .plain ∨ q = .quote := by tauto
    rw [if_neg (by simpa using empty), between, read, Option.bind_some, run_lineEnd h ends, parts]
    simp

theorem run_records (h : d.IsReadable) {records : List (List String)} (some_ : ∀ r ∈ records, r ≠ []) :
    Reader.run d passesBlank (between rs) (Utf8.encode (writeRecords d records)) =
      some (between (rs ++ records.map (List.map Utf8.encode))) := by
  induction records generalizing rs with
  | nil => simp [writeRecords, Utf8.encode_empty, run]
  | cons record records ih =>
    rw [show writeRecords d (record :: records) = writeRecord d record ++ writeRecords d records by
      simp [writeRecords], Utf8.encode_append, run_append, run_record h (some_ record List.mem_cons_self),
      Option.bind_some, ih fun r hr => some_ r (List.mem_cons_of_mem _ hr)]
    simp

end Reader

/-- What was written is read back, whatever the fields are, as long as no record is without any. -/
theorem readRecords_writeRecords {d : Dialect} {passesBlank : Bool} (h : d.IsReadable)
    {records : List (List String)} (some_ : ∀ r ∈ records, r ≠ []) :
    readRecords d passesBlank (Utf8.encode (writeRecords d records)) = some records := by
  have texts : ∀ fields : List String, (fields.map Utf8.encode).mapM
      (fun field => (Utf8.decode field).toOption) = some fields := by
    intro fields
    induction fields with
    | nil => rfl
    | cons field fields ih =>
      rw [List.map_cons, List.mapM_cons, ih, Utf8.decode_encode]
      rfl
  have all : (records.map (List.map Utf8.encode)).mapM (fun fields =>
      fields.mapM fun field => (Utf8.decode field).toOption) = some records := by
    clear some_
    induction records with
    | nil => rfl
    | cons record records ih =>
      rw [List.map_cons, List.mapM_cons, ih, texts]
      rfl
  rw [readRecords, Reader.run_records h some_]
  exact all

end Runs

end Csv

section Files

variable {σ : Type}

/-- A file sink with all the bytes that it was given, whether it took them or not. -/
def FileSink.recorded (files : FileSink σ) : FileSink (σ × Bytes) where
  nextFile := files.nextFile.zoom Prod.fst fun s t => (s, t.2)
  add data := (files.add data).zoom Prod.fst fun s t => (s, t.2 ++ data)
  finish := files.finish.zoom Prod.fst fun s t => (s, t.2)
  commit := files.commit.zoom Prod.fst fun s t => (s, t.2)
  abort := SureCall.zoom Prod.fst (fun s t => (s, t.2)) files.abort
  close := SureCall.zoom Prod.fst (fun s t => (s, t.2)) files.close

theorem FileSink.recorded_add (files : FileSink σ) (data : Bytes) (t : σ × Bytes) (w : World) :
    ((files.recorded.add data).attempt t).run w =
      let x := ((files.add data).attempt t.1).run w
      ((x.1.1, x.1.2, t.2 ++ data), x.2) :=
  Program.run_andThen _ _ _

theorem FileSink.recorded_nextFile (files : FileSink σ) (t : σ × Bytes) (w : World) :
    (files.recorded.nextFile.attempt t).run w =
      let x := (files.nextFile.attempt t.1).run w
      ((x.1.1, x.1.2, t.2), x.2) :=
  Program.run_andThen _ _ _

/-- Gives one page after the other to a sink, whatever it answers. -/
def PageSink.addAll (sink : PageSink σ) : List Page → σ → World → σ × World
  | [], s, w => (s, w)
  | page :: pages, s, w =>
    let x := ((sink.add page).attempt s).run w
    sink.addAll pages x.1.2 x.2

end Files

namespace Csv

section Pages

variable {σ : Type} {o : Options} {d : Dialect} {schema : Schema} {files : FileSink σ} {t : σ × Bytes} {w : World}

/-- The rendered fields of each record of a page. A page with a field that cannot be rendered is refused, and
gives no record. -/
def pageRecords (o : Options) (schema : Schema) (page : Page) : List (List String) :=
  match (page.records schema).mapM (rowTexts o schema) with
  | .ok rows => rows
  | .error _ => []

def headerRecords (o : Options) (schema : Schema) : List (List String) :=
  if o.hasHeader then [schema.columns.map Column.name] else []

theorem mapM_length {α β ε : Type} {f : α → Except ε β} {as : List α} {bs : List β}
    (h : as.mapM f = .ok bs) : bs.length = as.length := by
  induction as generalizing bs with
  | nil =>
    cases h
    rfl
  | cons a as ih =>
    rw [List.mapM_cons] at h
    obtain ⟨b, -, h⟩ := Attempt.of_bind h
    obtain ⟨rest, others, h⟩ := Attempt.of_bind h
    cases h
    rw [List.length_cons, List.length_cons, ih others]

theorem mapM_mem {α β ε : Type} {f : α → Except ε β} {as : List α} {bs : List β} {b : β}
    (h : as.mapM f = .ok bs) (hb : b ∈ bs) : ∃ a ∈ as, f a = .ok b := by
  induction as generalizing bs with
  | nil =>
    cases h
    cases hb
  | cons a as ih =>
    rw [List.mapM_cons] at h
    obtain ⟨first, made, h⟩ := Attempt.of_bind h
    obtain ⟨rest, others, h⟩ := Attempt.of_bind h
    cases h
    rcases List.mem_cons.mp hb with rfl | hb
    · exact ⟨a, List.mem_cons_self, made⟩
    · obtain ⟨a, ha, made⟩ := ih others hb
      exact ⟨a, List.mem_cons_of_mem _ ha, made⟩

/-- A record has a field for each column. -/
theorem pageRecords_length {page : Page} {row : List String} (h : row ∈ pageRecords o schema page) :
    row.length = schema.size := by
  unfold pageRecords at h
  split at h
  · next rows rendered =>
    obtain ⟨r, -, told⟩ := mapM_mem rendered h
    exact mapM_length told
  · cases h

theorem add_recorded (page : Page) :
    ((((pageSink o d schema files.recorded).add page).attempt t).run w).1.2.2 =
      t.2 ++ Utf8.encode (writeRecords d (pageRecords o schema page)) := by
  unfold pageRecords
  cases rendered : (page.records schema).mapM (rowTexts o schema) with
  | error e =>
    have text : pageText o d schema page = .error e := by rw [pageText, rendered]; rfl
    change (((Call.ofAttempt (pageText o d schema page) >>= _).attempt t).run w).1.2.2 = _
    rw [text, writeRecords, List.map_nil, String.join_nil, Utf8.encode_empty, List.append_nil]
    rfl
  | ok rows =>
    have text : pageText o d schema page = .ok (writeRecords d rows) := by rw [pageText, rendered]; rfl
    change (((Call.ofAttempt (pageText o d schema page) >>= _).attempt t).run w).1.2.2 = _
    rw [text]
    exact congrArg (fun x => x.1.2.2) (files.recorded_add (Utf8.encode (writeRecords d rows)) t w)

theorem addAll_recorded (pages : List Page) :
    ((pageSink o d schema files.recorded).addAll pages t w).1.2 =
      t.2 ++ Utf8.encode (writeRecords d (pages.flatMap (pageRecords o schema))) := by
  induction pages generalizing t w with
  | nil => simp [PageSink.addAll, writeRecords, Utf8.encode_empty]
  | cons page pages ih =>
    rw [PageSink.addAll, ih, add_recorded, List.flatMap_cons, writeRecords_append, Utf8.encode_append,
      List.append_assoc]

/-- A sink that was opened has written its header. -/
theorem start_recorded
    (opened : (((pageSink o d schema files.recorded).start.attempt t).run w).1.1 = .ok ()) :
    (((pageSink o d schema files.recorded).start.attempt t).run w).1.2.2 =
      t.2 ++ Utf8.encode (writeRecords d (headerRecords o schema)) := by
  have runs : ((pageSink o d schema files.recorded).start.attempt t).run w = _ :=
    Program.run_andThen (files.recorded.nextFile.attempt t) _ w
  rw [runs] at opened ⊢
  rw [files.recorded_nextFile] at opened ⊢
  cases next : ((files.nextFile.attempt t.1).run w).1.1 with
  | error e =>
    simp only [next] at opened
    cases opened
  | ok _ =>
    simp only [next]
    cases header : o.hasHeader with
    | false =>
      have none : headerRecords o schema = [] := by rw [headerRecords, header]; rfl
      rw [none, writeRecords, List.map_nil, String.join_nil, Utf8.encode_empty, List.append_nil]
      rfl
    | true =>
      have names : headerRecords o schema = [schema.columns.map Column.name] := by rw [headerRecords, header]; rfl
      have text : writeRecords d (headerRecords o schema) = headerText d schema := by
        simp [names, writeRecords, headerText]
      rw [text]
      exact congrArg (fun x => x.1.2.2) (files.recorded_add (Utf8.encode (headerText d schema)) _ _)

/-- Options accept a delimiter of one byte alone. -/
theorem dialect_small (chosen : o.dialect = .ok d) : d.delimiter.toNat < 128 := by
  unfold Options.dialect at chosen
  split at chosen
  · split at chosen
    · next small =>
      cases chosen
      exact small
    · cases chosen
  · cases chosen

/-- A sink for comma-separated records is opened and given pages. The bytes that it gives to its files, up to
any of the pages, read back as the names of the columns, if they are wanted, and behind them the rendered
fields of each record, one for each column. -/
theorem written_pages_read_back (files : FileSink σ) (pages : List Page) (passesBlank : Bool)
    (chosen : o.dialect = .ok d) (apart : d.delimiter ≠ '"' ∧ d.delimiter ≠ '\r' ∧ d.delimiter ≠ '\n')
    (columns : schema.columns ≠ []) (s : σ) (w : World) :
    let sink := pageSink o d schema files.recorded
    let opened := (sink.start.attempt (s, [])).run w
    let rows := pages.flatMap (pageRecords o schema)
    opened.1.1 = .ok () →
      readRecords d passesBlank (sink.addAll pages opened.1.2 opened.2).1.2 =
          some (headerRecords o schema ++ rows) ∧
        ∀ row ∈ rows, row.length = schema.size := by
  intro sink opened rows started
  have readable : d.IsReadable := ⟨dialect_small chosen, apart.1, apart.2.1, apart.2.2⟩
  have lengths : ∀ row ∈ rows, row.length = schema.size := by
    intro row mem
    obtain ⟨page, -, mem⟩ := List.mem_flatMap.mp mem
    exact pageRecords_length mem
  have some_ : ∀ row ∈ headerRecords o schema ++ rows, row ≠ [] := by
    intro row mem
    rcases List.mem_append.mp mem with header | mem
    · unfold headerRecords at header
      split at header
      · rw [List.mem_singleton.mp header]
        simpa using columns
      · cases header
    · refine List.ne_nil_of_length_pos ?_
      rw [lengths row mem]
      exact List.length_pos_iff.mpr columns
  refine ⟨?_, lengths⟩
  rw [addAll_recorded, start_recorded started, List.nil_append, ← Utf8.encode_append, ← writeRecords_append,
    readRecords_writeRecords readable some_]

/-- Files that take everything. -/
def takingAll : FileSink Unit :=
  ⟨return (), fun _ => return (), return (), return Document.empty, return (), return ()⟩

def oneText : Schema := ⟨[⟨0, "text", .string⟩], rfl⟩

/-- A null, and behind it a field with a delimiter, quotes and both bytes of a line end. -/
def oddPages : List Page :=
  ((PageSession.start oneText (.ofPageSize 64)).run
    [.add, .set 0 (.string "a;\"b\"\r\n"), .add, .flush]).2.pages

theorem odd_fields_read_back :
    let o : Options := ⟨";", true, "", .cr, []⟩
    let sink := pageSink o ⟨';', .cr⟩ oneText takingAll.recorded
    let opened := (sink.start.attempt ((), [])).run default
    readRecords ⟨';', .cr⟩ true (sink.addAll oddPages opened.1.2 opened.2).1.2 =
      some [["text"], [""], ["a;\"b\"\r\n"]] := by
  intro o sink opened
  have rows : oddPages.flatMap (pageRecords o oneText) = [[""], ["a;\"b\"\r\n"]] := by decide +kernel
  have chosen : o.dialect = .ok ⟨';', .cr⟩ := by simp [Options.dialect, o]
  have columns : oneText.columns ≠ [] := by decide
  have read := (written_pages_read_back takingAll oddPages true chosen (by decide) columns () default rfl).1
  rw [rows] at read
  exact read

end Pages

end Csv

end BulkTransfer
