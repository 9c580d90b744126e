import BulkTransfer.Proofs.Config.Violations
/-!
# Nulls in documents

For the review a setting that is null is a setting that is not there. But the task is read from the
document with its nulls, and most fields of its record refuse them.
-/
namespace BulkTransfer

namespace Entries

variable {entries : Entries} (keeps : String × Tree → Bool) (distinct : entries.keys.Nodup)

include distinct

theorem nodup_filter : (Entries.keys (entries.filter keeps)).Nodup :=
  distinct.sublist (List.filter_sublist.map _)

theorem get?_filter (key : String) :
    Entries.get? (entries.filter keeps) key = (entries.get? key).filter fun value => keeps (key, value) := by
  refine Option.ext fun value => ?_
  rw [Option.filter_eq_some_iff, get?_eq_some (nodup_filter keeps distinct), get?_eq_some distinct, List.mem_filter]

end Entries

/-- What is found first is still found first among those that are kept, if it is kept. -/
theorem find?_filter_of_kept {α : Type} {a : α} {as : List α} {wanted : α → Bool} (keeps : α → Bool)
    (found : as.find? wanted = some a) (kept : keeps a = true) : (as.filter keeps).find? wanted = some a := by
  obtain ⟨want, before, after, rfl, earlier⟩ := List.find?_eq_some_iff_append.mp found
  rw [List.filter_append, List.filter_cons_of_pos kept]
  exact List.find?_eq_some_iff_append.mpr
    ⟨want, _, _, rfl, fun a mem => earlier a (List.mem_of_mem_filter mem)⟩

theorem FieldKind.coerce_long {value fitted : Tree} (fits : coerce .long value = some fitted) :
    ∃ n, fitted = .num (.int n) := by
  cases value with
  | num n =>
    cases n with
    | int n => exact ⟨n, (Option.some.inj fits).symm⟩
    | double => cases fits
  | str text =>
    unfold coerce at fits
    dsimp only at fits
    split at fits
    · exact ⟨_, (Option.some.inj fits).symm⟩
    · cases fits
  | null | bool | arr | obj => cases fits

/-- A type and a value are not blamed in the same words. -/
theorem DecodeError.message_wrongType_ne {tree : Tree} {found expected other : String} :
    (wrongType tree expected).message ≠ (wrongValue found other).message := by
  intro same
  have same : "invalid type: " ++ describe tree ++ ", expected " ++ expected =
      "invalid value: " ++ found ++ ", expected " ++ other := same
  have start := congrArg (fun text : String => text.toList.take 9) same
  simp only [String.toList_append, List.append_assoc] at start
  have type : 9 ≤ "invalid type: ".toList.length := by decide
  have value : 9 ≤ "invalid value: ".toList.length := by decide
  rw [List.take_append_of_le_length type, List.take_append_of_le_length value] at start
  exact absurd start (by decide)

theorem Decoder.count_refused {n : Int} {cause : DecodeError} (refused : count (.num (.int n)) = .error cause) :
    ∃ found, cause = .wrongValue found "usize" := by
  unfold count integer at refused
  dsimp only at refused
  split at refused
  · cases refused
  · exact ⟨_, (Except.error.inj refused).symm⟩

namespace TaskShape

variable {t : TaskShape} {source : Document} {slot : Slot} {key : String} {value : Tree} {cause : DecodeError}

/-- The settings for which null is a value of its own. -/
def nullable : List (String × String) := [("LtsvTask", "null_string")]

/-- An entry that might as well not be there: a setting that may be left out is null. -/
def leavesOut (t : TaskShape) (entry : String × Tree) : Bool :=
  entry.2 = .null && t.slots.any fun slot =>
    slot.setting.name = entry.1 && !slot.setting.isRequired && (t.record, entry.1) ∉ nullable

/-- A document without the settings that may be left out and are null. -/
def withoutNulls (t : TaskShape) (source : Document) : Document :=
  ⟨source.entries.filter fun entry => !t.leavesOut entry⟩

/-- The review has nothing to say, and the first entry that the record refuses is a null. -/
def StopsAtNull (t : TaskShape) (source : Document) : Prop :=
  (∀ slot ∈ t.slots, slot.setting.complaint? source = none) ∧
    ∃ key, source.entries.find? (fun entry => (t.refusal? entry).isSome) = some (key, .null)

theorem first_refused {entry : String × Tree}
    (first : source.entries.find? (fun entry => (t.refusal? entry).isSome) = some entry) :
    ∃ cause, t.refusal? entry = some cause ∧ source.entries.findSome? t.refusal? = some cause := by
  obtain ⟨refused, before, after, split, earlier⟩ := List.find?_eq_some_iff_append.mp first
  obtain ⟨cause, refused⟩ := Option.isSome_iff_exists.mp refused
  refine ⟨cause, refused, List.findSome?_eq_some_iff.mpr
    ⟨before, entry, after, split, refused, fun entry mem => ?_⟩⟩
  simpa using earlier entry mem

section WithoutNulls

variable (t : TaskShape) (distinct : source.keys.Nodup)

include distinct

theorem keys_withoutNulls : (t.withoutNulls source).keys.Nodup := Entries.nodup_filter _ distinct

theorem find?_withoutNulls (key : String) : (t.withoutNulls source).find? key =
    (source.find? key).filter fun value => !t.leavesOut (key, value) :=
  Entries.get?_filter _ distinct key

theorem given?_withoutNulls (key : String) : (t.withoutNulls source).given? key = source.given? key := by
  unfold Document.given?
  rw [t.find?_withoutNulls distinct]
  cases found : source.find? key with
  | none => rfl
  | some value =>
    by_cases null : value = .null
    · subst null
      cases left : t.leavesOut (key, .null) <;> simp [Option.filter, left]
    · have kept : t.leavesOut (key, value) = false := by simp [leavesOut, null]
      simp [Option.filter, kept]

/-- The review does not see the nulls. -/
theorem complaint?_withoutNulls (s : Setting) : s.complaint? (t.withoutNulls source) = s.complaint? source := by
  unfold Setting.complaint?
  rw [t.given?_withoutNulls distinct]

theorem quiet_withoutNulls (quiet : ∀ slot ∈ t.slots, slot.setting.complaint? source = none) :
    ∀ slot ∈ t.slots, slot.setting.complaint? (t.withoutNulls source) = none := fun slot mem =>
  (t.complaint?_withoutNulls distinct slot.setting).trans (quiet slot mem)

end WithoutNulls

/-- The settings that may be left out and whose fields take null. -/
def takingNull : List (String × String) := ("LocalFileConfig", "last_path") :: nullable

theorem builtIn_nulls : ∀ t ∈ builtIn, ∀ slot ∈ t.slots, slot.setting.isRequired = false →
    ((slot.field.refusal? .null).isSome ↔ (t.record, slot.setting.name) ∉ takingNull) := by
  decide

/-- A null that the record refuses might as well not be there, or the review complains of it. -/
theorem leavesOut_refused (known : t ∈ builtIn) (distinct : source.keys.Nodup)
    (quiet : ∀ slot ∈ t.slots, slot.setting.complaint? source = none) (mem : (key, .null) ∈ source.entries)
    (refused : (t.refusal? (key, .null)).isSome) : t.leavesOut (key, .null) = true := by
  obtain ⟨cause, refused⟩ := Option.isSome_iff_exists.mp refused
  obtain ⟨slot, member, rfl, there, refused⟩ := slot_of_refused distinct mem refused
  have optional : slot.setting.isRequired = false := by
    have silent := quiet slot member
    simpa [Setting.complaint?, Document.given?_eq_none.mpr (.inr there)] using silent
  have refuses : (slot.field.refusal? .null).isSome := by
    rw [Slot.refusal?, Setting.fit_null] at refused
    exact Option.isSome_of_eq_some refused
  have counts : (t.record, slot.setting.name) ∉ nullable := fun own =>
    (builtIn_nulls t known slot member optional).mp refuses (List.mem_cons_of_mem _ own)
  rw [leavesOut, Bool.and_eq_true]
  exact ⟨by simp, List.any_eq_true.mpr ⟨slot, member, by simp [optional, counts]⟩⟩

/-- Only in a search a null is taken for a setting that is left out. -/
theorem leavesOut_accepted (known : t ∈ builtIn) {entry : String × Tree} (left : t.leavesOut entry = true)
    (accepted : t.refusal? entry = none) : t = search := by
  obtain ⟨key, value⟩ := entry
  rw [leavesOut, Bool.and_eq_true] at left
  obtain ⟨null, declared⟩ := left
  obtain rfl : value = .null := by simpa using null
  obtain ⟨slot, mem, declared⟩ := List.any_eq_true.mp declared
  obtain ⟨⟨rfl, optional⟩, counts⟩ : (slot.setting.name = key ∧ slot.setting.isRequired = false) ∧
      (t.record, key) ∉ nullable := by simpa using declared
  have accepts : slot.field.refusal? .null = none := by
    rwa [refusal?, (builtIn_sound t known).find_slot mem, Option.bind_some, Slot.refusal?, Setting.fit_null] at accepted
  have takes := (builtIn_nulls t known slot mem optional).not_left.mp (by simp [accepts])
  have other : t.record = "LocalFileConfig" := congrArg Prod.fst ((List.mem_cons.mp takes).resolve_right counts)
  rcases mem_builtIn.mp known with rfl | rfl | rfl | rfl | rfl | rfl
  · exact absurd other (by decide)
  · rfl
  all_goals exact absurd other (by decide)

section Search

open LocalInput.Search (lastPath?)

theorem search_decode {entries : Entries}
    (read : Decoder.record search.record search.fields (.obj entries) = .ok entries) :
    search.shape.decode (.obj entries) = (do
      let start ← Decoder.field entries "path_prefix" Decoder.string
      let last ← Decoder.field entries "last_path" lastPath? (.ok none)
      return ⟨start, last⟩) :=
  congrArg (· >>= _) read

/-- The last path of a search may be null or left out. -/
theorem search_lastPath : Decoder.field (source.fitted search.shape.settings) "last_path" lastPath? (.ok none) =
    match source.given? "last_path" with
    | some value => lastPath? (Setting.fitAmong search.shape.settings "last_path" value)
    | none => .ok none := by
  unfold Decoder.field Document.given?
  rw [Document.get?_fitted]
  cases source.find? "last_path" with
  | none => rfl
  | some value => cases value <;> rfl

theorem search_withoutNulls (distinct : source.keys.Nodup)
    (read : Decoder.record search.record search.fields (.obj (source.fitted search.shape.settings)) =
      .ok (source.fitted search.shape.settings))
    (readToo : Decoder.record search.record search.fields
      (.obj ((search.withoutNulls source).fitted search.shape.settings)) =
      .ok ((search.withoutNulls source).fitted search.shape.settings)) :
    search.shape.decode (.obj ((search.withoutNulls source).fitted search.shape.settings)) =
      search.shape.decode (.obj (source.fitted search.shape.settings)) := by
  have start : (search.withoutNulls source).find? "path_prefix" = source.find? "path_prefix" := by
    rw [find?_withoutNulls _ distinct]
    have kept : ∀ value, search.leavesOut ("path_prefix", value) = false := fun value => Bool.and_false _
    cases source.find? "path_prefix" <;> simp [kept]
  rw [search_decode read, search_decode readToo, search_lastPath, search_lastPath, given?_withoutNulls _ distinct]
  unfold Decoder.field
  rw [Document.get?_fitted, Document.get?_fitted, start]

end Search

theorem decode_withoutNulls (known : t ∈ builtIn) (distinct : source.keys.Nodup)
    (quiet : ∀ slot ∈ t.slots, slot.setting.complaint? source = none)
    (accepted : source.entries.findSome? t.refusal? = none) :
    t.shape.decode (.obj ((t.withoutNulls source).fitted t.shape.settings)) =
      t.shape.decode (.obj (source.fitted t.shape.settings)) := by
  have sound := builtIn_sound t known
  have accepts := List.findSome?_eq_none_iff.mp accepted
  by_cases left : ∃ entry ∈ source.entries, t.leavesOut entry = true
  · obtain ⟨entry, mem, left⟩ := left
    obtain rfl := leavesOut_accepted known left (accepts entry mem)
    have acceptedToo : (search.withoutNulls source).entries.findSome? search.refusal? = none :=
      List.findSome?_eq_none_iff.mpr fun entry mem => accepts entry (List.mem_of_mem_filter mem)
    exact search_withoutNulls distinct (sound.record_read accepted quiet)
      (sound.record_read acceptedToo (search.quiet_withoutNulls distinct quiet))
  · have kept : ∀ entry ∈ source.entries, (!t.leavesOut entry) = true := by simpa using left
    have same : t.withoutNulls source = source := by
      rw [withoutNulls, List.filter_eq_self.mpr kept]
    rw [same]

/-- What is refused of a document without nulls is a value that was overlooked. -/
theorem refused_withoutNulls (known : t ∈ builtIn) (distinct : source.keys.Nodup)
    (quiet : ∀ slot ∈ t.slots, slot.setting.complaint? source = none)
    (refused : (t.withoutNulls source).entries.findSome? t.refusal? = some cause) :
    ∃ slot ∈ t.slots, ∃ value, source.find? slot.setting.name = some value ∧ value ≠ .null ∧
      slot.isOverlooked source = true ∧ slot.refusal? value = some cause := by
  obtain ⟨⟨key, value⟩, mem, refused⟩ := List.exists_of_findSome?_eq_some refused
  obtain ⟨mem, kept⟩ := List.mem_filter.mp mem
  have given : value ≠ .null := by
    rintro rfl
    simp [leavesOut_refused known distinct quiet mem (Option.isSome_of_eq_some refused)] at kept
  obtain ⟨slot, member, -, there, refused⟩ := slot_of_refused distinct mem refused
  have blames := Slot.refusal?_isSome there ((builtIn_sound t known).fits slot member) (quiet slot member)
  refine ⟨slot, member, value, there, given, ?_, refused⟩
  simpa [refused, Slot.refusesNull, there, given] using blames

theorem exec_slots (mem : slot ∈ exec.slots) :
    ∃ name, slot = ⟨.optional name .long, .defaulted name Decoder.count⟩ := by
  rcases List.mem_cons.mp mem with rfl | mem
  · exact ⟨_, rfl⟩
  · exact ⟨_, List.mem_singleton.mp mem⟩

/-- A count is read from an integer, so it can only be out of range. -/
theorem count_overlooked {name : String}
    (overlooked : Slot.isOverlooked ⟨.optional name .long, .defaulted name Decoder.count⟩ source = true)
    (there : source.find? name = some value)
    (refused : Slot.refusal? ⟨.optional name .long, .defaulted name Decoder.count⟩ value = some cause) :
    ∃ found, cause = .wrongValue found "usize" := by
  obtain ⟨given, said, overlooked⟩ := (Option.any_eq_true _ _).mp overlooked
  obtain rfl : given = value := Option.some.inj ((Document.given?_eq_some.mp said).1.symm.trans there)
  obtain ⟨fitted, fits, -⟩ := (Option.any_eq_true _ _).mp (Bool.and_eq_true_iff.mp overlooked).2
  obtain ⟨n, rfl⟩ := FieldKind.coerce_long fits
  have fitted : Setting.fit (.optional name .long) given = .num (.int n) := congrArg (Option.getD · given) fits
  rw [Slot.refusal?, fitted] at refused
  cases read : Decoder.count (.num (.int n)) with
  | error cause' =>
    obtain rfl : cause' = cause := by
      simpa [RecordField.refusal?, RecordField.defaulted, RecordField.ofDecoder, read, Except.map] using refused
    exact Decoder.count_refused read
  | ok n => simp [RecordField.refusal?, RecordField.defaulted, RecordField.ofDecoder, read, Except.map] at refused

/-- A refused null and a value that was overlooked are not blamed in the same words. -/
theorem blamed_apart {null other : Slot} {causeToo : DecodeError} (known : t ∈ builtIn)
    (mem : null ∈ t.slots) (there : source.find? null.setting.name = some .null)
    (refused : null.refusal? .null = some cause)
    (memToo : other ∈ t.slots) (thereToo : source.find? other.setting.name = some value) (given : value ≠ .null)
    (overlooked : other.isOverlooked source = true) (refusedToo : other.refusal? value = some causeToo) :
    cause.message ≠ causeToo.message := by
  have unseen := unchecked_of_overlooked known memToo overlooked
  rcases mem_builtIn.mp known with rfl | rfl | rfl | rfl | rfl | rfl
  case inr.inr.inr.inr.inr =>
    -- The only setting is not null and something else at once.
    obtain rfl := List.mem_singleton.mp mem
    obtain rfl := List.mem_singleton.mp memToo
    rw [there] at thereToo
    exact absurd (Option.some.inj thereToo).symm given
  case inl =>
    obtain ⟨name, rfl⟩ := exec_slots mem
    obtain ⟨nameToo, rfl⟩ := exec_slots memToo
    obtain rfl : DecodeError.wrongType .null "usize" = cause := Option.some.inj refused
    obtain ⟨found, rfl⟩ := count_overlooked overlooked thereToo refusedToo
    exact DecodeError.message_wrongType_ne
  all_goals simp [unchecked, search, naming, ltsv, csv] at unseen

/-- A null that stops the loading is blamed, and nothing else would be blamed in its place in the same words. -/
theorem load_past_null (known : t ∈ builtIn) (distinct : source.keys.Nodup)
    (quiet : ∀ slot ∈ t.slots, slot.setting.complaint? source = none)
    (first : source.entries.find? (fun entry => (t.refusal? entry).isSome) = some (key, .null)) :
    (t.withoutNulls source).load t.shape ≠ source.load t.shape := by
  have sound := builtIn_sound t known
  have distinctToo := t.keys_withoutNulls distinct
  have quietToo := t.quiet_withoutNulls distinct quiet
  obtain ⟨cause, blamed, refused⟩ := first_refused first
  rw [sound.load_refused distinct quiet refused]
  intro same
  cases refusedToo : (t.withoutNulls source).entries.findSome? t.refusal? with
  | none =>
    obtain ⟨task, read⟩ := sound.decode_read refusedToo quietToo
    rw [sound.load_quiet distinctToo quietToo, read] at same
    cases same
  | some causeToo =>
    rw [sound.load_refused distinctToo quietToo refusedToo] at same
    obtain ⟨other, memToo, value, thereToo, given, overlooked, refusedToo⟩ :=
      refused_withoutNulls known distinct quiet refusedToo
    obtain ⟨null, mem, -, there, blamed⟩ := slot_of_refused distinct (List.mem_of_find?_eq_some first) blamed
    refine blamed_apart known mem there blamed memToo thereToo given overlooked refusedToo ?_
    simpa using same.symm

theorem load_withoutNulls_eq (known : t ∈ builtIn) (distinct : source.keys.Nodup) :
    (t.withoutNulls source).load t.shape = source.load t.shape ↔ ¬t.StopsAtNull source := by
  have sound := builtIn_sound t known
  have distinctToo := t.keys_withoutNulls distinct
  by_cases quiet : ∀ slot ∈ t.slots, slot.setting.complaint? source = none
  · have quietToo := t.quiet_withoutNulls distinct quiet
    cases first : source.entries.find? fun entry => (t.refusal? entry).isSome with
    | none =>
      have accepted : source.entries.findSome? t.refusal? = none := by simpa using first
      rw [sound.load_quiet distinct quiet, sound.load_quiet distinctToo quietToo,
        decode_withoutNulls known distinct quiet accepted]
      simp [StopsAtNull, first]
    | some entry =>
      obtain ⟨key, value⟩ := entry
      by_cases null : value = .null
      · subst null
        exact iff_of_false (load_past_null known distinct quiet first) (not_not_intro ⟨quiet, key, first⟩)
      · have kept : (!t.leavesOut (key, value)) = true := by simp [leavesOut, null]
        obtain ⟨cause, blamed, refused⟩ := first_refused first
        have firstToo : (t.withoutNulls source).entries.find? (fun entry => (t.refusal? entry).isSome) =
            some (key, value) := find?_filter_of_kept (!t.leavesOut ·) first kept
        obtain ⟨causeToo, blamedToo, refusedToo⟩ := first_refused firstToo
        obtain rfl : causeToo = cause := Option.some.inj (blamedToo.symm.trans blamed)
        rw [sound.load_refused distinct quiet refused, sound.load_refused distinctToo quietToo refusedToo]
        simp [StopsAtNull, first, null]
  · have agree : ∀ slot : Slot, slot.setting.complaint? (t.withoutNulls source) = slot.setting.complaint? source :=
      fun slot => t.complaint?_withoutNulls distinct slot.setting
    have blamed : ∃ slot ∈ t.slots, (slot.setting.complaint? source).isSome := by
      simpa [Option.isSome_iff_ne_none] using quiet
    have blamedToo : ∃ slot ∈ t.slots, (slot.setting.complaint? (t.withoutNulls source)).isSome := by
      simpa [agree] using blamed
    rw [sound.load_blamed distinct blamed, sound.load_blamed distinctToo blamedToo]
    simp [StopsAtNull, quiet, agree]

/-- Leaving out the nulls makes no difference, unless the review has nothing to say and the first thing that
the record refuses is one of them; this null is then all that is reported. All settings that may be left
out refuse null, but for the last path of a search and where null is a value of its own. -/
theorem load_withoutNulls (known : t ∈ builtIn) (distinct : source.keys.Nodup) :
    ((t.withoutNulls source).load t.shape = source.load t.shape ↔ ¬t.StopsAtNull source) ∧
    (t.StopsAtNull source → ∃ key cause, t.refusal? (key, .null) = some cause ∧
      source.load t.shape = .error (.invalid [cause.message])) ∧
    ∀ slot ∈ t.slots, slot.setting.isRequired = false →
      ((slot.field.refusal? .null).isSome ↔ (t.record, slot.setting.name) ∉ takingNull) := by
  refine ⟨load_withoutNulls_eq known distinct, fun ⟨quiet, key, first⟩ => ?_, builtIn_nulls t known⟩
  obtain ⟨cause, blamed, refused⟩ := first_refused first
  exact ⟨key, cause, blamed, (builtIn_sound t known).load_refused distinct quiet refused⟩

/-- A search whose last path is null is a search without a last path. -/
theorem load_withoutNulls_search :
    let source : Document := ⟨[("last_path", .null), ("path_prefix", .str "in/")]⟩
    search ∈ builtIn ∧ source.keys.Nodup ∧ (search.withoutNulls source).keys = ["path_prefix"] ∧
      (search.withoutNulls source).load search.shape = source.load search.shape := by
  intro source
  have known : search ∈ builtIn := by simp [builtIn]
  have distinct : source.keys.Nodup := by decide
  refine ⟨known, distinct, by decide, (load_withoutNulls known distinct).1.mpr fun stops => ?_⟩
  obtain ⟨-, key, first⟩ := stops
  have accepted : source.entries.find? (fun entry => (search.refusal? entry).isSome) = none := by decide
  cases accepted.symm.trans first

/-- Without its nulls the section is read, with them it is refused. -/
theorem load_refuses_nulls :
    let source : Document := ⟨[("max_threads", .null), ("page_size", .null)]⟩
    (exec.withoutNulls source).load ExecConfig.shape = .ok ⟨none, 32768⟩ ∧
      source.load ExecConfig.shape = .error (.invalid ["invalid type: null, expected usize"]) :=
  ⟨rfl, rfl⟩

end TaskShape

end BulkTransfer
