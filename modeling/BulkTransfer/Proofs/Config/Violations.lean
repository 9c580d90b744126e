import BulkTransfer.Proofs.Config.TaskShapes
import Mathlib.Data.List.Find
import Mathlib.Data.List.Forall2
/-!
# What a refused document is blamed for

A setting of a document is bad if it has to be there and is not, or if its value, put into its kind, is not
accepted where it goes. The review finds all bad settings but those that nobody checks: these are only
found when the task is read, and then one at a time and without a name.
-/
namespace BulkTransfer

namespace Entries

variable {entries : Entries} {key : String} {value : Tree}

/-- In a table of distinct keys the entries are what is found. -/
theorem get?_eq_some (distinct : entries.keys.Nodup) : entries.get? key = some value ↔ (key, value) ∈ entries := by
  refine ⟨get?_mem, fun mem => ?_⟩
  have known : key ∈ entries.keys := List.mem_map.mpr ⟨_, mem, rfl⟩
  obtain ⟨found, there⟩ := Option.isSome_iff_exists.mp (get?_isSome.mpr known)
  have same := List.inj_on_of_nodup_map distinct (get?_mem there) mem rfl
  exact there.trans (congrArg (fun entry : String × Tree => some entry.2) same)

end Entries

namespace FieldKind

variable {value fitted : Tree}

theorem coerce_string (fits : coerce .string value = some fitted) : ∃ text, fitted = .str text := by
  cases value with
  | str | num | bool => exact ⟨_, (Option.some.inj fits).symm⟩
  | null | arr | obj => cases fits

theorem coerce_bool (fits : coerce .bool value = some fitted) : ∃ b, fitted = .bool b := by
  cases value with
  | bool b => exact ⟨b, (Option.some.inj fits).symm⟩
  | str text =>
    unfold coerce at fits
    dsimp only at fits
    split at fits
    · exact ⟨true, (Option.some.inj fits).symm⟩
    · exact ⟨false, (Option.some.inj fits).symm⟩
    · cases fits
  | null | num | arr | obj => cases fits

end FieldKind

/-- Where each member of a list gives at most one thing, what they give goes with those that give something. -/
theorem forall₂_filterMap {α β : Type} {R : β → α → Prop} {give : α → Option β} {gives : α → Bool}
    {as : List α} (exact : ∀ a ∈ as, (give a).isSome = gives a) (holds : ∀ a b, give a = some b → R b a) :
    List.Forall₂ R (as.filterMap give) (as.filter gives) := by
  induction as with
  | nil => exact .nil
  | cons a as ih =>
    have later := ih fun b mem => exact b (List.mem_cons_of_mem _ mem)
    have here := exact a List.mem_cons_self
    cases given : give a with
    | none =>
      rw [given] at here
      rwa [List.filterMap_cons_none given, List.filter_cons_of_neg (by simp [← here])]
    | some b =>
      rw [given] at here
      rw [List.filterMap_cons_some given, List.filter_cons_of_pos (by simp [← here])]
      exact .cons (holds a b given) later

/-- A violation is about a setting if it says so in its first words. -/
def Setting.IsNamedBy (s : Setting) (violation : String) : Prop :=
  violation = "missing required field '" ++ s.name ++ "'" ∨ ∃ rest, violation = "field '" ++ s.name ++ "'" ++ rest

namespace Slot

variable {slot : Slot} {source : Document} {value : Tree}

/-- What the record has against the value of a setting. -/
def refusal? (slot : Slot) (value : Tree) : Option DecodeError := slot.field.refusal? (slot.setting.fit value)

/-- A setting is bad if it is missing and has to be there, or if its value cannot be read where it goes. -/
def isBad (slot : Slot) (source : Document) : Bool :=
  match source.given? slot.setting.name with
  | none => slot.setting.isRequired
  | some value => (slot.setting.kind.coerce value).all fun fitted => (slot.field.refusal? fitted).isSome

/-- A bad value is overlooked if it fits its kind and nothing more is checked of it. -/
def isOverlooked (slot : Slot) (source : Document) : Bool :=
  (source.given? slot.setting.name).any fun value => slot.setting.check.isNone &&
    (slot.setting.kind.coerce value).any fun fitted => (slot.field.refusal? fitted).isSome

/-- A setting that may be left out is null, and null cannot be read where it goes. -/
def refusesNull (slot : Slot) (source : Document) : Bool :=
  !slot.setting.isRequired && source.find? slot.setting.name = some .null && (slot.field.refusal? .null).isSome

theorem Fits.objection?_eq (fits : slot.Fits) :
    slot.setting.objection? value = if slot.setting.check.isNone then none else slot.field.refusal? value := by
  unfold Setting.objection?
  cases checked : slot.setting.check with
  | none => rfl
  | some check =>
    cases fits.checked check checked
    rfl

/-- The review complains of exactly the bad settings that it does not overlook. -/
theorem complaint?_isSome (fits : slot.Fits) :
    (slot.setting.complaint? source).isSome = (slot.isBad source && !slot.isOverlooked source) := by
  unfold Setting.complaint? isBad isOverlooked
  cases source.given? slot.setting.name with
  | none => cases slot.setting.isRequired <;> rfl
  | some value =>
    dsimp only [Setting.fault?, Option.any_some]
    cases slot.setting.kind.coerce value with
    | none => simp
    | some fitted =>
      dsimp only
      rw [fits.objection?_eq]
      cases slot.setting.check with
      | none => simp
      | some check => simp

theorem isBad_of_overlooked (overlooked : slot.isOverlooked source = true) : slot.isBad source = true := by
  unfold isOverlooked at overlooked
  unfold isBad
  cases given : source.given? slot.setting.name with
  | none => simp [given] at overlooked
  | some value =>
    rw [given, Option.any_some, Bool.and_eq_true] at overlooked
    dsimp only
    cases fitted : slot.setting.kind.coerce value with
    | none => rfl
    | some fitting => simpa [fitted] using overlooked.2

theorem isBad_iff (fits : slot.Fits) : slot.isBad source = true ↔
    (slot.setting.complaint? source).isSome ∨ slot.isOverlooked source = true := by
  rw [complaint?_isSome fits]
  cases overlooked : slot.isOverlooked source with
  | false => simp
  | true => simpa using isBad_of_overlooked overlooked

/-- A complaint names its setting. -/
theorem complaint?_names {s : Setting} {violation : String} (h : s.complaint? source = some violation) :
    s.IsNamedBy violation := by
  unfold Setting.complaint? at h
  split at h
  · split at h
    · exact .inl (Option.some.inj h).symm
    · cases h
  · next value _ =>
    unfold Setting.fault? at h
    right
    split at h
    · refine ⟨" must be " ++ s.kind.withArticle ++ ", found " ++ value.kind, (Option.some.inj h).symm.trans ?_⟩
      rw [show "' must be " = "'" ++ " must be " from rfl]
      simp only [String.append_assoc]
    · obtain ⟨cause, -, same⟩ := Option.map_eq_some_iff.mp h
      refine ⟨": " ++ cause.message, same.symm.trans ?_⟩
      rw [show "': " = "'" ++ ": " from rfl]
      simp only [String.append_assoc]

/-- Once the review has nothing to say, what is refused is an overlooked value or a null. -/
theorem refusal?_isSome (found : source.find? slot.setting.name = some value) (fits : slot.Fits)
    (quiet : slot.setting.complaint? source = none) :
    (slot.refusal? value).isSome = (slot.isOverlooked source || slot.refusesNull source) := by
  unfold refusal? isOverlooked refusesNull
  unfold Setting.complaint? at quiet
  by_cases null : value = .null
  · subst null
    rw [Document.given?_eq_none.mpr (.inr found)] at quiet ⊢
    have optional : slot.setting.isRequired = false := by simpa using quiet
    simp [Setting.fit_null, optional, found]
  · rw [Document.given?_eq_some.mpr ⟨found, null⟩] at quiet ⊢
    dsimp only [Setting.fault?] at quiet
    unfold Setting.fit
    cases fitted : slot.setting.kind.coerce value with
    | none => simp [fitted] at quiet
    | some fitting =>
      rw [fitted] at quiet
      have unopposed : slot.setting.objection? fitting = none := by simpa using quiet
      rw [fits.objection?_eq] at unopposed
      cases unchecked : slot.setting.check.isNone with
      | true => simp [found, null, fitted]
      | false =>
        have accepted : slot.field.refusal? fitting = none := by simpa [unchecked] using unopposed
        simp [found, null, accepted]

/-- What fits the kind of the setting is accepted where it goes, or it is checked. -/
def IsCovered (slot : Slot) : Prop := slot.setting.check.isSome ∨
  ∀ value fitted, slot.setting.kind.coerce value = some fitted → slot.field.refusal? fitted = none

theorem IsCovered.not_overlooked (covered : slot.IsCovered) : slot.isOverlooked source = false := by
  unfold isOverlooked
  cases source.given? slot.setting.name with
  | none => rfl
  | some value =>
    rw [Option.any_some]
    rcases covered with checked | accepted
    · simp [Option.isSome_iff_ne_none.mp checked]
    · cases fitted : slot.setting.kind.coerce value with
      | none => simp
      | some fitting => simp [accepted value fitting fitted]

namespace IsCovered

variable {α : Type} {name : String} {isRequired : Bool} {absence : FieldAbsence} {decoder : Decoder α}

theorem ofString (accepts : ∀ text, ∃ a, decoder (.str text) = .ok a) :
    IsCovered ⟨⟨name, .string, isRequired, none⟩, .ofDecoder name absence decoder⟩ := by
  refine .inr fun value fitted fits => RecordField.refusal?_eq_none.mpr (RecordField.accepts_ofDecoder.mpr ?_)
  obtain ⟨text, rfl⟩ := FieldKind.coerce_string fits
  exact accepts text

theorem ofBool (accepts : ∀ b, ∃ a, decoder (.bool b) = .ok a) :
    IsCovered ⟨⟨name, .bool, isRequired, none⟩, .ofDecoder name absence decoder⟩ := by
  refine .inr fun value fitted fits => RecordField.refusal?_eq_none.mpr (RecordField.accepts_ofDecoder.mpr ?_)
  obtain ⟨b, rfl⟩ := FieldKind.coerce_bool fits
  exact accepts b

end IsCovered

end Slot

namespace TaskShape

variable {t : TaskShape} {source : Document} {slot : Slot} {key : String} {value : Tree} {cause : DecodeError}

/-- What the record of a task has against an entry of a document. -/
def refusal? (t : TaskShape) (entry : String × Tree) : Option DecodeError :=
  (t.slots.find? (·.setting.name == entry.1)).bind (·.refusal? entry.2)

theorem slot_of_refused (distinct : source.keys.Nodup) (mem : (key, value) ∈ source.entries)
    (refused : t.refusal? (key, value) = some cause) : ∃ slot ∈ t.slots, slot.setting.name = key ∧
      source.find? slot.setting.name = some value ∧ slot.refusal? value = some cause := by
  obtain ⟨slot, found, refused⟩ := Option.bind_eq_some_iff.mp refused
  obtain rfl : slot.setting.name = key := by simpa using List.find?_some found
  exact ⟨slot, List.mem_of_find?_eq_some found, rfl, (Entries.get?_eq_some distinct).mpr mem, refused⟩

namespace Sound

variable (sound : t.Sound)

include sound

theorem find_slot (mem : slot ∈ t.slots) : t.slots.find? (·.setting.name == slot.setting.name) = some slot := by
  have apart : (t.slots.map fun slot => slot.setting.name).Nodup := by
    have apart := sound.apart
    rwa [sound.settings, List.map_map] at apart
  cases found : t.slots.find? (·.setting.name == slot.setting.name) with
  | none => simpa using List.find?_eq_none.mp found slot mem
  | some other =>
    have named : other.setting.name = slot.setting.name := by simpa using List.find?_some found
    rw [List.inj_on_of_nodup_map apart (List.mem_of_find?_eq_some found) mem named]

theorem objection?_fitted (entry : String × Tree) : RecordField.objection? t.fields
    (entry.1, Setting.fitAmong t.shape.settings entry.1 entry.2) = t.refusal? entry := by
  have named : t.slots.find? ((·.name == entry.1) ∘ Slot.field) = t.slots.find? (·.setting.name == entry.1) :=
    List.find?_congr fun slot mem => by simp [(sound.fits slot mem).named]
  unfold RecordField.objection? Setting.fitAmong refusal?
  rw [sound.fields, sound.settings, List.find?_map, List.find?_map, named]
  change ((t.slots.find? (·.setting.name == entry.1)).map Slot.field).bind _ = _
  rw [show ((·.name == entry.1) ∘ Slot.setting) = fun slot : Slot => slot.setting.name == entry.1 from rfl]
  cases t.slots.find? (·.setting.name == entry.1) <;> rfl

theorem findSome?_fitted : (source.fitted t.shape.settings).findSome? (RecordField.objection? t.fields) =
    source.entries.findSome? t.refusal? := by
  rw [Document.fitted, List.findSome?_map]
  exact congrArg (source.entries.findSome? ·) (funext sound.objection?_fitted)

theorem decode_refused (refused : source.entries.findSome? t.refusal? = some cause) :
    t.shape.decode (.obj (source.fitted t.shape.settings)) = .error cause := by
  obtain ⟨take, reads, -⟩ := sound.reads
  rw [reads, Decoder.record_eq, sound.findSome?_fitted, refused]
  rfl

theorem record_read (accepted : source.entries.findSome? t.refusal? = none)
    (quiet : ∀ slot ∈ t.slots, slot.setting.complaint? source = none) :
    Decoder.record t.record t.fields (.obj (source.fitted t.shape.settings)) = .ok (source.fitted t.shape.settings) := by
  have given : t.fields.findSome? (RecordField.absence? (source.fitted t.shape.settings)) = none := by
    rw [List.findSome?_eq_none_iff, sound.fields]
    intro field mem
    obtain ⟨slot, member, rfl⟩ := List.mem_map.mp mem
    refine if_neg fun ⟨needed, lacking⟩ => ?_
    have required := (sound.fits slot member).required needed
    have absent : source.find? slot.setting.name = none := by
      rw [(sound.fits slot member).named, Document.get?_fitted] at lacking
      simpa using lacking
    have blamed := quiet slot member
    simp [Setting.complaint?, Document.given?_eq_none.mpr (.inl absent), required] at blamed
  rw [Decoder.record_eq, sound.findSome?_fitted, accepted, given]
  rfl

theorem decode_read (accepted : source.entries.findSome? t.refusal? = none)
    (quiet : ∀ slot ∈ t.slots, slot.setting.complaint? source = none) :
    ∃ task, t.shape.decode (.obj (source.fitted t.shape.settings)) = .ok task := by
  obtain ⟨take, reads, goesOn⟩ := sound.reads
  have read := sound.record_read accepted quiet
  obtain ⟨task, taken⟩ := goesOn _ _ read
  exact ⟨task, by rw [reads, read]; exact taken⟩

theorem complaints : t.shape.settings.filterMap (·.complaint? source) =
    t.slots.filterMap fun slot => slot.setting.complaint? source := by
  rw [sound.settings, List.filterMap_map]
  rfl

section Load

variable (distinct : source.keys.Nodup)

include distinct

theorem load_blamed (blamed : ∃ slot ∈ t.slots, (slot.setting.complaint? source).isSome) :
    source.load t.shape = .error (.invalid (t.slots.filterMap fun slot => slot.setting.complaint? source)) := by
  rw [Document.load_eq sound.apart distinct, if_neg, sound.complaints]
  intro empty
  obtain ⟨slot, mem, some⟩ := blamed
  rw [sound.complaints, List.isEmpty_iff, List.filterMap_eq_nil_iff] at empty
  simp [empty slot mem] at some

theorem load_quiet (quiet : ∀ slot ∈ t.slots, slot.setting.complaint? source = none) : source.load t.shape =
    (t.shape.decode (.obj (source.fitted t.shape.settings))).mapError fun cause => .invalid [cause.message] := by
  rw [Document.load_eq sound.apart distinct, if_pos]
  rw [sound.complaints, List.isEmpty_iff, List.filterMap_eq_nil_iff]
  exact quiet

theorem load_refused (quiet : ∀ slot ∈ t.slots, slot.setting.complaint? source = none)
    (refused : source.entries.findSome? t.refusal? = some cause) :
    source.load t.shape = .error (.invalid [cause.message]) := by
  rw [sound.load_quiet distinct quiet, sound.decode_refused refused]
  rfl

/-- Once the review has nothing to say, the record refuses an entry exactly if a bad value has been
overlooked or a null is refused. -/
theorem refused_iff (quiet : ∀ slot ∈ t.slots, slot.setting.complaint? source = none) :
    (source.entries.findSome? t.refusal?).isSome ↔
      ∃ slot ∈ t.slots, slot.isOverlooked source ∨ slot.refusesNull source := by
  constructor
  · intro refused
    obtain ⟨cause, refused⟩ := Option.isSome_iff_exists.mp refused
    obtain ⟨⟨key, value⟩, mem, refused⟩ := List.exists_of_findSome?_eq_some refused
    obtain ⟨slot, member, -, there, refused⟩ := slot_of_refused distinct mem refused
    have blames := Slot.refusal?_isSome there (sound.fits slot member) (quiet slot member)
    exact ⟨slot, member, by simpa [refused] using blames.symm⟩
  · rintro ⟨slot, mem, blamed⟩
    cases there : source.find? slot.setting.name with
    | none => simp [Slot.isOverlooked, Slot.refusesNull, Document.given?_eq_none.mpr (.inl there), there] at blamed
    | some value =>
      have refused := Slot.refusal?_isSome there (sound.fits slot mem) (quiet slot mem)
      rw [List.findSome?_isSome_iff]
      refine ⟨(slot.setting.name, value), Entries.get?_mem there, ?_⟩
      rw [refusal?, sound.find_slot mem, Option.bind_some, refused]
      simpa using blamed

/-- A task is loaded exactly if no setting is bad and no null is refused. -/
theorem loads_iff : (∃ task, source.load t.shape = .ok task) ↔
    ∀ slot ∈ t.slots, slot.isBad source = false ∧ slot.refusesNull source = false := by
  by_cases blamed : ∃ slot ∈ t.slots, (slot.setting.complaint? source).isSome
  · rw [sound.load_blamed distinct blamed]
    obtain ⟨slot, mem, blamed⟩ := blamed
    have bad := (Slot.isBad_iff (sound.fits slot mem)).mpr (.inl blamed)
    exact ⟨nofun, fun fine => absurd bad (by simp [(fine slot mem).1])⟩
  · have quiet : ∀ slot ∈ t.slots, slot.setting.complaint? source = none := by simpa using blamed
    have loads : (∃ task, source.load t.shape = .ok task) ↔ source.entries.findSome? t.refusal? = none := by
      cases refused : source.entries.findSome? t.refusal? with
      | some cause => simp [sound.load_refused distinct quiet refused]
      | none =>
        obtain ⟨task, read⟩ := sound.decode_read refused quiet
        simp [sound.load_quiet distinct quiet, read, Except.mapError]
    rw [loads, ← Option.not_isSome_iff_eq_none, sound.refused_iff distinct quiet]
    have bad : ∀ slot ∈ t.slots, slot.isBad source = slot.isOverlooked source := fun slot mem =>
      Bool.eq_iff_iff.mpr <| by simp [Slot.isBad_iff (sound.fits slot mem), quiet slot mem]
    simp +contextual [bad]

end Load

end Sound

/-- The settings of which only the kind is looked at, although their fields do not take all of it. -/
def unchecked : List (String × String) :=
  [("ExecConfig", "max_threads"), ("ExecConfig", "page_size"), ("RenameTask", "columns")]

theorem builtIn_covers : ∀ t ∈ builtIn, ∀ slot ∈ t.slots,
    (t.record, slot.setting.name) ∈ unchecked ∨ slot.IsCovered := by
  have text : ∀ text, ∃ a, Decoder.string (.str text) = .ok a := fun text => ⟨text, rfl⟩
  have noText : ∀ text, ∃ a, Decoder.optional Decoder.string (.str text) = .ok a := fun text => ⟨some text, rfl⟩
  have truth : ∀ b, ∃ a, Decoder.bool (.bool b) = .ok a := fun b => ⟨b, rfl⟩
  simp only [builtIn, List.forall_mem_cons]
  refine ⟨?_, ?_, ?_, ?_, ?_, ?_, List.forall_mem_nil _⟩
  · exact List.forall_mem_cons.mpr ⟨.inl (by decide), List.forall_mem_singleton.mpr (.inl (by decide))⟩
  · exact List.forall_mem_cons.mpr ⟨.inr (.ofString text), List.forall_mem_singleton.mpr (.inr (.ofString noText))⟩
  · exact List.forall_mem_cons.mpr ⟨.inr (.ofString text), List.forall_mem_singleton.mpr (.inr (.ofString text))⟩
  · exact List.forall_mem_cons.mpr ⟨.inr (.inl rfl), List.forall_mem_cons.mpr ⟨.inr (.ofString noText),
      List.forall_mem_cons.mpr ⟨.inr (.ofBool truth), List.forall_mem_singleton.mpr (.inr (.inl rfl))⟩⟩⟩
  · exact List.forall_mem_cons.mpr ⟨.inr (.ofString text), List.forall_mem_cons.mpr ⟨.inr (.ofBool truth),
      List.forall_mem_cons.mpr ⟨.inr (.ofString text), List.forall_mem_cons.mpr ⟨.inr (.inl rfl),
        List.forall_mem_singleton.mpr (.inr (.inl rfl))⟩⟩⟩⟩
  · exact List.forall_mem_singleton.mpr (.inl (by decide))

theorem unchecked_of_overlooked (known : t ∈ builtIn) (mem : slot ∈ t.slots)
    (overlooked : slot.isOverlooked source = true) : (t.record, slot.setting.name) ∈ unchecked := by
  refine (builtIn_covers t known slot mem).resolve_right fun covered => ?_
  rw [covered.not_overlooked] at overlooked
  cases overlooked

/-- A built-in task is loaded exactly if no setting is bad and no null is refused. Bad settings that are not
overlooked are reported together, in the order of the settings, and each violation names its setting; an
overlooked one is left out. Only if there are none is the first entry that the record refuses reported,
alone and without its name. -/
theorem load_reports_violations (known : t ∈ builtIn) (distinct : source.keys.Nodup) :
    ((∃ task, source.load t.shape = .ok task) ↔
      ∀ slot ∈ t.slots, slot.isBad source = false ∧ slot.refusesNull source = false) ∧
    (∀ error, source.load t.shape = .error error →
      if ∃ slot ∈ t.slots, slot.isBad source ∧ ¬slot.isOverlooked source then
        ∃ violations, error = .invalid violations ∧
          List.Forall₂ (fun violation slot => slot.setting.IsNamedBy violation) violations
            (t.slots.filter fun slot => slot.isBad source && !slot.isOverlooked source)
      else ∃ cause, source.entries.findSome? t.refusal? = some cause ∧ error = .invalid [cause.message]) ∧
    ∀ slot ∈ t.slots, slot.isOverlooked source → (t.record, slot.setting.name) ∈ unchecked := by
  have sound := builtIn_sound t known
  refine ⟨sound.loads_iff distinct, fun error failed => ?_, fun _ => unchecked_of_overlooked known⟩
  have complains : ∀ slot ∈ t.slots, (slot.setting.complaint? source).isSome =
      (slot.isBad source && !slot.isOverlooked source) := fun slot mem => Slot.complaint?_isSome (sound.fits slot mem)
  split
  · next blamed =>
    obtain ⟨slot, mem, bad, seen⟩ := blamed
    have blamed : (slot.setting.complaint? source).isSome := by rw [complains slot mem]; simp [bad, seen]
    rw [sound.load_blamed distinct ⟨slot, mem, blamed⟩] at failed
    exact ⟨_, (Except.error.inj failed).symm, forall₂_filterMap complains fun _ _ => Slot.complaint?_names⟩
  · next blameless =>
    have quiet : ∀ slot ∈ t.slots, slot.setting.complaint? source = none := by
      intro slot mem
      rw [← Option.not_isSome_iff_eq_none, complains slot mem, Bool.and_eq_true, Bool.not_eq_true']
      exact fun ⟨bad, seen⟩ => blameless ⟨slot, mem, bad, by simp [seen]⟩
    cases refused : source.entries.findSome? t.refusal? with
    | some cause =>
      rw [sound.load_refused distinct quiet refused] at failed
      exact ⟨cause, rfl, (Except.error.inj failed).symm⟩
    | none =>
      obtain ⟨task, read⟩ := sound.decode_read refused quiet
      rw [sound.load_quiet distinct quiet, read] at failed
      cases failed

/-- A column type and a line end that are both misspelt are reported together. -/
theorem load_reports_violations_misspelt :
    let source : Document :=
      ⟨[("newline", .str "LFLF"), ("columns", .arr [.obj [("name", .str "id"), ("type", .str "lnog")]])]⟩
    ltsv ∈ builtIn ∧ source.keys.Nodup ∧ ∃ violations, source.load ltsv.shape = .error (.invalid violations) ∧
      List.Forall₂ (fun violation slot => slot.setting.IsNamedBy violation) violations
        (ltsv.slots.filter fun slot => slot.setting.name = "columns" ∨ slot.setting.name = "newline") := by
  intro source
  have known : ltsv ∈ builtIn := by simp [builtIn]
  have distinct : source.keys.Nodup := by decide
  obtain ⟨loads, reports, -⟩ := load_reports_violations known distinct
  have blamed : ∃ slot ∈ ltsv.slots, slot.isBad source ∧ ¬slot.isOverlooked source := by decide
  refine ⟨known, distinct, ?_⟩
  cases loaded : source.load ltsv.shape with
  | ok task =>
    obtain ⟨slot, mem, bad, -⟩ := blamed
    simp [(loads.mp ⟨task, loaded⟩ slot mem).1] at bad
  | error error =>
    obtain ⟨violations, rfl, named⟩ := (if_pos blamed).mp (reports error loaded)
    have filtered : (ltsv.slots.filter fun slot => slot.isBad source && !slot.isOverlooked source) =
        ltsv.slots.filter fun slot => slot.setting.name = "columns" ∨ slot.setting.name = "newline" := by rfl
    exact ⟨violations, rfl, filtered ▸ named⟩

/-- Two settings are bad; one violation is reported, and it names none. -/
theorem load_reports_one_of_two :
    let source : Document := ⟨[("max_threads", .num (.int (-1))), ("page_size", .num (.int (-1)))]⟩
    (exec.slots.filter (·.isBad source)).map (·.setting.name) = ["max_threads", "page_size"] ∧
      source.load ExecConfig.shape = .error (.invalid ["invalid value: integer `-1`, expected usize"]) := by
  have message : (DecodeError.wrongValue (DecodeError.describe (.num (.int (-1)))) "usize").message =
      "invalid value: integer `-1`, expected usize" := by decide +kernel
  exact ⟨by decide, message ▸ rfl⟩

end TaskShape

end BulkTransfer
