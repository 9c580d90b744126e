import BulkTransfer.Proofs.Config.Merging
/-!
# Objects read as records

An object is read as a record from its first entry to its last. The first entry that its field does not
accept ends the reading; only then is the first field that is missing looked for.
-/
namespace BulkTransfer

namespace RecordField

/-- What a field has against a value. -/
def refusal? (field : RecordField) (value : Tree) : Option DecodeError :=
  match field.accepts value with
  | .error cause => some cause
  | .ok _ => none

/-- What the fields of a record have against an entry of an object. -/
def objection? (fields : List RecordField) (entry : String × Tree) : Option DecodeError :=
  (fields.find? (·.name == entry.1)).bind (·.refusal? entry.2)

/-- What an object is blamed for if it lacks a field that it has to have. -/
def absence? (entries : Entries) (field : RecordField) : Option DecodeError :=
  if field.absence = .refused ∧ (entries.get? field.name).isNone then some (.missingField field.name) else none

theorem refusal?_eq_none {field : RecordField} {value : Tree} :
    field.refusal? value = none ↔ field.accepts value = .ok () := by
  unfold refusal?
  cases field.accepts value <;> simp

end RecordField

theorem RecordField.accepts_ofDecoder {α : Type} {name : String} {absence : FieldAbsence} {decoder : Decoder α}
    {value : Tree} : (ofDecoder name absence decoder).accepts value = .ok () ↔ ∃ a, decoder value = .ok a := by
  unfold ofDecoder
  dsimp only
  cases decoder value <;> simp [Except.map]

namespace Decoder

variable {name : String} {fields : List RecordField} {entries found : Entries}

/-- A loop of checks ends with the first objection. -/
theorem forIn_objections {α : Type} (objects : α → Option DecodeError)
    (body : α → PUnit → Except DecodeError (ForInStep PUnit))
    (step : ∀ a r, body a r = (objects a).elim (.ok (.yield PUnit.unit)) .error) (as : List α) :
    forIn as PUnit.unit body = (as.findSome? objects).elim (.ok PUnit.unit) .error := by
  induction as with
  | nil => rfl
  | cons a as ih =>
    rw [List.forIn_cons, step, List.findSome?_cons]
    cases objects a with
    | none => exact ih
    | some cause => rfl

/-- One round of the loop that goes through the entries of a record. -/
def acceptEntry (fields : List RecordField) : String × Tree → Except DecodeError (ForInStep PUnit)
  | (key, value) =>
    match fields.find? (·.name == key) with
    | some field => do
      field.accepts value
      pure (.yield PUnit.unit)
    | none => pure (.yield PUnit.unit)

theorem record_eq : record name fields (.obj entries) =
    ((entries.findSome? (RecordField.objection? fields)).or
      (fields.findSome? (RecordField.absence? entries))).elim (.ok entries) .error := by
  have refused := forIn_objections (RecordField.objection? fields) (fun entry _ => acceptEntry fields entry)
    fun (key, value) _ => by
    dsimp only [acceptEntry, RecordField.objection?]
    cases fields.find? (·.name == key) with
    | none => rfl
    | some field =>
      dsimp only [Option.bind_some, RecordField.refusal?]
      cases field.accepts value <;> rfl
  have lacked := forIn_objections (RecordField.absence? entries)
    (fun (field : RecordField) _ => if field.absence = .refused ∧ (entries.lookup field.name).isNone then do
        throw (.missingField field.name)
        pure (.yield PUnit.unit)
      else pure (.yield PUnit.unit)) fun field _ => by
    rw [RecordField.absence?, Entries.get?]
    split <;> rfl
  unfold record
  refine (congrArg (· >>= _) (refused entries)).trans ?_
  cases entries.findSome? (RecordField.objection? fields) with
  | some cause => rfl
  | none =>
    rw [Option.elim_none, Option.none_or]
    refine (congrArg (fun read => read >>= fun _ => .ok entries) (lacked fields)).trans ?_
    cases fields.findSome? (RecordField.absence? entries) <;> rfl

/-- In a record that was read every field has a value. -/
theorem field_ok {α : Type} {field : RecordField} {decoder : Decoder α} {absent : Except DecodeError α}
    (key : String) (read : record name fields (.obj entries) = .ok found)
    (declared : fields.find? (·.name == key) = some field)
    (accepts : ∀ value, field.accepts value = .ok () → ∃ a, decoder value = .ok a)
    (default : field.absence = .refused ∨ ∃ a, absent = .ok a) :
    ∃ a, Decoder.field found key decoder absent = .ok a := by
  rw [record_eq] at read
  cases objected : (entries.findSome? (RecordField.objection? fields)).or
      (fields.findSome? (RecordField.absence? entries)) with
  | some cause => simp [objected] at read
  | none =>
    rw [objected, Option.elim_none] at read
    cases read
    obtain ⟨accepted, given⟩ := Option.or_eq_none_iff.mp objected
    rw [Decoder.field]
    cases there : Entries.get? entries key with
    | some value =>
      have unopposed := List.findSome?_eq_none_iff.mp accepted (key, value) (Entries.get?_mem there)
      rw [RecordField.objection?, declared, Option.bind_some, RecordField.refusal?_eq_none] at unopposed
      exact accepts value unopposed
    | none =>
      refine default.resolve_left fun needed => ?_
      have lacking := List.findSome?_eq_none_iff.mp given field (List.mem_of_find?_eq_some declared)
      have named : field.name = key := by simpa using List.find?_some declared
      simp [RecordField.absence?, needed, named, there] at lacking

section Typed

variable {α : Type} {decoder : Decoder α}

theorem field_required (key : String) (read : record name fields (.obj entries) = .ok found)
    (declared : fields.find? (·.name == key) = some (.required key decoder)) :
    ∃ a, Decoder.field found key decoder = .ok a :=
  field_ok key read declared (fun _ => RecordField.accepts_ofDecoder.mp) (.inl rfl)

theorem field_optional (key : String) (default : α) (read : record name fields (.obj entries) = .ok found)
    (declared : fields.find? (·.name == key) = some (.defaulted key decoder)) :
    ∃ a, Decoder.field found key decoder (.ok default) = .ok a :=
  field_ok key read declared (fun _ => RecordField.accepts_ofDecoder.mp) (.inr ⟨default, rfl⟩)

end Typed

end Decoder

end BulkTransfer
