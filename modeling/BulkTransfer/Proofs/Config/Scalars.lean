import BulkTransfer.Proofs.Config.Nulls
/-!
# Scalars read and scalars coerced

A scalar of a document is read as a type: as it is, or else as the first of its readings that the type
accepts. The review of a task puts it into the kind of a setting instead. For the types of scalars that
settings are read as both come to the same value, or to none. What has been put into a kind stays as it is.
-/
namespace BulkTransfer

namespace FieldKind

/-- A setting of this kind may be read as this type of scalars. -/
inductive ReadAs : FieldKind → {α : Type} → ValueType α → Prop where
  | bool : ReadAs .bool .bool
  | long : ReadAs .long .long
  | count : ReadAs .long .count
  | string : ReadAs .string .string

variable {value fitted : Tree}

theorem coerce_double_text {text : String} (fits : coerce .double (.str text) = some fitted) :
    ∃ x, fitted = .num (.double x) := by
  unfold coerce at fits
  dsimp only at fits
  split at fits
  · split at fits
    · exact ⟨_, (Option.some.inj fits).symm⟩
    · cases fits
  · cases fits

theorem coerce_double (fits : coerce .double value = some fitted) : ∃ n, fitted = .num n := by
  cases value with
  | num n => exact ⟨n, (Option.some.inj fits).symm⟩
  | str text =>
    obtain ⟨x, rfl⟩ := coerce_double_text fits
    exact ⟨.double x, rfl⟩
  | null | bool | arr | obj => cases fits

/-- A value that was put into a kind is one of that kind already. -/
theorem coerce_again (kind : FieldKind) (fits : kind.coerce value = some fitted) :
    kind.coerce fitted = some fitted := by
  cases kind with
  | any => rfl
  | bool =>
    obtain ⟨b, rfl⟩ := coerce_bool fits
    rfl
  | long =>
    obtain ⟨n, rfl⟩ := coerce_long fits
    rfl
  | double =>
    obtain ⟨n, rfl⟩ := coerce_double fits
    rfl
  | string =>
    obtain ⟨text, rfl⟩ := coerce_string fits
    rfl
  | object =>
    cases value with
    | obj entries => cases fits; rfl
    | null | bool | num | str | arr => cases fits
  | array =>
    cases value with
    | arr items => cases fits; rfl
    | null | bool | num | str | obj => cases fits

end FieldKind

namespace ValueType

variable {α : Type} (type : ValueType α)

/-- What the type takes a tree for, without any conversion. -/
def take? (tree : Tree) : Option α := (type.decode tree).toOption

theorem take?_eq_some {type : ValueType α} {tree : Tree} {a : α} :
    type.take? tree = some a ↔ type.decode tree = .ok a := by
  unfold take?
  cases type.decode tree <;> simp [Except.toOption]

end ValueType

namespace Document

variable {α : Type} {type : ValueType α} {kind : FieldKind}

theorem firstReading_eq (type : ValueType α) (values : List Tree) :
    firstReading type values = values.findSome? type.take? := by
  induction values with
  | nil => rfl
  | cons value rest ih =>
    rw [firstReading, List.findSome?_cons, ValueType.take?, ih]
    cases type.decode value <;> rfl

/-- The readings of a text are what it becomes as a long, as a double and as a boolean. -/
theorem scalarReadings_text (text : String) : scalarReadings (.str text) =
    (FieldKind.long.coerce (.str text)).toList ++ (FieldKind.double.coerce (.str text)).toList ++
      (FieldKind.bool.coerce (.str text)).toList := by
  unfold scalarReadings FieldKind.coerce
  dsimp only
  refine congr (congrArg _ (congr (congrArg _ ?_) ?_)) ?_
  · cases IntegerRange.signed64.read (trimBlanks text) <;> rfl
  · cases Double.read (trimBlanks text) with
    | error fault => rfl
    | ok x => cases h : x.isFinite <;> simp [h]
  · generalize trimBlanks text = word
    split <;> simp

theorem findSome?_option (fitted : Option Tree) :
    fitted.toList.findSome? type.take? = fitted.bind type.take? := by
  cases fitted <;> simp

/-- What a type of scalars takes a text for. -/
theorem firstReading_text (type : ValueType α) (text : String) :
    firstReading type (.str text :: scalarReadings (.str text)) =
      (type.take? (.str text)).or ((((FieldKind.long.coerce (.str text)).bind type.take?).or
        ((FieldKind.double.coerce (.str text)).bind type.take?)).or
          ((FieldKind.bool.coerce (.str text)).bind type.take?)) := by
  rw [firstReading_eq, scalarReadings_text, List.findSome?_cons, List.findSome?_append,
    List.findSome?_append, findSome?_option, findSome?_option, findSome?_option]
  cases type.take? (.str text) <;> rfl

/-- A type that refuses texts reads a number as it is, or not at all. -/
theorem firstReading_number (noText : ∀ text, type.take? (.str text) = none) (n : Number) :
    firstReading type (.num n :: scalarReadings (.num n)) = type.take? (.num n) := by
  rw [firstReading_eq, List.findSome?_cons]
  cases type.take? (.num n) with
  | none => exact List.findSome?_eq_none_iff.mpr fun other mem => List.mem_singleton.mp mem ▸ noText _
  | some a => rfl

/-- An integer is never read from a double, nor from a boolean. -/
theorem firstReading_integer (noText : ∀ text, type.take? (.str text) = none)
    (noDouble : ∀ x, type.take? (.num (.double x)) = none) (noBool : ∀ b, type.take? (.bool b) = none)
    (text : String) : firstReading type (.str text :: scalarReadings (.str text)) =
      (FieldKind.long.coerce (.str text)).bind type.take? := by
  have double : (FieldKind.double.coerce (.str text)).bind type.take? = none := by
    refine Option.bind_eq_none_iff.mpr fun fitted fits => ?_
    obtain ⟨x, rfl⟩ := FieldKind.coerce_double_text fits
    exact noDouble x
  have bool : (FieldKind.bool.coerce (.str text)).bind type.take? = none := by
    refine Option.bind_eq_none_iff.mpr fun fitted fits => ?_
    obtain ⟨b, rfl⟩ := FieldKind.coerce_bool fits
    exact noBool b
  rw [firstReading_text, noText, double, bool, Option.none_or, Option.or_none, Option.or_none]

/-- A boolean is never read from a number. -/
theorem firstReading_bool (text : String) :
    firstReading .bool (.str text :: scalarReadings (.str text)) =
      (FieldKind.bool.coerce (.str text)).bind ValueType.bool.take? := by
  have long : (FieldKind.long.coerce (.str text)).bind ValueType.bool.take? = none := by
    refine Option.bind_eq_none_iff.mpr fun fitted fits => ?_
    obtain ⟨n, rfl⟩ := FieldKind.coerce_long fits
    rfl
  have double : (FieldKind.double.coerce (.str text)).bind ValueType.bool.take? = none := by
    refine Option.bind_eq_none_iff.mpr fun fitted fits => ?_
    obtain ⟨n, rfl⟩ := FieldKind.coerce_double fits
    rfl
  rw [firstReading_text, long, double, show ValueType.bool.take? (.str text) = none from rfl,
    Option.none_or, Option.none_or, Option.none_or]

/-- A scalar is read as what it becomes in the kind. -/
theorem firstReading_coerced (target : kind.ReadAs type) (value : Tree) :
    firstReading type (value :: scalarReadings value) = (kind.coerce value).bind type.take? := by
  cases target with
  | bool =>
    cases value with
    | str text => exact firstReading_bool text
    | null | bool | num | arr | obj => rfl
  | long =>
    cases value with
    | str text => exact firstReading_integer (fun _ => rfl) (fun _ => rfl) (fun _ => rfl) text
    | num n =>
      rw [firstReading_number fun _ => rfl]
      cases n <;> rfl
    | null | bool | arr | obj => rfl
  | count =>
    cases value with
    | str text => exact firstReading_integer (fun _ => rfl) (fun _ => rfl) (fun _ => rfl) text
    | num n =>
      rw [firstReading_number fun _ => rfl]
      cases n <;> rfl
    | null | bool | arr | obj => rfl
  | string => cases value <;> rfl

variable {source : Document} {key : String} {value : Tree}

theorem get_stored (stored : source.find? key = some value) (present : value ≠ .null) :
    source.get key type = match firstReading type (value :: scalarReadings value) with
      | some a => .ok (some a)
      | none => .error (.typeMismatch key type.name value.kind) := by
  unfold get
  rw [stored]
  cases value with
  | null => exact absurd rfl present
  | bool | num | str | arr | obj => rfl

/-- A value that is stored at a key is read as a type exactly if it can be put into the kind and is then
one of the type, and as nothing else; otherwise the types do not match. What has been put into a kind, be
it one of scalars or not, is of this kind. -/
theorem get_agrees_with_coerce :
    (∀ {α : Type} {type : ValueType α} {kind : FieldKind}, kind.ReadAs type →
      ∀ (source : Document) (key : String) (value : Tree),
        source.find? key = some value → value ≠ .null →
        (∀ a, source.get key type = .ok (some a) ↔
          ∃ fitted, kind.coerce value = some fitted ∧ type.decode fitted = .ok a) ∧
        ((∀ fitted a, kind.coerce value = some fitted → type.decode fitted ≠ .ok a) →
          source.get key type = .error (.typeMismatch key type.name value.kind))) ∧
    ∀ (kind : FieldKind) (value fitted : Tree), kind.coerce value = some fitted →
      kind.coerce fitted = some fitted := by
  refine ⟨fun {α type kind} target source key value stored present => ?_,
    fun kind _ _ => kind.coerce_again⟩
  rw [get_stored stored present, firstReading_coerced target]
  cases taken : (kind.coerce value).bind type.take? with
  | some a =>
    obtain ⟨fitted, fits, read⟩ := Option.bind_eq_some_iff.mp taken
    have read := ValueType.take?_eq_some.mp read
    refine ⟨fun b => ⟨?_, ?_⟩, fun unread => absurd read (unread fitted a fits)⟩
    · rintro ⟨⟩
      exact ⟨fitted, fits, read⟩
    · rintro ⟨other, again, read'⟩
      obtain rfl : fitted = other := Option.some.inj (fits.symm.trans again)
      rw [Except.ok.inj (read.symm.trans read')]
  | none =>
    refine ⟨fun b => ⟨nofun, ?_⟩, fun _ => rfl⟩
    rintro ⟨fitted, fits, read⟩
    have refused := Option.bind_eq_none_iff.mp taken fitted fits
    rw [ValueType.take?_eq_some.mpr read] at refused
    cases refused

/-- A number of threads in a text with blanks, and one below zero. -/
theorem get_agrees_with_coerce_threads :
    let source : Document := ⟨[("threads", .str " 12 "), ("fewer", .str "-1")]⟩
    source.get "threads" .count = .ok (some 12) ∧
      source.get "fewer" .count = .error (.typeMismatch "fewer" "usize" "string") ∧
      FieldKind.long.coerce (.num (.int 12)) = some (.num (.int 12)) := by
  intro source
  have twelve : FieldKind.long.coerce (.str " 12 ") = some (.num (.int 12)) := by rfl
  have below : FieldKind.long.coerce (.str "-1") = some (.num (.int (-1))) := by rfl
  refine ⟨?_, ?_, ?_⟩
  · exact ((get_agrees_with_coerce.1 .count source "threads" _ rfl nofun).1 12).mpr ⟨_, twelve, rfl⟩
  · refine (get_agrees_with_coerce.1 .count source "fewer" _ rfl nofun).2 fun fitted a fits => ?_
    obtain rfl := Option.some.inj (below.symm.trans fits)
    exact nofun
  · exact get_agrees_with_coerce.2 .long _ _ twelve

end Document

end BulkTransfer
