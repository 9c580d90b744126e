import BulkTransfer.Config.Shape
import BulkTransfer.Proofs.Config.Merging
/-!
# Reviews of documents

A review goes through the settings of a shape in their order. It says at most one thing about each of
them, and it puts the value of each into its kind and leaves it in its place. What it says about a setting
does not depend on the others.
-/
namespace BulkTransfer

/-- Values changed in their places are found changed. -/
theorem Entries.get?_mapped (entries : Entries) (change : String → Tree → Tree) (key : String) :
    Entries.get? (entries.map fun entry => (entry.1, change entry.1 entry.2)) key =
      (entries.get? key).map (change key) := by
  induction entries with
  | nil => rfl
  | cons entry rest ih =>
    obtain ⟨head, value⟩ := entry
    rw [List.map_cons, get?, get?, List.lookup_cons, List.lookup_cons]
    by_cases same : key = head
    · simp [same]
    · rw [beq_eq_false_iff_ne.mpr same]
      exact ih

namespace Document

variable {source : Document} {key : String} {value : Tree}

/-- What a document says at a key; null says nothing. -/
def given? (source : Document) (key : String) : Option Tree :=
  match source.find? key with
  | none | some .null => none
  | some value => some value

theorem given?_eq_some : source.given? key = some value ↔ source.find? key = some value ∧ value ≠ .null := by
  unfold given?
  split
  · next absent => simp [absent]
  · next null => simp [null, eq_comm]
  · next other given found =>
    rw [found, Option.some_inj]
    exact ⟨fun same => ⟨same, same ▸ given⟩, And.left⟩

theorem given?_eq_none : source.given? key = none ↔ source.find? key = none ∨ source.find? key = some .null := by
  unfold given?
  split
  · next absent => simp [absent]
  · next null => simp [null]
  · next other given found => simpa [found] using given

end Document

namespace Setting

/-- What the check of a setting has against a value. -/
def objection? (s : Setting) (fitted : Tree) : Option DecodeError :=
  match s.check with
  | none => none
  | some check =>
    match check fitted with
    | .error cause => some cause
    | .ok _ => none

/-- What a review says about the value that is given for a setting. -/
def fault? (s : Setting) (value : Tree) : Option String :=
  match s.kind.coerce value with
  | none => some ("field '" ++ s.name ++ "' must be " ++ s.kind.withArticle ++ ", found " ++ value.kind)
  | some fitted => (s.objection? fitted).map fun cause => "field '" ++ s.name ++ "': " ++ cause.message

/-- What a review says about a setting, if anything. -/
def complaint? (s : Setting) (source : Document) : Option String :=
  match source.given? s.name with
  | none => if s.isRequired then some ("missing required field '" ++ s.name ++ "'") else none
  | some value => s.fault? value

/-- The value of a setting in its kind, or as it is if it does not fit. -/
def fit (s : Setting) (value : Tree) : Tree := (s.kind.coerce value).getD value

/-- The value at a key after a review. -/
def fitAmong (settings : List Setting) (key : String) (value : Tree) : Tree :=
  ((settings.find? (·.name == key)).map (·.fit value)).getD value

variable {s : Setting} {source : Document} {coerced : Entries} {settings : List Setting} {key : String}

theorem fit_null : s.fit .null = .null := by
  unfold fit FieldKind.coerce
  cases s.kind <;> rfl

theorem review_violations : (s.review source coerced).1 = (s.complaint? source).toList := by
  unfold review complaint?
  split
  · next absent => rw [Document.given?_eq_none.mpr (.inl absent)]; dsimp only; split <;> rfl
  · next null => rw [Document.given?_eq_none.mpr (.inr null)]; dsimp only; split <;> rfl
  · next value given found =>
    rw [Document.given?_eq_some.mpr ⟨found, given⟩]
    dsimp only
    unfold fault?
    cases s.kind.coerce value with
    | none => rfl
    | some fitted =>
      dsimp only
      unfold objection?
      cases s.check with
      | none => rfl
      | some check => cases fails : check fitted <;> simp [fails]

/-- A review puts a value into its kind or leaves it. -/
theorem review_coerced (s : Setting) (source : Document) (coerced : Entries) :
    (s.review source coerced).2 = coerced ∧ (source.find? s.name).map s.fit = source.find? s.name ∨
      ∃ value, source.find? s.name = some value ∧ (s.review source coerced).2 = coerced.put s.name (s.fit value) := by
  unfold review
  split
  · next absent => exact .inl ⟨rfl, by rw [absent]; rfl⟩
  · next null => exact .inl ⟨rfl, by rw [null, Option.map_some, fit_null]⟩
  · next value _ found =>
    split
    · next unfit => exact .inl ⟨rfl, by rw [found, Option.map_some, fit, unfit]; rfl⟩
    · next fitted fits => exact .inr ⟨value, found, by rw [fit, fits]; rfl⟩

theorem keys_review (same : coerced.keys = source.keys) : (s.review source coerced).2.keys = source.keys := by
  rcases review_coerced s source coerced with ⟨unchanged, -⟩ | ⟨value, found, put⟩
  · rw [unchanged, same]
  · have there : s.name ∈ coerced.keys := by
      rw [same]
      exact Entries.get?_isSome.mp (Option.isSome_of_eq_some found)
    rw [put, Entries.keys_put, if_pos there, same]

theorem get?_review (same : coerced.get? s.name = source.find? s.name) : (s.review source coerced).2.get? key =
    if key = s.name then (source.find? key).map s.fit else coerced.get? key := by
  rcases review_coerced s source coerced with ⟨unchanged, fits⟩ | ⟨value, found, put⟩
  · rw [unchanged]
    split
    · next here => rw [here, fits, same]
    · rfl
  · rw [put, Entries.get?_put]
    split
    · next here => rw [here, found]; rfl
    · rfl

end Setting

namespace Document

variable {source : Document} {settings : List Setting} {violations : List String} {coerced : Entries}

/-- The settings of a document in their kinds, each in its place. -/
def fitted (source : Document) (settings : List Setting) : Entries :=
  source.entries.map fun entry => (entry.1, Setting.fitAmong settings entry.1 entry.2)

theorem get?_fitted (source : Document) (settings : List Setting) (key : String) :
    (source.fitted settings).get? key = (source.find? key).map (Setting.fitAmong settings key) :=
  Entries.get?_mapped source.entries (Setting.fitAmong settings) key

/-- The review of the settings from some point on. -/
def reviewFrom (source : Document) (state : List String × Entries) (settings : List Setting) :
    List String × Entries :=
  settings.foldl
    (fun (violations, coerced) setting =>
      let (found, coerced) := setting.review source coerced
      (violations ++ found, coerced))
    state

theorem reviewFrom_violations : (source.reviewFrom (violations, coerced) settings).1 =
    violations ++ settings.filterMap (·.complaint? source) := by
  induction settings generalizing violations coerced with
  | nil => exact (List.append_nil _).symm
  | cons s settings ih =>
    change (source.reviewFrom (violations ++ (s.review source coerced).1, (s.review source coerced).2) settings).1 = _
    rw [ih, Setting.review_violations, List.append_assoc, List.filterMap_cons]
    cases s.complaint? source <;> rfl

/-- Settings that are reviewed one after the other do not get into each other's way. -/
theorem reviewFrom_coerced (violations : List String) (apart : (settings.map Setting.name).Nodup)
    (keys : coerced.keys = source.keys) (same : ∀ s ∈ settings, coerced.get? s.name = source.find? s.name) :
    (source.reviewFrom (violations, coerced) settings).2.keys = source.keys ∧
      ∀ key, (source.reviewFrom (violations, coerced) settings).2.get? key =
        match settings.find? (·.name == key) with
        | some s => (source.find? key).map s.fit
        | none => coerced.get? key := by
  induction settings generalizing violations coerced with
  | nil => exact ⟨keys, fun _ => rfl⟩
  | cons s settings ih =>
    obtain ⟨unseen, apart⟩ := List.nodup_cons.mp apart
    have here := same s List.mem_cons_self
    have later : ∀ s' ∈ settings, s'.name ≠ s.name := fun s' mem equal =>
      unseen (equal ▸ List.mem_map_of_mem mem)
    have onward : ∀ s' ∈ settings, (s.review source coerced).2.get? s'.name = source.find? s'.name := by
      intro s' mem
      rw [Setting.get?_review here, if_neg (later s' mem)]
      exact same s' (List.mem_cons_of_mem _ mem)
    obtain ⟨keys, found⟩ := ih (violations ++ (s.review source coerced).1) apart (Setting.keys_review keys) onward
    refine ⟨keys, fun key => (found key).trans ?_⟩
    rw [Setting.get?_review here, List.find?_cons]
    by_cases first : s.name = key
    · have none : settings.find? (·.name == key) = none :=
        List.find?_eq_none.mpr fun s' mem => by simpa [← first] using later s' mem
      simp [none, first]
    · simp [beq_eq_false_iff_ne.mpr first, Ne.symm first]

theorem reviewAll_eq (apart : (settings.map Setting.name).Nodup) (distinct : source.keys.Nodup) :
    source.reviewAll settings = (settings.filterMap (·.complaint? source), source.fitted settings) := by
  have start : ∀ s ∈ settings, source.entries.get? s.name = source.find? s.name := fun _ _ => rfl
  obtain ⟨keys, found⟩ := reviewFrom_coerced [] apart rfl start
  refine Prod.ext (reviewFrom_violations.trans (List.nil_append _))
    (Entries.ext_keys (keys ▸ distinct) ?_ fun key => ?_)
  · exact keys.trans (by simp [fitted, Document.keys, Entries.keys])
  · refine (found key).trans ?_
    rw [get?_fitted, find?]
    unfold Setting.fitAmong
    cases settings.find? (·.name == key) <;> simp

/-- A document is refused for all that its review says or, if that is nothing, for the first thing that
reading the task says. -/
theorem load_eq {α : Type} {shape : Shape α} (apart : (shape.settings.map Setting.name).Nodup)
    (distinct : source.keys.Nodup) :
    source.load shape = if (shape.settings.filterMap (·.complaint? source)).isEmpty then
      (shape.decode (.obj (source.fitted shape.settings))).mapError fun cause => .invalid [cause.message]
    else .error (.invalid (shape.settings.filterMap (·.complaint? source))) := by
  rw [load, reviewAll_eq apart distinct]
  dsimp only
  split
  · cases shape.decode (.obj (source.fitted shape.settings)) <;> rfl
  · rfl

end Document

end BulkTransfer
