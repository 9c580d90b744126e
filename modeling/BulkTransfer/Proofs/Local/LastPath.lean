import BulkTransfer.Local.Input
import BulkTransfer.Proofs.Config.Records
import BulkTransfer.Proofs.Config.Review
import BulkTransfer.Proofs.Plugin.Opening
/-!
# The last path of a config

The diff of a run is laid over the section of its input, and the next run searches from there: for the
same files, behind the last one that was read.
-/
namespace BulkTransfer

namespace Entries

variable {entries : Entries} {key other : String} {value value' : Tree}

theorem put_put : (entries.put key value).put key value' = entries.put key value' := by
  induction entries with
  | nil => simp [put]
  | cons entry rest ih =>
    obtain ⟨head, old⟩ := entry
    by_cases same : head = key
    · rw [put, if_pos same, put, if_pos rfl, put, if_pos same]
    · rw [put, if_neg same, put, if_neg same, put, if_neg same, ih]

/-- A key that is there already keeps its place, whatever is put beside it. -/
theorem put_comm (differ : other ≠ key) (there : (entries.get? key).isSome) :
    (entries.put other value').put key value = (entries.put key value).put other value' := by
  induction entries with
  | nil => simp [get?] at there
  | cons entry rest ih =>
    obtain ⟨head, old⟩ := entry
    by_cases first : head = other
    · subst first
      rw [put, if_pos rfl, put, if_neg differ, put, if_neg differ, put, if_pos rfl]
    · by_cases second : head = key
      · subst second
        rw [put, if_neg first, put, if_pos rfl, put, if_pos rfl, put, if_neg first]
      · rw [put, if_neg first, put, if_neg second, put, if_neg second, put, if_neg first, ih]
        rwa [get?, List.lookup_cons, beq_eq_false_iff_ne.mpr (Ne.symm second)] at there

theorem mem_put {entry : String × Tree} (h : entry ∈ entries.put key value) :
    entry = (key, value) ∨ entry ∈ entries := by
  induction entries with
  | nil => exact .inl (List.mem_singleton.mp h)
  | cons first rest ih =>
    obtain ⟨head, old⟩ := first
    by_cases same : head = key
    · rw [put, if_pos same] at h
      rcases List.mem_cons.mp h with here | later
      · exact .inl here
      · exact .inr (List.mem_cons_of_mem _ later)
    · rw [put, if_neg same] at h
      rcases List.mem_cons.mp h with here | later
      · exact .inr (here ▸ List.mem_cons_self)
      · exact (ih later).imp_right (List.mem_cons_of_mem _)

end Entries

namespace Decoder

variable {name : String} {fields : List RecordField} {entries found : Entries}

/-- An object is a record when all its fields are accepted and none is missing. -/
theorem record_obj : record name fields (.obj entries) = .ok found ↔ found = entries ∧
    (∀ entry ∈ entries, ∀ field ∈ fields.find? (·.name == entry.1), field.accepts entry.2 = .ok ()) ∧
      ∀ field ∈ fields, field.absence = .refused → (entries.get? field.name).isSome := by
  have accepted : entries.findSome? (RecordField.objection? fields) = none ↔
      ∀ entry ∈ entries, ∀ field ∈ fields.find? (·.name == entry.1), field.accepts entry.2 = .ok () := by
    simp [RecordField.objection?, RecordField.refusal?_eq_none]
  have given : fields.findSome? (RecordField.absence? entries) = none ↔
      ∀ field ∈ fields, field.absence = .refused → (entries.get? field.name).isSome := by
    simp [RecordField.absence?, Option.isSome_iff_ne_none]
  rw [record_eq, ← accepted, ← given, ← Option.or_eq_none_iff]
  cases (entries.findSome? (RecordField.objection? fields)).or (fields.findSome? (RecordField.absence? entries)) with
  | none => simp [eq_comm]
  | some cause => simp

end Decoder

namespace LocalInput.Search

variable {entries : Entries} {search : Search} {path : String}

theorem decode_put (h : decode (.obj entries) = .ok search) :
    decode (.obj (entries.put "last_path" (.str path))) = .ok { search with lastPath := some path } := by
  unfold decode at h ⊢
  obtain ⟨found, recorded, fields⟩ := Attempt.of_bind h
  obtain ⟨rfl, accepted, given⟩ := Decoder.record_obj.mp recorded
  obtain ⟨start, begins, fields⟩ := Attempt.of_bind fields
  obtain ⟨last, -, made⟩ := Attempt.of_bind fields
  cases made
  have other : (found.put "last_path" (.str path)).get? "path_prefix" = found.get? "path_prefix" :=
    Entries.get?_put_other (by decide)
  refine Attempt.bind_ok (Decoder.record_obj.mpr ⟨rfl, fun entry hm => ?_, fun field hm needed => ?_⟩)
    (Attempt.bind_ok (a := start) ?_ (Attempt.bind_ok (a := some path) ?_ rfl))
  · rcases Entries.mem_put hm with rfl | hm
    · intro field found
      cases found
      rfl
    · exact accepted entry hm
  · rcases List.mem_cons.mp hm with rfl | hm
    · rw [RecordField.required, RecordField.ofDecoder, other]
      exact given _ List.mem_cons_self needed
    · cases List.mem_singleton.mp hm
      cases needed
  · rwa [Decoder.field, other]
  · rw [Decoder.field, Entries.get?_put_self]
    rfl

theorem load_eq (source : Document) : source.load shape =
    let first := (Setting.required "path_prefix" .string).review source source.entries
    let second := (Setting.optional "last_path" .string).review source first.2
    if (first.1 ++ second.1).isEmpty then
      (decode (.obj second.2)).mapError fun cause => .invalid [cause.message]
    else .error (.invalid (first.1 ++ second.1)) := by
  have reviewed : source.reviewAll shape.settings =
      let first := (Setting.required "path_prefix" .string).review source source.entries
      let second := (Setting.optional "last_path" .string).review source first.2
      (first.1 ++ second.1, second.2) := by
    simp only [Document.reviewAll, shape, List.foldl_cons, List.foldl_nil, List.nil_append]
  rw [Document.load, reviewed]
  dsimp only
  split
  · rw [← show shape.decode = decode from rfl]
    cases shape.decode (.obj ((Setting.optional "last_path" .string).review source
      ((Setting.required "path_prefix" .string).review source source.entries).2).2) <;> rfl
  · rfl

/-- A required setting without complaints has been put in its kind. -/
theorem review_required {source : Document} {name : String} {coerced : Entries}
    (h : ((Setting.required name .string).review source coerced).1 = []) :
    ∃ value fitted, source.find? name = some value ∧ value ≠ .null ∧
      FieldKind.string.coerce value = some fitted := by
  unfold Setting.review at h
  split at h
  · simp [Setting.required] at h
  · simp [Setting.required] at h
  · rename_i value there found
    split at h
    · simp at h
    · rename_i fitted fits
      exact ⟨value, fitted, found, there, fits⟩

theorem review_fitted {s : Setting} {source : Document} {value fitted : Tree} {coerced : Entries}
    (unchecked : s.check = none) (found : source.find? s.name = some value) (there : value ≠ .null)
    (fits : s.kind.coerce value = some fitted) :
    s.review source coerced = ([], coerced.put s.name fitted) := by
  unfold Setting.review
  split
  · rename_i absent
    cases absent.symm.trans found
  · rename_i null
    exact absurd (Option.some.inj (found.symm.trans null)) there
  · rename_i value' _ found'
    cases found.symm.trans found'
    simp [fits, unchecked]

/-- With another last path, the same is searched for behind it. -/
theorem load_put (h : Document.load ⟨entries⟩ shape = .ok search) :
    Document.load ⟨entries.put "last_path" (.str path)⟩ shape =
      .ok { search with lastPath := some path } := by
  rw [load_eq] at h ⊢
  dsimp only at h ⊢
  split at h
  · rename_i clean
    rw [List.isEmpty_iff, List.append_eq_nil_iff] at clean
    obtain ⟨value, fitted, found, there, fits⟩ := review_required clean.1
    rw [review_fitted (s := .required "path_prefix" .string) rfl found there fits] at clean h
    have found' : Document.find? ⟨entries.put "last_path" (.str path)⟩ "path_prefix" = some value :=
      (Entries.get?_put_other (by decide)).trans found
    have last : Document.find? ⟨entries.put "last_path" (.str path)⟩ "last_path" = some (.str path) :=
      Entries.get?_put_self
    rw [review_fitted (s := .required "path_prefix" .string) rfl found' there fits,
      review_fitted (s := .optional "last_path" .string) rfl last (by simp) rfl]
    have key : (entries.get? "path_prefix").isSome := Option.isSome_iff_exists.mpr ⟨value, found⟩
    have moved : (((entries.put "last_path" (.str path)).put "path_prefix" fitted).put "last_path"
        (.str path)) = ((Setting.optional "last_path" .string).review ⟨entries⟩
          (entries.put "path_prefix" fitted)).2.put "last_path" (.str path) := by
      rw [Entries.put_comm (by decide) key, Entries.put_put]
      rcases Setting.review_coerced (.optional "last_path" .string) ⟨entries⟩ (entries.put "path_prefix" fitted)
        with ⟨same, -⟩ | ⟨old, -, same⟩
      · rw [same]
      · rw [same]
        exact Entries.put_put.symm
    exact congrArg (Except.mapError _) ((congrArg (fun coerced => decode (.obj coerced)) moved).trans
      (decode_put (Attempt.of_mapError h)))
  · cases h

end LocalInput.Search

namespace LocalInput

variable {config inner : Config} {search : Search} {files : Files}

/-- The section of the input under a diff that says something of both sides. -/
theorem section_in_merge (diff other : Report) (h : TransferPlugins.section? config "in" = .ok inner) :
    TransferPlugins.section? (config.merge
      ((Document.empty.setNested "in" diff).setNested "out" other)) "in" = .ok (inner.merge diff) := by
  rw [TransferPlugins.find_section] at h ⊢
  have parts : ((Document.empty.setNested "in" diff).setNested "out" other).entries =
      [("in", .obj diff.entries), ("out", .obj other.entries)] := by
    simp [Document.setNested, Document.set, Document.empty, Document.toTree, Entries.put]
  have found : config.entries.get? "in" = some (.obj inner.entries) := h
  rw [Document.find?, Document.merge, parts, Entries.overlay_cons, Entries.overlay_cons,
    Entries.overlay, Entries.get?_put_other (by decide), Entries.get?_put_self, found, Option.map_some,
    Option.getD_some, Tree.overlay]
  rfl

/-- A run that goes on from the diff of another one searches for the same files, behind the last one of
those or, without any, from where that run did. -/
theorem load_merge (h : inner.load Search.shape = .ok search) (last : files.lastPath = search.lastPath) :
    (inner.merge files.diff).load Search.shape =
      .ok ⟨search.start, files.files.getLast?.or search.lastPath⟩ := by
  cases moved : files.files.getLast?.or search.lastPath with
  | none =>
    have nothing : files.diff = Document.empty := by rw [Files.diff, last, moved]
    have stays : search.lastPath = none := (Option.or_eq_none_iff.mp moved).2
    rw [nothing, Document.merge, Document.empty, Entries.overlay, h, ← stays]
  | some path =>
    have set : files.diff = Document.empty.set "last_path" (.str path) := by
      rw [Files.diff, last, moved]
    have laid : inner.merge files.diff = ⟨inner.entries.put "last_path" (.str path)⟩ := by
      rw [set, Document.merge, Document.set, Document.empty, Entries.put, Entries.overlay_cons,
        Entries.overlay]
      cases inner.entries.get? "last_path" with
      | none => rfl
      | some old =>
        rw [Option.map_some, Option.getD_some, Tree.overlay]
        simp
    rw [laid, Search.load_put h]

end LocalInput

end BulkTransfer
