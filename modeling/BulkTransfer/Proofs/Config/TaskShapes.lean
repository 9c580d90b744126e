import BulkTransfer.Csv.Formatter
import BulkTransfer.Local.Input
import BulkTransfer.Local.Output
import BulkTransfer.Ltsv.Parser
import BulkTransfer.Proofs.Config.Records
import BulkTransfer.Proofs.Config.Review
import BulkTransfer.Proofs.Plugin.Opening
import BulkTransfer.Record.Rename
import BulkTransfer.Transfer.ExecConfig
/-!
# The shapes of the built-in tasks

Every setting of a built-in shape goes into one field of the record that the task is read from, under the
same name, and what is checked of it is what that field accepts. But not every setting is checked.
-/
namespace BulkTransfer

/-- A setting of a shape, and the field of the task's record that its value goes into. -/
structure Slot where
  setting : Setting
  field : RecordField

/-- A shape, with the record that its tasks are read from. -/
structure TaskShape where
  Task : Type
  shape : Shape Task
  record : String
  fields : List RecordField

def TaskShape.slots (t : TaskShape) : List Slot := List.zipWith Slot.mk t.shape.settings t.fields

def LocalInput.Search.fields : List RecordField :=
  [.required "path_prefix" Decoder.string, .defaulted "last_path" lastPath?]

def Rename.Options.fields : List RecordField := [.defaulted "columns" names]

namespace TaskShape

def exec : TaskShape := ⟨_, ExecConfig.shape, "ExecConfig", ExecConfig.fields⟩
def search : TaskShape := ⟨_, LocalInput.Search.shape, "LocalFileConfig", LocalInput.Search.fields⟩
def naming : TaskShape := ⟨_, LocalOutput.Naming.shape, "LocalFileOutputTask", LocalOutput.Naming.fields⟩
def ltsv : TaskShape := ⟨_, Ltsv.Options.shape, "LtsvTask", Ltsv.Options.fields⟩
def csv : TaskShape := ⟨_, Csv.Options.shape, "CsvFormatterTask", Csv.Options.fields⟩
def rename : TaskShape := ⟨_, Rename.Options.shape, "RenameTask", Rename.Options.fields⟩

/-- The shapes of the built-in tasks. -/
def builtIn : List TaskShape := [exec, search, naming, ltsv, csv, rename]

theorem mem_builtIn {t : TaskShape} :
    t ∈ builtIn ↔ t = exec ∨ t = search ∨ t = naming ∨ t = ltsv ∨ t = csv ∨ t = rename := by
  simp [builtIn]

/-- Reading a task is reading its record and taking every field from it. -/
def ReadsRecord (t : TaskShape) : Prop := ∃ take : Entries → Except DecodeError t.Task,
  (∀ entries, t.shape.decode (.obj entries) = Decoder.record t.record t.fields (.obj entries) >>= take) ∧
    ∀ entries found, Decoder.record t.record t.fields (.obj entries) = .ok found → ∃ task, take found = .ok task

open Decoder

theorem exec_reads : exec.ReadsRecord := by
  refine ⟨_, fun _ => rfl, fun entries found read => ?_⟩
  have counted : ∀ value, (RecordField.defaulted "max_threads" count).accepts value = .ok () →
      ∃ threads, (count value).map some = .ok threads := by
    intro value accepted
    obtain ⟨n, read⟩ := RecordField.accepts_ofDecoder.mp accepted
    exact ⟨some n, by rw [read]; rfl⟩
  obtain ⟨threads, first⟩ := field_ok "max_threads" read rfl counted (.inr ⟨none, rfl⟩)
  obtain ⟨size, second⟩ := field_optional "page_size" defaultPageSize read rfl
  exact ⟨_, Attempt.bind_ok first (Attempt.bind_ok second rfl)⟩

theorem search_reads : search.ReadsRecord := by
  refine ⟨_, fun _ => rfl, fun entries found read => ?_⟩
  obtain ⟨start, first⟩ := field_required "path_prefix" read rfl
  obtain ⟨last, second⟩ := field_optional "last_path" none read rfl
  exact ⟨_, Attempt.bind_ok first (Attempt.bind_ok second rfl)⟩

theorem naming_reads : naming.ReadsRecord := by
  refine ⟨_, fun _ => rfl, fun entries found read => ?_⟩
  obtain ⟨start, first⟩ := field_required "path_prefix" read rfl
  obtain ⟨ending, second⟩ := field_required "file_ext" read rfl
  exact ⟨_, Attempt.bind_ok first (Attempt.bind_ok second rfl)⟩

theorem ltsv_reads : ltsv.ReadsRecord := by
  refine ⟨_, fun _ => rfl, fun entries found read => ?_⟩
  obtain ⟨columns, first⟩ := field_required "columns" read rfl
  obtain ⟨null, second⟩ := field_optional "null_string" (some "null") read rfl
  obtain ⟨anyOrder, third⟩ := field_optional "allow_irregular_column_order" false read rfl
  obtain ⟨newline, fourth⟩ := field_optional "newline" .lf read rfl
  exact ⟨_, Attempt.bind_ok first (Attempt.bind_ok second (Attempt.bind_ok third (Attempt.bind_ok fourth rfl)))⟩

theorem csv_reads : csv.ReadsRecord := by
  refine ⟨_, fun _ => rfl, fun entries found read => ?_⟩
  obtain ⟨delimiter, first⟩ := field_optional "delimiter" "," read rfl
  obtain ⟨header, second⟩ := field_optional "header_line" true read rfl
  obtain ⟨null, third⟩ := field_optional "null_string" "" read rfl
  obtain ⟨newline, fourth⟩ := field_optional "newline" .crlf read rfl
  obtain ⟨options, fifth⟩ := field_optional "column_options" [] read rfl
  exact ⟨_, Attempt.bind_ok first (Attempt.bind_ok second (Attempt.bind_ok third (Attempt.bind_ok fourth
    (Attempt.bind_ok fifth rfl))))⟩

theorem rename_reads : rename.ReadsRecord := by
  refine ⟨_, fun _ => rfl, fun entries found read => ?_⟩
  obtain ⟨columns, first⟩ := field_optional "columns" [] read rfl
  exact ⟨_, Attempt.bind_ok first rfl⟩

end TaskShape

/-- A setting goes with a field: they have one name, the field is there if it has to be, and a check asks
for what the field accepts. -/
structure Slot.Fits (slot : Slot) : Prop where
  named : slot.field.name = slot.setting.name
  required : slot.field.absence = .refused → slot.setting.isRequired = true
  checked : ∀ check, slot.setting.check = some check → check = slot.field.accepts

namespace Slot.Fits

variable {α : Type} (name : String) (kind : FieldKind) (decoder : Decoder α)

theorem ofRequired : Fits ⟨.required name kind, .required name decoder⟩ := ⟨rfl, fun _ => rfl, nofun⟩

theorem ofOptional : Fits ⟨.optional name kind, .defaulted name decoder⟩ := ⟨rfl, nofun, nofun⟩

theorem ofRequiredChecked : Fits ⟨(Setting.required name kind).checkedAs decoder, .required name decoder⟩ :=
  ⟨rfl, fun _ => rfl, fun _ same => (Option.some.inj same).symm⟩

theorem ofOptionalChecked : Fits ⟨(Setting.optional name kind).checkedAs decoder, .defaulted name decoder⟩ :=
  ⟨rfl, nofun, fun _ same => (Option.some.inj same).symm⟩

end Slot.Fits

namespace TaskShape

/-- The settings of a shape are apart, each goes with its field, and these make up the record. -/
structure Sound (t : TaskShape) : Prop where
  settings : t.shape.settings = t.slots.map Slot.setting
  fields : t.fields = t.slots.map Slot.field
  apart : (t.shape.settings.map Setting.name).Nodup
  fits : ∀ slot ∈ t.slots, slot.Fits
  reads : t.ReadsRecord

theorem builtIn_sound : ∀ t ∈ builtIn, t.Sound := by
  simp only [builtIn, List.forall_mem_cons]
  refine ⟨?_, ?_, ?_, ?_, ?_, ?_, List.forall_mem_nil _⟩
  · refine ⟨rfl, rfl, by decide, ?_, exec_reads⟩
    exact List.forall_mem_cons.mpr ⟨.ofOptional .., List.forall_mem_singleton.mpr (.ofOptional ..)⟩
  · refine ⟨rfl, rfl, by decide, ?_, search_reads⟩
    exact List.forall_mem_cons.mpr ⟨.ofRequired .., List.forall_mem_singleton.mpr (.ofOptional ..)⟩
  · refine ⟨rfl, rfl, by decide, ?_, naming_reads⟩
    exact List.forall_mem_cons.mpr ⟨.ofRequired .., List.forall_mem_singleton.mpr (.ofRequired ..)⟩
  · refine ⟨rfl, rfl, by decide, ?_, ltsv_reads⟩
    exact List.forall_mem_cons.mpr ⟨.ofRequiredChecked .., List.forall_mem_cons.mpr ⟨.ofOptional ..,
      List.forall_mem_cons.mpr ⟨.ofOptional .., List.forall_mem_singleton.mpr (.ofOptionalChecked ..)⟩⟩⟩
  · refine ⟨rfl, rfl, by decide, ?_, csv_reads⟩
    exact List.forall_mem_cons.mpr ⟨.ofOptional .., List.forall_mem_cons.mpr ⟨.ofOptional ..,
      List.forall_mem_cons.mpr ⟨.ofOptional .., List.forall_mem_cons.mpr ⟨.ofOptionalChecked ..,
        List.forall_mem_singleton.mpr (.ofOptionalChecked ..)⟩⟩⟩⟩
  · refine ⟨rfl, rfl, by decide, ?_, rename_reads⟩
    exact List.forall_mem_singleton.mpr (.ofOptional ..)

end TaskShape

end BulkTransfer
