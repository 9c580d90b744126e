import BulkTransfer.Local.Output
import BulkTransfer.Proofs.Csv.Rendering
import BulkTransfer.Proofs.Plugin.Sink
/-!
# A file of a task

The sink of a task keeps to two places: that of its file, and that of the file beside it which it
writes first. Until the commit the bytes are in the latter; a commit moves them whole, and an abort
removes them. A cleanup removes the file of each task whose report it is given, and changes nothing
else.
-/
namespace BulkTransfer.LocalOutput

open Disk (LeadsTo IsVacant AgreesOn)

/-- What a task writes, and where. -/
structure Delivery where
  naming : Naming
  index : Nat
  options : Csv.Options
  dialect : Csv.Dialect
  schema : Schema

namespace Delivery

def path (v : Delivery) : String := v.naming.path v.index 0

def temp (v : Delivery) : String := tempPath v.path

def Owns (v : Delivery) (l : Location) : Prop := l = Path.place v.temp ∨ l = Path.place v.path

/-- The sink that writes the rows as records. -/
def sink (v : Delivery) : PageSink Writing :=
  Csv.pageSink v.options v.dialect v.schema (LocalOutput.sink v.naming v.index)

def bytes (v : Delivery) (rows : List (List Cell)) : Attempt Bytes :=
  Csv.fileBytes v.options v.dialect v.schema rows

def Refuses (v : Delivery) (rows : List (List Cell)) : Prop := ∀ bytes, v.bytes rows ≠ .ok bytes

/-- The disk refuses neither to write nor to remove. -/
def Allows (d : Disk) : Prop :=
  ∀ n path, d.refusal n (.append path) = none ∧ d.refusal n (.remove path) = none

def IsClear (v : Delivery) (d : Disk) : Prop :=
  d.IsVacant (Path.place v.temp) ∧ d.IsVacant (Path.place v.path)

/-- Nothing has been moved into place, and the file beside can be removed. A transfer that is tidy
began without the files of its tasks, on a disk that refuses no removal. -/
structure IsOpen (v : Delivery) (tidy : Prop) (w : Writing) (d : Disk) : Prop where
  handle : w.openPath = none ∨ w.openPath = some v.temp
  pending : w.pending = [v.path]
  placed : w.placed = []
  way : d.LeadsTo v.temp
  clear : tidy → Allows d ∧ d.IsVacant (Path.place v.path)

/-- The file beside holds the rows, if the task has its places for itself. -/
def Written (v : Delivery) (tidy alone : Prop) (rows : List (List Cell)) (w : Writing) (d : Disk) :
    Prop :=
  v.IsOpen tidy w d ∧ ∃ bytes, v.bytes rows = .ok bytes ∧
    (alone → d.node? (Path.place v.temp) = some (.file bytes))

/-- The file beside holds the rows, and more can be written to it. -/
def Taken (v : Delivery) (tidy alone : Prop) (rows : List (List Cell)) (w : Writing) (d : Disk) :
    Prop :=
  v.Written tidy alone rows w d ∧ w.openPath = some v.temp

/-- Nothing on the disk is in the way of the files of the task, and nothing is refused. -/
structure IsFree (v : Delivery) (d : Disk) : Prop where
  allows : ∀ n a, d.refusal n a = none
  temp : d.LeadsTo v.temp ∧ d.node? (Path.place v.temp) ≠ some .directory
  final : d.LeadsTo v.path ∧ d.node? (Path.place v.path) ≠ some .directory

/-- The file is in its place and holds the rows. -/
structure Holds (v : Delivery) (rows : List (List Cell)) (d : Disk) : Prop where
  way : d.LeadsTo v.path
  beside : d.LeadsTo v.temp
  moved : d.node? (Path.place v.temp) = none
  content : ∃ bytes, v.bytes rows = .ok bytes ∧ d.node? (Path.place v.path) = some (.file bytes)

def report (v : Delivery) : Report := Document.empty.set "files" (.arr [.str v.path])

variable {v : Delivery} {tidy alone : Prop} {r : Region} {w : Writing} {d d' : Disk}
  {rows new : List (List Cell)} {page : Page}

theorem Refuses.more (h : v.Refuses rows) (new : List (List Cell)) : v.Refuses (rows ++ new) := by
  intro bytes told
  obtain ⟨first, -, ok, -⟩ := Csv.fileBytes_parts told
  exact h first ok

/-- Directories and refusals decide what is free. -/
theorem IsFree.agrees (h : v.IsFree d) {P : Location → Prop} (agrees : AgreesOn P d d') :
    v.IsFree d' where
  allows := fun n a => by rw [agrees.refusal, h.allows]
  temp := ⟨h.temp.1.agrees agrees, fun there => h.temp.2 ((agrees.directory _).mp there)⟩
  final := ⟨h.final.1.agrees agrees, fun there => h.final.2 ((agrees.directory _).mp there)⟩

section Stability

variable (owns : alone → ∀ l, v.Owns l → r.own l) (held : tidy → alone)

include owns held

theorem IsOpen.stable : r.Stable (v.IsOpen tidy w) := by
  intro d d' spared h
  refine ⟨h.handle, h.pending, h.placed, h.way.agrees spared, fun ht => ?_⟩
  obtain ⟨allows, vacant⟩ := h.clear ht
  refine ⟨fun n path => ?_, spared.vacant (.inl (owns (held ht) _ (.inr rfl))) vacant⟩
  rw [spared.refusal]
  exact allows n path

theorem Written.stable : r.Stable (v.Written tidy alone rows w) := by
  rintro d d' spared ⟨isOpen, bytes, rendered, written⟩
  refine ⟨isOpen.stable owns held d d' spared, bytes, rendered, fun ha => ?_⟩
  exact (spared.node _ (.inl (owns ha _ (.inl rfl)))).trans (written ha)

theorem Taken.stable : r.Stable (v.Taken tidy alone rows w) :=
  fun d d' spared h => ⟨Written.stable owns held d d' spared h.1, h.2⟩

theorem IsClear.stable : r.Stable fun d => tidy → Allows d ∧ v.IsClear d := by
  intro d d' spared h ht
  obtain ⟨allows, temp, final⟩ := h ht
  refine ⟨fun n path => ?_, spared.vacant (.inl (owns (held ht) _ (.inl rfl))) temp,
    spared.vacant (.inl (owns (held ht) _ (.inr rfl))) final⟩
  rw [spared.refusal]
  exact allows n path

omit held in
theorem Holds.stable : r.Stable fun d => alone → v.Holds rows d := by
  intro d d' spared h ha
  obtain ⟨way, beside, moved, bytes, rendered, written⟩ := h ha
  refine ⟨way.agrees spared, beside.agrees spared, ?_, bytes, rendered, ?_⟩
  · exact (spared.node _ (.inl (owns ha _ (.inl rfl)))).trans moved
  · exact (spared.node _ (.inl (owns ha _ (.inr rfl)))).trans written

end Stability

section Calls

variable {α β : Type} {good : α → Writing → Disk → Prop} {then_ : β → Writing → Disk → Prop}
  {bad : Writing → Disk → Prop}

theorem ensures_flushClosed (closed : w.openPath = none) {f : Unit → Call Writing β}
    (h : ((f ()).attempt w).Ensures r (Ends then_ bad) d) :
    ((flushFile >>= f).attempt w).Ensures r (Ends then_ bad) d := by
  refine Call.ensures_bind (Q := fun _ w' d' => w' = w ∧ d' = d) (Call.ensures_get ?_) ?_
  · simp only [closed]
    exact Call.ensures_pure ⟨rfl, rfl⟩
  · rintro _ _ _ ⟨rfl, rfl⟩
    exact h

theorem ensures_onDisk {operation : Disk → Except IoError α × Disk} {fault : IoError → PluginError}
    (keeps : ∀ d', r.Spared d d' → r.Keeps d' (operation d').2)
    (ok : ∀ d' a, r.Spared d d' → (operation d').1 = .ok a → good a w (operation d').2)
    (error : ∀ d' e, r.Spared d d' → (operation d').1 = .error e → bad w (operation d').2) :
    ((onDisk operation fault).attempt w).Ensures r (Ends good bad) d := by
  have answered : (Program.onDisk operation).Ensures r
      (fun x d => Ends good bad (x.mapError fault, w) d) d := by
    refine Program.Ensures.onDisk fun d' spared => ⟨keeps d' spared, ?_⟩
    cases result : (operation d').1 with
    | ok a => exact ok d' a spared result
    | error e => exact error d' e spared result
  have mapped : ((Program.onDisk operation).andThen fun x => .done (x.mapError fault) :
      Action (Attempt α)).Ensures r (fun x d => Ends good bad (x, w) d) d := by
    refine answered.andThen ?_
    exact fun x d h => h
  refine mapped.andThen ?_
  exact fun x d h => h

end Calls

section Places

variable (owns : alone → ∀ l, v.Owns l → r.own l) (reaches : ∀ l, v.Owns l → r.reach l)
  (apart : alone → Path.place v.temp ≠ Path.place v.path) (held : tidy → alone)

include reaches in
theorem keeps_of_temp (h : AgreesOn (· ≠ Path.place v.temp) d d') : r.Keeps d d' :=
  h.mono fun l foreign here => foreign (reaches l (.inl here))

include reaches in
theorem keeps_of_both (h : AgreesOn (fun l => l ≠ Path.place v.temp ∧ l ≠ Path.place v.path) d d') :
    r.Keeps d d' :=
  h.mono fun l foreign => ⟨fun here => foreign (reaches l (.inl here)),
    fun here => foreign (reaches l (.inr here))⟩

include apart held in
/-- Whatever is done to the file beside, the sink can still be aborted. -/
theorem IsOpen.temp_changed (h : v.IsOpen tidy w d)
    (changed : AgreesOn (· ≠ Path.place v.temp) d d') : v.IsOpen tidy w d' := by
  refine ⟨h.handle, h.pending, h.placed, h.way.agrees changed, fun ht => ?_⟩
  obtain ⟨allows, vacant⟩ := h.clear ht
  refine ⟨fun n path => ?_, changed.vacant (Ne.symm (apart (held ht))) vacant⟩
  rw [changed.refusal]
  exact allows n path

include owns reaches apart held

/-- Bytes go behind the others. Where nothing is refused they do not fail to. -/
theorem append_ensures (data : Bytes) (h : v.IsOpen tidy w d) {b : Option Bytes}
    (written : alone → ∀ old, b = some old → d.node? (Path.place v.temp) = some (.file old)) :
    ((onDisk (·.append v.temp data) .io).attempt w).Ensures r
      (Ends (fun _ w' d => w' = w ∧ v.IsOpen tidy w d ∧ (alone →
        ∀ old, b = some old → d.node? (Path.place v.temp) = some (.file (old ++ data))))
          fun w' d => v.IsOpen tidy w' d ∧ ¬ (tidy ∨ v.IsFree d)) d := by
  have spec := fun d' => Disk.append_spec d' v.temp data
  refine ensures_onDisk (fun d' _ => keeps_of_temp reaches (spec d').1) ?_ ?_
  · intro d' _ spared ok
    have isOpen := h.stable owns held d d' spared
    refine ⟨rfl, isOpen.temp_changed apart held (spec d').1, fun ha old same => ?_⟩
    refine (spec d').2.2 ok isOpen.way old ?_
    exact (spared.node _ (.inl (owns ha _ (.inl rfl)))).trans (written ha old same)
  · intro d' _ spared failed
    have isOpen := h.stable owns held d d' spared
    refine ⟨isOpen.temp_changed apart held (spec d').1, fun free => ?_⟩
    have open_ : ∀ n, d'.refusal n (.append v.temp) = Option.none := by
      rcases free with ht | free
      · exact fun n => ((isOpen.clear ht).1 n v.temp).1
      · exact fun n => (free.agrees (spec d').1.symm).allows n _
    exact absurd ((Disk.append_allowed open_ data).symm.trans failed) (by simp)

/-- Where nothing is refused only a closed file takes no more bytes. -/
theorem add_ensures (data : Bytes) (h : v.IsOpen tidy w d) {b : Option Bytes}
    (written : alone → ∀ old, b = some old → d.node? (Path.place v.temp) = some (.file old)) :
    ((add data).attempt w).Ensures r (Ends (fun _ w' d => w' = w ∧ v.IsOpen tidy w d ∧ (alone →
      ∀ old, b = some old → d.node? (Path.place v.temp) = some (.file (old ++ data))))
        fun w' d => v.IsOpen tidy w' d ∧ (tidy ∨ v.IsFree d → w.openPath = none)) d := by
  refine Call.ensures_get ?_
  rcases h.handle with none | some
  · simp only [none]
    exact ⟨h, fun _ => trivial⟩
  · simp only [some]
    refine (append_ensures owns reaches apart held data h written).mono ?_
    rintro ⟨result, w'⟩ d ended
    cases result with
    | error e => exact ⟨ended.1, fun free => absurd free ended.2⟩
    | ok _ => exact ended

/-- The file beside is left as it is when it is closed. -/
theorem flush_ensures (h : v.IsOpen tidy w d) {b : Option Bytes}
    (written : alone → ∀ old, b = some old → d.node? (Path.place v.temp) = some (.file old)) :
    (flushFile.attempt w).Ensures r (Ends (fun _ w' d => w' = { w with openPath := none } ∧
      v.IsOpen tidy w' d ∧ (alone →
        ∀ old, b = some old → d.node? (Path.place v.temp) = some (.file old)))
          fun w' d => v.IsOpen tidy w' d ∧ ¬ (tidy ∨ v.IsFree d)) d := by
  refine Call.ensures_get ?_
  rcases h.handle with none | some
  · simp only [none]
    refine Call.ensures_pure ⟨?_, h, written⟩
    rw [← none]
  · simp only [some]
    have closed : v.IsOpen tidy { w with openPath := none } d :=
      ⟨.inl rfl, h.pending, h.placed, h.way, h.clear⟩
    refine (append_ensures owns reaches apart held [] closed written).mono ?_
    rintro ⟨result, w'⟩ d ended
    cases result with
    | error e => exact ended
    | ok _ =>
      obtain ⟨rfl, isOpen, same⟩ := ended
      simp only [List.append_nil] at same
      exact ⟨rfl, isOpen, same⟩

theorem addPage_open (h : v.IsOpen tidy w d) :
    ((v.sink.add page).attempt w).Ensures r (fun x => v.IsOpen tidy x.2) d := by
  have ends : ((v.sink.add page).attempt w).Ensures r
      (Ends (fun _ => v.IsOpen tidy) (v.IsOpen tidy)) d := by
    refine Call.ensures_bind (Q := fun _ => v.IsOpen tidy)
      (Call.ensures_ofAttempt (fun _ _ => h) fun _ _ => h) ?_
    intro text w d h
    refine (add_ensures owns reaches apart held (Utf8.encode text) h (b := none) (by simp)).mono ?_
    rintro ⟨result, w'⟩ d ended
    cases result with
    | error e => exact ended.1
    | ok _ =>
      obtain ⟨rfl, isOpen, -⟩ := ended
      exact isOpen
  refine ends.mono ?_
  rintro ⟨result, w⟩ d ended
  cases result with
  | error e => exact ended
  | ok _ => exact ended

/-- The rows of a page are written behind the others, unless they have no text. -/
theorem addPage_taken (isOf : page.IsOf v.schema new) (h : v.Taken tidy alone rows w d) :
    ((v.sink.add page).attempt w).Ensures r (Ends (fun _ => v.Taken tidy alone (rows ++ new))
      fun w d => v.IsOpen tidy w d ∧ (alone ∧ v.IsFree d → v.Refuses (rows ++ new))) d := by
  obtain ⟨⟨isOpen, bytes, rendered, written⟩, handle⟩ := h
  refine Call.ensures_bind (Q := fun text w' d' => w' = w ∧ d' = d ∧
    Csv.pageText v.options v.dialect v.schema page = .ok text)
    (Call.ensures_ofAttempt (fun _ ok => ⟨rfl, rfl, ok⟩) fun e failed => ⟨isOpen, ?_⟩) ?_
  · intro _ bytes told
    obtain ⟨_, text, -, ok, -⟩ := Csv.fileBytes_parts told
    rw [Csv.pageText_eq isOf, ok] at failed
    cases failed
  · rintro text w d ⟨rfl, rfl, ok⟩
    rw [Csv.pageText_eq isOf] at ok
    refine (add_ensures owns reaches apart held (Utf8.encode text) isOpen (b := some bytes)
      fun ha old same => by cases same; exact written ha).mono ?_
    rintro ⟨result, w'⟩ d ended
    cases result with
    | error e =>
      refine ⟨ended.1, fun able => ?_⟩
      exact absurd (handle.symm.trans (ended.2 (.inr able.2))) (by simp)
    | ok _ =>
      obtain ⟨rfl, isOpen, grown⟩ := ended
      exact ⟨⟨isOpen, _, Csv.fileBytes_append rendered ok, fun ha => grown ha bytes rfl⟩, handle⟩

theorem nextFile_ensures (before : tidy → Allows d ∧ v.IsClear d) :
    ((nextFile v.naming v.index).attempt .blank).Ensures r
      (Ends (fun _ w d => w.openPath = some v.temp ∧ v.IsOpen tidy w d ∧
        d.node? (Path.place v.temp) = some (.file []))
        fun _ d => (tidy → v.IsClear d) ∧ ¬ (alone ∧ v.IsFree d)) d := by
  refine ensures_flushClosed rfl (Call.ensures_get ?_)
  refine Call.ensures_bind (Q := fun _ w d => w = .blank ∧ d.LeadsTo v.temp ∧
    (tidy → Allows d ∧ d.IsVacant (Path.place v.path)) ∧
      d.node? (Path.place v.temp) = some (.file [])) (ensures_onDisk ?_ ?_ ?_) ?_
  · intro d' _
    rcases Disk.create_spec d' v.temp with ⟨_, _, same⟩ | ⟨_, changed, _, _⟩
    · exact same _
    · exact keeps_of_temp reaches changed
  · intro d' _ spared ok
    have before := IsClear.stable owns held d d' spared before
    rcases Disk.create_spec d' v.temp with ⟨_, failed, _⟩ | ⟨_, changed, way, empty⟩
    · exact absurd (failed.symm.trans ok) (by simp)
    · refine ⟨rfl, way, fun ht => ⟨fun n path => ?_, ?_⟩, empty⟩
      · have allowed := (before ht).1 n path
        rwa [← changed.refusal] at allowed
      · exact changed.vacant (Ne.symm (apart (held ht))) (before ht).2.2
  · intro d' e spared failed
    have before := IsClear.stable owns held d d' spared before
    rcases Disk.create_spec d' v.temp with ⟨_, _, same⟩ | ⟨ok, _, _, _⟩
    · refine ⟨fun ht => ⟨(same fun _ => True).vacant trivial (before ht).2.1,
        (same fun _ => True).vacant trivial (before ht).2.2⟩, fun able => ?_⟩
      have free := able.2.agrees (same fun _ => True).symm
      have made := Disk.create_allowed (fun n => free.allows n _) free.temp.1 free.temp.2
      exact absurd ((congrArg Prod.fst made).symm.trans failed) (by simp)
    · exact absurd (ok.symm.trans failed) (by simp)
  · rintro _ w d ⟨rfl, way, clear, empty⟩
    exact ⟨rfl, ⟨.inr rfl, rfl, rfl, way, clear⟩, empty⟩

theorem start_ensures (before : tidy → Allows d ∧ v.IsClear d) :
    (v.sink.start.attempt .blank).Ensures r (Ends (fun _ => v.Taken tidy alone [])
      fun _ d => (tidy → v.IsClear d) ∧ ¬ (alone ∧ v.IsFree d)) d := by
  have header : v.bytes [] = .ok (Csv.headerBytes v.options v.dialect v.schema) := by
    rw [bytes, Csv.fileBytes_nil]
  refine Call.ensures_bind (nextFile_ensures owns reaches apart held before) ?_
  rintro _ w d ⟨handle, isOpen, empty⟩
  by_cases wanted : v.options.hasHeader
  · simp only [wanted, if_true]
    refine (add_ensures owns reaches apart held _ isOpen (b := some []) fun _ old same => ?_).mono ?_
    · cases same
      exact empty
    · rintro ⟨result, w'⟩ d ended
      cases result with
      | error e =>
        have refused : ¬ (tidy ∨ v.IsFree d) := fun free =>
          absurd (handle.symm.trans (ended.2 free)) (by simp)
        exact ⟨fun ht => absurd (.inl ht) refused, fun able => refused (.inr able.2)⟩
      | ok _ =>
        obtain ⟨rfl, isOpen, grown⟩ := ended
        refine ⟨⟨isOpen, _, header, fun ha => ?_⟩, handle⟩
        rw [grown ha [] rfl, Csv.headerBytes, if_pos wanted, List.nil_append]
  · simp only [wanted]
    refine Call.ensures_pure ⟨⟨isOpen, _, header, fun _ => ?_⟩, handle⟩
    rw [empty, Csv.headerBytes, if_neg wanted]

/-- Closing the file beside does not change what it holds. -/
theorem flush_written (h : v.Written tidy alone rows w d) : (flushFile.attempt w).Ensures r
    (Ends (fun _ w' d => w'.openPath = none ∧ v.Written tidy alone rows w' d)
      fun w d => v.IsOpen tidy w d ∧ ¬ (alone ∧ v.IsFree d)) d := by
  obtain ⟨isOpen, bytes, rendered, written⟩ := h
  refine (flush_ensures owns reaches apart held isOpen (b := some bytes)
    fun ha old same => by cases same; exact written ha).mono ?_
  rintro ⟨result, w'⟩ d ended
  cases result with
  | error e => exact ⟨ended.1, fun able => ended.2 (.inr able.2)⟩
  | ok _ =>
    obtain ⟨rfl, isOpen, same⟩ := ended
    exact ⟨rfl, isOpen, bytes, rendered, fun ha => same ha bytes rfl⟩

theorem finish_ensures (h : v.Taken tidy alone rows w d) : (v.sink.finish.attempt w).Ensures r
    (Ends (fun _ => v.Written tidy alone rows)
      fun w d => v.IsOpen tidy w d ∧ ¬ (alone ∧ v.IsFree d)) d := by
  refine (flush_written owns reaches apart held h.1).mono ?_
  rintro ⟨result, w'⟩ d ended
  cases result with
  | error e => exact ended
  | ok _ => exact ended.2

theorem commit_ensures (h : v.Written tidy alone rows w d) : (v.sink.commit.attempt w).Ensures r
    (Ends (fun report _ d => report = v.report ∧ (alone → v.Holds rows d))
      fun w d => v.IsOpen tidy w d ∧ ¬ (alone ∧ v.IsFree d)) d := by
  refine Call.ensures_bind (flush_written owns reaches apart held h) ?_
  rintro _ ⟨handle, pending, placed⟩ d ⟨isClosed, closed⟩
  obtain rfl : handle = none := isClosed
  obtain rfl : pending = [v.path] := closed.1.pending
  obtain rfl : placed = [] := closed.1.placed
  refine Call.ensures_get ?_
  refine Call.ensures_bind (Q := fun _ w d => w.placed = [v.path] ∧ (alone → v.Holds rows d))
    (Call.ensures_bind (Q := fun _ w d => w = ⟨none, [v.path], []⟩ ∧ (alone → v.Holds rows d))
      (ensures_onDisk ?_ ?_ ?_) ?_) ?_
  · intro d' _
    rcases Disk.rename_spec d' v.temp v.path with ⟨_, _, same⟩ | ⟨_, _, changed, _⟩
    · exact same _
    · exact keeps_of_both reaches changed
  · intro d' _ spared ok
    obtain ⟨isOpen, bytes, rendered, written⟩ := closed.stable owns held d d' spared
    rcases Disk.rename_spec d' v.temp v.path with
      ⟨_, failed, _⟩ | ⟨_, way, changed, content, source, target, gone⟩
    · exact absurd (failed.symm.trans ok) (by simp)
    · refine ⟨rfl, fun ha => ?_⟩
      rw [written ha] at source
      cases source
      exact ⟨way.agrees changed, isOpen.way.agrees changed, gone (apart ha), bytes, rendered, target⟩
  · intro d' e spared failed
    obtain ⟨isOpen, bytes, -, written⟩ := closed.stable owns held d d' spared
    rcases Disk.rename_spec d' v.temp v.path with ⟨_, _, same⟩ | ⟨ok, _⟩
    · refine ⟨isOpen.temp_changed apart held (same _), fun able => ?_⟩
      have free := able.2.agrees (same fun _ => True).symm
      have moved := Disk.rename_allowed (fun n => free.allows n _)
        (Disk.fileAt?_eq.mpr ⟨isOpen.way, written able.1⟩) free.final.1 free.final.2
      exact absurd ((congrArg Prod.fst moved).symm.trans failed) (by simp)
    · exact absurd (ok.symm.trans failed) (by simp)
  · rintro _ w d ⟨rfl, holds⟩
    exact Call.ensures_modify (Call.ensures_pure ⟨rfl, holds⟩)
  · rintro _ w d ⟨placed, holds⟩
    refine Call.ensures_get (Call.ensures_modify (Call.ensures_pure ⟨?_, holds⟩))
    simp only [placed]
    rfl

theorem abort_ensures (h : v.IsOpen tidy w d) :
    (v.sink.abort w).Ensures r (fun _ d => tidy → v.IsClear d) d := by
  have removal : (removeAll (w.pending.map tempPath ++ w.placed)).Ensures r
      (fun _ d => tidy → v.IsClear d) d := by
    rw [h.pending, h.placed]
    refine Program.Ensures.andThen (Q := fun _ d => tidy → v.IsClear d)
      (Program.Ensures.onDisk fun d' spared => ?_) fun _ _ clear => clear
    obtain ⟨changed, -, gone⟩ := Disk.remove_spec d' v.temp
    have isOpen := h.stable owns held d d' spared
    refine ⟨keeps_of_temp reaches changed, fun ht => ?_⟩
    obtain ⟨allows, vacant⟩ := isOpen.clear ht
    exact ⟨(gone (fun n => (allows n v.temp).2) isOpen.way).1, changed.vacant (Ne.symm (apart (held ht))) vacant⟩
  change (((removeAll (w.pending.map tempPath ++ w.placed)).andThen fun a => .done (a, w)).andThen
    fun _ => .done ((), Writing.blank)).Ensures r _ d
  rw [Program.andThen_assoc]
  refine removal.andThen ?_
  exact fun _ _ clear => clear

end Places

/-- The contract of a file of a task, for rows whose columns may have had other names before. Nothing is
said of the bytes unless the task has its places for itself. -/
def contract (v : Delivery) (tidy alone : Prop) {s : Schema} (types : s.SameTypes v.schema)
    (owns : alone → ∀ l, v.Owns l → r.own l) (reaches : ∀ l, v.Owns l → r.reach l)
    (apart : alone → Path.place v.temp ≠ Path.place v.path) (held : tidy → alone) :
    SinkContract r s v.sink where
  before := fun d => tidy → Allows d ∧ v.IsClear d
  isOpen := v.IsOpen tidy
  taken := v.Taken tidy alone
  finished := v.Written tidy alone
  committed := fun rows report d => report = v.report ∧ (alone → v.Holds rows d)
  gone := fun d => tidy → v.IsClear d
  able := fun d => alone ∧ v.IsFree d
  refuses := v.Refuses
  initial := .blank
  isOpen_stable := fun _ => IsOpen.stable owns held
  taken_stable := fun _ _ => Taken.stable owns held
  finished_stable := fun _ _ => Written.stable owns held
  committed_stable := fun _ _ _ _ spared h => ⟨h.1, Holds.stable owns _ _ spared h.2⟩
  gone_stable := fun _ _ spared h ht =>
    ⟨spared.vacant (.inl (owns (held ht) _ (.inl rfl))) (h ht).1,
      spared.vacant (.inl (owns (held ht) _ (.inr rfl))) (h ht).2⟩
  able_before := fun agrees able => ⟨able.1, able.2.agrees agrees.symm⟩
  refuses_more := fun _ refused => refused.more _
  taken_open := fun h => h.1.1
  finished_open := fun h => h.1
  start := start_ensures owns reaches apart held
  add := fun isOf h => addPage_taken owns reaches apart held (isOf.renamed types) h
  add_open := addPage_open owns reaches apart held
  finish := finish_ensures owns reaches apart held
  commit := commit_ensures owns reaches apart held
  abort := abort_ensures owns reaches apart held
  close := fun _ _ _ _ hp => hp

end Delivery

section Cleanup

variable {v v' : Delivery} {report : Report} {reports : List Report} {d d' : Disk} {w : World}
  {l : Location} {path : String}

theorem Delivery.path_of_report (h : v.report = v'.report) : v.path = v'.path := by
  simpa [Delivery.report, Document.empty, Document.set, Entries.put] using h

/-- The file of each of these reports is gone, and nothing else. -/
structure Cleaned (reports : List Report) (d d' : Disk) : Prop where
  frame : AgreesOn (fun l => ∀ v : Delivery, v.report ∈ reports → l ≠ Path.place v.path) d d'
  gone : ∀ v : Delivery, v.report ∈ reports → d'.IsVacant (Path.place v.path)

/-- No file appears. -/
theorem Cleaned.vacant (h : Cleaned reports d d') (vacant : d.IsVacant l) : d'.IsVacant l := by
  by_cases given : ∃ v : Delivery, v.report ∈ reports ∧ l = Path.place v.path
  · obtain ⟨v, hv, rfl⟩ := given
    exact h.gone v hv
  · exact h.frame.vacant (fun v hv same => given ⟨v, hv, same⟩) vacant

theorem Cleaned.cons (removed : d'.IsVacant (Path.place v.path))
    (changed : AgreesOn (· ≠ Path.place v.path) d d') {d'' : Disk}
    (h : Cleaned reports d' d'') : Cleaned (v.report :: reports) d d'' where
  frame := (changed.mono fun _ other => other v List.mem_cons_self).trans
    (h.frame.mono fun _ other u hu => other u (List.mem_cons_of_mem _ hu))
  gone := by
    intro u hu
    rcases List.mem_cons.mp hu with same | hu
    · rw [Delivery.path_of_report same]
      exact h.vacant removed
    · exact h.gone u hu

theorem removeListed_single (allows : ∀ n, w.disk.refusal n (.remove path) = none)
    (way : w.disk.LeadsTo path) (plain : w.disk.node? (Path.place path) ≠ some .directory) :
    (removeListed [path]).run w = (.ok (), { w with disk := (w.disk.remove path).2 }) := by
  have ran : (Program.onDisk (·.remove path) : Action _).run w =
      ((w.disk.remove path).1, { w with disk := (w.disk.remove path).2 }) := rfl
  rw [removeListed, Program.run_bind, ran]
  rcases (Disk.remove_gone allows way plain).1 with done | gone
  · simp only [done]
    rfl
  · simp only [gone]
    rfl

/-- Where nothing refuses to be removed, a cleanup succeeds. -/
theorem cleanup_removes (allows : ∀ n path, w.disk.refusal n (.remove path) = none)
    (held : ∀ report ∈ reports, ∃ v : Delivery, report = v.report ∧ w.disk.LeadsTo v.path ∧
      w.disk.node? (Path.place v.path) ≠ some .directory) :
    ((cleanup reports).run w).1 = .ok () ∧
      Cleaned reports w.disk ((cleanup reports).run w).2.disk := by
  induction reports generalizing w with
  | nil => exact ⟨rfl, .refl _ _, by simp⟩
  | cons report rest ih =>
    obtain ⟨v, rfl, way, plain⟩ := held report List.mem_cons_self
    obtain ⟨-, removed, changed⟩ := Disk.remove_gone (fun n => allows n v.path) way plain
    have first := removeListed_single (fun n => allows n v.path) way plain
    have left : (cleanup (v.report :: rest)).run w =
        (cleanup rest).run { w with disk := (w.disk.remove v.path).2 } := by
      have listed : v.report.getOr "files" .strings [] = .ok [v.path] := rfl
      rw [cleanup, listed]
      dsimp only
      rw [Program.run_bind, first]
    rw [left]
    obtain ⟨done, cleaned⟩ := ih (w := { w with disk := (w.disk.remove v.path).2 })
      (fun n path => by rw [changed.refusal]; exact allows n path) fun report hr => by
        obtain ⟨u, same, way, plain⟩ := held report (List.mem_cons_of_mem _ hr)
        exact ⟨u, same, way.agrees changed, fun here => plain ((changed.directory _).mp here)⟩
    exact ⟨done, cleaned.cons removed changed⟩

end Cleanup

end BulkTransfer.LocalOutput
