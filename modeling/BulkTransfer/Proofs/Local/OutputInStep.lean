import BulkTransfer.Proofs.Local.Output
import BulkTransfer.Proofs.Transfer.TaskInStep
/-!
# A file in step with itself

What the sink of a task does on the disk concerns its own two places. Where nobody else changes them, or
what is on the way to them, each call comes to the same again.
-/
namespace BulkTransfer

namespace Call

variable {σ α β : Type} {s : Site} {c : Call σ α} {f : α → Call σ β} {st : σ}
  {P : Attempt α × σ → Prop} {S : Attempt β × σ → Prop}

theorem repeats_bind (h : (c.attempt st).Repeats s P) (bad : ∀ e st, P (.error e, st) → S (.error e, st))
    (hf : ∀ a st, P (.ok a, st) → ((f a).attempt st).Repeats s S) :
    ((c >>= f).attempt st).Repeats s S := by
  refine Program.Repeats.andThen h ?_
  rintro ⟨answer, st⟩ hp
  cases answer with
  | error e => exact .done (bad e st hp)
  | ok a => exact hf a st hp

theorem repeats_get {f : σ → Call σ β} (h : ((f st).attempt st).Repeats s S) :
    ((get >>= f).attempt st).Repeats s S := h

end Call

namespace LocalOutput

open Delivery

/-- A site with a sink of its own. It can tell where the files of the sink are, and the sink may change
them where they can be written at all. -/
structure Delivery.IsAt (v : Delivery) (s : Site) : Prop where
  temp : s.Knows v.temp
  final : s.Knows v.path
  reaches : s.launch.LeadsTo v.temp → ∀ l, v.Owns l → s.reach l

/-- The sink has no files but its own, and none at all unless they can be written. -/
structure Delivery.Within (v : Delivery) (s : Site) (w : Writing) : Prop where
  handle : ∀ temp ∈ w.openPath, temp = v.temp
  pending : ∀ path ∈ w.pending, path = v.path
  placed : ∀ path ∈ w.placed, path = v.path
  led : w = .blank ∨ s.launch.LeadsTo v.temp

variable {α β : Type} {v : Delivery} {s : Site} {w : Writing}

namespace Delivery.Within

theorem blank (v : Delivery) (s : Site) : v.Within s .blank :=
  ⟨by simp [Writing.blank], by simp [Writing.blank], by simp [Writing.blank], .inl rfl⟩

theorem closed (h : v.Within s w) : v.Within s { w with openPath := none } := by
  refine ⟨by simp, h.pending, h.placed, h.led.imp_left ?_⟩
  rintro rfl
  rfl

/-- A sink with a file has a way to it. -/
theorem way (h : v.Within s w) (some : w.openPath ≠ none ∨ w.pending ≠ [] ∨ w.placed ≠ []) :
    s.launch.LeadsTo v.temp := by
  refine h.led.resolve_left ?_
  rintro rfl
  simp [Writing.blank] at some

end Delivery.Within

/-- A call that touches the disk once, where it keeps to the site and does the same again. -/
theorem repeats_onDisk {operation : Disk → Except IoError α × Disk} {fault : IoError → PluginError}
    {P : Attempt α × Writing → Prop}
    (h : ∀ d d', s.Launched d → s.Spared d d' → s.Keeps d (operation d).2 ∧
      Disk.Same (fun l => s.own l ∨ s.read l) (operation d) (operation d') ∧
        P ((operation d).1.mapError fault, w)) :
    ((onDisk operation fault).attempt w).Repeats s P := by
  have answered : (Program.onDisk operation).Repeats s fun x => P (x.mapError fault, w) := .onDisk h
  have mapped : ((Program.onDisk operation).andThen fun x => .done (x.mapError fault) :
      Action (Attempt α)).Repeats s fun x => P (x, w) := answered.andThen fun x hx => .done hx
  exact mapped.andThen fun x hx => .done hx

section Calls

variable (at_ : v.IsAt s)

include at_

theorem keeps_of_way (way : s.launch.LeadsTo v.temp) {d d' : Disk}
    (changed : d.AgreesOn (fun l => ¬ v.Owns l) d') : s.Keeps d d' :=
  changed.mono fun l foreign own => foreign (at_.reaches way l own)

theorem append_repeats (data : Bytes) (way : s.launch.LeadsTo v.temp) (h : v.Within s w) :
    ((onDisk (·.append v.temp data) .io).attempt w).Repeats s fun x => v.Within s x.2 := by
  refine repeats_onDisk fun d d' launched spared => ⟨keeps_of_way at_ way ?_, ?_, h⟩
  · exact (Disk.append_spec d v.temp data).1.mono fun l foreign here => foreign (.inl here)
  · exact spared.append (s.steady.agrees launched) (at_.temp.sameWay launched spared) data

theorem add_repeats (data : Bytes) (h : v.Within s w) :
    ((add data).attempt w).Repeats s fun x => v.Within s x.2 := by
  refine Call.repeats_get ?_
  cases handle : w.openPath with
  | none => exact .done h
  | some temp =>
    obtain rfl := h.handle temp handle
    exact append_repeats at_ data (h.way (.inl (by simp [handle]))) h

theorem flush_repeats (h : v.Within s w) :
    (flushFile.attempt w).Repeats s fun x => v.Within s x.2 := by
  refine Call.repeats_get ?_
  cases handle : w.openPath with
  | none => exact .done h
  | some temp =>
    obtain rfl := h.handle temp handle
    exact append_repeats at_ [] (h.way (.inl (by simp [handle]))) h.closed

theorem nextFile_repeats :
    ((nextFile v.naming v.index).attempt .blank).Repeats s fun x => v.Within s x.2 := by
  refine Call.repeats_bind (P := fun x => x.2 = .blank) (.done rfl) ?_ ?_
  · rintro e st rfl
    exact .blank v s
  rintro a st rfl
  refine Call.repeats_get ?_
  refine Call.repeats_bind (P := fun x => x.2 = .blank ∧ ∀ a, x.1 = .ok a → s.launch.LeadsTo v.temp)
    (repeats_onDisk fun d d' launched spared => ?_) ?_ ?_
  · have same := spared.create (s.steady.agrees launched) (at_.temp.sameWay launched spared)
    rcases Disk.create_spec d v.temp with ⟨fault, failed, kept⟩ | ⟨ok, changed, way, -⟩
    · refine ⟨kept _, same, rfl, fun a made => ?_⟩
      have made : (d.create v.temp).1.mapError (PluginError.file v.temp) = .ok a := made
      rw [failed] at made
      cases made
    · have led := (way.agrees changed.symm).agrees launched.symm
      refine ⟨keeps_of_way at_ led ?_, same, rfl, fun _ _ => led⟩
      exact changed.mono fun l foreign here => foreign (.inl here)
  · rintro e st ⟨rfl, -⟩
    exact .blank v s
  · rintro a st ⟨rfl, led⟩
    exact .done ⟨fun temp hm => (Option.some.inj hm).symm, fun path hm => List.mem_singleton.mp hm,
      fun path hm => absurd hm List.not_mem_nil, .inr (led a rfl)⟩

theorem placeAll_repeats {paths : List String} (own : ∀ path ∈ paths, path = v.path)
    (h : v.Within s w) (led : paths ≠ [] → s.launch.LeadsTo v.temp) :
    ((placeAll paths).attempt w).Repeats s fun x => v.Within s x.2 := by
  induction paths generalizing w with
  | nil => exact .done h
  | cons path rest ih =>
    obtain rfl := own path List.mem_cons_self
    have way := led (List.cons_ne_nil _ _)
    refine Call.repeats_bind (P := fun x => x.2 = w) (repeats_onDisk fun d d' launched spared => ?_) ?_ ?_
    · have same := spared.rename (s.steady.agrees launched) (at_.temp.sameWay launched spared)
        (at_.final.sameWay launched spared)
      refine ⟨keeps_of_way at_ way ?_, same, rfl⟩
      rcases Disk.rename_spec d v.temp v.path with ⟨_, _, kept⟩ | ⟨_, _, changed, _⟩
      · exact kept _
      · exact changed.mono fun l foreign => ⟨fun here => foreign (.inl here),
          fun here => foreign (.inr here)⟩
    · rintro e st rfl
      exact h
    · rintro a st rfl
      refine ih (fun other hm => own other (List.mem_cons_of_mem _ hm)) ?_ fun _ => way
      exact ⟨h.handle, fun other hm => own other (List.mem_cons_of_mem _ hm),
        by simpa [or_imp, forall_and] using h.placed, .inr way⟩

theorem commit_repeats (h : v.Within s w) :
    (commit.attempt w).Repeats s fun x => v.Within s x.2 := by
  refine Call.repeats_bind (flush_repeats at_ h) (fun _ _ h => h) fun _ st h => ?_
  refine Call.repeats_get ?_
  refine Call.repeats_bind (placeAll_repeats at_ h.pending h fun some => ?_) (fun _ _ h => h) ?_
  · exact h.way (.inr (.inl some))
  · rintro a st h
    refine .done ⟨h.handle, h.pending, by simp, h.led.imp_left ?_⟩
    rintro rfl
    rfl

theorem removeAll_repeats {paths : List String}
    (own : ∀ path ∈ paths, path = v.temp ∨ path = v.path)
    (led : paths ≠ [] → s.launch.LeadsTo v.temp) : (removeAll paths).Repeats s fun _ => True := by
  induction paths with
  | nil => exact .done trivial
  | cons path rest ih =>
    have way := led (List.cons_ne_nil _ _)
    refine Program.Repeats.andThen (P := fun _ => True) (.onDisk fun d d' launched spared => ?_)
      fun _ _ => ih (fun other hm => own other (List.mem_cons_of_mem _ hm)) fun _ => way
    have known : s.Knows path := by
      rcases own path List.mem_cons_self with rfl | rfl
      · exact at_.temp
      · exact at_.final
    refine ⟨keeps_of_way at_ way ?_, spared.remove (s.steady.agrees launched)
      (known.sameWay launched spared), trivial⟩
    refine (Disk.remove_spec d path).1.mono fun l foreign here => foreign ?_
    rw [here]
    exact (own path List.mem_cons_self).imp (congrArg Path.place) (congrArg Path.place)

theorem abort_repeats (h : v.Within s w) : (abort w).Repeats s fun x => v.Within s x.2 := by
  have removal : (removeAll (w.pending.map tempPath ++ w.placed)).Repeats s fun _ => True := by
    refine removeAll_repeats at_ ?_ ?_
    · intro path hm
      rcases List.mem_append.mp hm with pending | placed
      · obtain ⟨final, hp, rfl⟩ := List.mem_map.mp pending
        exact .inl (congrArg tempPath (h.pending final hp))
      · exact .inr (h.placed path placed)
    · intro some
      refine h.way (.inr ?_)
      by_contra none
      simp_all
  change (((removeAll (w.pending.map tempPath ++ w.placed)).andThen fun a => .done (a, w)).andThen
    fun _ => .done ((), Writing.blank)).Repeats s _
  rw [Program.andThen_assoc]
  exact removal.andThen fun _ _ => .done (.blank v s)

/-- The sink of a delivery at a site is in step with itself there. -/
theorem Delivery.sink_repeats : v.sink.Repeats s .blank (v.Within s) where
  start := by
    refine Call.repeats_bind (nextFile_repeats at_) (fun _ _ h => h) fun _ st h => ?_
    by_cases wanted : v.options.hasHeader
    · simp only [wanted, if_true]
      exact add_repeats at_ _ h
    · simp only [wanted]
      exact .done h
  same := by
    intro p q like
    have text : Csv.pageText v.options v.dialect v.schema p =
        Csv.pageText v.options v.dialect v.schema q := by
      rw [Csv.pageText, Csv.pageText, like.records]
    simp only [Delivery.sink, Csv.pageSink, text]
  add := by
    intro page st h
    exact Call.repeats_bind (P := fun x => v.Within s x.2) (.done h) (fun _ _ h => h) fun text st h => add_repeats at_ _ h
  finish := flush_repeats at_
  commit := commit_repeats at_
  abort := abort_repeats at_
  close := fun h => .done h.closed

end Calls

end LocalOutput

end BulkTransfer
