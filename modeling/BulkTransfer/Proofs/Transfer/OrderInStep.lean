import BulkTransfer.Proofs.Local.Naming
import BulkTransfer.Proofs.Local.OutputInStep
import BulkTransfer.Proofs.Plugin.Reliance
import BulkTransfer.Proofs.Transfer.OrderTasks
import BulkTransfer.Proofs.Transfer.Sessions
/-!
# The tasks of an order in step

Tasks of an order whose outputs are in places of their own never see what the others do. Each of them
ends as it would alone, so a session ends the same under every schedule.
-/
namespace BulkTransfer

open LocalOutput (Delivery)

/-- No task dies, and nobody asks for a stop. -/
structure World.IsCalm (w : World) : Prop where
  crash : ∀ choice ∈ w.schedule, ¬ choice.IsCrash
  stop : ¬ w.MayStop

namespace Order

variable (o : Order) (launch : Disk)

/-- A task can write to this place: it is that of a file of its own, and there is a way to it. -/
def Writes (i : Nat) (l : Location) : Prop :=
  i < o.files.length ∧ ∃ v, o.delivery? i = some v ∧ v.Owns l ∧ launch.LeadsTo v.temp

/-- The tasks can be launched on this disk without getting into each other's way. -/
structure IsParted (n : LocalOutput.Naming) : Prop where
  steady : launch.IsSteady
  writes : ∃ formatterConfig options dialect, o.destination = .files n formatterConfig options dialect
  outputs : n.Apart o.files.length
  inputs : ∀ i < o.files.length, ∀ path ∈ o.files, ¬ o.Owns i (Path.place path)
  ways : ∀ path ∈ o.files, ∀ m ∈ Disk.gates path,
    launch.node? m = some .directory ∨ ∀ i < o.files.length, ¬ o.Owns i m

/-- A task has the places that it can write to, and knows those that no task can. -/
def site (steady : launch.IsSteady) (pageSize i : Nat) : Site where
  own := o.Writes launch i
  reach := o.Writes launch i
  read := fun l => ∀ j, ¬ o.Writes launch j l
  apart := fun _ own none => none i own
  pageSize
  launch
  steady

variable {o launch} {n : LocalOutput.Naming} {pageSize i j : Nat} {path : String} {l : Location}

namespace IsParted

variable (h : o.IsParted launch n)

include h

theorem spread : o.IsSpread := by
  obtain ⟨_, _, _, files⟩ := h.writes
  exact isSpread_files files h.outputs

theorem delivery : ∃ v, o.delivery? i = some v ∧ v.path = n.path i 0 := by
  obtain ⟨_, _, _, files⟩ := h.writes
  exact ⟨_, delivery_files files i, rfl⟩

/-- A place is known to a task when it is its own as soon as some task can write to it. -/
theorem knows_of (foreign : ∀ j, j ≠ i → ¬ o.Writes launch j l) :
    (o.site launch h.steady pageSize i).own l ∨ (o.site launch h.steady pageSize i).read l := by
  by_cases own : o.Writes launch i l
  · exact .inl own
  · refine .inr fun j writes => ?_
    by_cases same : j = i
    · exact own (same ▸ writes)
    · exact foreign j same writes

theorem knows_output {v : Delivery} (inside : i < o.files.length) (hv : o.delivery? i = some v)
    (own : path = v.path ∨ path = v.temp) : (o.site launch h.steady pageSize i).Knows path := by
  obtain ⟨_, delivers, named⟩ := h.delivery (i := i)
  obtain rfl := Option.some.inj (delivers.symm.trans hv)
  constructor
  · intro m hm other
    refine h.knows_of fun j different ⟨hj, u, hu, owned, way⟩ => ?_
    obtain ⟨_, delivers', named'⟩ := h.delivery (i := j)
    obtain rfl := Option.some.inj (delivers'.symm.trans hu)
    rw [Delivery.temp, named] at own
    rcases h.outputs.gates_apart inside hj different.symm own hm with gate | ⟨final, temp⟩
    · rw [← named'] at gate
      exact other (Disk.resolve_gates way.1 m gate)
    · rw [Delivery.Owns, Delivery.temp, named'] at owned
      exact owned.elim temp final
  · refine h.knows_of fun j different ⟨hj, u, hu, owned, _⟩ => ?_
    have here : o.Owns i (Path.place path) := ⟨_, hv, own.symm.imp (congrArg _) (congrArg _)⟩
    exact h.spread.outputs i inside j hj different.symm _ here ⟨u, hu, owned⟩

theorem knows_input (hp : path ∈ o.files) : (o.site launch h.steady pageSize i).Knows path where
  gates := fun m hm other => by
    rcases h.ways path hp m hm with directory | foreign
    · exact absurd directory other
    · exact .inr fun j ⟨hj, u, hu, owned, _⟩ => foreign j hj ⟨u, hu, owned⟩
  place := .inr fun j ⟨hj, u, hu, owned, _⟩ => h.inputs j hj path hp ⟨u, hu, owned⟩

theorem delivery_isAt {v : Delivery} (inside : i < o.files.length) (hv : o.delivery? i = some v) :
    v.IsAt (o.site launch h.steady pageSize i) where
  temp := h.knows_output inside hv (.inr rfl)
  final := h.knows_output inside hv (.inl rfl)
  reaches := fun way _ owned => ⟨inside, v, hv, owned, way⟩

/-- Whatever the others do meanwhile, a task takes the same steps. -/
theorem perform_repeats {plugins : TransferPlugins} {config : Config} (b : plugins.IsBuiltIn config)
    (ordered : ofConfig config o.files = .ok o) {filters : List FilterTask}
    (known : ∀ f ∈ filters, ∃ choice ∈ plugins.filters, f.plugin = choice.plugin)
    (inside : i < o.files.length) :
    (TaskPlan.perform ⟨plugins.input, o.source.task o.files, o.source.schema, filters,
      plugins.output, o.destination.task, o.schema⟩ i).Repeats (o.site launch h.steady pageSize i)
        fun _ => True := by
  obtain ⟨stage, opened, transparent⟩ := filters_transparent b known
  obtain ⟨cut, fed⟩ := input_feeds b (List.getElem?_eq_getElem inside)
  obtain ⟨v, delivers, -⟩ := h.delivery (i := i)
  exact TaskPlan.perform_repeats opened transparent fed (output_opens b ordered delivers)
    (h.knows_input (List.getElem_mem inside))
    (LocalOutput.Delivery.sink_repeats (h.delivery_isAt inside delivers))

section Sessions

variable {p : TaskPlan} {pending : List Nat} {limit limit' : Option Nat} {v w w' : World}

/-- Each of the tasks ends as it does alone in some world. -/
def team (distinct : pending.Nodup) (inside : ∀ i ∈ pending, i < o.files.length)
    (repeats : ∀ i ∈ pending, (p.perform i).Repeats (o.site launch h.steady pageSize i) fun _ => True)
    (sized : v.pool.pageSize = pageSize) (there : v.disk = launch) : Team p pending where
  region := fun i => (o.site launch h.steady pageSize i).toRegion
  pre := fun i d => (o.site launch h.steady pageSize i).Spared d launch
  post := fun i outcome d => outcome = ((p.perform i).run v).1 ∧
    (o.site launch h.steady pageSize i).Spared d ((p.perform i).run v).2.disk
  distinct := distinct
  apart := by
    rintro i hi j hj other l ⟨_, u, hu, owned, way⟩
    refine ⟨fun ⟨_, u', hu', owned', _⟩ => ?_, fun none => none i ⟨inside i hi, u, hu, owned, way⟩⟩
    exact h.spread.outputs i (inside i hi) j (inside j hj) other l ⟨u, hu, owned⟩ ⟨u', hu', owned'⟩
  pre_stable := fun _ _ _ spared before => spared.symm.trans before
  post_stable := fun _ _ _ _ spared after => ⟨after.1, spared.symm.trans after.2⟩
  perform := fun i hi d before =>
    (repeats i hi).inStep.ensures (before.symm.mono fun _ => False.elim) (there.symm ▸ before) sized

/-- However its tasks are scheduled, a session ends with the outcomes that they have alone, and each has
left its files as it would alone. -/
theorem serve_alone (ascending : pending.Pairwise (· < ·)) (inside : ∀ i ∈ pending, i < o.files.length)
    (repeats : ∀ i ∈ pending, (p.perform i).Repeats (o.site launch h.steady pageSize i) fun _ => True)
    (sized : v.pool.pageSize = pageSize) (there : v.disk = launch) (room : limit.all (0 < ·))
    (calm : w.IsCalm) (sized' : w.pool.pageSize = pageSize) (here : w.disk = launch) :
    (Workers.serve p limit pending w).1.outcomes = pending.map (fun i => ((p.perform i).run v).1) ∧
      (∀ i ∈ pending, (o.site launch h.steady pageSize i).Spared ((p.perform i).run v).2.disk
        (Workers.serve p limit pending w).2.disk) ∧
          launch.AgreesOn (fun l => ∀ i ∈ pending, ¬ o.Writes launch i l)
            (Workers.serve p limit pending w).2.disk := by
  subst here
  obtain ⟨each, frame⟩ := (h.team (ascending.imp Nat.ne_of_lt) inside repeats sized there).serve room
    (w := w) (fun _ _ => .refl _ _) (fun _ _ => sized') (fun stops => absurd stops calm.stop)
    fun ⟨choice, hm, crash⟩ => absurd crash (calm.crash choice hm)
  have outcomes := Workers.serve_outcomes room ascending (f := fun i => ((p.perform i).run v).1)
    fun outcome hm => (each outcome hm).1
  refine ⟨outcomes, fun i hi => ?_, frame⟩
  have ended : ((p.perform i).run v).1 ∈ (Workers.serve p limit pending w).1.outcomes := by
    rw [outcomes]
    exact List.mem_map_of_mem hi
  have index : ((p.perform i).run v).1.index = i := (p.perform_index i).run v
  have left := (each _ ended).2
  rw [index] at left
  exact left.symm

/-- However the tasks are scheduled, and however many of them may run at a time, they end the same, and so
does the disk. -/
theorem serve_alike (ascending : pending.Pairwise (· < ·)) (inside : ∀ i ∈ pending, i < o.files.length)
    (repeats : ∀ i ∈ pending, (p.perform i).Repeats (o.site launch h.steady pageSize i) fun _ => True)
    (room : limit.all (0 < ·)) (calm : w.IsCalm) (sized : w.pool.pageSize = pageSize)
    (here : w.disk = launch) (room' : limit'.all (0 < ·)) (calm' : w'.IsCalm)
    (sized' : w'.pool.pageSize = pageSize) (here' : w'.disk = launch) :
    (Workers.serve p limit pending w).1.outcomes = (Workers.serve p limit' pending w').1.outcomes ∧
      (Workers.serve p limit pending w).2.disk.AgreesOn (fun _ => True)
        (Workers.serve p limit' pending w').2.disk := by
  obtain ⟨outcomes, left, frame⟩ :=
    h.serve_alone ascending inside repeats sized here room calm sized here
  obtain ⟨outcomes', left', frame'⟩ :=
    h.serve_alone ascending inside repeats sized here room' calm' sized' here'
  have both := (frame.symm.mono fun _ => False.elim).trans (frame'.mono fun _ => False.elim)
  refine ⟨outcomes.trans outcomes'.symm, both.directory, fun l _ => ?_, both.refusal⟩
  by_cases written : ∃ i ∈ pending, o.Writes launch i l
  · obtain ⟨i, hi, writes⟩ := written
    exact ((left' i hi).node l (.inl writes)).trans ((left i hi).node l (.inl writes)).symm
  · have foreign : ∀ i ∈ pending, ¬ o.Writes launch i l := fun i hi writes => written ⟨i, hi, writes⟩
    exact (frame'.node l foreign).trans (frame.node l foreign).symm

end Sessions

end IsParted

end Order

end BulkTransfer
