import BulkTransfer.Proofs.Transfer.OrderFlight
import BulkTransfer.Proofs.Transfer.OrderInStep
/-!
# Twin flights

Two flights of one transfer, in worlds with the same disk, may run their tasks in any order and as many
at a time as they like. When the tasks of the order do not get into each other's way, both flights end
alike: with the same result, the same progress and the same files.
-/
namespace BulkTransfer

/-- The flights have come to the same, but for their settings and what happened in between. -/
structure Flight.Alike (t t' : Flight) : Prop where
  progress : t'.progress = t.progress
  outputDiff : t'.outputDiff = t.outputDiff

theorem Flight.Alike.settle {t t' : Flight} (h : t.Alike t') {crew crew' : Crew}
    (same : crew.outcomes = crew'.outcomes) : (t.settle crew).Alike (t'.settle crew') := by
  refine ⟨?_, h.outputDiff⟩
  rw [Flight.settle, Flight.settle, h.progress, same]

/-- What departs in the one world lands like what departs in the other one. -/
structure Departure.FliesLike (d : Departure) (w : World) (d' : Departure) (w' : World) : Prop where
  result : (d.fly.run w).1.result = (d'.fly.run w').1.result
  flight : (d.fly.run w).1.flight.Alike (d'.fly.run w').1.flight
  disk : (d.fly.run w).2.disk.AgreesOn (fun _ => True) (d'.fly.run w').2.disk

namespace Executor

variable {α α' β β' : Type} {t t' : Flight} {w w' : World}

/-- From these flights and worlds, the computations end alike, and so do the disks. -/
def Twins (ends : α → α' → Prop) (m : Flying α) (t : Flight) (w : World) (m' : Flying α') (t' : Flight)
    (w' : World) : Prop :=
  Leads m t w fun a u v => Leads m' t' w' fun a' u' v' =>
    ends a a' ∧ u.Alike u' ∧ v.disk.AgreesOn (fun _ => True) v'.disk

namespace Twins

variable {ends : α → α' → Prop} {last : β → β' → Prop} {m : Flying α} {m' : Flying α'}

theorem pure {a : α} {a' : α'} (h : ends a a') (alike : t.Alike t')
    (agrees : w.disk.AgreesOn (fun _ => True) w'.disk) :
    Twins ends (Pure.pure a) t w (Pure.pure a') t' w' := ⟨h, alike, agrees⟩

theorem bind {f : α → Flying β} {f' : α' → Flying β'} (h : Twins ends m t w m' t' w')
    (hf : ∀ a a' u u' v v', ends a a' → u.Alike u' → v.disk.AgreesOn (fun _ => True) v'.disk →
      Twins last (f a) u v (f' a') u' v') : Twins last (m >>= f) t w (m' >>= f') t' w' := by
  refine Leads.bind h fun a u v ended => ?_
  have both : Leads (m' >>= f') t' w' fun b' u' v' => last (((f a) u).run v).1.1 b' ∧
      (((f a) u).run v).1.2.Alike u' ∧ (((f a) u).run v).2.disk.AgreesOn (fun _ => True) v'.disk :=
    Leads.bind ended fun a' u' v' same => hf a a' u u' v v' same.1 same.2.1 same.2.2
  exact both

theorem get_bind {f : Flight → Flying β} {f' : Flight → Flying β'}
    (h : Twins last (f t) t w (f' t') t' w') : Twins last (get >>= f) t w (get >>= f') t' w' := h

theorem modify_bind {g g' : Flight → Flight} {f : Unit → Flying β} {f' : Unit → Flying β'}
    (h : Twins last (f ()) (g t) w (f' ()) (g' t') w') :
    Twins last (modify g >>= f) t w (modify g' >>= f') t' w' := h

/-- On one disk a transaction opens alike, whatever else differs. -/
theorem drive {Q R : Type} {tran : Transaction Q R α} {control control' : Q → Flying (Attempt R)}
    {P : Q → (R → Attempt α) → Prop} (opens : tran.Opens w.disk P) (same : w'.disk = w.disk)
    (alike : t.Alike t') (called : ∀ q f d, P q f → w.disk.GrowsTo d →
      Twins Eq (control q) t { w with disk := d } (control' q) t' { w' with disk := d }) :
    Twins Eq (tran.drive control) t w (tran.drive control') t' w' := by
  obtain ⟨event, d, grows, ran, ends⟩ := opens
  unfold Twins Leads
  rw [Transaction.run_drive, Transaction.run_drive, ran w rfl, ran w' same]
  rcases ends with ⟨e, rfl⟩ | ⟨q, f, resume, rfl, hp, answers⟩
  · exact ⟨rfl, alike, .refl _ _⟩
  · obtain ⟨result, alike, agrees⟩ := called q f d hp grows
    dsimp only
    rw [← result, answers]
    exact ⟨rfl, alike, agrees⟩

/-- Sessions whose tasks end the same. -/
theorem runAll {p : TaskPlan} {limit limit' : Option Nat} {pending : List Nat}
    (outcomes : (Workers.serve p limit pending w).1.outcomes =
      (Workers.serve p limit' pending w').1.outcomes) (alike : t.Alike t')
    (agrees : (Workers.serve p limit pending w).2.disk.AgreesOn (fun _ => True)
      (Workers.serve p limit' pending w').2.disk) :
    Twins (fun crew crew' => crew.outcomes = crew'.outcomes) (liftM (Workers.runAll p limit pending)) t w
      (liftM (Workers.runAll p limit' pending)) t' w' := ⟨outcomes, alike, agrees⟩

/-- Where the transactions of two departures end alike, so do their flights. -/
theorem flies {d d' : Departure} (h : Twins Eq (d.transaction.drive d.control)
    (.ofProgress d.exec d.progress) (w.beginSession d.exec.pageSize) (d'.transaction.drive d'.control)
    (.ofProgress d'.exec d'.progress) (w'.beginSession d'.exec.pageSize)) : d.FliesLike w d' w' := by
  obtain ⟨result, alike, agrees⟩ := h
  constructor <;> rw [fly_run, fly_run]
  · exact result
  · exact alike
  · exact agrees

end Twins

/-- The worlds have come to one disk, and the tasks can be run in both of them. -/
structure Abreast (pageSize : Nat) (d : Disk) (w w' : World) : Prop where
  disk : w.disk = d
  disk' : w'.disk = d
  sized : w.pool.pageSize = pageSize
  sized' : w'.pool.pageSize = pageSize
  calm : w.IsCalm
  calm' : w'.IsCalm

theorem Abreast.moved {pageSize : Nat} {d : Disk} (h : Abreast pageSize d w w') (d' : Disk) :
    Abreast pageSize d' { w with disk := d' } { w' with disk := d' } :=
  ⟨rfl, rfl, h.sized, h.sized', ⟨h.calm.crash, h.calm.stop⟩, ⟨h.calm'.crash, h.calm'.stop⟩⟩

/-- New sessions on one disk. -/
theorem Abreast.begins {size size' : Nat} (same : w'.disk = w.disk) (calm : w.IsCalm)
    (calm' : w'.IsCalm) (sized : size = size') :
    Abreast (Pool.ofPageSize size).pageSize w.disk (w.beginSession size) (w'.beginSession size') := by
  subst sized
  exact ⟨rfl, same, rfl, rfl, ⟨calm.crash, calm.stop⟩, ⟨calm'.crash, calm'.stop⟩⟩

section Flights

variable {plugins : TransferPlugins} {config : Config} {o : Order} {n : LocalOutput.Naming}
  {pending : List Nat} {pageSize : Nat} {launch : Disk}

theorem handOver_twins (side : TaskPhase) (alike : t.Alike t')
    (agrees : w.disk.AgreesOn (fun _ => True) w'.disk) :
    Twins Eq (handOver side) t w (handOver side) t' w' := by
  refine Twins.get_bind ?_
  rw [alike.progress]
  cases t.progress.reportsOf side with
  | error e => exact Twins.pure rfl alike agrees
  | ok reports => exact Twins.modify_bind (Twins.pure rfl ⟨alike.progress, alike.outputDiff⟩ agrees)

/-- The tasks of an order end the same in both flights. -/
theorem runTasks_twins (b : plugins.IsBuiltIn config) (ordered : Order.ofConfig config o.files = .ok o)
    (parted : o.IsParted launch n) (abreast : Abreast pageSize launch w w') (alike : t.Alike t')
    (entered : Entered o.source o.files pending t)
    (task : t.progress.outputTask = some o.destination.task)
    (schema : t.progress.outputSchema = some o.schema) :
    Twins Eq (runTasks plugins) t w (runTasks plugins) t' w' := by
  obtain ⟨filters, known, made⟩ := Charter.plan_of plugins entered.inputTask
    entered.inputSchema task schema
  obtain ⟨exec', progress', diff', events'⟩ := t'
  obtain ⟨rfl, rfl⟩ := alike
  obtain rfl := entered.waiting
  obtain ⟨outcomes, agrees⟩ := parted.serve_alike t.progress.pendingTasks_ascending entered.inside
    (fun i hi => parted.perform_repeats b ordered known (entered.inside i hi)) t.exec.threads_room
    abreast.calm abreast.sized abreast.disk exec'.threads_room abreast.calm' abreast.sized' abreast.disk'
  refine Twins.get_bind ?_
  dsimp only
  rw [made]
  refine Twins.get_bind (Twins.modify_bind (Twins.get_bind ?_))
  refine Twins.bind (Twins.runAll outcomes ⟨rfl, rfl⟩ agrees) ?_
  intro crew crew' u u' v v' same alike agrees
  have settled := alike.settle same
  refine Twins.modify_bind (Twins.get_bind ?_)
  rw [settled.progress]
  split
  · exact Twins.pure rfl settled agrees
  · exact Twins.pure rfl settled agrees

/-- What the output of an order asks for ends the same in both flights. -/
theorem outputControl_twins (b : plugins.IsBuiltIn config)
    (ordered : Order.ofConfig config o.files = .ok o) (parted : o.IsParted launch n)
    (abreast : Abreast pageSize launch w w') (alike : t.Alike t')
    (entered : Entered o.source o.files pending t) :
    Twins Eq (outputControl plugins o.schema o.destination.task) t w
      (outputControl plugins o.schema o.destination.task) t' w' := by
  refine Twins.modify_bind ?_
  refine Twins.bind (runTasks_twins b ordered parted abreast
    ⟨congrArg (Progress.setOutput · _ _) alike.progress, alike.outputDiff⟩ (entered.setOutput _ _) rfl rfl) ?_
  rintro r _ u u' v v' rfl alike agrees
  cases r with
  | error e => exact Twins.pure rfl alike agrees
  | ok _ => exact handOver_twins .output alike agrees

/-- The output of an order opens the same in both flights, and asks for the same. -/
theorem runOutput_twins {isResuming : Bool} {schema : Schema}
    {P : Task → (List Report → Attempt Report) → Prop}
    (opens : (outputTransaction plugins isResuming schema t.progress).Opens w.disk P)
    (same : w'.disk = w.disk) (alike : t.Alike t') (called : ∀ q f d, P q f → w.disk.GrowsTo d →
      Twins Eq (outputControl plugins schema q) t { w with disk := d } (outputControl plugins schema q) t'
        { w' with disk := d }) :
    Twins Eq (runOutput plugins isResuming schema) t w (runOutput plugins isResuming schema) t' w' := by
  refine Twins.get_bind ?_
  rw [alike.progress]
  refine Twins.bind (Twins.drive opens same alike called) ?_
  rintro r _ u u' v v' rfl alike agrees
  cases r with
  | error e => exact Twins.pure rfl alike agrees
  | ok diff => exact Twins.modify_bind (Twins.pure rfl ⟨alike.progress, rfl⟩ agrees)

section Fresh

variable {source : Source} {files : List String} {w₀ : World}

/-- Filters that rename columns open the same in both flights. -/
theorem runFilters_twins {filters : List FilterChoice} (renames : ∀ f ∈ filters, f.plugin = Rename.filter)
    {schema : Schema} {d : Disk} (passed : ∀ out t t' w w' e, Entered source files pending t → t.Alike t' →
      Abreast pageSize e w w' → d.GrowsTo e →
        Rename.through (filters.map FilterChoice.config) schema = .ok out →
          Twins Eq (runOutput plugins false out) t w (runOutput plugins false out) t' w')
    (h : Entered source files pending t) (alike : t.Alike t') (abreast : Abreast pageSize d w w') :
    Twins Eq (runFilters plugins filters schema) t w (runFilters plugins filters schema) t' w' := by
  induction filters generalizing t t' w w' schema d with
  | nil => exact passed schema t t' w w' d h alike abreast (.refl _) rfl
  | cons f rest ih =>
    rw [runFilters, renames f List.mem_cons_self]
    refine Twins.drive (Rename.transaction_opens f.config schema w.disk)
      (abreast.disk'.trans abreast.disk.symm) alike ?_
    rintro q _ e ⟨made, rfl⟩ more
    refine Twins.modify_bind ?_
    refine ih (fun g hg => renames g (List.mem_cons_of_mem _ hg)) ?_ (h.pushFilter q.task q.schema)
      ⟨congrArg (Progress.pushFilter · _ _) alike.progress, alike.outputDiff⟩ (abreast.moved e)
    intro out t t' w w' e' ht alike there grown through
    refine passed out t t' w w' e' ht alike there ((abreast.disk ▸ more).trans grown) ?_
    rw [List.map_cons, Rename.through, made]
    exact through

variable (b : plugins.IsBuiltIn config) (silent : IsSilent config)
  (read : Source.ofConfig plugins.inputConfig = .ok source)
  (listed : (LocalInput.list source.search w₀.disk).1 = .ok files)
  (parted : ∀ o, Finds config w₀ o → ∀ launch, w₀.disk.GrowsTo launch → o.IsParted launch n)

include b silent read listed parted

theorem freshOutput_twins {out : Schema}
    (passed : Rename.through (plugins.filters.map FilterChoice.config) source.schema = .ok out)
    (entered : Entered source files pending t) (alike : t.Alike t') {d : Disk}
    (abreast : Abreast pageSize d w w') (grows : w₀.disk.GrowsTo d) :
    Twins Eq (runOutput plugins false out) t w (runOutput plugins false out) t' w' := by
  have opens := freshOutput_opens b (silent _ b.outputConfig) out t.progress.taskCount w.disk
  rw [← outputTransaction_fresh] at opens
  refine runOutput_twins opens (abreast.disk'.trans abreast.disk.symm) alike ?_
  rintro q f e ⟨destination, written, rfl, rfl⟩ more
  have finds := finds_of b read listed passed written
  have grown := grows.trans (abreast.disk ▸ more)
  exact outputControl_twins b finds.ordered (parted _ finds e grown) (abreast.moved e) alike entered

theorem inputControl_twins {exec exec' : ExecConfig} {d : Disk} (abreast : Abreast pageSize d w w')
    (grows : w₀.disk.GrowsTo d) :
    Twins Eq (inputControl plugins ⟨source.task files, source.schema, files.length⟩)
      (.ofProgress exec .fresh) w
      (inputControl plugins ⟨source.task files, source.schema, files.length⟩) (.ofProgress exec' .fresh)
      w' := by
  obtain ⟨pending, entered⟩ := entered_fresh exec source files
  refine Twins.modify_bind (Twins.bind (runFilters_twins b.filters ?_ entered ⟨rfl, rfl⟩ abreast) ?_)
  · intro out t t' w w' e ht alike there more passed
    exact freshOutput_twins b silent read listed parted passed ht alike there (grows.trans more)
  · rintro r _ u u' v v' rfl alike agrees
    cases r with
    | error e => exact Twins.pure rfl alike agrees
    | ok _ => exact handOver_twins .input alike agrees

end Fresh

/-- Two fresh transfers with the same plugins end alike. -/
theorem departure_twins {registry registry' : Registry} {config' : Config} {d d' : Departure}
    (departs : departure registry config = .ok d)
    (departs' : departure registry' config' = .ok d')
    (resolved : TransferPlugins.resolve registry config = .ok plugins)
    (resolved' : TransferPlugins.resolve registry' config' = .ok plugins) (b : plugins.IsBuiltIn config)
    (silent : IsSilent config) (sized : d.exec.pageSize = d'.exec.pageSize) (same : w'.disk = w.disk)
    (calm : w.IsCalm) (calm' : w'.IsCalm)
    (parted : ∀ o, Finds config w o → ∀ launch, w.disk.GrowsTo launch → o.IsParted launch n) : d.FliesLike w d' w' := by
  obtain ⟨_, exec, _, again, rfl⟩ := departure_ok departs
  obtain rfl := Except.ok.inj (resolved.symm.trans again)
  obtain ⟨_, exec', _, again, rfl⟩ := departure_ok departs'
  obtain rfl := Except.ok.inj (resolved'.symm.trans again)
  refine Twins.flies ?_
  obtain ⟨cut, input⟩ := b.input
  dsimp only
  rw [input]
  refine Twins.drive (FileBasedInput.transaction_opens b.decoders _) same ⟨rfl, rfl⟩ ?_
  rintro q f e ⟨source, files, read, listed, rfl, rfl⟩ more
  -- a new session has the disk of the world it begins in
  have listed : (LocalInput.list source.search w.disk).1 = .ok files := listed
  exact inputControl_twins b silent read listed parted ((Abreast.begins same calm calm' sized).moved e) more

section Resumed

variable {saved : ResumeState} {w₀ : World} (b : plugins.IsBuiltIn config)
  (ordered : Order.ofConfig config o.files = .ok o) (keeps : Keeps o saved)
  (parted : ∀ launch, w₀.disk.GrowsTo launch → o.IsParted launch n)

include b ordered keeps parted

theorem resumedInputControl_twins {exec exec' : ExecConfig} {d : Disk} (abreast : Abreast pageSize d w w')
    (grows : w₀.disk.GrowsTo d) :
    Twins Eq (resumedInputControl plugins ⟨o.source.task o.files, o.source.schema, saved.taskCount⟩)
      (.ofProgress exec (.resumed saved)) w
      (resumedInputControl plugins ⟨o.source.task o.files, o.source.schema, saved.taskCount⟩)
      (.ofProgress exec' (.resumed saved)) w' := by
  have entered := keeps.entered exec
  have counted : ¬ (Progress.resumed saved).taskCount ≠ saved.taskCount := not_not_intro rfl
  refine Twins.get_bind ?_
  dsimp only [Flight.ofProgress]
  rw [if_neg counted]
  refine Twins.modify_bind (Twins.get_bind ?_)
  dsimp only
  rw [keeps.resumed_setInput]
  change Twins Eq (runOutput plugins true saved.outputSchema >>= _) (.ofProgress exec (.resumed saved)) w
    (runOutput plugins true saved.outputSchema >>= _) (.ofProgress exec' (.resumed saved)) w'
  rw [keeps.outputSchema]
  refine Twins.bind (runOutput_twins (resumedOutput_opens b ordered keeps w.disk)
    (abreast.disk'.trans abreast.disk.symm) ⟨rfl, rfl⟩ ?_) ?_
  · rintro _ _ e ⟨rfl, rfl⟩ more
    exact outputControl_twins b ordered (parted e (grows.trans (abreast.disk ▸ more))) (abreast.moved e)
      ⟨rfl, rfl⟩ entered
  · rintro r _ u u' v v' rfl alike agrees
    cases r with
    | error e => exact Twins.pure rfl alike agrees
    | ok _ => exact handOver_twins .input alike agrees

/-- Two transfers that go on from one state, but for its settings, end alike. -/
theorem resumption_twins {registry registry' : Registry} {config' : Config} {d d' : Departure}
    {runId : String} {execConfig : Config} (departs : resumption registry config saved = .ok d)
    (departs' : resumption registry' config' { saved with runId, execConfig } = .ok d')
    (resolved : TransferPlugins.resolve registry config = .ok plugins)
    (resolved' : TransferPlugins.resolve registry' config' = .ok plugins)
    (sized : d.exec.pageSize = d'.exec.pageSize) (same : w'.disk = w₀.disk) (calm : w₀.IsCalm)
    (calm' : w'.IsCalm) : d.FliesLike w₀ d' w' := by
  obtain ⟨exec, _, again, rfl⟩ := resumption_ok departs
  obtain rfl := Except.ok.inj (resolved.symm.trans again)
  obtain ⟨exec', _, again, rfl⟩ := resumption_ok departs'
  obtain rfl := Except.ok.inj (resolved'.symm.trans again)
  refine Twins.flies ?_
  obtain ⟨-, _, _, _, -, -, -, read, -, -⟩ := Order.ofConfig_ok ordered
  obtain ⟨cut, input⟩ := b.input
  have progress : Progress.resumed { saved with runId, execConfig } = .resumed saved := rfl
  dsimp only
  rw [progress, input, keeps.inputTask]
  refine Twins.drive (FileBasedInput.resume_opens o.files saved.inputSchema saved.taskCount _
    (Source.ofConfig_ok read).2.2) same ⟨rfl, rfl⟩ ?_
  rintro _ _ e ⟨rfl, rfl⟩ more
  exact resumedInputControl_twins b ordered keeps parted ((Abreast.begins same calm calm' sized).moved e) more

end Resumed

end Flights

end Executor

end BulkTransfer
