import BulkTransfer.Proofs.Config.Sections
import BulkTransfer.Proofs.Transfer.Resumption
import BulkTransfer.Proofs.Transfer.WholeOrNothing
import Mathlib.Data.List.Chain
/-!
# Runs one after the other

Each run of a chain starts from the config that the one before has come to, and reads the files that
are new since. Its files are named by the numbers of its own tasks, which begin at zero in every run:
what an earlier run has written stays unless a later run writes to the same place.
-/
namespace BulkTransfer

theorem WritesFiles.merge {config : Config} {n : LocalOutput.Naming} (writes : WritesFiles config n)
    (diff : Report) : WritesFiles
      (config.merge ((Document.empty.setNested "in" diff).setNested "out" Document.empty)) n := by
  obtain ⟨output, wanted, rest⟩ := writes
  exact ⟨output, TransferPlugins.section_merge diff wanted, rest⟩

section Flights

variable {config : Config} {o : Order} {d : Departure} {w : World} {s : ResumeState}

def Terms.unknown (pageSize : Nat) : Terms := ⟨False, False, False, pageSize, id⟩

/-- What a flight of an order does, whatever becomes of it: it changes no file that is not in the place
of an output, and freezes the order if it leaves a state. -/
structure Order.Flown (o : Order) (before : Disk) (l : Landing) (after : Disk) : Prop where
  kept : ∀ path, (∀ i < o.files.length, ¬ o.Owns i (Path.place path)) → ∀ content,
    before.fileAt? path = some content → after.fileAt? path = some content
  frozen : ∀ s, l.resumeState? = some s → Executor.Keeps o s
  result : ∀ r, l.conclude = .ok r → ∃ reports diff, o.destination.diff reports = .ok diff ∧
    r.diff = (Document.empty.setNested "in" (o.source.listing o.files).diff).setNested "out" diff

theorem Order.flown_of_course {plugins : TransferPlugins} {b : plugins.IsBuiltIn config}
    {ordered : Order.ofConfig config o.files = .ok o} {terms : Terms}
    {spread : terms.alone → o.IsSpread} {pending : List Nat} {launch before : Disk} {l : Landing}
    (grows : before.GrowsTo launch)
    (course : (o.charter b ordered terms spread).Course pending launch l.flight w)
    (ends : ∀ diff, l.result = .ok diff → diff = (o.source.listing o.files).diff ∧
      (o.charter b ordered terms spread).Delivered l.flight) : o.Flown before l w.disk where
  kept := fun _ foreign _ held =>
    (course.frame.fileAt? fun i hi => foreign i (course.inside i hi)).trans (grows.fileAt? held)
  frozen := fun _ left => Order.keeps_of_left course left
  result := by
    intro r told
    obtain ⟨diff, result, total⟩ := Landing.result_of_conclude told
    obtain ⟨rfl, -, reports, given, -, made, left⟩ := ends diff result
    refine ⟨reports, given, made, ?_⟩
    rw [total, left]
    rfl

/-- A fresh transfer that leaves a state, or succeeds, has flown its order; any other has done
nothing. -/
theorem Executor.departure_flown (departs : departure Registry.builtIn config = .ok d)
    (silent : IsSilent config) (w : World) :
    (w.disk.GrowsTo (d.fly.run w).2.disk ∧ (d.fly.run w).1.resumeState? = none ∧
        ∀ r, (d.fly.run w).1.conclude ≠ .ok r) ∨
      ∃ o, Finds config w o ∧ o.Flown w.disk (d.fly.run w).1 (d.fly.run w).2.disk := by
  obtain ⟨_, _, plugins, resolved, -⟩ := departure_ok departs
  have b := TransferPlugins.resolve_builtIn resolved
  have fits : ∀ o, Finds config w o →
      o.Fits (.unknown (Pool.ofPageSize d.exec.pageSize).pageSize) w :=
    fun o _ => ⟨fun h => h.elim, fun h => h.elim, fun h => (h.elim id id).elim, fun h => h.elim⟩
  rcases departure_leads departs resolved b silent rfl fits with
    ⟨⟨e, failed⟩, idle, -⟩ | ⟨o, finds, pending, launch, grows, -, course, -, ends⟩
  · have none := Landing.resumeState?_none idle.unstarted
    refine .inl ⟨idle.grows, none, fun r told => ?_⟩
    rw [Landing.conclude_plugin failed none] at told
    cases told
  · exact .inr ⟨o, finds, Order.flown_of_course grows course
      fun diff result => ⟨(ends diff result).1, (ends diff result).2.1⟩⟩

theorem Executor.resumption_flown (resumes : resumption Registry.builtIn config s = .ok d)
    (ordered : Order.ofConfig config o.files = .ok o) (keeps : Keeps o s) (w : World) :
    o.Flown w.disk (d.fly.run w).1 (d.fly.run w).2.disk := by
  obtain ⟨_, plugins, resolved, -⟩ := resumption_ok resumes
  have b := TransferPlugins.resolve_builtIn resolved
  have fits : o.Fits (.unknown (Pool.ofPageSize d.exec.pageSize).pageSize) w :=
    ⟨fun h => h.elim, fun h => h.elim, fun h => (h.elim id id).elim, fun h => h.elim⟩
  obtain ⟨⟨launch, grows, course⟩, ends⟩ := resumption_leads resumes resolved b ordered keeps rfl fits
  exact Order.flown_of_course grows course
    fun diff result => ⟨(ends diff result).1, (ends diff result).2.1⟩

end Flights

section Runs

open LocalOutput (Naming tempPath)

/-- All files at the paths of outputs are still there, with what they held. -/
def LocalOutput.Naming.Keeps (n : Naming) (d d' : Disk) : Prop :=
  ∀ i content, d.fileAt? (n.path i 0) = some content → d'.fileAt? (n.path i 0) = some content

/-- The place is none of those that so many tasks write to. -/
def LocalOutput.Naming.Avoids (n : Naming) (count : Nat) (l : Location) : Prop :=
  ∀ j < count, l ≠ Path.place (n.path j 0) ∧ l ≠ Path.place (tempPath (n.path j 0))

/-- The attempts of a run that have failed in part, from the disk that the first one starts on: the
state that they have left, and the disk after the last one. In between, others keep the outputs. -/
inductive Interrupted (n : Naming) (config : Config) (start : Disk) : ResumeState → Disk → Prop where
  | begun {d : Departure} {w : World} {s : ResumeState} (here : w.disk = start)
      (departs : Executor.departure Registry.builtIn config = .ok d)
      (left : (d.fly.run w).1.stateAfter none = some s) :
      Interrupted n config start s (d.fly.run w).2.disk
  | resumed {d : Departure} {w : World} {s s' : ResumeState} {disk : Disk}
      (before : Interrupted n config start s disk) (kept : n.Keeps disk w.disk)
      (resumes : Executor.resumption Registry.builtIn config s = .ok d)
      (left : (d.fly.run w).1.stateAfter (some s) = some s') :
      Interrupted n config start s' (d.fly.run w).2.disk

/-- A run commits, at once or after it was interrupted. -/
inductive Commits (n : Naming) (config : Config) (start : Disk) (result : ExecutionResult) :
    Disk → Prop where
  | direct {d : Departure} {w : World} (here : w.disk = start)
      (departs : Executor.departure Registry.builtIn config = .ok d)
      (succeeds : (d.fly.run w).1.conclude = .ok result) :
      Commits n config start result (d.fly.run w).2.disk
  | resumed {d : Departure} {w : World} {s : ResumeState} {disk : Disk}
      (before : Interrupted n config start s disk) (kept : n.Keeps disk w.disk)
      (resumes : Executor.resumption Registry.builtIn config s = .ok d)
      (succeeds : (d.fly.run w).1.conclude = .ok result) :
      Commits n config start result (d.fly.run w).2.disk

structure CommittedRun (n : Naming) where
  config : Config
  start : Disk
  result : ExecutionResult
  after : Disk
  commits : Commits n config start result after

namespace CommittedRun

variable {n : Naming}

def next (r : CommittedRun n) : Config := r.config.merge r.result.diff

/-- The files that are new to the run, each of which is read by a task. -/
def files (r : CommittedRun n) : List String := inputFiles r.config r.start

/-- A run starts where an earlier one has ended, on a disk whose outputs others have kept. -/
structure Follows (a b : CommittedRun n) : Prop where
  config : b.config = a.next
  kept : n.Keeps a.after b.start

end CommittedRun

end Runs

section Chains

open LocalOutput (Naming)

variable {n : Naming} {config : Config} {start disk : Disk} {s : ResumeState} {i : Nat}
  {content : Bytes}

theorem Order.Flown.keeps {o : Order} {before after : Disk} {l : Landing} (h : o.Flown before l after)
    (writes : WritesFiles config n) (ordered : Order.ofConfig config o.files = .ok o)
    (avoids : n.Avoids o.files.length (Path.place (n.path i 0)))
    (held : before.fileAt? (n.path i 0) = some content) :
    after.fileAt? (n.path i 0) = some content :=
  h.kept _ (writes.foreign ordered avoids) content held

/-- What a run of an order leaves of the outputs that were there before. -/
structure Order.Spared (o : Order) (n : Naming) (config : Config) (start after : Disk) : Prop where
  ordered : Order.ofConfig config o.files = .ok o
  files : inputFiles config start = o.files
  kept : ∀ i content, n.Avoids o.files.length (Path.place (n.path i 0)) →
    start.fileAt? (n.path i 0) = some content → after.fileAt? (n.path i 0) = some content

/-- An interrupted run has frozen its order, and kept the outputs that are in no place of its tasks. -/
theorem Interrupted.order (h : Interrupted n config start s disk) (writes : WritesFiles config n) :
    ∃ o : Order, Executor.Keeps o s ∧ o.Spared n config start disk := by
  induction h with
  | @begun d w s here departs left =>
    subst here
    have some : (d.fly.run w).1.resumeState? = some s := by
      rcases Landing.stateAfter_some left with left | ⟨-, none⟩
      · exact left
      · cases none
    rcases Executor.departure_flown departs (Executor.silent_of_writes writes) w with ⟨-, none, -⟩ | ⟨o, finds, flown⟩
    · rw [none] at some
      cases some
    · exact ⟨o, flown.frozen s some, finds.ordered, finds.inputFiles_eq,
        fun i content avoids held => flown.keeps writes finds.ordered avoids held⟩
  | @resumed d w s s' disk before kept resumes left ih =>
    obtain ⟨o, keeps, ordered, files, held⟩ := ih
    have flown := Executor.resumption_flown resumes ordered keeps w
    refine ⟨o, ?_, ordered, files, fun i content avoids h =>
      flown.keeps writes ordered avoids (kept i content (held i content avoids h))⟩
    rcases Landing.stateAfter_some left with left | ⟨-, same⟩
    · exact flown.frozen s' left
    · cases same
      exact keeps

theorem Commits.order {result : ExecutionResult} (h : Commits n config start result disk)
    (writes : WritesFiles config n) : ∃ o : Order, o.Spared n config start disk ∧
      ∃ reports diff, o.destination.diff reports = .ok diff ∧ result.diff =
        (Document.empty.setNested "in" (o.source.listing o.files).diff).setNested "out" diff := by
  cases h with
  | @direct d w here departs succeeds =>
    subst here
    rcases Executor.departure_flown departs (Executor.silent_of_writes writes) w with ⟨-, -, failed⟩ | ⟨o, finds, flown⟩
    · exact absurd succeeds (failed result)
    · exact ⟨o, ⟨finds.ordered, finds.inputFiles_eq,
        fun i content avoids held => flown.keeps writes finds.ordered avoids held⟩,
        flown.result result succeeds⟩
  | @resumed d w s disk before kept resumes succeeds =>
    obtain ⟨o, keeps, ordered, files, held⟩ := before.order writes
    have flown := Executor.resumption_flown resumes ordered keeps w
    exact ⟨o, ⟨ordered, files, fun i content avoids h =>
      flown.keeps writes ordered avoids (kept i content (held i content avoids h))⟩,
      flown.result result succeeds⟩

namespace CommittedRun

theorem next_eq (r : CommittedRun n) (writes : WritesFiles r.config n) :
    ∃ o : Order, o.Spared n r.config r.start r.after ∧ r.next = r.config.merge
      ((Document.empty.setNested "in" (o.source.listing o.files).diff).setNested "out"
        Document.empty) := by
  obtain ⟨o, spared, reports, diff, made, total⟩ := r.commits.order writes
  obtain ⟨_, options, dialect, files, -⟩ := writes.delivery spared.ordered
  rw [files] at made
  cases made
  exact ⟨o, spared, congrArg r.config.merge total⟩

theorem next_writes (r : CommittedRun n) (writes : WritesFiles r.config n) : WritesFiles r.next n := by
  obtain ⟨o, -, same⟩ := r.next_eq writes
  exact same ▸ writes.merge _

theorem keeps (r : CommittedRun n) (writes : WritesFiles r.config n)
    (avoids : n.Avoids r.files.length (Path.place (n.path i 0)))
    (held : r.start.fileAt? (n.path i 0) = some content) :
    r.after.fileAt? (n.path i 0) = some content := by
  obtain ⟨o, spared, -⟩ := r.next_eq writes
  rw [files, spared.files] at avoids
  exact spared.kept i content avoids held

/-- With an ending that does not step up, no file is in the place of a task with a lower number. -/
theorem avoids_of_ending {count : Nat} (down : ".." ∉ (Path.segments n.ending).tail)
    (fewer : count ≤ i) : n.Avoids count (Path.place (n.path i 0)) := by
  have apart := Naming.apart_of_ending down (i + 1)
  intro j hj
  have hi : i < i + 1 := Nat.lt_succ_self i
  have hj' : j < i + 1 := by omega
  exact ⟨fun same => absurd (apart.finals i hi j hj' same) (by omega), apart.crossed i hi j hj'⟩

/-- Whatever runs follow, each from the config of the one before: an output that a run leaves holds the
same after all of them, as long as none of their tasks writes to its place. -/
theorem outputs_outlast_later_runs {r : CommittedRun n} {later : List (CommittedRun n)}
    (chain : (r :: later).IsChain Follows) (writes : WritesFiles r.config n)
    (avoids : ∀ run ∈ later, n.Avoids run.files.length (Path.place (n.path i 0)))
    (held : r.after.fileAt? (n.path i 0) = some content) :
    ∀ run ∈ later, run.after.fileAt? (n.path i 0) = some content := by
  induction later generalizing r with
  | nil => exact fun run none => by cases none
  | cons first later ih =>
    rw [List.isChain_cons_cons] at chain
    obtain ⟨follows, chain⟩ := chain
    have writes : WritesFiles first.config n := follows.config ▸ r.next_writes writes
    have kept := first.keeps writes (avoids first List.mem_cons_self) (follows.kept i content held)
    intro run hm
    rcases List.mem_cons.mp hm with rfl | hm
    · exact kept
    · exact ih chain writes (fun run hm => avoids run (List.mem_cons_of_mem _ hm)) kept run hm

end CommittedRun

end Chains

section Copies

open CommittedRun (Follows)

/-- What is on a disk where two files were copied. -/
def copied : List (Location × DiskNode) :=
  (twoFiles true).nodes ++ [(["o000.00.csv"], .file (Utf8.encode "a\r\n1\r\n")),
    (["o001.00.csv"], .file (Utf8.encode "a\r\n2\r\n"))]

def thirdAdded : Disk := ⟨copied ++ [(["in", "3"], .file (Utf8.encode "a:3\n"))], 0, fun _ _ => none⟩

def copyingMore : Config :=
  (copying "csv").merge ((Document.empty.setNested "in"
    (Document.empty.set "last_path" (.str "in/2"))).setNested "out" Document.empty)

theorem thirdAdded_listed : LocalInput.list ⟨"in/", some "in/2"⟩ thirdAdded =
    (.ok ["in/3"], thirdAdded.counted) := by
  have found : LocalInput.listWithin "in/" (thirdAdded.nodes.length + 2) thirdAdded
      [LocalInput.rootOf "in/"] [] = (.ok ["in/1", "in/2", "in/3"], thirdAdded.counted) := rfl
  exact LocalInput.list_found (s := ⟨"in/", some "in/2"⟩) found (by decide)

theorem Disk.fileAt?_append {d d' : Disk} {more : List (Location × DiskNode)}
    (more_nodes : d'.nodes = d.nodes ++ more) {path : String} {content : Bytes}
    (held : d.fileAt? path = some content) : d'.fileAt? path = some content := by
  have kept : ∀ l node, d.node? l = some node → d'.node? l = some node := by
    intro l node found
    unfold Disk.node? at found ⊢
    split at found
    · rw [if_pos ‹_›, found]
    · rw [if_neg ‹_›, more_nodes, List.lookup_append, found]
      rfl
  obtain ⟨way, file⟩ := Disk.fileAt?_eq.mp held
  exact Disk.fileAt?_eq.mpr ⟨way.mono fun l => kept l _, kept _ _ file⟩

/-- The config that a copy of the two files comes to. -/
theorem copies_next {d : Departure} {result : ExecutionResult}
    (departs : Executor.departure Registry.builtIn (copying "csv") = .ok d)
    (succeeds : (d.fly.run (.ofDisk (twoFiles true))).1.conclude = .ok result) :
    copyingMore = (copying "csv").merge result.diff := by
  have writes : WritesFiles (copying "csv") ⟨"o", "csv"⟩ := ⟨_, rfl, rfl, rfl⟩
  obtain ⟨o, spared, _, _, made, total⟩ :=
    (Commits.direct (w := .ofDisk (twoFiles true)) rfl departs succeeds).order writes
  obtain ⟨_, options, dialect, files, -⟩ := writes.delivery spared.ordered
  rw [files] at made
  cases made
  have found : ["in/1", "in/2"] = o.files := by
    rw [← spared.files]
    change _ = (LocalInput.list ⟨"in/", none⟩ (twoFiles true)).1.toOption.getD []
    rw [twoFiles_listed]
    rfl
  rw [total, Source.listing, ← found]
  rfl

theorem third_copy_follows : ∃ first second : CommittedRun ⟨"o", "csv"⟩,
    [first, second].IsChain Follows ∧ first.config = copying "csv" ∧ first.files = ["in/1", "in/2"] ∧
      second.files = ["in/3"] ∧ first.after.nodes = copied ∧
        second.after.fileAt? "o000.00.csv" = some (Utf8.encode "a\r\n3\r\n") := by
  obtain ⟨d, departs, checked⟩ := @copies_end "csv" true (fun l w =>
    l.result.toOption.isSome && w.disk.nodes == copied) (by decide +kernel)
  rw [Bool.and_eq_true, beq_iff_eq] at checked
  obtain ⟨result, succeeds⟩ := Interruption.concluded checked.1
  obtain ⟨d', departs', checked'⟩ := @leaves_ends copyingMore ⟨"in/", some "in/2"⟩ ["in/3"]
    (.ofDisk thirdAdded) thirdAdded.counted (fun l w => l.result.toOption.isSome &&
      w.disk.fileAt? "o000.00.csv" == some (Utf8.encode "a\r\n3\r\n")) thirdAdded_listed
      (by decide +kernel)
  rw [Bool.and_eq_true, beq_iff_eq] at checked'
  obtain ⟨result', succeeds'⟩ := Interruption.concluded checked'.1
  obtain ⟨first, hfirst⟩ : ∃ first : CommittedRun ⟨"o", "csv"⟩, first =
      ⟨copying "csv", twoFiles true, result, _, .direct (w := .ofDisk (twoFiles true)) rfl departs
        succeeds⟩ := ⟨_, rfl⟩
  obtain ⟨second, hsecond⟩ : ∃ second : CommittedRun ⟨"o", "csv"⟩, second =
      ⟨copyingMore, thirdAdded, result', _, .direct (w := .ofDisk thirdAdded) rfl departs'
        succeeds'⟩ := ⟨_, rfl⟩
  have files : first.files = ["in/1", "in/2"] := by
    rw [hfirst]
    change (LocalInput.list ⟨"in/", none⟩ (twoFiles true)).1.toOption.getD [] = _
    rw [twoFiles_listed]
    rfl
  have next : second.config = first.next := by
    rw [hfirst, hsecond]
    exact copies_next departs succeeds
  have left : first.after.nodes = copied := by
    rw [hfirst]
    exact checked.2
  refine ⟨first, second, ?_, by rw [hfirst], files, ?_, left, ?_⟩
  · refine List.isChain_pair.mpr ⟨next, fun i content held => ?_⟩
    rw [hsecond]
    exact Disk.fileAt?_append (by rw [left]; rfl) held
  · rw [hsecond]
    change (LocalInput.list ⟨"in/", some "in/2"⟩ thirdAdded).1.toOption.getD [] = _
    rw [thirdAdded_listed]
    rfl
  · rw [hsecond]
    exact checked'.2

/-- The copy of the third file takes the place of the first one: its task has the number zero too. -/
theorem third_copy_takes_first_place : ∃ first second : CommittedRun ⟨"o", "csv"⟩,
    [first, second].IsChain Follows ∧ first.config = copying "csv" ∧
      first.files = ["in/1", "in/2"] ∧ second.files = ["in/3"] ∧
        first.after.fileAt? "o000.00.csv" = some (Utf8.encode "a\r\n1\r\n") ∧
          second.after.fileAt? "o000.00.csv" = some (Utf8.encode "a\r\n3\r\n") := by
  obtain ⟨first, second, chain, config, files, only, left, third⟩ := third_copy_follows
  refine ⟨first, second, chain, config, files, only, ?_, third⟩
  have same : first.after.nodes = (⟨copied, 0, fun _ _ => none⟩ : Disk).nodes ++ [] := by
    rw [left, List.append_nil]
  exact Disk.fileAt?_append same (by decide)

theorem second_copy_outlasts_third : ∃ first second : CommittedRun ⟨"o", "csv"⟩,
    [first, second].IsChain Follows ∧ second.files = ["in/3"] ∧
      first.after.fileAt? "o001.00.csv" = some (Utf8.encode "a\r\n2\r\n") ∧
        second.after.fileAt? "o001.00.csv" = some (Utf8.encode "a\r\n2\r\n") := by
  obtain ⟨first, second, chain, config, -, only, left, -⟩ := third_copy_follows
  have path : (⟨"o", "csv"⟩ : LocalOutput.Naming).path 1 0 = "o001.00.csv" := by decide
  have same : first.after.nodes = (⟨copied, 0, fun _ _ => none⟩ : Disk).nodes ++ [] := by
    rw [left, List.append_nil]
  have held : first.after.fileAt? "o001.00.csv" = some (Utf8.encode "a\r\n2\r\n") :=
    Disk.fileAt?_append same (by decide)
  refine ⟨first, second, chain, only, held, ?_⟩
  have fewer : second.files.length ≤ 1 := only ▸ le_rfl
  rw [← path] at held ⊢
  refine CommittedRun.outputs_outlast_later_runs chain (config ▸ ⟨_, rfl, rfl, rfl⟩)
    (fun run hm => ?_) held second (List.mem_singleton.mpr rfl)
  rw [List.mem_singleton.mp hm]
  exact CommittedRun.avoids_of_ending (by decide) fewer

end Copies

end BulkTransfer
