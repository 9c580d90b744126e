import BulkTransfer.Proofs.Disk.Operations
/-!
# Removals that may be refused

What is left of a disk after some removals, whichever of them are refused. A place that was emptied stays
empty, since no directory goes with the files, so that every path leads where it led before.
-/
namespace BulkTransfer.Disk

variable {d d' d'' : Disk} {path : String} {l : Location} {P Q : String → Prop}

/-- Nothing is at the path, as a removal would tell. -/
def IsGone (d : Disk) (path : String) : Prop :=
  d.nodeAt path = .error .notFound ∨ ∃ l, d.nodeAt path = .ok (l, none)

/-- A removal is not refused by telling that there is nothing. -/
def IsHonest (d : Disk) : Prop := ∀ n path, d.refusal n (.remove path) ≠ some .notFound

/-- None of these paths is refused to be removed. -/
def Allows (P : String → Prop) (d : Disk) : Prop := ∀ path, P path → ∀ n, d.refusal n (.remove path) = none

/-- Some of the files that these paths lead to are gone, and nothing else has changed. -/
structure Sheds (P : String → Prop) (d d' : Disk) : Prop where
  nodes : ∃ gone : List Location, d'.nodes = d.nodes.filter (·.1 ∉ gone) ∧
    ∀ l ∈ gone, ∃ path content, P path ∧ d.nodeAt path = .ok (l, some (.file content))
  refusal : d'.refusal = d.refusal

theorem lookup_spared (nodes : List (Location × DiskNode)) (gone : List Location) (l : Location) :
    (nodes.filter (·.1 ∉ gone)).lookup l = if l ∈ gone then none else nodes.lookup l := by
  induction nodes with
  | nil => simp
  | cons entry rest ih =>
    rw [List.filter_cons, lookup_cons_eq]
    by_cases out : entry.1 ∈ gone
    · rw [if_neg (by simpa using out), ih]
      by_cases here : l = entry.1
      · rw [if_pos (here ▸ out), if_pos (here ▸ out)]
      · rw [if_neg here]
    · rw [if_pos (by simpa using out), lookup_cons_eq, ih]
      by_cases here : l = entry.1
      · rw [if_pos here, if_neg (here ▸ out), if_pos here]
      · rw [if_neg here, if_neg here]

/-- What is there now was there before, and a directory is still there. -/
theorem Sheds.node (h : Sheds P d d') (l : Location) :
    d'.node? l = d.node? l ∨ d'.node? l = none ∧ ∃ content, d.node? l = some (.file content) := by
  obtain ⟨gone, nodes, led⟩ := h.nodes
  -- The working directory and those above it are there whatever the nodes are.
  by_cases base : isBase l = true
  · exact .inl (by rw [node?, node?, if_pos base, if_pos base])
  · have found : d'.node? l = if l ∈ gone then none else d.node? l := by
      rw [node?, node?, if_neg base, if_neg base, nodes, lookup_spared]
    by_cases out : l ∈ gone
    · obtain ⟨path, content, -, file⟩ := led l out
      exact .inr ⟨by rw [found, if_pos out], content, (nodeAt_ok file).2.2.1⟩
    · exact .inl (by rw [found, if_neg out])

theorem Sheds.directory (h : Sheds P d d') (l : Location) :
    d'.node? l = some .directory ↔ d.node? l = some .directory := by
  rcases h.node l with same | ⟨none, content, file⟩
  · rw [same]
  · simp [none, file]

theorem Sheds.none (h : Sheds P d d') (missing : d.node? l = none) : d'.node? l = none := by
  rcases h.node l with same | ⟨none, -, -⟩
  · exact same.trans missing
  · exact none

theorem Sheds.nodeAt (h : Sheds P d d') {n : DiskNode} (found : d'.nodeAt path = .ok (l, some n)) :
    d.nodeAt path = .ok (l, some n) := by
  obtain ⟨rfl, way, node, plain⟩ := nodeAt_ok found
  have led : d.resolve path = .ok (Path.place path) := resolve_mono (fun l => (h.directory l).mp) way
  have same : d.node? (Path.place path) = some n := by
    rcases h.node (Path.place path) with same | ⟨none, -⟩
    · exact same.symm.trans node
    · cases none.symm.trans node
  rw [Disk.nodeAt, led]
  cases n with
  | directory => simp [bind, Except.bind, same, pure, Except.pure]
  | file content =>
    have slash : ¬ Path.endsAsDirectory path = true := fun ends => plain ends content rfl
    simp [bind, Except.bind, same, slash, pure, Except.pure]

/-- A way that ends where nothing is still ends there. -/
theorem walk_notFound (directory : ∀ l, d.node? l = some .directory → d'.node? l = some .directory)
    (missing : ∀ l, d.node? l = none → d'.node? l = none) {names : List String}
    (way : d.walk l names = .error .notFound) : d'.walk l names = .error .notFound := by
  induction names generalizing l with
  | nil => cases way
  | cons name rest ih =>
    rw [walk] at way ⊢
    by_cases dot : name = "."
    · rw [if_pos dot] at way ⊢
      exact ih way
    rw [if_neg dot] at way ⊢
    by_cases up : name = ".."
    · rw [if_pos up] at way ⊢
      exact ih way
    rw [if_neg up] at way ⊢
    by_cases long : name.utf8ByteSize > greatestNameSize
    · rw [if_pos long] at way
      cases way
    rw [if_neg long] at way ⊢
    cases rest with
    | nil => cases way
    | cons next others =>
      dsimp only at way ⊢
      cases here : d.node? (l ++ [name]) with
      | none =>
        rw [missing _ here]
      | some n =>
        rw [here] at way
        cases n with
        | file content => cases way
        | directory =>
          rw [directory _ here]
          exact ih way

theorem resolve_notFound (directory : ∀ l, d.node? l = some .directory → d'.node? l = some .directory)
    (missing : ∀ l, d.node? l = none → d'.node? l = none) (way : d.resolve path = .error .notFound) :
    d'.resolve path = .error .notFound := by
  rw [resolve] at way ⊢
  by_cases empty : path.isEmpty = true
  · rw [if_pos empty]
  rw [if_neg empty] at way ⊢
  by_cases nul : path.toList.contains (Char.ofNat 0) = true
  · rw [if_pos nul] at way
    cases way
  rw [if_neg nul] at way ⊢
  by_cases long : path.utf8ByteSize > greatestPathSize
  · rw [if_pos long] at way
    cases way
  rw [if_neg long] at way ⊢
  exact walk_notFound directory missing way

theorem nodeAt_none (way : d.resolve path = .ok l) (missing : d.node? l = none) :
    d.nodeAt path = .ok (l, none) := by
  simp [Disk.nodeAt, way, missing, bind, Except.bind, pure, Except.pure]

theorem nodeAt_notFound : d.nodeAt path = .error .notFound ↔ d.resolve path = .error .notFound := by
  rw [Disk.nodeAt]
  cases d.resolve path with
  | error e => simp [bind, Except.bind]
  | ok l =>
    simp only [bind, Except.bind, reduceCtorEq, iff_false]
    cases d.node? l with
    | none => simp [pure, Except.pure]
    | some n =>
      cases n with
      | directory => simp [pure, Except.pure]
      | file content =>
        dsimp only
        split <;> simp [throw, throwThe, MonadExceptOf.throw, pure, Except.pure]

/-- What is gone is gone for good. -/
theorem Sheds.isGone (h : Sheds P d d') (gone : d.IsGone path) : d'.IsGone path := by
  have directory : ∀ l, d.node? l = some .directory → d'.node? l = some .directory :=
    fun l => (h.directory l).mpr
  rcases gone with nowhere | ⟨l, missing⟩
  · exact .inl (nodeAt_notFound.mpr
      (resolve_notFound directory (fun _ => h.none) (nodeAt_notFound.mp nowhere)))
  · obtain ⟨-, way, none, -⟩ := nodeAt_ok missing
    exact .inr ⟨l, nodeAt_none (resolve_mono directory way) (h.none none)⟩

theorem IsGone.of_nodes (gone : d.IsGone path) (same : d'.nodes = d.nodes) : d'.IsGone path := by
  rwa [IsGone, nodeAt_congr same]

theorem Sheds.refl (P : String → Prop) (d : Disk) : Sheds P d d :=
  ⟨⟨[], (List.filter_eq_self.mpr (by simp)).symm, by simp⟩, rfl⟩

theorem Sheds.mono (h : Sheds P d d') (wider : ∀ path, P path → Q path) : Sheds Q d d' := by
  obtain ⟨⟨gone, nodes, led⟩, refusal⟩ := h
  refine ⟨⟨gone, nodes, fun l out => ?_⟩, refusal⟩
  obtain ⟨path, content, listed, file⟩ := led l out
  exact ⟨path, content, wider path listed, file⟩

theorem Sheds.trans (h : Sheds P d d') (h' : Sheds P d' d'') : Sheds P d d'' := by
  obtain ⟨first, nodes, led⟩ := h.nodes
  obtain ⟨second, nodes', led'⟩ := h'.nodes
  refine ⟨⟨first ++ second, ?_, ?_⟩, h'.refusal.trans h.refusal⟩
  · rw [nodes', nodes, List.filter_filter]
    exact List.filter_congr fun entry _ => by simp [Bool.and_comm]
  · intro l out
    rcases List.mem_append.mp out with out | out
    · exact led l out
    · obtain ⟨path, content, listed, file⟩ := led' l out
      exact ⟨path, content, listed, h.nodeAt file⟩

theorem Sheds.of_nodes {e e' : Disk} (h : Sheds P d d') (start : e.nodes = d.nodes)
    (nodes : e'.nodes = d'.nodes) (refusal : e'.refusal = e.refusal) : Sheds P e e' := by
  obtain ⟨gone, left, led⟩ := h.nodes
  refine ⟨⟨gone, by rw [nodes, start, left], fun l out => ?_⟩, refusal⟩
  obtain ⟨path, content, listed, file⟩ := led l out
  exact ⟨path, content, listed, (nodeAt_congr start).trans file⟩

/-- Where all is gone nothing else goes. -/
theorem Sheds.unchanged (h : Sheds P d d') (gone : ∀ path, P path → d.IsGone path) : d'.nodes = d.nodes := by
  obtain ⟨out, nodes, led⟩ := h.nodes
  have none : ∀ l, l ∉ out := by
    intro l member
    obtain ⟨path, content, listed, file⟩ := led l member
    rcases gone path listed with nowhere | ⟨_, missing⟩
    · cases file.symm.trans nowhere
    · cases file.symm.trans missing
  rw [nodes, List.filter_eq_self]
  simp [none]

theorem Sheds.isHonest (h : Sheds P d d') (honest : d.IsHonest) : d'.IsHonest := by
  rwa [IsHonest, h.refusal]

theorem Sheds.allows (h : Sheds P d d') (allows : d.Allows Q) : d'.Allows Q := by
  rwa [Allows, h.refusal]

section Places

/-- There is a way to the path, and no directory at its end. -/
def Admits (d : Disk) (path : String) : Prop :=
  d.LeadsTo path ∧ d.node? (Path.place path) ≠ some .directory

theorem Admits.agrees {S : Location → Prop} (h : d.Admits path) (agrees : AgreesOn S d d') : d'.Admits path :=
  ⟨h.1.agrees agrees, fun there => h.2 ((agrees.directory _).mp there)⟩

theorem Admits.of_file {content : Bytes} (way : d.LeadsTo path)
    (held : d.node? (Path.place path) = some (.file content)) : d.Admits path :=
  ⟨way, by simp [held]⟩

/-- Where a file can be and none is, a removal would tell so. -/
theorem Admits.isGone (h : d.Admits path) (vacant : d.IsVacant (Path.place path)) :
    d.IsGone path := by
  refine .inr ⟨Path.place path, ?_⟩
  rw [h.1.nodeAt]
  cases held : d.node? (Path.place path) with
  | none => rfl
  | some n =>
    cases n with
    | file content => exact absurd held (vacant content)
    | directory => exact absurd held h.2

end Places

section Removing

theorem remove_refused {fault : IoError} (refused : d.refusal d.clock (.remove path) = some fault) :
    d.remove path = (.error fault, d.counted) := by
  simp only [remove, attempt, refused]
  rfl

theorem remove_file {content : Bytes} (open_ : d.refusal d.clock (.remove path) = none)
    (file : d.nodeAt path = .ok (l, some (.file content))) :
    d.remove path = (.ok (), d.counted.eraseNode l) := by
  have same : d.counted.nodes = d.nodes := rfl
  have found : d.counted.nodeAt path = .ok (l, some (.file content)) := (nodeAt_congr same).trans file
  unfold remove
  refine attempt_ok open_ ?_
  rw [found]
  rfl

/-- Where there is no file a removal fails, and always alike. -/
theorem remove_fails (file : ∀ l content, d.nodeAt path ≠ .ok (l, some (.file content))) :
    ∃ fault, (fault = .notFound ↔ d.IsGone path) ∧ ∀ e : Disk, e.nodes = d.nodes →
      e.refusal e.clock (.remove path) = none → e.remove path = (.error fault, e.counted) := by
  have found : ∀ e : Disk, e.nodes = d.nodes → e.counted.nodeAt path = d.nodeAt path :=
    fun e same => nodeAt_congr same
  cases here : d.nodeAt path with
  | error fault =>
    refine ⟨fault, by simp [IsGone, here], fun e same open_ => ?_⟩
    unfold remove
    refine attempt_error open_ ?_
    rw [found e same, here]
    rfl
  | ok pair =>
    obtain ⟨l, node⟩ := pair
    cases node with
    | none =>
      refine ⟨.notFound, by simp [IsGone, here], fun e same open_ => ?_⟩
      unfold remove
      refine attempt_error open_ ?_
      rw [found e same, here]
      rfl
    | some n =>
      cases n with
      | directory =>
        refine ⟨.isADirectory, by simp [IsGone, here], fun e same open_ => ?_⟩
        unfold remove
        refine attempt_error open_ ?_
        rw [found e same, here]
        rfl
      | file content => exact absurd here (file l content)

/-- A removal is refused, or removes a file, or fails since there is none. -/
theorem remove_cases (d : Disk) (path : String) :
    (∃ fault, d.refusal d.clock (.remove path) = some fault ∧ d.remove path = (.error fault, d.counted)) ∨
      d.refusal d.clock (.remove path) = none ∧
        ((∃ l content, d.nodeAt path = .ok (l, some (.file content)) ∧
            d.remove path = (.ok (), d.counted.eraseNode l)) ∨
          ∃ fault, (fault = .notFound ↔ d.IsGone path) ∧ d.remove path = (.error fault, d.counted)) := by
  cases refused : d.refusal d.clock (.remove path) with
  | some fault => exact .inl ⟨fault, rfl, remove_refused refused⟩
  | none =>
    refine .inr ⟨rfl, ?_⟩
    by_cases file : ∃ l content, d.nodeAt path = .ok (l, some (.file content))
    · obtain ⟨l, content, file⟩ := file
      exact .inl ⟨l, content, file, remove_file refused file⟩
    · obtain ⟨fault, told, fails⟩ := remove_fails fun l content here => file ⟨l, content, here⟩
      exact .inr ⟨fault, told, fails d rfl refused⟩

theorem remove_sheds (d : Disk) (path : String) : Sheds (· = path) d (d.remove path).2 := by
  rcases d.remove_cases path with ⟨_, -, ran⟩ | ⟨-, ⟨l, content, file, ran⟩ | ⟨_, -, ran⟩⟩
  · rw [ran]
    exact (Sheds.refl _ d).of_nodes rfl rfl rfl
  · rw [ran]
    refine ⟨⟨[l], ?_, ?_⟩, rfl⟩
    · exact List.filter_congr fun entry _ => by simp
    · intro l' member
      rw [List.mem_singleton.mp member]
      exact ⟨path, content, rfl, file⟩
  · rw [ran]
    exact (Sheds.refl _ d).of_nodes rfl rfl rfl

theorem remove_stopped {fault : IoError} (stopped : (d.remove path).1 = .error fault) :
    (d.remove path).2.nodes = d.nodes := by
  rcases d.remove_cases path with ⟨_, -, ran⟩ | ⟨-, ⟨l, content, -, ran⟩ | ⟨_, -, ran⟩⟩
  · rw [ran]
    rfl
  · rw [ran] at stopped
    cases stopped
  · rw [ran]
    rfl

/-- Unhindered, a removal depends on nothing but the nodes. -/
theorem remove_alike (open_ : d.refusal d.clock (.remove path) = none)
    (open' : d'.refusal d'.clock (.remove path) = none) (same : d'.nodes = d.nodes) :
    (d.remove path).1 = (d'.remove path).1 ∧ (d.remove path).2.nodes = (d'.remove path).2.nodes := by
  by_cases file : ∃ l content, d.nodeAt path = .ok (l, some (.file content))
  · obtain ⟨l, content, file⟩ := file
    rw [remove_file open_ file, remove_file open' ((nodeAt_congr same).trans file)]
    exact ⟨rfl, by simp only [eraseNode, counted, same]⟩
  · obtain ⟨fault, -, fails⟩ := remove_fails fun l content here => file ⟨l, content, here⟩
    rw [fails d rfl open_, fails d' same open']
    exact ⟨rfl, same.symm⟩

/-- Behind a removal that did not fail, or for which there was no file, nothing is there, and it was not
refused. -/
theorem remove_passed (honest : d.IsHonest)
    (passed : (d.remove path).1 = .ok () ∨ (d.remove path).1 = .error .notFound) :
    d.refusal d.clock (.remove path) = none ∧ (d.remove path).2.IsGone path := by
  have sheds := d.remove_sheds path
  rcases d.remove_cases path with
    ⟨fault, refused, ran⟩ | ⟨open_, ⟨l, content, file, ran⟩ | ⟨fault, told, ran⟩⟩
  · rw [ran] at passed
    rcases passed with failed | failed
    · cases failed
    · obtain rfl := Except.error.inj failed
      exact absurd refused (honest _ _)
  · refine ⟨open_, .inr ⟨l, ?_⟩⟩
    obtain ⟨rfl, way, held⟩ := nodeAt_file file
    refine nodeAt_none (resolve_mono (fun l => (sheds.directory l).mpr) way.1) ?_
    have plain : isBase (Path.place path) = false := plain_of_file held
    rw [ran]
    exact (node?_eraseNode plain _).trans (if_pos rfl)
  · rw [ran] at passed
    rcases passed with failed | failed
    · cases failed
    · exact ⟨open_, sheds.isGone (told.mp (Except.error.inj failed))⟩

theorem remove_idle (open_ : d.refusal d.clock (.remove path) = none) (gone : d.IsGone path) :
    (d.remove path).1 = .error .notFound := by
  rcases d.remove_cases path with ⟨_, refused, -⟩ | ⟨-, ⟨l, content, file, -⟩ | ⟨_, told, ran⟩⟩
  · cases refused.symm.trans open_
  · rcases gone with nowhere | ⟨_, missing⟩
    · cases file.symm.trans nowhere
    · cases file.symm.trans missing
  · rw [ran, told.mpr gone]

end Removing

end BulkTransfer.Disk
