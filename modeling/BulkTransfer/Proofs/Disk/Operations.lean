import BulkTransfer.Proofs.Disk.Place
/-!
# What operations change

Each operation either fails and leaves every node as it was, or changes the node at the place of its
path: a new file is empty, data goes behind what is there, a renamed file is what it was, and a
removed one is gone.
-/
namespace BulkTransfer

namespace Disk

variable {d d' : Disk} {path source target : String} {l k : Location} {content data : Bytes}
  {n : DiskNode}

section Nodes

theorem isBase_directory (h : isBase l = true) : d.node? l = some .directory := by
  rw [node?, if_pos h]

theorem lookup_cons_eq (entry : Location × DiskNode) (rest : List (Location × DiskNode))
    (k : Location) :
    (entry :: rest).lookup k = if k = entry.1 then some entry.2 else rest.lookup k := by
  rw [List.lookup_cons]
  by_cases here : k = entry.1
  · rw [beq_iff_eq.mpr here, if_pos here]
  · rw [beq_eq_false_iff_ne.mpr here, if_neg here]

theorem lookup_put (nodes : List (Location × DiskNode)) (l : Location) (n : DiskNode)
    (k : Location) :
    (putNode.put l n nodes).lookup k = if k = l then some n else nodes.lookup k := by
  induction nodes with
  | nil => rw [putNode.put, lookup_cons_eq]
  | cons entry rest ih =>
    rw [putNode.put, lookup_cons_eq]
    by_cases same : entry.1 = l
    · rw [if_pos same, lookup_cons_eq, same]
      split <;> rfl
    · rw [if_neg same, lookup_cons_eq, ih]
      by_cases here : k = entry.1
      · rw [if_pos here, if_pos here, if_neg (here ▸ same)]
      · rw [if_neg here, if_neg here]

theorem lookup_erase (nodes : List (Location × DiskNode)) (l k : Location) :
    (nodes.filter fun entry => entry.1 ≠ l).lookup k = if k = l then none else nodes.lookup k := by
  induction nodes with
  | nil => simp
  | cons entry rest ih =>
    rw [List.filter_cons, lookup_cons_eq]
    by_cases same : entry.1 = l
    · rw [if_neg (by simpa using same), ih, same]
      split <;> rfl
    · rw [if_pos (by simpa using same), lookup_cons_eq, ih]
      by_cases here : k = entry.1
      · rw [if_pos here, if_neg (here ▸ same), if_pos here]
      · rw [if_neg here, if_neg here]

theorem node?_putNode (plain : isBase l = false) (k : Location) :
    (d.putNode l n).node? k = if k = l then some n else d.node? k := by
  unfold node? putNode
  dsimp only
  rw [lookup_put]
  by_cases here : k = l
  · rw [here, plain, if_pos rfl, if_pos rfl]
    rfl
  · rw [if_neg here, if_neg here]

theorem node?_eraseNode (plain : isBase l = false) (k : Location) :
    (d.eraseNode l).node? k = if k = l then none else d.node? k := by
  unfold node? eraseNode
  dsimp only
  rw [lookup_erase]
  by_cases here : k = l
  · rw [here, plain, if_pos rfl, if_pos rfl]
    rfl
  · rw [if_neg here, if_neg here]

theorem plain_of_file (h : d.node? l = some (.file content)) : isBase l = false := by
  cases base : isBase l with
  | false => rfl
  | true =>
    rw [isBase_directory base] at h
    cases h

theorem plain_of_none (h : d.node? l = none) : isBase l = false := by
  cases base : isBase l with
  | false => rfl
  | true =>
    rw [isBase_directory base] at h
    cases h

/-- A file in place of something that is no directory leaves everything else as it is. -/
theorem putNode_agrees (plain : isBase l = false) (old : d.node? l ≠ some .directory) :
    AgreesOn (· ≠ l) d (d.putNode l (.file content)) where
  directory := by
    intro k
    rw [node?_putNode plain]
    by_cases here : k = l
    · subst here
      simp [old]
    · rw [if_neg here]
  node := fun k hk => by rw [node?_putNode plain, if_neg hk]
  refusal := rfl

theorem eraseNode_agrees (old : d.node? l = some (.file content)) :
    AgreesOn (· ≠ l) d (d.eraseNode l) where
  directory := by
    intro k
    rw [node?_eraseNode (plain_of_file old)]
    by_cases here : k = l
    · subst here
      simp [old]
    · rw [if_neg here]
  node := fun k hk => by rw [node?_eraseNode (plain_of_file old), if_neg hk]
  refusal := rfl

end Nodes

section Attempts

variable {α : Type} {a : Access} {act : Disk → Except IoError (α × Disk)}

/-- The disk with one more access on its clock. -/
def counted (d : Disk) : Disk := { d with clock := d.clock + 1 }

@[simp]
theorem counted_node? (d : Disk) (l : Location) : d.counted.node? l = d.node? l := rfl

@[simp]
theorem counted_resolve (d : Disk) (path : String) : d.counted.resolve path = d.resolve path := resolve_congr rfl

theorem counted_agrees (d : Disk) (P : Location → Prop) : AgreesOn P d d.counted :=
  ⟨fun _ => .rfl, fun _ _ => rfl, rfl⟩

theorem LeadsTo.of_counted (way : d.counted.LeadsTo path) : d.LeadsTo path :=
  way.mono fun _ h => h

/-- An access is refused or fails, and then leaves the nodes, or it does what it should. -/
theorem attempt_cases (d : Disk) (a : Access) (act : Disk → Except IoError (α × Disk)) :
    (∃ fault, d.attempt a act = (.error fault, d.counted)) ∨
      ∃ result d', act d.counted = .ok (result, d') ∧ d.attempt a act = (.ok result, d') := by
  unfold attempt
  cases d.refusal d.clock a with
  | some fault => exact .inl ⟨fault, rfl⟩
  | none =>
    cases h : act { d with clock := d.clock + 1 } with
    | error fault => exact .inl ⟨fault, by simp only [h]; rfl⟩
    | ok pair => exact .inr ⟨pair.1, pair.2, h, by simp only [h]⟩

/-- An access that is not refused succeeds if what it does succeeds. -/
theorem attempt_ok (open_ : d.refusal d.clock a = none) {result : α}
    (h : act d.counted = .ok (result, d')) : d.attempt a act = (.ok result, d') := by
  have acted : act { d with clock := d.clock + 1 } = .ok (result, d') := h
  simp only [attempt, open_, acted]

theorem attempt_error (open_ : d.refusal d.clock a = none) {fault : IoError}
    (h : act d.counted = .error fault) : d.attempt a act = (.error fault, d.counted) := by
  have acted : act { d with clock := d.clock + 1 } = .error fault := h
  simp only [attempt, open_, acted]
  rfl

end Attempts

section Operations

/-- Reading changes nothing but the clock. -/
theorem read_counted (d : Disk) (path : String) : (d.read path).2 = d.counted := by
  unfold read
  rcases attempt_cases d (.read path) _ with ⟨fault, h⟩ | ⟨result, d', done, h⟩
  · rw [h]
  · rw [h]
    cases found : d.counted.nodeAt path with
    | error e => simp [found, bind, Except.bind] at done
    | ok pair =>
      obtain ⟨l, node⟩ := pair
      rw [found] at done
      match node, done with
      | some (.file content), done =>
        cases done
        rfl
      | some .directory, done => cases done
      | none, done => cases done

theorem read_agrees (d : Disk) (path : String) (P : Location → Prop) :
    AgreesOn P d (d.read path).2 := by
  rw [read_counted]
  exact d.counted_agrees P

theorem read_ok (h : (d.read path).1 = .ok content) : d.fileAt? path = some content := by
  unfold read at h
  rcases attempt_cases d (.read path) _ with ⟨fault, e⟩ | ⟨result, d', done, e⟩
  · rw [e] at h
    cases h
  · rw [e] at h
    cases h
    cases found : d.counted.nodeAt path with
    | error e => simp [found, bind, Except.bind] at done
    | ok pair =>
      obtain ⟨l, node⟩ := pair
      rw [found] at done
      match node, done with
      | some (.file content), done =>
        cases done
        obtain ⟨-, way, held⟩ := nodeAt_file found
        exact fileAt?_eq.mpr ⟨way.of_counted, held⟩
      | some .directory, done => cases done
      | none, done => cases done

/-- Only a refusal keeps a file from being read. -/
theorem read_allowed (allows : ∀ n, d.refusal n (.read path) = none)
    (held : d.fileAt? path = some content) : d.read path = (.ok content, d.counted) := by
  obtain ⟨way, file⟩ := fileAt?_eq.mp held
  have found := (way.agrees (d.counted_agrees fun _ => True)).nodeAt
  rw [counted_node?, file] at found
  unfold read
  refine attempt_ok (allows d.clock) ?_
  rw [found]
  rfl

theorem writable_ok (h : d.writable path = .ok (l, content)) :
    l = Path.place path ∧ d.LeadsTo path ∧ isBase l = false ∧
      (d.node? l = some (.file content) ∨ d.node? l = none ∧ content = []) := by
  unfold writable at h
  cases found : d.nodeAt path with
  | error e => simp [found, bind, Except.bind] at h
  | ok pair =>
    obtain ⟨place, node⟩ := pair
    rw [found] at h
    match node, h with
    | some (.file old), h =>
      cases h
      obtain ⟨rfl, way, held⟩ := nodeAt_file found
      exact ⟨rfl, way, plain_of_file held, .inl held⟩
    | some .directory, h => cases h
    | none, h =>
      cases ends : Path.endsAsDirectory path with
      | true => simp [ends, bind, Except.bind] at h
      | false =>
        simp [ends, bind, Except.bind, pure, Except.pure] at h
        obtain ⟨rfl, rfl⟩ := h
        obtain ⟨rfl, way, empty, -⟩ := nodeAt_ok found
        exact ⟨rfl, ⟨way, ends⟩, plain_of_none empty, .inr ⟨empty, rfl⟩⟩

/-- A file that could be created is empty. -/
theorem create_spec (d : Disk) (path : String) :
    (∃ fault, (d.create path).1 = .error fault ∧ ∀ P, AgreesOn P d (d.create path).2) ∨
      (d.create path).1 = .ok () ∧ AgreesOn (· ≠ Path.place path) d (d.create path).2 ∧
        (d.create path).2.LeadsTo path ∧
        (d.create path).2.node? (Path.place path) = some (.file []) := by
  unfold create
  rcases attempt_cases d (.create path) _ with ⟨fault, h⟩ | ⟨result, d', done, h⟩
  · rw [h]
    exact .inl ⟨fault, rfl, d.counted_agrees⟩
  · rw [h]
    refine .inr ⟨rfl, ?_⟩
    cases found : d.counted.writable path with
    | error e => simp [found, bind, Except.bind] at done
    | ok pair =>
      obtain ⟨l, old⟩ := pair
      simp only [found, bind, Except.bind, pure, Except.pure, Except.ok.injEq, Prod.mk.injEq] at done
      obtain ⟨-, rfl⟩ := done
      obtain ⟨rfl, way, plain, node⟩ := writable_ok found
      have agrees : AgreesOn (· ≠ Path.place path) d
          (d.counted.putNode (Path.place path) (.file [])) := by
        refine (d.counted_agrees _).trans (putNode_agrees plain ?_)
        rcases node with node | ⟨node, -⟩ <;> simp [node]
      exact ⟨agrees, way.of_counted.agrees agrees, by rw [node?_putNode plain, if_pos rfl]⟩

/-- Only a refusal keeps a file from being made where one can be. -/
theorem create_allowed (allows : ∀ n, d.refusal n (.create path) = none) (way : d.LeadsTo path)
    (free : d.node? (Path.place path) ≠ some .directory) :
    d.create path = (.ok (), d.counted.putNode (Path.place path) (.file [])) := by
  have found := (way.agrees (d.counted_agrees fun _ => True)).nodeAt
  rw [counted_node?] at found
  have writable : ∃ content, d.counted.writable path = .ok (Path.place path, content) := by
    unfold writable
    rw [found]
    cases node : d.node? (Path.place path) with
    | none => exact ⟨[], by simp [way.2, bind, Except.bind, pure, Except.pure]⟩
    | some node' =>
      cases node' with
      | file content => exact ⟨content, rfl⟩
      | directory => exact absurd node free
  obtain ⟨content, ok⟩ := writable
  unfold create
  refine attempt_ok (allows d.clock) ?_
  rw [ok]
  rfl

/-- Data goes behind what the file holds. -/
theorem append_spec (d : Disk) (path : String) (data : Bytes) :
    AgreesOn (· ≠ Path.place path) d (d.append path data).2 ∧
      ((∀ P, AgreesOn P d (d.append path data).2) ∨
        ∃ content, d.node? (Path.place path) = some (.file content) ∧
          (d.append path data).2.node? (Path.place path) = some (.file (content ++ data))) ∧
      ((d.append path data).1 = .ok () → d.LeadsTo path →
        ∀ content, d.node? (Path.place path) = some (.file content) →
          (d.append path data).2.node? (Path.place path) = some (.file (content ++ data))) := by
  unfold append
  rcases attempt_cases d (.append path) _ with ⟨fault, h⟩ | ⟨result, d', done, h⟩
  · rw [h]
    exact ⟨d.counted_agrees _, .inl d.counted_agrees, fun ok => by cases ok⟩
  · rw [h]
    split at done
    · rename_i l content found
      cases done
      obtain ⟨rfl, way, held⟩ := nodeAt_file found
      have plain := plain_of_file held
      have grown : (d.counted.putNode (Path.place path) (.file (content ++ data))).node?
          (Path.place path) = some (.file (content ++ data)) := by
        rw [node?_putNode plain, if_pos rfl]
      refine ⟨(d.counted_agrees _).trans (putNode_agrees plain (by simp [held])),
        .inr ⟨content, held, grown⟩, fun _ _ other same => ?_⟩
      rw [counted_node?, same] at held
      cases held
      exact grown
    · rename_i missing
      cases done
      refine ⟨d.counted_agrees _, .inl d.counted_agrees, fun _ way content held => ?_⟩
      exact absurd ((way.agrees (d.counted_agrees fun _ => True)).nodeAt.trans (by rw [counted_node?, held]))
        (missing _ _)

/-- Only a refusal keeps data from being written. -/
theorem append_allowed (allows : ∀ n, d.refusal n (.append path) = none) (data : Bytes) :
    (d.append path data).1 = .ok () := by
  unfold append attempt
  rw [allows]
  dsimp only
  split
  · rename_i done
    split at done <;> cases done <;> rfl
  · rename_i done
    split at done <;> cases done

/-- A file taken from one place to another. -/
def moved (d : Disk) (start goal : Location) (content : Bytes) : Disk :=
  (d.eraseNode start).putNode goal (.file content)

theorem moved_spec {start goal : Location} (held : d.node? start = some (.file content))
    (plain : isBase goal = false) (old : d.node? goal ≠ some .directory) :
    AgreesOn (fun l => l ≠ start ∧ l ≠ goal) d (d.moved start goal content) ∧
      (d.moved start goal content).node? goal = some (.file content) ∧
      (start ≠ goal → (d.moved start goal content).node? start = none) := by
  have gone := node?_eraseNode (d := d) (plain_of_file held)
  have erased := eraseNode_agrees held
  have put : AgreesOn (· ≠ goal) (d.eraseNode start) (d.moved start goal content) :=
    putNode_agrees plain (by
      rw [gone]
      split
      · simp
      · exact old)
  refine ⟨(erased.mono fun _ hl => hl.1).trans (put.mono fun _ hl => hl.2), ?_, ?_⟩
  · rw [moved, node?_putNode plain, if_pos rfl]
  · intro apart
    rw [moved, node?_putNode plain, if_neg apart, gone, if_pos rfl]

/-- A renamed file is what it was, in the other place alone. -/
theorem rename_spec (d : Disk) (source target : String) :
    (∃ fault, (d.rename source target).1 = .error fault ∧
        ∀ P, AgreesOn P d (d.rename source target).2) ∨
      (d.rename source target).1 = .ok () ∧ d.LeadsTo target ∧
        AgreesOn (fun l => l ≠ Path.place source ∧ l ≠ Path.place target) d
          (d.rename source target).2 ∧
        ∃ content, d.node? (Path.place source) = some (.file content) ∧
          (d.rename source target).2.node? (Path.place target) = some (.file content) ∧
          (Path.place source ≠ Path.place target →
            (d.rename source target).2.node? (Path.place source) = none) := by
  unfold rename
  rcases attempt_cases d (.rename source target) _ with ⟨fault, h⟩ | ⟨result, d', done, h⟩
  · rw [h]
    exact .inl ⟨fault, rfl, d.counted_agrees⟩
  · rw [h]
    refine .inr ⟨rfl, ?_⟩
    cases hs : d.counted.nodeAt source with
    | error e => simp [hs, bind, Except.bind] at done
    | ok first =>
      obtain ⟨start, node⟩ := first
      match node, hs with
      | none, hs =>
        rw [hs] at done
        cases done
      | some node, hs =>
        cases ht : d.counted.nodeAt target with
        | error e => simp [hs, ht, bind, Except.bind] at done
        | ok second =>
          obtain ⟨goal, old⟩ := second
          simp only [hs, ht, bind, Except.bind] at done
          obtain ⟨rfl, way, at_, -⟩ := nodeAt_ok ht
          match node, hs, done with
          | .directory, _, done => split at done <;> contradiction
          | .file content, hs, done =>
            obtain ⟨rfl, -, held⟩ := nodeAt_file hs
            have file : d.counted.node? (Path.place target) ≠ some .directory ∧
                Path.endsAsDirectory target = false ∧
                d' = d.counted.moved (Path.place source) (Path.place target) content := by
              rw [at_]
              cases ends : Path.endsAsDirectory target with
              | true =>
                simp only [ends, if_true] at done
                split at done <;> cases done
              | false =>
                simp only [ends, Bool.false_eq_true, if_false] at done
                match old, done with
                | some (.file _), done | none, done =>
                  cases done
                  exact ⟨by simp, rfl, rfl⟩
                | some .directory, done => cases done
            obtain ⟨other, plain, rfl⟩ := file
            have base : isBase (Path.place target) = false :=
              Bool.eq_false_iff.mpr fun base => other (isBase_directory base)
            obtain ⟨agrees, there, gone⟩ := moved_spec held base other
            exact ⟨LeadsTo.of_counted ⟨way, plain⟩, (d.counted_agrees _).trans agrees, content, held,
              there, gone⟩

/-- Only a refusal keeps a file from being moved to where a file can be. -/
theorem rename_allowed (allows : ∀ n, d.refusal n (.rename source target) = none)
    (held : d.fileAt? source = some content) (way : d.LeadsTo target)
    (free : d.node? (Path.place target) ≠ some .directory) :
    d.rename source target =
      (.ok (), d.counted.moved (Path.place source) (Path.place target) content) := by
  obtain ⟨start, file⟩ := fileAt?_eq.mp held
  have found := (start.agrees (d.counted_agrees fun _ => True)).nodeAt
  have goal := (way.agrees (d.counted_agrees fun _ => True)).nodeAt
  rw [counted_node?, file] at found
  rw [counted_node?] at goal
  unfold rename
  refine attempt_ok (allows d.clock) ?_
  rw [found]
  cases node : d.node? (Path.place target) with
  | none => simp [goal, node, way.2, bind, Except.bind, pure, Except.pure, moved]
  | some node' =>
    cases node' with
    | file old => simp [goal, node, way.2, bind, Except.bind, pure, Except.pure, moved]
    | directory => exact absurd node free

theorem remove_ok (open_ : ∀ n, d.refusal n (.remove path) = none) (way : d.LeadsTo path)
    (held : d.node? (Path.place path) = some (.file content)) :
    d.remove path = (.ok (), d.counted.eraseNode (Path.place path)) := by
  unfold remove
  refine attempt_ok (open_ d.clock) ?_
  have found := (way.agrees (d.counted_agrees fun _ => True)).nodeAt
  rw [counted_node?, held] at found
  rw [found]
  rfl

/-- What a removal leaves: where there is a way and no refusal, no file. -/
theorem remove_spec (d : Disk) (path : String) :
    AgreesOn (· ≠ Path.place path) d (d.remove path).2 ∧
      ((∀ P, AgreesOn P d (d.remove path).2) ∨ (d.remove path).2.IsVacant (Path.place path)) ∧
      ((∀ n, d.refusal n (.remove path) = none) → d.LeadsTo path →
        (d.remove path).2.IsVacant (Path.place path) ∧
          ∀ content, d.node? (Path.place path) = some (.file content) →
            (d.remove path).1 = .ok ()) := by
  unfold remove
  have removed : ∀ {content : Bytes}, d.node? (Path.place path) = some (.file content) →
      (d.counted.eraseNode (Path.place path)).IsVacant (Path.place path) := by
    intro content held other
    rw [node?_eraseNode (plain_of_file held), if_pos rfl]
    simp
  rcases attempt_cases d (.remove path) _ with ⟨fault, h⟩ | ⟨result, d', done, h⟩
  · rw [h]
    refine ⟨d.counted_agrees _, .inl d.counted_agrees, fun open_ way => ?_⟩
    have empty : d.IsVacant (Path.place path) := by
      intro content held
      have removed := remove_ok open_ way held
      unfold remove at removed
      rw [h] at removed
      cases removed
    exact ⟨empty, fun content held => absurd held (empty content)⟩
  · rw [h]
    cases found : d.counted.nodeAt path with
    | error e => simp [found, bind, Except.bind] at done
    | ok pair =>
      obtain ⟨l, node⟩ := pair
      rw [found] at done
      match node, found, done with
      | some .directory, _, done => cases done
      | none, _, done => cases done
      | some (.file content), found, done =>
        cases done
        obtain ⟨rfl, way, held⟩ := nodeAt_file found
        exact ⟨(d.counted_agrees _).trans (eraseNode_agrees held), .inr (removed held),
          fun _ _ => ⟨removed held, fun _ _ => rfl⟩⟩

/-- Where nothing is refused and no directory is in the way, a removal leaves no file, and says so or
that there was none. -/
theorem remove_gone (open_ : ∀ n, d.refusal n (.remove path) = none) (way : d.LeadsTo path)
    (plain : d.node? (Path.place path) ≠ some .directory) :
    ((d.remove path).1 = .ok () ∨ (d.remove path).1 = .error .notFound) ∧
      (d.remove path).2.IsVacant (Path.place path) ∧
        AgreesOn (· ≠ Path.place path) d (d.remove path).2 := by
  obtain ⟨agrees, -, gone⟩ := d.remove_spec path
  obtain ⟨vacant, removed⟩ := gone open_ way
  refine ⟨?_, vacant, agrees⟩
  cases held : d.node? (Path.place path) with
  | some n =>
    cases n with
    | file content => exact .inl (removed content held)
    | directory => exact absurd held plain
  | none =>
    have found := (way.agrees (d.counted_agrees fun _ => True)).nodeAt
    rw [counted_node?, held] at found
    right
    unfold remove
    refine congrArg Prod.fst (attempt_error (open_ d.clock) ?_)
    rw [found]
    rfl

theorem list_counted (d : Disk) (path : String) : (d.list path).2 = d.counted := by
  unfold list
  rcases attempt_cases d (.list path) _ with ⟨fault, h⟩ | ⟨result, d', done, h⟩
  · rw [h]
  · rw [h]
    cases found : d.counted.nodeAt path with
    | error e => simp [found, bind, Except.bind] at done
    | ok pair =>
      obtain ⟨l, node⟩ := pair
      rw [found] at done
      match node, done with
      | some .directory, done =>
        cases done
        rfl
      | some (.file _), done => cases done
      | none, done => cases done

/-- What is listed are the entries of the place. -/
theorem list_ok {entries : List (String × Bool)} (h : (d.list path).1 = .ok entries) :
    entries = d.entriesOf (Path.place path) := by
  unfold list at h
  rcases attempt_cases d (.list path) _ with ⟨fault, e⟩ | ⟨result, d', done, e⟩
  · rw [e] at h
    cases h
  · rw [e] at h
    cases h
    cases found : d.counted.nodeAt path with
    | error e => simp [found, bind, Except.bind] at done
    | ok pair =>
      obtain ⟨l, node⟩ := pair
      rw [found] at done
      match node, found, done with
      | some .directory, found, done =>
        cases done
        rw [← (nodeAt_ok found).1]
        rfl
      | some (.file _), _, done => cases done
      | none, _, done => cases done

section Directories

/-- A directory is made at the end of a way that is there, or nothing is. -/
theorem makeDirectory_cases (d : Disk) (path : String) :
    (∃ fault, d.makeDirectory path = (.error fault, d.counted)) ∨
      d.resolve path = .ok (Path.place path) ∧ d.node? (Path.place path) = none ∧
        d.makeDirectory path = (.ok (), d.counted.putNode (Path.place path) .directory) := by
  unfold makeDirectory
  rcases attempt_cases d (.makeDirectory path) _ with ⟨fault, h⟩ | ⟨result, d', done, h⟩
  · exact .inl ⟨fault, h⟩
  · right
    rw [h]
    rw [counted_resolve] at done
    cases way : d.resolve path with
    | error fault => simp [way, bind, Except.bind] at done
    | ok l =>
      obtain rfl := resolve_place way
      cases held : d.node? (Path.place path) with
      | some n => simp [way, held, bind, Except.bind] at done
      | none =>
        simp only [way, bind, Except.bind, counted_node?, held, pure, Except.pure] at done
        cases done
        exact ⟨rfl, rfl, rfl⟩

theorem makeDirectory_grows (d : Disk) (path : String) : GrowsTo d (d.makeDirectory path).2 := by
  rcases d.makeDirectory_cases path with ⟨fault, h⟩ | ⟨-, none, h⟩
  · rw [h]
    exact (d.counted_agrees _).grows
  · rw [h]
    have put := node?_putNode (d := d.counted) (n := .directory) (plain_of_none none)
    refine ⟨fun k content => ?_, fun k held => ?_, rfl⟩
    · rw [put]
      by_cases here : k = Path.place path
      · simp [here, none]
      · rw [if_neg here, counted_node?]
    · rw [put]
      split
      · rfl
      · exact held

theorem ensureDirectory_grows (d : Disk) (path : String) :
    GrowsTo d (d.ensureDirectory path).2 := by
  have made := d.makeDirectory_grows path
  unfold ensureDirectory
  split
  · rename_i h
    rwa [h] at made
  · rename_i h
    rwa [h] at made

theorem makeDirectoriesWithin_grows (depth : Nat) (d : Disk) (path : String) :
    GrowsTo d (makeDirectoriesWithin depth d path).2 := by
  induction depth generalizing d path with
  | zero => exact .refl d
  | succ depth ih =>
    have made := d.makeDirectory_grows path
    unfold makeDirectoriesWithin
    split
    · exact .refl d
    · split
      · rename_i h
        rwa [h] at made
      · rename_i after h
        rw [h] at made
        split
        · exact made
        · rename_i parent _
          have above := ih after parent
          split
          · rename_i h
            rw [h] at above
            exact (made.trans above).trans (ensureDirectory_grows _ path)
          · exact made.trans above
      · rename_i h
        rwa [h] at made

theorem makeDirectories_grows (d : Disk) (path : String) : GrowsTo d (d.makeDirectories path).2 :=
  makeDirectoriesWithin_grows _ d path

end Directories

end Operations

end Disk

end BulkTransfer
