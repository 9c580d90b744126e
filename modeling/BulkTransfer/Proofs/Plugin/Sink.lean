import BulkTransfer.Plugin.Feed
import BulkTransfer.Proofs.Page.RoundTrip
import BulkTransfer.Proofs.World.Region
import BulkTransfer.Record.Counting
/-!
# What a sink does with its rows

A contract between a sink and whoever feeds it: as long as all calls succeed it has taken exactly the
rows of the pages it was given, a commit makes them last, and an abort leaves nothing. A call fails
only where the disk is in the way or the rows are not of those that the sink takes. The contract
holds in the region of the task, whatever others do.
-/
namespace BulkTransfer

variable {σ α β : Type}

/-- How a call ended: well, or not. -/
def Ends (good : α → σ → Disk → Prop) (bad : σ → Disk → Prop) : Attempt α × σ → Disk → Prop
  | (.ok a, s), d => good a s d
  | (.error _, s), d => bad s d

namespace Call

variable {r : Region} {c : Call σ α} {f : α → Call σ β} {s : σ} {d : Disk}
  {good : α → σ → Disk → Prop} {then_ : β → σ → Disk → Prop} {bad : σ → Disk → Prop}

theorem ensures_pure {a : α} (h : good a s d) :
    ((Pure.pure a : Call σ α).attempt s).Ensures r (Ends good bad) d := h

theorem ensures_bind {Q : α → σ → Disk → Prop} (h : (c.attempt s).Ensures r (Ends Q bad) d)
    (hf : ∀ a s d, Q a s d → ((f a).attempt s).Ensures r (Ends then_ bad) d) :
    ((c >>= f).attempt s).Ensures r (Ends then_ bad) d := by
  refine Program.Ensures.andThen h ?_
  rintro ⟨result, s⟩ d ended
  cases result with
  | error e => exact ended
  | ok a => exact hf a s d ended

theorem ensures_get {f : σ → Call σ β} (h : ((f s).attempt s).Ensures r (Ends then_ bad) d) :
    ((get >>= f).attempt s).Ensures r (Ends then_ bad) d := h

theorem ensures_modify {g : σ → σ} {f : PUnit → Call σ β}
    (h : ((f ⟨⟩).attempt (g s)).Ensures r (Ends then_ bad) d) :
    ((modify g >>= f).attempt s).Ensures r (Ends then_ bad) d := h

theorem ensures_ofAttempt {x : Attempt α} (ok : ∀ a, x = .ok a → good a s d)
    (error : ∀ e, x = .error e → bad s d) :
    ((Call.ofAttempt x).attempt s).Ensures r (Ends good bad) d := by
  cases x with
  | ok a => exact ok a rfl
  | error e => exact error e rfl

end Call

section Runs

variable {σ α β : Type} {c : Call σ α} {f : α → Call σ β} {s : σ} {d : Disk}
  {good Q : α → σ → Disk → Prop} {then_ : β → σ → Disk → Prop} {bad bad' : σ → Disk → Prop}

/-- How the call ends on this disk when nobody interferes. -/
def Call.RunsTo (c : Call σ α) (s : σ) (d : Disk) (good : α → σ → Disk → Prop)
    (bad : σ → Disk → Prop) : Prop :=
  ∀ w : World, w.disk = d → Ends good bad ((c.attempt s).run w).1 ((c.attempt s).run w).2.disk

namespace Call

theorem RunsTo.mono (h : c.RunsTo s d Q bad) (ok : ∀ a s d, Q a s d → good a s d)
    (error : ∀ s d, bad s d → bad' s d) : c.RunsTo s d good bad' := by
  intro w same
  have ended := h w same
  generalize ((c.attempt s).run w) = ran at ended ⊢
  obtain ⟨⟨result, s'⟩, w'⟩ := ran
  cases result with
  | error e => exact error _ _ ended
  | ok a => exact ok _ _ _ ended

theorem RunsTo.bind (h : c.RunsTo s d Q bad) (hf : ∀ a s d, Q a s d → (f a).RunsTo s d then_ bad) :
    (c >>= f).RunsTo s d then_ bad := by
  intro w same
  have ended := h w same
  have runs : ((c >>= f).attempt s).run w =
      (ExceptT.bindCont f ((c.attempt s).run w).1.1 ((c.attempt s).run w).1.2).run
        ((c.attempt s).run w).2 := Program.run_andThen _ _ _
  rw [runs]
  generalize ((c.attempt s).run w) = ran at ended ⊢
  obtain ⟨⟨result, s'⟩, w'⟩ := ran
  cases result with
  | error e => exact ended
  | ok a => exact hf a s' w'.disk ended w' rfl

theorem runsTo_pure {a : α} (h : good a s d) : (Pure.pure a : Call σ α).RunsTo s d good bad := by
  rintro w rfl
  exact h

theorem runsTo_get {f : σ → Call σ β} (h : (f s).RunsTo s d then_ bad) :
    (get >>= f).RunsTo s d then_ bad := h

theorem runsTo_modify {g : σ → σ} {f : PUnit → Call σ β} (h : (f ⟨⟩).RunsTo (g s) d then_ bad) :
    (modify g >>= f).RunsTo s d then_ bad := h

end Call

end Runs

/-- The contract of a sink for pages of a schema, in a region. -/
structure SinkContract (r : Region) (schema : Schema) (sink : PageSink σ) where
  before : Disk → Prop
  /-- The sink can still be aborted. -/
  isOpen : σ → Disk → Prop
  /-- The sink has taken exactly these rows. -/
  taken : List (List Cell) → σ → Disk → Prop
  /-- The sink was finished with exactly these rows. -/
  finished : List (List Cell) → σ → Disk → Prop
  committed : List (List Cell) → Report → Disk → Prop
  gone : Disk → Prop
  /-- Nothing on the disk is in the way of the sink. -/
  able : Disk → Prop
  refuses : List (List Cell) → Prop
  initial : σ
  isOpen_stable : ∀ s, r.Stable (isOpen s)
  taken_stable : ∀ rows s, r.Stable (taken rows s)
  finished_stable : ∀ rows s, r.Stable (finished rows s)
  committed_stable : ∀ rows report, r.Stable (committed rows report)
  gone_stable : r.Stable gone
  able_before : ∀ {d d' : Disk}, d.AgreesOn (fun _ => False) d' → able d' → able d
  refuses_more : ∀ {rows} more, refuses rows → refuses (rows ++ more)
  taken_open : ∀ {rows s d}, taken rows s d → isOpen s d
  finished_open : ∀ {rows s d}, finished rows s d → isOpen s d
  start : ∀ {d}, before d → (sink.start.attempt initial).Ensures r
    (Ends (fun _ => taken []) fun _ d => gone d ∧ ¬ able d) d
  add : ∀ {page rows new s d}, page.IsOf schema new → taken rows s d →
    ((sink.add page).attempt s).Ensures r (Ends (fun _ => taken (rows ++ new))
      fun s d => isOpen s d ∧ (able d → refuses (rows ++ new))) d
  add_open : ∀ {page s d}, isOpen s d →
    ((sink.add page).attempt s).Ensures r (fun x => isOpen x.2) d
  finish : ∀ {rows s d}, taken rows s d → (sink.finish.attempt s).Ensures r
    (Ends (fun _ => finished rows) fun s d => isOpen s d ∧ ¬ able d) d
  commit : ∀ {rows s d}, finished rows s d → (sink.commit.attempt s).Ensures r
    (Ends (fun report _ => committed rows report) fun s d => isOpen s d ∧ ¬ able d) d
  abort : ∀ {s d}, isOpen s d → (sink.abort s).Ensures r (fun _ => gone) d
  close : ∀ s (P : Disk → Prop) d, r.Stable P → P d → (sink.close s).Ensures r (fun _ => P) d

namespace Program

variable {Q R : Type} {server : Q → StateT σ Action R}

theorem answered_andThen (p : Program Q R α) (f : α → Program Q R β) (s : σ) :
    (p.andThen f).answered server s =
      (p.answered server s).andThen fun x => (f x.1).answered server x.2 := by
  induction p generalizing s with
  | done a => rfl
  | step change next ih => simp only [andThen, answered, ih]
  | ask q next ih =>
    simp only [andThen, answered, andThen_assoc]
    congr 1
    funext x
    exact ih x.1 x.2

theorem answered_ofAction (p : Action α) (s : σ) :
    (ofAction p).answered server s = p.andThen fun a => .done (a, s) := by
  induction p with
  | done a => rfl
  | step change next ih => simp only [ofAction, answered, andThen, ih]
  | ask q next _ => cases q

end Program

namespace SinkContract

variable {r : Region} {schema : Schema} {sink : PageSink σ} (k : SinkContract r schema sink)

/-- A program over a builder that feeds the sink either ends as said, or leaves the sink open for a
reason. -/
def Builds (why : Disk → Prop) (m : Building α) (b : PageBuilder) (s : σ) (d : Disk)
    (good : α → PageBuilder → σ → Disk → Prop) : Prop :=
  (((m.run).run b).answered (fun page => (sink.add page).attempt) s).Ensures r
    (fun x => Ends (fun a => good a x.1.2) (fun s d => k.isOpen s d ∧ why d) (x.1.1, x.2)) d

/-- The sink does not take the rows, or there is no room for them in pages. -/
def Troubled (rows : List (List Cell)) (d : Disk) : Prop :=
  k.able d → k.refuses rows ∨ ¬ schema.HasRoom r.pageSize rows

variable {k} {why : Disk → Prop} {b : PageBuilder} {s : σ} {d : Disk} {m : Building α}
  {f : α → Building β} {good : α → PageBuilder → σ → Disk → Prop}
  {then_ : β → PageBuilder → σ → Disk → Prop} {rows cur : List (List Cell)} {row : List Cell}

theorem able_stable {P : Prop} : r.Stable fun d => k.able d → P :=
  fun _ _ spared h able => h (k.able_before (spared.mono fun _ none => none.elim) able)

theorem Troubled.more (h : k.Troubled rows d) (more : List (List Cell)) :
    k.Troubled (rows ++ more) d := by
  intro able
  rcases h able with refused | small
  · exact .inl (k.refuses_more more refused)
  · exact .inr fun room => small room.parts.1

namespace Builds

theorem pure {a : α} (h : good a b s d) : k.Builds why (Pure.pure a) b s d good := h

theorem bind {Q : α → PageBuilder → σ → Disk → Prop} (h : k.Builds why m b s d Q)
    (hf : ∀ a b s d, Q a b s d → k.Builds why (f a) b s d then_) :
    k.Builds why (m >>= f) b s d then_ := by
  change ((Program.andThen ((m.run).run b) fun x => _).answered _ s).Ensures r _ d
  rw [Program.answered_andThen]
  refine Program.Ensures.andThen h ?_
  rintro ⟨⟨result, b⟩, s⟩ d ended
  cases result with
  | error e => exact ended
  | ok a => exact hf a b s d ended

theorem mono {good' : α → PageBuilder → σ → Disk → Prop} (h : k.Builds why m b s d good)
    (weaker : ∀ a b s d, good a b s d → good' a b s d) : k.Builds why m b s d good' := by
  refine Program.Ensures.mono h ?_
  rintro ⟨⟨result, b⟩, s⟩ d ended
  cases result with
  | error e => exact ended
  | ok a => exact weaker a b s d ended

theorem because {why' : Disk → Prop} (h : k.Builds why m b s d good)
    (weaker : ∀ d, why d → why' d) : k.Builds why' m b s d good := by
  refine Program.Ensures.mono h ?_
  rintro ⟨⟨result, b⟩, s⟩ d ended
  cases result with
  | error e => exact ⟨ended.1, weaker d ended.2⟩
  | ok a => exact ended

theorem keep {P : Disk → Prop} (h : k.Builds why m b s d good) (fixed : r.Fixed P) (hp : P d) :
    k.Builds (fun d => why d ∧ P d) m b s d fun a b s d => good a b s d ∧ P d := by
  refine (Program.Ensures.keep h fixed hp).mono ?_
  rintro ⟨⟨result, b⟩, s⟩ d ⟨ended, hp⟩
  cases result with
  | error e => exact ⟨ended.1, ended.2, hp⟩
  | ok a => exact ⟨ended, hp⟩

theorem get_bind {f : PageBuilder → Building β} (h : k.Builds why (f b) b s d then_) :
    k.Builds why (get >>= f) b s d then_ := h

theorem set_bind {b' : PageBuilder} {f : PUnit → Building β}
    (h : k.Builds why (f ()) b' s d then_) :
    k.Builds why (MonadStateOf.set b' >>= f) b s d then_ := h

theorem ofAttempt {x : Attempt α} (isOpen : k.isOpen s d) (error : ∀ e, x = .error e → why d)
    (h : ∀ a, x = .ok a → good a b s d) : k.Builds why (Building.ofAttempt x) b s d good := by
  cases x with
  | error e => exact ⟨isOpen, error e rfl⟩
  | ok a => exact h a rfl

theorem ofFeed {p : Feed α} (h : (p.answered (fun page => (sink.add page).attempt) s).Ensures r
    (fun x => good x.1 b x.2) d) : k.Builds why (Building.ofFeed p) b s d good := by
  change (((p.andThen fun a => .done (a, b)).andThen fun x => .done (Except.ok x.1, x.2)).answered _
    s).Ensures r _ d
  rw [Program.answered_andThen, Program.answered_andThen, Program.andThen_assoc]
  exact h.andThen fun x d hx => hx

theorem ofAction {p : Action (Attempt α)} {P : Attempt α → Disk → Prop} (h : p.Ensures r P d)
    (bad : ∀ e d, P (.error e) d → k.isOpen s d ∧ why d)
    (ok : ∀ a d, P (.ok a) d → good a b s d) :
    k.Builds why (Building.ofAction p) b s d good := by
  change (((Program.ofAction p).andThen fun a => .done (a, b)).answered _ s).Ensures r _ d
  rw [Program.answered_andThen, Program.answered_ofAction, Program.andThen_assoc]
  refine h.andThen fun x d hx => ?_
  cases x with
  | error e => exact bad e d hx
  | ok a => exact ok a d hx

theorem onPool {operation : Pool → α × Pool} {P : Disk → Prop}
    (sizes : ∀ pool, (operation pool).2.pageSize = pool.pageSize) (stable : r.Stable P) (hp : P d)
    (h : ∀ pool d, pool.pageSize = r.pageSize → P d → good (operation pool).1 b s d) :
    k.Builds why (Building.ofFeed (Program.onPool operation)) b s d good :=
  ofFeed (Program.Ensures.quiet (fun _ => rfl) (fun w => ⟨rfl, sizes w.pool⟩)
    fun w spared sized => h w.pool w.disk sized (stable d _ spared hp))

theorem onWorld {change : World → World} {P : Disk → Prop} {f : Unit → Building β}
    (same : ∀ w, (change w).disk = w.disk) (terms : ∀ w : World, w.KeepsTerms (change w))
    (stable : r.Stable P) (hp : P d) (h : ∀ d, P d → k.Builds why (f ()) b s d then_) :
    k.Builds why (Building.ofFeed (Program.change change) >>= f) b s d then_ :=
  bind (Q := fun _ b' s' d => b' = b ∧ s' = s ∧ P d)
    (ofFeed (Program.Ensures.quiet same terms fun _ spared _ => ⟨rfl, rfl, stable d _ spared hp⟩))
    fun _ _ _ d => by
      rintro ⟨rfl, rfl, hp⟩
      exact h d hp

theorem offer {page : Page} {P : Attempt Unit → σ → Disk → Prop}
    (h : ((sink.add page).attempt s).Ensures r (fun x => P x.1 x.2) d) :
    k.Builds why (Building.ofFeed (.ask page .done)) b s d fun answer b' s d => b' = b ∧ P answer s d := by
  refine ofFeed (Program.Ensures.andThen h ?_)
  exact fun x d hx => ⟨rfl, hx⟩

/-- An invariant of the turns of a loop holds in the end. -/
theorem forIn {γ : Type} {xs : List γ} {body : γ → PUnit → Building (ForInStep PUnit)}
    {I : List γ → PageBuilder → σ → Disk → Prop} (h : I [] b s d)
    (turn : ∀ done x rest, xs = done ++ x :: rest → ∀ b s d, I done b s d →
      k.Builds why (body x ⟨⟩) b s d fun next b s d => next = .yield ⟨⟩ ∧ I (done ++ [x]) b s d) :
    k.Builds why (ForIn.forIn xs PUnit.unit body) b s d fun _ => I xs := by
  suffices loop : ∀ rest done b s d, xs = done ++ rest → I done b s d →
      k.Builds why (ForIn.forIn rest PUnit.unit body) b s d fun _ => I xs from
    loop xs [] b s d rfl h
  intro rest
  induction rest with
  | nil =>
    intro done b s d parts hd
    rw [List.append_nil] at parts
    exact pure (parts ▸ hd)
  | cons x rest ih =>
    intro done b s d parts hd
    rw [List.forIn_cons]
    refine bind (turn done x rest parts b s d hd) ?_
    rintro _ b s d ⟨rfl, next⟩
    exact ih (done ++ [x]) b s d (by simp [parts]) next

end Builds

/-- What is offered decides what is left of a page that was emitted. -/
theorem emit_ends {page : Page} {P : Disk → Prop} {S : Attempt Unit → σ → Disk → Prop}
    (stable : r.Stable P) (hp : P d) (kept : ∀ answer s, r.Stable (S answer s))
    (h : ∀ d, P d → ((sink.add page).attempt s).Ensures r (fun x => S x.1 x.2) d)
    (bad : ∀ e s d, S (.error e) s d → k.isOpen s d ∧ why d) :
    k.Builds why (Building.emit page) b s d fun _ b' s d => b' = b ∧ S (.ok ()) s d := by
  have rest : ∀ d, P d → k.Builds why (do
      let answer ← Building.ofFeed (.ask page .done)
      Building.ofFeed (Program.onPool fun pool => ((), pool.release page.buffer))
      Building.ofAttempt answer) b s d fun _ b' s d => b' = b ∧ S (.ok ()) s d := by
    intro d hp
    refine Builds.bind (Builds.offer (h d hp)) ?_
    rintro answer b s d ⟨rfl, hs⟩
    refine Builds.bind (Q := fun _ b' s' d => b' = b ∧ s' = s ∧ S answer s d)
      (Builds.onPool (fun _ => rfl) (kept answer s) hs fun _ d _ hs => ⟨rfl, rfl, hs⟩) ?_
    rintro _ _ _ d ⟨rfl, rfl, hs⟩
    cases answer with
    | error e => exact bad e _ d hs
    | ok _ => exact ⟨rfl, hs⟩
  refine Builds.get_bind ?_
  by_cases counted : b.isCounted
  · simp only [counted, if_true]
    exact Builds.onWorld (fun _ => rfl) (fun _ => ⟨rfl, rfl⟩) stable hp rest
  · simp only [counted]
    exact rest d hp

/-- A page that is offered is taken, unless the sink refuses its rows. -/
theorem emit_builds {page : Page} (isOf : page.IsOf schema cur) (h : k.taken rows s d) :
    k.Builds (k.Troubled (rows ++ cur)) (Building.emit page) b s d
      fun _ b' s d => b' = b ∧ k.taken (rows ++ cur) s d := by
  refine emit_ends (P := k.taken rows s)
    (S := fun answer s => Ends (fun _ => k.taken (rows ++ cur))
      (fun s d => k.isOpen s d ∧ (k.able d → k.refuses (rows ++ cur))) (answer, s))
    (k.taken_stable rows s) h ?_ (fun _ taken => k.add isOf taken) ?_
  · intro answer s
    cases answer with
    | error e => exact (k.isOpen_stable s).and k.able_stable
    | ok _ => exact k.taken_stable _ s
  · exact fun _ _ _ left => ⟨left.1, fun able => .inl (left.2 able)⟩

theorem emit_open (page : Page) (h : k.isOpen s d) :
    k.Builds (fun _ => True) (Building.emit page) b s d fun _ _ s d => k.isOpen s d :=
  (emit_ends (P := k.isOpen s) (S := fun _ => k.isOpen) (k.isOpen_stable s) h
    (fun _ => k.isOpen_stable) (fun _ left => k.add_open left)
    fun _ _ _ left => ⟨left, trivial⟩).mono fun _ _ _ _ left => left.2

/-- The builder and the sink have these rows together, and this row is staged. -/
def Holds (k : SinkContract r schema sink) (rows : List (List Cell)) (row : List Cell)
    (b : PageBuilder) (s : σ) (d : Disk) : Prop :=
  ∃ closed cur, rows = closed ++ cur ∧ k.taken closed s d ∧ b.writer.Shows schema cur row

theorem Holds.stable : r.Stable (k.Holds rows row b s) := by
  rintro d d' spared ⟨closed, cur, parts, taken, shows⟩
  exact ⟨closed, cur, parts, k.taken_stable closed s d d' spared taken, shows⟩

def Flushed (k : SinkContract r schema sink) (rows : List (List Cell)) (b : PageBuilder) (s : σ)
    (d : Disk) : Prop :=
  k.taken rows s d ∧ ∃ row, b.writer.Shows schema [] row

theorem Holds.isOpen (h : k.Holds rows row b s d) : k.isOpen s d := by
  obtain ⟨_, _, -, taken, -⟩ := h
  exact k.taken_open taken

theorem Flushed.isOpen (h : k.Flushed rows b s d) : k.isOpen s d := k.taken_open h.1

theorem set_builds (h : k.Holds rows row b s d) {column : Nat} {cell : Cell}
    (accepted : schema.accepts column cell) :
    k.Builds why (Building.set column cell) b s d fun _ => k.Holds rows (row.set column cell) := by
  obtain ⟨closed, cur, parts, taken, shows⟩ := h
  obtain ⟨writer, staged, next⟩ := shows.set accepted
  refine Builds.get_bind (Builds.bind (Q := fun w b' s' d' => w = writer ∧ b' = b ∧ s' = s ∧ d' = d)
    (Builds.ofAttempt (k.taken_open taken) ?_ ?_) ?_)
  · intro e failed
    rw [staged] at failed
    cases failed
  · intro w hw
    rw [staged] at hw
    cases hw
    exact ⟨rfl, rfl, rfl, rfl⟩
  · rintro _ _ _ _ ⟨rfl, rfl, rfl, rfl⟩
    exact Builds.set_bind (Builds.pure ⟨closed, cur, parts, taken, next⟩)

theorem addRecord_builds (h : k.Holds rows row b s d) :
    k.Builds (k.Troubled (rows ++ [row])) Building.addRecord b s d
      fun _ => k.Holds (rows ++ [row]) schema.nullRow := by
  obtain ⟨closed, cur, rfl, taken, shows⟩ := h
  refine Builds.get_bind (Builds.bind (Q := fun x b' s' d' => b' = b ∧ s' = s ∧
    k.taken closed s d' ∧
      (((∃ e, x.1 = .error e) ∧ ¬ schema.HasRoom r.pageSize (cur ++ [row])) ∨
        ∃ emitted, x.1 = .ok emitted ∧
          ((emitted = none ∧ x.2.Shows schema (cur ++ [row]) schema.nullRow) ∨
            ∃ page, emitted = some page ∧ page.IsOf schema cur ∧
              x.2.Shows schema [row] schema.nullRow)))
    (Builds.onPool b.writer.add_pageSize (k.taken_stable closed s) taken ?_) ?_)
  · intro pool d sized taken
    refine ⟨rfl, rfl, taken, ?_⟩
    rcases shows.add_or_fail pool with failed | ⟨emitted, w', pool', added, parts⟩
    · rw [sized] at failed
      exact .inl failed
    · rw [added]
      exact .inr ⟨emitted, rfl, parts⟩
  · rintro ⟨added, writer⟩ b s d ⟨rfl, rfl, taken, ends⟩
    refine Builds.set_bind ?_
    rcases ends with ⟨⟨e, failed⟩, small⟩ | ⟨emitted, ok, parts⟩
    · obtain rfl : added = .error e := failed
      refine ⟨k.taken_open taken, fun _ => .inr fun room => small ?_⟩
      rw [List.append_assoc] at room
      exact room.parts.2
    · obtain rfl : added = .ok emitted := ok
      rcases parts with ⟨rfl, next⟩ | ⟨page, rfl, isOf, next⟩
      · exact Builds.pure (a := ()) ⟨closed, cur ++ [row], List.append_assoc .., taken, next⟩
      · refine ((emit_builds isOf taken).because fun d trouble => trouble.more [row]).mono ?_
        rintro _ b s d ⟨rfl, taken⟩
        exact ⟨closed ++ cur, [row], rfl, taken, next⟩

theorem flush_builds (h : k.Holds rows row b s d) :
    k.Builds (k.Troubled rows) Building.flush b s d fun _ => k.Flushed rows := by
  obtain ⟨closed, cur, rfl, taken, shows⟩ := h
  refine Builds.get_bind (Builds.bind (Q := fun x b' s' d' => b' = b ∧ s' = s ∧
    k.taken closed s d' ∧ x.2.Shows schema [] row ∧
      ((x.1 = none ∧ cur = []) ∨ ∃ page, x.1 = some page ∧ page.IsOf schema cur))
    (Builds.onPool b.writer.flush_pageSize (k.taken_stable closed s) taken ?_) ?_)
  · intro pool d _ taken
    obtain ⟨emitted, w', pool', flushed, -, next, parts⟩ := shows.flush pool
    refine ⟨rfl, rfl, taken, ?_⟩
    rw [flushed]
    exact ⟨next, parts⟩
  · rintro ⟨emitted, writer⟩ b s d ⟨rfl, rfl, taken, next, parts⟩
    refine Builds.set_bind ?_
    rcases parts with ⟨none, rfl⟩ | ⟨page, some, isOf⟩
    · obtain rfl : emitted = Option.none := none
      rw [List.append_nil]
      exact Builds.pure (a := ()) ⟨taken, row, next⟩
    · obtain rfl : emitted = Option.some page := some
      refine (emit_builds isOf taken).mono ?_
      rintro _ b s d ⟨rfl, taken⟩
      exact ⟨taken, row, next⟩

theorem flush_open (h : k.isOpen s d) :
    k.Builds (fun _ => True) Building.flush b s d fun _ _ s d => k.isOpen s d := by
  refine Builds.get_bind (Builds.bind (Q := fun _ _ s' d' => k.isOpen s' d')
    (Builds.onPool b.writer.flush_pageSize (k.isOpen_stable s) h fun _ _ _ left => left) ?_)
  rintro ⟨emitted, writer⟩ b s d left
  refine Builds.set_bind ?_
  cases emitted with
  | none => exact Builds.pure (a := ()) left
  | some page => exact emit_open page left

theorem flush_idle (h : k.Flushed rows b s d) :
    (((Building.flush.run).run b).answered (fun page => (sink.add page).attempt) s).Ensures r
      (fun x => k.taken rows x.2) d := by
  obtain ⟨taken, row, shows⟩ := h
  have zero : b.writer.recordCount = 0 := shows.count
  refine Program.Ensures.quiet (fun _ => rfl)
    (fun w => ⟨rfl, b.writer.flush_pageSize w.pool⟩) fun w spared _ => ?_
  have idle := k.taken_stable rows s d w.disk spared taken
  simp only [PageWriter.flush, zero, if_true]
  exact idle

/-- A new builder over a sink that has taken nothing yet: when the program ends well with all rows
flushed, the sink has taken them, and otherwise it is still open, for the same reason. -/
theorem build_ensures {program : Building α} {counted : Bool} {P : List (List Cell) → Disk → Prop}
    (fixed : ∀ rows, r.Fixed (P rows)) (fixed' : r.Fixed why)
    (h : k.Builds why program ⟨.ofSchema schema, counted⟩ s d
      fun _ b s d => ∃ rows, k.Flushed rows b s d ∧ P rows d) :
    ((Building.build schema counted program).answered (fun page => (sink.add page).attempt) s).Ensures
      r (Ends (fun _ s d => ∃ rows, k.taken rows s d ∧ P rows d)
        fun s d => k.isOpen s d ∧ why d) d := by
  change (((((program.run).run ⟨.ofSchema schema, counted⟩).andThen fun x =>
    ((Building.flush.run).run x.2).andThen fun _ => .done x.1)).answered _ s).Ensures r _ d
  rw [Program.answered_andThen]
  refine h.andThen ?_
  rintro ⟨⟨result, b⟩, s⟩ d ended
  simp only [Program.answered_andThen]
  cases result with
  | error e =>
    refine ((flush_open ended.1).keep fixed' ended.2).andThen ?_
    rintro ⟨⟨answer, b⟩, s⟩ d left
    cases answer with
    | error _ => exact ⟨left.1, left.2.2⟩
    | ok _ => exact left
  | ok a =>
    obtain ⟨rows, flushed, hp⟩ := ended
    exact ((flush_idle flushed).keep (fixed rows) hp).andThen fun x d both => ⟨rows, both⟩

end SinkContract

/-! The output that forgets keeps nothing but the number of its records. -/

namespace Counting

variable {r : Region}

/-- The sink of a task whose records are forgotten. -/
def nullSink : PageSink Nat := sink fun page => modify (· + page.recordCount)

/-- The number of the rows is what a commit reports. -/
def nullContract (s : Schema) : SinkContract r s nullSink where
  before := fun _ => True
  isOpen := fun _ _ => True
  taken := fun rows n _ => n = rows.length
  finished := fun rows n _ => n = rows.length
  committed := fun rows given _ => given = report rows.length
  gone := fun _ => True
  able := fun _ => True
  refuses := fun _ => False
  initial := 0
  isOpen_stable := fun _ _ _ _ _ => trivial
  taken_stable := fun _ _ _ _ _ h => h
  finished_stable := fun _ _ _ _ _ h => h
  committed_stable := fun _ _ _ _ _ h => h
  gone_stable := fun _ _ _ _ => trivial
  able_before := fun _ _ => trivial
  refuses_more := fun _ h => h
  taken_open := fun _ => trivial
  finished_open := fun _ => trivial
  start := fun _ => rfl
  add := by
    intro page rows new n d isOf h
    change n + page.recordCount = (rows ++ new).length
    rw [h, isOf.count, List.length_append]
  add_open := fun _ => trivial
  finish := fun h => h
  commit := by
    intro rows n d h
    change report n = report rows.length
    rw [h]
  abort := fun _ => trivial
  close := fun _ _ _ _ hp => hp

end Counting

end BulkTransfer
