import BulkTransfer.Proofs.Plugin.Sink
/-!
# Delivery of pages

A builder takes operations, each of which may fail, and is given up in one of three ways. Whatever the
chain behind it answers, the pages that it offers hold the rows that were added, each once and in order;
what was pending is offered at the end, and nothing but pages is ever sent. What a builder counts are the
pages it has offered, and the buffers it took from the pool are back there once the chain has let go of
them.
-/
namespace BulkTransfer

namespace Building

/-- An operation on a builder. -/
def perform : PageOperation → Building Unit
  | .set column cell => set column cell
  | .add => addRecord
  | .flush => flush

/-- Performs one operation after the other; whoever does so goes on when one has failed. -/
def performAll : List PageOperation → StateT PageBuilder Feed (List (Attempt Unit))
  | [] => return []
  | op :: ops => do
    let answer ← (perform op).run
    let answers ← performAll ops
    return answer :: answers

/-- What a builder does when it is dropped, or closed: what is pending is offered, unless the builder was
closed before, and a failure is swallowed. -/
def closeOnce (isClosed : Bool) : StateT PageBuilder Feed Unit :=
  if isClosed then return ()
  else do
    let _ ← flush.run
    return ()

end Building

/-- How a builder is given up. -/
inductive Ending where
  | finish
  | close
  | drop
  deriving DecidableEq, Repr

/-- The end of a builder. One that was finished or closed is dropped behind that, being closed then. -/
def Ending.perform : Ending → StateT PageBuilder Feed (Attempt Unit)
  | .finish => do
    let answer ← Building.flush.run
    Building.closeOnce true
    return answer
  | .close => do
    Building.closeOnce false
    Building.closeOnce true
    return .ok ()
  | .drop => do
    Building.closeOnce false
    return .ok ()

/-- A program over a new builder, which is then dropped. -/
theorem Building.build_eq {α : Type} (schema : Schema) (isCounted : Bool) (program : Building α) :
    Building.build schema isCounted program = (do
      let (result, b) ← (program.run).run ⟨PageWriter.ofSchema schema, isCounted⟩
      let _ ← Ending.drop.perform.run b
      return result) := by
  refine congrArg (Program.andThen _) (funext ?_)
  rintro ⟨result, b⟩
  change Program.andThen ((flush.run).run b) _ =
    Program.andThen (Program.andThen (Program.andThen ((flush.run).run b) _) _) _
  rw [Program.andThen_assoc, Program.andThen_assoc]
  rfl

/-- A call on a chain. -/
inductive SinkCall where
  | add (page : Page)
  | finish
  | close

namespace PageChain

variable {σ : Type}

def noting {α : Type} (call : SinkCall) (f : SureCall σ α) : SureCall (σ × List SinkCall) α := fun t => do
  let (result, s) ← f t.1
  return (result, s, t.2 ++ [call])

/-- The chain with a list of all calls on it. -/
def logged (c : PageChain σ) : PageChain (σ × List SinkCall) where
  add page := ExceptT.mk (noting (.add page) (c.add page).attempt)
  finish := ExceptT.mk (noting .finish c.finish.attempt)
  close := noting .close c.close

/-- What a chain may do to what it shares with a builder: it leaves the metrics alone, and takes buffers
from the pool and gives them back; `held` says how many it has. -/
structure KeepsBooks (c : PageChain σ) (held : σ → Nat) : Prop where
  metrics : ∀ page s w, (((c.add page).attempt s).run w).2.metrics = w.metrics
  pageSize : ∀ page s w, (((c.add page).attempt s).run w).2.pool.pageSize = w.pool.pageSize
  buffers : ∀ page s w, (((c.add page).attempt s).run w).2.pool.outstanding + held s =
    w.pool.outstanding + held (((c.add page).attempt s).run w).1.2

theorem logged_run (c : PageChain σ) (page : Page) (s : σ) (log : List SinkCall) (w : World) :
    ((c.logged.add page).attempt (s, log)).run w =
      (((((c.add page).attempt s).run w).1.1, (((c.add page).attempt s).run w).1.2, log ++ [.add page]),
        (((c.add page).attempt s).run w).2) :=
  Program.run_andThen _ _ _

end PageChain

/-- Where a program over a builder has ended. -/
structure BuilderRun (σ α : Type) where
  result : α
  builder : PageBuilder
  sink : σ
  world : World

namespace BuilderRun

variable {σ α β : Type} {c : PageChain σ} {b : PageBuilder} {s : σ} {w : World}

/-- Runs a program over a builder that offers its pages to a chain. -/
def of (c : PageChain σ) (m : StateT PageBuilder Feed α) (b : PageBuilder) (s : σ) (w : World) :
    BuilderRun σ α :=
  let x := (c.receive (m.run b) s).run w
  ⟨x.1.1.1, x.1.1.2, x.1.2, x.2⟩

theorem of_bind (m : StateT PageBuilder Feed α) (f : α → StateT PageBuilder Feed β) :
    of c (m >>= f) b s w =
      let first := of c m b s w
      of c (f first.result) first.builder first.sink first.world := by
  have runs : c.receive ((m >>= f).run b) s =
      (c.receive (m.run b) s).andThen fun x => c.receive ((f x.1.1).run x.1.2) x.2 :=
    Program.answered_andThen (m.run b) _ s
  simp only [of, runs, Program.run_andThen]

theorem of_attempt (x : Attempt α) (f : α → Building β) :
    of c ((Building.ofAttempt x >>= f).run) b s w =
      match x with
      | .ok a => of c (f a).run b s w
      | .error e => ⟨.error e, b, s, w⟩ := by
  cases x <;> rfl

theorem of_get (f : PageBuilder → Building α) : of c ((get >>= f).run) b s w = of c (f b).run b s w := rfl

theorem of_onPool (operation : Pool → α × Pool) (f : α → Building β) :
    of c ((Building.ofFeed (Program.onPool operation) >>= f).run) b s w =
      of c (f (operation w.pool).1).run b s { w with pool := (operation w.pool).2 } := rfl

theorem of_change (change : World → World) (f : Unit → Building β) :
    of c ((Building.ofFeed (Program.change change) >>= f).run) b s w = of c (f ()).run b s (change w) := rfl

theorem of_offer (page : Page) (f : Attempt Unit → Building β) :
    of c ((Building.ofFeed (.ask page .done) >>= f).run) b s w =
      let x := ((c.add page).attempt s).run w
      of c (f x.1.1).run b x.1.2 x.2 := by
  have runs : c.receive (((Building.ofFeed (.ask page .done) >>= f).run).run b) s =
      ((c.add page).attempt s).andThen fun x => c.receive ((f x.1).run.run b) x.2 := rfl
  simp only [of, runs, Program.run_andThen]

/-- What becomes of a page that is emitted: it is counted, it is offered, and its buffer is given back,
whatever the answer is. -/
theorem of_emit (page : Page) : of c (Building.emit page).run b s w =
    let counted := if b.isCounted then { w with metrics := Building.count page w.metrics } else w
    let x := ((c.add page).attempt s).run counted
    ⟨x.1.1, b, x.1.2, { x.2 with pool := x.2.pool.release page.buffer }⟩ := by
  have offered : ∀ w, of c ((do
      let answer ← Building.ofFeed (.ask page .done)
      Building.ofFeed (Program.onPool fun pool => ((), pool.release page.buffer))
      Building.ofAttempt answer : Building Unit).run) b s w =
        let x := ((c.add page).attempt s).run w
        ⟨x.1.1, b, x.1.2, { x.2 with pool := x.2.pool.release page.buffer }⟩ := by
    intro w
    rw [of_offer]
    dsimp only
    rw [of_onPool]
    cases (((c.add page).attempt s).run w).1.1 <;> rfl
  rw [Building.emit, of_get]
  cases counted : b.isCounted with
  | true => exact (of_change _ _).trans (offered _)
  | false => exact offered _

theorem of_stage (column : Nat) (cell : Cell) : of c (Building.set column cell).run b s w =
    match b.writer.set column cell with
    | .ok writer => ⟨.ok (), { b with writer }, s, w⟩
    | .error e => ⟨.error (.page e), b, s, w⟩ := by
  rw [Building.set, of_get, of_attempt]
  cases b.writer.set column cell <;> rfl

/-- A page that was taken from the writer is emitted, if there is one. -/
def emitting : Option Page → Building Unit
  | some page => Building.emit page
  | none => return ()

theorem of_addRecord : of c Building.addRecord.run b s w =
    match b.writer.add w.pool with
    | (.ok emitted, writer, pool) => of c (emitting emitted).run { b with writer } s { w with pool }
    | (.error e, writer, pool) => ⟨.error (.page e), { b with writer }, s, { w with pool }⟩ := by
  rw [Building.addRecord, of_get, of_onPool]
  rcases b.writer.add w.pool with ⟨added, writer, pool⟩
  cases added with
  | error e => rfl
  | ok emitted => cases emitted <;> rfl

theorem of_emitting_builder (emitted : Option Page) : (of c (emitting emitted).run b s w).builder = b := by
  cases emitted with
  | none => rfl
  | some page => rw [emitting, of_emit]

theorem of_flush : of c Building.flush.run b s w =
    match b.writer.flush w.pool with
    | (emitted, writer, pool) => of c (emitting emitted).run { b with writer } s { w with pool } := by
  rw [Building.flush, of_get, of_onPool]
  rcases b.writer.flush w.pool with ⟨emitted, writer, pool⟩
  cases emitted <;> rfl

end BuilderRun

section Buffers

namespace PageWriter

/-- How many buffers of the pool a writer has. -/
def held (w : PageWriter) : Nat := w.current.toList.length

variable {w : PageWriter} {pool : Pool}

theorem acquire_outstanding (pool : Pool) (wished : Nat) :
    (pool.acquire wished).2.outstanding = pool.outstanding + 1 := by
  unfold Pool.acquire
  split
  · split <;> rfl
  · rfl

/-- The buffer of a page that is handed out goes with it, and a new page has a new one. -/
theorem add_buffers {emitted : Option Page} {w' : PageWriter} {pool' : Pool}
    (added : w.add pool = (.ok emitted, w', pool')) :
    pool'.outstanding + w.held = pool.outstanding + w'.held + emitted.toList.length := by
  unfold PageWriter.add at added
  dsimp only at added
  split at added
  · cases added
  · cases current : w.current with
    | none =>
      simp only [current, Option.isSome_none, Bool.false_and, Bool.false_eq_true, if_false] at added
      split at added
      · cases added
      · cases added
        simp [held, current, acquire_outstanding]
    | some buffer =>
      simp only [current, Option.isSome_some, Bool.true_and, takePage] at added
      split at added
      · split at added
        · cases added
        · cases added
          simp [held, current, acquire_outstanding]
      · split at added
        · cases added
        · cases added
          simp [held, current]

theorem flush_buffers {emitted : Option Page} {w' : PageWriter} {pool' : Pool}
    (flushed : w.flush pool = (emitted, w', pool')) (known : w.held ≤ pool.outstanding) :
    pool'.outstanding + w.held = pool.outstanding + w'.held + emitted.toList.length := by
  unfold PageWriter.flush takePage at flushed
  cases current : w.current with
  | none =>
    simp only [current] at flushed
    split at flushed <;>
    · cases flushed
      simp [held, current]
  | some buffer =>
    have one : 1 ≤ pool.outstanding := by simpa [held, current] using known
    simp only [current] at flushed
    split at flushed <;> cases flushed
    · simp [held, current, Pool.release, one]
    · simp [held, current]

theorem flush_held (w : PageWriter) (pool : Pool) : (w.flush pool).2.1.held = 0 := by
  unfold PageWriter.flush takePage
  cases current : w.current <;> (dsimp only; split <;> simp [held, current])

end PageWriter

end Buffers

/-- A builder was made for a schema, with a chain behind it and a pool beside it. -/
structure Assembly (σ : Type) where
  schema : Schema
  isCounted : Bool
  held : σ → Nat
  sink : σ
  world : World

namespace Assembly

variable {σ : Type}

/-- The metrics after some pages. -/
def totals (pages : List Page) (m : Metrics) : Metrics :=
  { m with
    pages := m.pages + pages.length
    records := m.records + (pages.map Page.recordCount).sum
    bytes := m.bytes + (pages.map Page.byteSize).sum }

theorem totals_concat (pages : List Page) (page : Page) (m : Metrics) :
    Building.count page (totals pages m) = totals (pages ++ [page]) m := by
  simp [Building.count, totals, Nat.add_assoc]

/-- Of the rows that were added, some are in pages that were offered, some in a page that the builder has
handed out and not yet offered, and the others are still in its writer. -/
structure Stands (x : Assembly σ) (rows : List (List Cell)) (since : List PageOperation)
    (offered : List Page) (lent : Option Page) (cur : List (List Cell)) (b : PageBuilder)
    (t : σ × List SinkCall) (w : World) : Prop where
  parts : ∃ closed, rows = closed.flatten ++ cur ∧
    List.Forall₂ (fun page group => page.IsOf x.schema group) (offered ++ lent.toList) closed
  shows : b.writer.Shows x.schema cur (x.schema.rowOf since)
  counted : b.isCounted = x.isCounted
  calls : t.2 = offered.map .add
  metrics : w.metrics = if x.isCounted then totals offered x.world.metrics else x.world.metrics
  pageSize : w.pool.pageSize = x.world.pool.pageSize
  buffers : w.pool.outstanding + x.held x.sink =
    x.world.pool.outstanding + x.held t.1 + b.writer.held + lent.toList.length

/-- What is relied on: the chain keeps its books, what it has is out, and the pages are not too large. -/
structure IsSound (x : Assembly σ) (c : PageChain σ) : Prop where
  books : c.KeepsBooks x.held
  known : x.held x.sink ≤ x.world.pool.outstanding
  paged : x.world.pool.pageSize ≤ greatestOffset

def builder (x : Assembly σ) : PageBuilder := ⟨.ofSchema x.schema, x.isCounted⟩

/-- After some operations on the builder. -/
def worked (x : Assembly σ) (c : PageChain σ) (ops : List PageOperation) :
    BuilderRun (σ × List SinkCall) (List (Attempt Unit)) :=
  .of c.logged (Building.performAll ops) x.builder (x.sink, []) x.world

/-- After the builder was given up behind them. -/
def ended (x : Assembly σ) (c : PageChain σ) (ops : List PageOperation) (ending : Ending) :
    BuilderRun (σ × List SinkCall) (Attempt Unit) :=
  .of c.logged ending.perform (x.worked c ops).builder (x.worked c ops).sink (x.worked c ops).world

variable {x : Assembly σ} {c : PageChain σ} {rows cur : List (List Cell)} {since : List PageOperation}
  {offered : List Page} {lent : Option Page} {b : PageBuilder} {t : σ × List SinkCall} {w : World}

theorem begins (x : Assembly σ) : x.Stands [] [] [] none [] x.builder (x.sink, []) x.world where
  parts := ⟨[], rfl, .nil⟩
  shows := by
    rw [Schema.rowOf_nil]
    exact PageWriter.ofSchema_shows x.schema
  counted := rfl
  calls := rfl
  metrics := by simp [totals]
  pageSize := rfl
  buffers := rfl

/-- What a step of the writer takes from the pool, it has or hands out. -/
theorem Stands.balanced (h : x.Stands rows since offered none cur b t w) {emitted : Option Page}
    {writer : PageWriter} {pool : Pool}
    (moved : pool.outstanding + b.writer.held = w.pool.outstanding + writer.held + emitted.toList.length) :
    pool.outstanding + x.held x.sink =
      x.world.pool.outstanding + x.held t.1 + writer.held + emitted.toList.length := by
  have before := h.buffers
  rw [Option.toList_none, List.length_nil] at before
  omega

theorem Stands.held_le (h : x.Stands rows since offered none cur b t w) (sound : x.IsSound c) :
    b.writer.held ≤ w.pool.outstanding := by
  have before := h.buffers
  have known := sound.known
  omega

/-- A page that is emitted was offered then, whatever the answer. -/
theorem Stands.emitting (h : x.Stands rows since offered lent cur b t w) (sound : x.IsSound c) :
    let y := BuilderRun.of c.logged (BuilderRun.emitting lent).run b t w
    x.Stands rows since (offered ++ lent.toList) none cur y.builder y.sink y.world := by
  cases lent with
  | none =>
    change x.Stands rows since (offered ++ []) none cur b t w
    rwa [List.append_nil]
  | some page =>
    obtain ⟨s, log⟩ := t
    obtain ⟨closed, parts, pages⟩ := h.parts
    rw [BuilderRun.emitting, BuilderRun.of_emit]
    dsimp only
    rw [PageChain.logged_run]
    generalize before : (if b.isCounted then { w with metrics := Building.count page w.metrics } else w) = w₁
    have pool : w₁.pool = w.pool := by
      rw [← before]
      split <;> rfl
    have metrics := sound.books.metrics page s w₁
    have pageSize := sound.books.pageSize page s w₁
    have buffers := sound.books.buffers page s w₁
    rw [pool] at pageSize buffers
    refine ⟨⟨closed, parts, by simpa using pages⟩, h.shows, h.counted, ?_, ?_, pageSize.trans h.pageSize, ?_⟩
    · have calls := h.calls
      dsimp only at calls ⊢
      rw [calls, Option.toList_some, List.map_append]
      rfl
    · dsimp only
      rw [metrics, ← before, h.counted]
      split
      · next counted => rw [h.metrics, if_pos counted, totals_concat, Option.toList_some]
      · next silent => rw [h.metrics, if_neg silent]
    · have old := h.buffers
      have known := sound.known
      simp only [Pool.release, Option.toList_some, Option.toList_none, List.length_singleton,
        List.length_nil] at old ⊢
      omega

theorem Stands.set (h : x.Stands rows since offered none cur b t w) (column : Nat) (cell : Cell) :
    let y := BuilderRun.of c.logged (Building.set column cell).run b t w
    x.Stands rows (since ++ [.set column cell]) offered none cur y.builder y.sink y.world := by
  dsimp only
  rw [BuilderRun.of_stage]
  cases accepted : x.schema.accepts column cell with
  | true =>
    obtain ⟨writer, staged, next⟩ := h.shows.set accepted
    rw [← Schema.rowOf_set accepted] at next
    have stages := b.writer.set_eq column cell
    rw [h.shows.schema, if_pos accepted, staged] at stages
    rw [staged]
    exact { h with shows := next, buffers := by cases stages; exact h.buffers }
  | false =>
    obtain ⟨e, refused⟩ := h.shows.set_refused accepted
    have same : x.schema.rowOf (since ++ [.set column cell]) = x.schema.rowOf since :=
      Schema.rowOf_skip _ fun i => by simp [Schema.acceptedFor, accepted]
    rw [refused]
    exact { h with shows := same ▸ h.shows }

theorem Stands.add (h : x.Stands rows since offered none cur b t w) (sound : x.IsSound c)
    (small : x.schema.rowSize (x.schema.rowOf since) ≤ greatestOffset) :
    let y := BuilderRun.of c.logged Building.addRecord.run b t w
    ∃ new cur', x.Stands (rows ++ [x.schema.rowOf since]) [] (offered ++ new) none cur' y.builder y.sink
      y.world := by
  obtain ⟨emitted, writer, pool, added, size, done⟩ :=
    h.shows.add (h.pageSize ▸ sound.paged) small
  have balanced := h.balanced (PageWriter.add_buffers added)
  obtain ⟨closed, parts, pages⟩ := h.parts
  rw [← Schema.rowOf_nil] at done
  dsimp only
  rw [BuilderRun.of_addRecord, added]
  have taken : ∃ cur', x.Stands (rows ++ [x.schema.rowOf since]) [] offered emitted cur'
      { b with writer } t { w with pool } := by
    rcases done with ⟨rfl, next⟩ | ⟨page, rfl, isOf, next⟩
    · exact ⟨_, ⟨closed, by rw [parts, List.append_assoc], pages⟩, next, h.counted, h.calls, h.metrics,
        size.trans h.pageSize, balanced⟩
    · exact ⟨_, ⟨closed ++ [cur], by simp [parts], List.rel_append (by simpa using pages) (.cons isOf .nil)⟩,
        next, h.counted, h.calls, h.metrics, size.trans h.pageSize, balanced⟩
  obtain ⟨cur', taken⟩ := taken
  exact ⟨_, cur', taken.emitting sound⟩

/-- A flush offers the page that was pending, if there was one. -/
theorem Stands.flush (h : x.Stands rows since offered none cur b t w) (sound : x.IsSound c) :
    let y := BuilderRun.of c.logged Building.flush.run b t w
    ∃ new, x.Stands rows (since ++ [.flush]) (offered ++ new) none [] y.builder y.sink y.world ∧
      (new.map Page.recordCount = if cur = [] then [] else [cur.length]) ∧ y.builder.writer.held = 0 := by
  obtain ⟨emitted, writer, pool, flushed, size, next, done⟩ := h.shows.flush w.pool
  have empty := b.writer.flush_held w.pool
  rw [flushed] at empty
  have balanced := h.balanced (PageWriter.flush_buffers flushed (h.held_le sound))
  obtain ⟨closed, parts, pages⟩ := h.parts
  rw [← Schema.rowOf_skip .flush fun _ => rfl] at next
  dsimp only
  rw [BuilderRun.of_flush, flushed]
  have taken : x.Stands rows (since ++ [.flush]) offered emitted [] { b with writer } t { w with pool } ∧
      emitted.toList.map Page.recordCount = if cur = [] then [] else [cur.length] := by
    rcases done with ⟨rfl, rfl⟩ | ⟨page, rfl, isOf⟩
    · exact ⟨⟨⟨closed, parts, pages⟩, next, h.counted, h.calls, h.metrics, size.trans h.pageSize, balanced⟩,
        rfl⟩
    · have pending : cur ≠ [] := by
        rintro rfl
        rw [PageWriter.flush, if_pos (show b.writer.recordCount = 0 from h.shows.count)] at flushed
        cases flushed
      refine ⟨⟨⟨closed ++ [cur], by simp [parts], ?_⟩, next, h.counted, h.calls, h.metrics,
        size.trans h.pageSize, balanced⟩, ?_⟩
      · exact List.rel_append (by simpa using pages) (.cons isOf .nil)
      · rw [if_neg pending, Option.toList_some, List.map_singleton, isOf.count]
  refine ⟨_, taken.1.emitting sound, taken.2, ?_⟩
  rw [BuilderRun.of_emitting_builder]
  exact empty

/-- Operations add the rows that the schema says, whatever they answer. -/
theorem Stands.performAll (h : x.Stands rows since offered none cur b t w) (sound : x.IsSound c)
    (ops : List PageOperation)
    (small : ∀ row ∈ x.schema.rowsAfter since ops, x.schema.rowSize row ≤ greatestOffset) :
    let y := BuilderRun.of c.logged (Building.performAll ops) b t w
    ∃ new cur' since', x.Stands (rows ++ x.schema.rowsAfter since ops) since' (offered ++ new) none cur'
      y.builder y.sink y.world := by
  induction ops generalizing rows since offered cur b t w with
  | nil =>
    refine ⟨[], cur, since, ?_⟩
    rw [Schema.rowsAfter, List.append_nil, List.append_nil]
    exact h
  | cons op ops ih =>
    dsimp only
    rw [Building.performAll, BuilderRun.of_bind]
    dsimp only
    rw [BuilderRun.of_bind]
    cases op with
    | set column cell => exact ih (h.set column cell) small
    | add =>
      obtain ⟨new, cur', next⟩ := h.add sound (small _ List.mem_cons_self)
      obtain ⟨more, cur', since', last⟩ := ih next fun row mem => small row (List.mem_cons_of_mem _ mem)
      rw [List.append_assoc, List.append_assoc] at last
      exact ⟨_, cur', since', last⟩
    | flush =>
      obtain ⟨new, next, -, -⟩ := h.flush sound
      obtain ⟨more, cur', since', last⟩ := ih next small
      rw [List.append_assoc] at last
      exact ⟨_, cur', since', last⟩

/-- However a builder is given up, it is flushed once. -/
theorem ending_flushes (ending : Ending) :
    let y := BuilderRun.of c.logged ending.perform b t w
    let flushed := BuilderRun.of c.logged Building.flush.run b t w
    y.builder = flushed.builder ∧ y.sink = flushed.sink ∧ y.world = flushed.world := by
  have closed : Building.closeOnce true = Pure.pure () := rfl
  have open_ : Building.closeOnce false = (Building.flush.run >>= fun _ => Pure.pure ()) := rfl
  cases ending <;> simp only [Ending.perform, closed, open_, BuilderRun.of_bind] <;> exact ⟨rfl, rfl, rfl⟩

theorem worked_stands (sound : x.IsSound c) (ops : List PageOperation)
    (small : ∀ row ∈ x.schema.addedRows ops, x.schema.rowSize row ≤ greatestOffset) :
    ∃ during cur since, x.Stands (x.schema.addedRows ops) since during none cur (x.worked c ops).builder
      (x.worked c ops).sink (x.worked c ops).world := by
  obtain ⟨during, cur, since, stands⟩ := x.begins.performAll sound ops small
  exact ⟨during, cur, since, stands⟩

theorem ended_stands {ops : List PageOperation} (sound : x.IsSound c)
    (h : x.Stands rows since offered none cur (x.worked c ops).builder (x.worked c ops).sink
      (x.worked c ops).world) (ending : Ending) :
    ∃ atEnd since', x.Stands rows since' (offered ++ atEnd) none [] (x.ended c ops ending).builder
        (x.ended c ops ending).sink (x.ended c ops ending).world ∧
      (atEnd.map Page.recordCount = if cur = [] then [] else [cur.length]) ∧
        (x.ended c ops ending).builder.writer.held = 0 := by
  obtain ⟨atEnd, last, pending, empty⟩ := h.flush sound
  obtain ⟨builder, sink, world⟩ := ending_flushes (c := c) (b := (x.worked c ops).builder)
    (t := (x.worked c ops).sink) (w := (x.worked c ops).world) ending
  refine ⟨atEnd, since ++ [.flush], ?_, pending, ?_⟩
  · rw [ended, builder, sink, world]
    exact last
  · rw [ended, builder]
    exact empty

/-- A builder is put to work and given up, in whatever way. The pages that its chain is offered hold the
rows that were added, one for each add, whatever the chain answered; the page that was pending in the end is
offered once then, and nothing else is called. The pages are counted if they are to be, and every buffer is
back in the pool, but for those that the chain has. -/
theorem builder_hands_over_each_row_once (sound : x.IsSound c) (ops : List PageOperation) (ending : Ending)
    (small : ∀ row ∈ x.schema.addedRows ops, x.schema.rowSize row ≤ greatestOffset) :
    ∃ during atEnd : List Page, (x.worked c ops).sink.2 = during.map .add ∧
      (x.ended c ops ending).sink.2 = (during ++ atEnd).map .add ∧
      List.Forall₂ Record.HoldsRow ((during ++ atEnd).flatMap (·.records x.schema)) (x.schema.addedRows ops) ∧
      (atEnd.map Page.recordCount =
        if (x.worked c ops).builder.writer.recordCount = 0 then []
        else [(x.worked c ops).builder.writer.recordCount]) ∧
      ((x.ended c ops ending).world.metrics =
        if x.isCounted then totals (during ++ atEnd) x.world.metrics else x.world.metrics) ∧
      (x.ended c ops ending).world.pool.outstanding + x.held x.sink =
        x.world.pool.outstanding + x.held (x.ended c ops ending).sink.1 := by
  obtain ⟨during, cur, since, stands⟩ := worked_stands sound ops small
  obtain ⟨atEnd, _, last, pending, empty⟩ := ended_stands sound stands ending
  obtain ⟨closed, parts, pages⟩ := last.parts
  refine ⟨during, atEnd, stands.calls, last.calls, ?_, ?_, last.metrics, ?_⟩
  · rw [List.append_nil] at parts
    rw [parts]
    exact PageSession.records_hold (by simpa using pages)
  · rw [pending, stands.shows.count]
    simp only [List.length_eq_zero_iff]
  · have buffers := last.buffers
    rwa [empty, Option.toList_none] at buffers

section Refused

/-- A chain that refuses its first page, and drops every page. -/
def refusingFirst : PageChain Nat where
  add _ := ExceptT.mk fun n => return (if n = 0 then .error (.other "full") else .ok (), n + 1)
  finish := return ()
  close := return ()

theorem refusingFirst_keepsBooks : refusingFirst.KeepsBooks fun _ => 0 :=
  ⟨fun _ _ _ => rfl, fun _ _ _ => rfl, fun _ _ _ => rfl⟩

/-- A page has room for one row of these columns. -/
def fourColumns : Schema :=
  ⟨[⟨0, "a", .long⟩, ⟨1, "b", .long⟩, ⟨2, "c", .long⟩, ⟨3, "d", .long⟩], rfl⟩

def refused : Assembly Nat := ⟨fourColumns, true, fun _ => 0, 0, (default : World).beginSession 64⟩

/-- The second add is told that the page before it was refused. Its own row is offered when the builder is
dropped. -/
theorem refused_page_loses_no_row :
    let ops : List PageOperation := [.set 0 (.long 7), .add, .set 3 (.long 8), .add]
    (refused.worked refusingFirst ops).result.map Except.isOk = [true, true, true, false] ∧
      ∃ pages : List Page, (refused.ended refusingFirst ops .drop).sink.2 = pages.map .add ∧
        List.Forall₂ Record.HoldsRow (pages.flatMap (·.records fourColumns))
          [[.long 7, .null, .null, .null], [.null, .null, .null, .long 8]] ∧
        (refused.ended refusingFirst ops .drop).world.metrics = totals pages refused.world.metrics ∧
        (refused.ended refusingFirst ops .drop).world.pool.outstanding = 0 := by
  intro ops
  have sound : refused.IsSound refusingFirst := ⟨refusingFirst_keepsBooks, Nat.zero_le _, by decide⟩
  have small : ∀ row ∈ refused.schema.addedRows ops, refused.schema.rowSize row ≤ greatestOffset := by
    intro row hr
    rcases List.mem_cons.mp hr with rfl | hr
    · decide
    · rw [List.mem_singleton.mp hr]
      decide
  obtain ⟨during, atEnd, -, offered, holds, -, metrics, buffers⟩ :=
    builder_hands_over_each_row_once sound ops .drop small
  exact ⟨by decide +kernel, during ++ atEnd, offered, holds, metrics, buffers⟩

end Refused

end Assembly

end BulkTransfer
