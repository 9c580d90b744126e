import BulkTransfer.Proofs.Page.Accounting
import BulkTransfer.Proofs.Plugin.Delivery
/-!
# Rows gathered file by file

A builder with a chain that takes every page. The pages that are offered hold the rows that were added,
file by file, also when the program over the builder ends with an error; a row that was not added is in
none of them. An add fails only where there is no room.
-/
namespace BulkTransfer

namespace BuilderRun

variable {σ α β : Type} {c : PageChain σ} {m : Building α} {f : α → Building β} {b : PageBuilder} {s : σ}
  {w : World}

/-- A program over a builder ends as said, well or not. -/
def Yields (c : PageChain σ) (m : Building α) (b : PageBuilder) (s : σ) (w : World)
    (Q : Attempt α → PageBuilder → σ → World → Prop) : Prop :=
  Q (of c m.run b s w).result (of c m.run b s w).builder (of c m.run b s w).sink (of c m.run b s w).world

theorem Yields.bind {Q : Attempt α → PageBuilder → σ → World → Prop}
    {R : Attempt β → PageBuilder → σ → World → Prop} (h : Yields c m b s w Q)
    (ok : ∀ a b s w, Q (.ok a) b s w → Yields c (f a) b s w R)
    (error : ∀ e b s w, Q (.error e) b s w → R (.error e) b s w) : Yields c (m >>= f) b s w R := by
  have runs : of c (m >>= f).run b s w =
      let first := of c m.run b s w
      of c (ExceptT.bindCont f first.result) first.builder first.sink first.world :=
    of_bind m.run (ExceptT.bindCont f)
  unfold Yields at h ⊢
  rw [runs]
  generalize of c m.run b s w = first at h
  rcases first with ⟨result, b, s, w⟩
  cases result with
  | ok a => exact ok a b s w h
  | error e => exact error e b s w h

theorem Yields.mono {Q R : Attempt α → PageBuilder → σ → World → Prop} (h : Yields c m b s w Q)
    (weaker : ∀ a b s w, Q a b s w → R a b s w) : Yields c m b s w R := weaker _ _ _ _ h

theorem Yields.pure {a : α} {Q : Attempt α → PageBuilder → σ → World → Prop} (h : Q (.ok a) b s w) :
    Yields c (pure a) b s w Q := h

theorem Yields.attempt {x : Attempt α} {Q : Attempt β → PageBuilder → σ → World → Prop}
    (ok : ∀ a, x = .ok a → Yields c (f a) b s w Q) (error : ∀ e, x = .error e → Q (.error e) b s w) :
    Yields c (Building.ofAttempt x >>= f) b s w Q := by
  cases x with
  | ok a => exact ok a rfl
  | error e => exact error e rfl

theorem Yields.ofAction {p : Action (Attempt α)} {Q : Attempt α → PageBuilder → σ → World → Prop}
    (h : Q (p.run w).1 b s (p.run w).2) : Yields c (Building.ofAction p) b s w Q := by
  have runs : of c (Building.ofAction p).run b s w = ⟨(p.run w).1, b, s, (p.run w).2⟩ := by
    have answered : c.receive (((Building.ofAction p).run).run b) s =
        (((Program.ofAction p).answered (fun page => (c.add page).attempt) s).andThen fun x =>
          .done ((x.1, b), x.2)) := Program.answered_andThen _ _ s
    simp only [of, answered, Program.answered_ofAction, Program.run_andThen, Program.run_done]
  rw [Yields, runs]
  exact h

theorem Yields.addRecord {emitted : Option Page} {writer : PageWriter} {pool : Pool}
    {Q : Attempt Unit → PageBuilder → σ → World → Prop}
    (added : b.writer.add w.pool = (.ok emitted, writer, pool))
    (h : Yields c (emitting emitted) { b with writer } s { w with pool } Q) :
    Yields c Building.addRecord b s w Q := by
  rw [Yields, of_addRecord, added]
  exact h

theorem Yields.flush {emitted : Option Page} {writer : PageWriter} {pool : Pool}
    {Q : Attempt Unit → PageBuilder → σ → World → Prop}
    (flushed : b.writer.flush w.pool = (emitted, writer, pool))
    (h : Yields c (emitting emitted) { b with writer } s { w with pool } Q) :
    Yields c Building.flush b s w Q := by
  rw [Yields, of_flush, flushed]
  exact h

/-- A builder that is dropped behind a program flushes, and what the program gave stays. -/
theorem Yields.built {schema : Schema} {isCounted : Bool} {Q : Attempt α → PageBuilder → σ → World → Prop}
    {R : Attempt α → σ → World → Prop} (h : Yields c m ⟨PageWriter.ofSchema schema, isCounted⟩ s w Q)
    (flushed : ∀ r b s w, Q r b s w → Yields c Building.flush b s w fun _ _ s w => R r s w) :
    let y := (c.receive (Building.build schema isCounted m) s).run w
    R y.1.1 y.1.2 y.2 := by
  have built : c.receive (Building.build schema isCounted m) s =
      (c.receive ((m.run).run ⟨PageWriter.ofSchema schema, isCounted⟩) s).andThen fun x =>
        c.receive (((Building.flush.run).run x.1.2).andThen fun _ => .done x.1.1) x.2 :=
    Program.answered_andThen _ _ s
  have after : ∀ x : (Attempt α × PageBuilder) × σ,
      c.receive (((Building.flush.run).run x.1.2).andThen fun _ => .done x.1.1) x.2 =
        (c.receive ((Building.flush.run).run x.1.2) x.2).andThen fun z => .done (x.1.1, z.2) :=
    fun x => Program.answered_andThen _ _ x.2
  have last := flushed _ _ _ _ h
  simp only [built, Program.run_andThen, after, Program.run_done]
  exact last

end BuilderRun

/-- Worlds in which pages have this size and the chain takes every page, and that stay so. -/
structure PageChain.TakesAll {σ : Type} (c : PageChain σ) (I : World → Prop) (pageSize : Nat) : Prop where
  paged : ∀ w, I w → w.pool.pageSize = pageSize
  stable : ∀ w pool metrics, I w → pool.pageSize = pageSize → I { w with pool, metrics }
  takes : ∀ page s w, I w → (((c.add page).attempt s).run w).1.1 = .ok () ∧
    I (((c.add page).attempt s).run w).2

namespace Gathering

open BuilderRun

variable {σ : Type} {c : PageChain σ} {I : World → Prop} {pageSize : Nat} {schema : Schema}
  {groups : List (List (List Cell))} {rows : List (List Cell)} {row : List Cell} {b : PageBuilder}
  {t : σ × List SinkCall} {w : World}

/-- Some pages consist of these rows, one after the other. -/
def Consist (schema : Schema) (pages : List Page) (rows : List (List Cell)) : Prop :=
  ∃ closed, rows = closed.flatten ∧ List.Forall₂ (fun page group => page.IsOf schema group) pages closed

/-- Whole files were read: pages were offered for each of them, and no row is pending. -/
structure Between (I : World → Prop) (schema : Schema) (groups : List (List (List Cell)))
    (row : List Cell) (b : PageBuilder) (t : σ × List SinkCall) (w : World) : Prop where
  offered : ∃ pages, List.Forall₂ (Consist schema) pages groups ∧ t.2 = pages.flatten.map .add
  shows : b.writer.Shows schema [] row
  world : I w

/-- Within a file: some pages were offered for it, and the builder holds the other rows. -/
structure Within (I : World → Prop) (schema : Schema) (groups : List (List (List Cell)))
    (rows : List (List Cell)) (row : List Cell) (b : PageBuilder) (t : σ × List SinkCall) (w : World) :
    Prop where
  offered : ∃ pages current closed cur, List.Forall₂ (Consist schema) pages groups ∧
    Consist schema current closed ∧ rows = closed ++ cur ∧
      t.2 = (pages.flatten ++ current).map .add ∧ b.writer.Shows schema cur row
  world : I w

theorem Between.start {isCounted : Bool} (sink : σ) (start : I w) :
    Between I schema [] schema.nullRow ⟨PageWriter.ofSchema schema, isCounted⟩ (sink, []) w :=
  ⟨⟨[], .nil, rfl⟩, PageWriter.ofSchema_shows schema, start⟩

theorem Between.within (h : Between I schema groups row b t w) : Within I schema groups [] row b t w := by
  obtain ⟨pages, consist, calls⟩ := h.offered
  exact ⟨⟨pages, [], [], [], consist, ⟨[], rfl, .nil⟩, rfl, by rw [List.append_nil, calls], h.shows⟩, h.world⟩

/-- The rows of these files were added; of the last one some may be pending. -/
def Stands (I : World → Prop) (schema : Schema) (groups : List (List (List Cell))) (b : PageBuilder)
    (t : σ × List SinkCall) (w : World) : Prop :=
  (∃ row, Between I schema groups row b t w) ∨
    ∃ before rows row, groups = before ++ [rows] ∧ Within I schema before rows row b t w

theorem Consist.append {pages : List Page} {page : Page} {cur : List (List Cell)}
    (h : Consist schema pages rows) (isOf : page.IsOf schema cur) :
    Consist schema (pages ++ [page]) (rows ++ cur) := by
  obtain ⟨closed, rfl, consist⟩ := h
  exact ⟨closed ++ [cur], by simp, List.rel_append consist (.cons isOf .nil)⟩

theorem Consist.records_hold {pages : List Page} (h : Consist schema pages rows) :
    List.Forall₂ Record.HoldsRow (pages.flatMap (·.records schema)) rows := by
  obtain ⟨closed, rfl, consist⟩ := h
  exact PageSession.records_hold consist

/-- A page that was taken from the writer is offered, and nothing else changes. -/
theorem emitting_yields (k : c.TakesAll I pageSize) (h : I w) (emitted : Option Page) :
    Yields c.logged (emitting emitted) b t w fun r b' t' w' =>
      r = .ok () ∧ b' = b ∧ t'.2 = t.2 ++ emitted.toList.map .add ∧ I w' := by
  cases emitted with
  | none => exact Yields.pure ⟨rfl, rfl, (List.append_nil _).symm, h⟩
  | some page =>
    obtain ⟨s, log⟩ := t
    rw [Yields, emitting, of_emit]
    dsimp only
    rw [PageChain.logged_run]
    generalize counted : (if b.isCounted then { w with metrics := Building.count page w.metrics } else w) = w₁
    have still : I w₁ := by
      rw [← counted]
      split
      · exact k.stable w w.pool _ h (k.paged w h)
      · exact h
    obtain ⟨answer, after⟩ := k.takes page s w₁ still
    exact ⟨answer, rfl, rfl, k.stable _ _ _ after (k.paged _ after)⟩

theorem set_yields (h : Within I schema groups rows row b t w) {column : Nat} {cell : Cell}
    (accepted : schema.accepts column cell) :
    Yields c.logged (Building.set column cell) b t w fun r b t w =>
      r = .ok () ∧ Within I schema groups rows (row.set column cell) b t w := by
  obtain ⟨pages, current, closed, cur, consist, part, split, calls, shows⟩ := h.offered
  obtain ⟨writer, staged, next⟩ := shows.set accepted
  rw [Yields, of_stage, staged]
  exact ⟨rfl, ⟨pages, current, closed, cur, consist, part, split, calls, next⟩, h.world⟩

/-- The staged row is added, or it is refused since there is no room. -/
theorem add_yields (k : c.TakesAll I pageSize) (h : Within I schema groups rows row b t w) :
    Yields c.logged Building.addRecord b t w fun r b t w =>
      (r = .ok () ∧ Within I schema groups (rows ++ [row]) schema.nullRow b t w) ∨
        ∃ size, r = .error (.page (.recordTooLarge size)) ∧ ¬ schema.HasRoom pageSize (rows ++ [row]) ∧
          Within I schema groups rows row b t w := by
  obtain ⟨pages, current, closed, cur, consist, part, rfl, calls, shows⟩ := h.offered
  rcases shows.add_or_fail w.pool with ⟨⟨e, failed⟩, none⟩ | ⟨emitted, writer, pool, added, done⟩
  · have refused : b.writer.add w.pool =
        (.error (.recordTooLarge (schema.rowSize row)), b.writer, w.pool) := by
      rcases shows.add_cases w.pool with refused | ⟨buffer, -, -, added⟩ | added
      · exact refused
      · rw [added] at failed
        cases failed
      · rw [added] at failed
        cases failed
    rw [Yields, of_addRecord, refused]
    refine .inr ⟨_, rfl, fun room => none ?_, ⟨pages, current, closed, cur, consist, part, rfl, calls, shows⟩,
      h.world⟩
    rw [k.paged w h.world]
    rw [List.append_assoc] at room
    exact room.parts.2
  · have size : pool.pageSize = pageSize := by
      have kept := b.writer.add_pageSize w.pool
      rw [added] at kept
      exact kept.trans (k.paged w h.world)
    refine Yields.addRecord added
      ((emitting_yields k (k.stable w pool w.metrics h.world size) emitted).mono ?_)
    rintro _ _ t' w' ⟨rfl, rfl, calls', world⟩
    refine .inl ⟨rfl, ?_, world⟩
    rw [calls, ← List.map_append] at calls'
    -- The row joins the page that is being filled, or that page was full and is offered before.
    rcases done with ⟨rfl, next⟩ | ⟨page, rfl, isOf, next⟩
    · exact ⟨pages, current, closed, cur ++ [row], consist, part, List.append_assoc ..,
        by simpa using calls', next⟩
    · exact ⟨pages, current ++ [page], closed ++ cur, [row], consist, part.append isOf, rfl,
        by simpa using calls', next⟩

/-- At the end of a file what is pending is offered. -/
theorem flush_yields (k : c.TakesAll I pageSize) (h : Within I schema groups rows row b t w) :
    Yields c.logged Building.flush b t w fun r b t w =>
      r = .ok () ∧ Between I schema (groups ++ [rows]) row b t w := by
  obtain ⟨pages, current, closed, cur, consist, part, rfl, calls, shows⟩ := h.offered
  obtain ⟨emitted, writer, pool, flushed, size, next, done⟩ := shows.flush w.pool
  refine Yields.flush flushed ((emitting_yields k
    (k.stable w pool w.metrics h.world (size.trans (k.paged w h.world))) emitted).mono ?_)
  rintro _ _ t' w' ⟨rfl, rfl, calls', world⟩
  refine ⟨rfl, ⟨pages ++ [current ++ emitted.toList], ?_, ?_⟩, next, world⟩
  · refine List.rel_append consist (.cons ?_ .nil)
    rcases done with ⟨rfl, rfl⟩ | ⟨page, rfl, isOf⟩
    · simpa using part
    · exact part.append isOf
  · rw [calls', calls, ← List.map_append]
    simp

/-- With no row pending, a flush offers nothing. -/
theorem flush_idle (h : Between I schema groups row b t w) (k : c.TakesAll I pageSize) :
    Yields c.logged Building.flush b t w fun r b t w =>
      r = .ok () ∧ Between I schema groups row b t w := by
  have zero : b.writer.recordCount = 0 := h.shows.count
  obtain ⟨emitted, writer, pool, flushed, size, next, -⟩ := h.shows.flush w.pool
  have none : emitted = none := by
    rw [PageWriter.flush, if_pos zero] at flushed
    exact (Prod.mk.inj flushed).1.symm
  rw [none] at flushed
  refine Yields.flush flushed (Yields.pure ?_)
  exact ⟨rfl, h.offered, next, k.stable w pool w.metrics h.world (size.trans (k.paged w h.world))⟩

/-- After a last flush, pages were offered for all rows. -/
theorem Stands.flushed (h : Stands I schema groups b t w) (k : c.TakesAll I pageSize) :
    Yields c.logged Building.flush b t w fun _ _ t _ =>
      ∃ pages, List.Forall₂ (Consist schema) pages groups ∧ t.2 = pages.flatten.map .add := by
  rcases h with ⟨row, whole⟩ | ⟨before, rows, row, rfl, part⟩
  · exact (flush_idle whole k).mono fun _ _ _ _ done => done.2.offered
  · exact (flush_yields k part).mono fun _ _ _ _ done => done.2.offered

end Gathering

end BulkTransfer
