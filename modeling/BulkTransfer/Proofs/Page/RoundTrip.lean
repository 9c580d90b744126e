import BulkTransfer.Proofs.Page.RowReader
import BulkTransfer.Proofs.Page.Staging
/-!
# The page round trip

Whatever is done with a writer, its pages hold the rows that were added, in order. What the rows
are is said from the operations alone: a cell is the last one that was accepted for its column since
the row before it.
-/
namespace BulkTransfer

inductive PageOperation where
  | set (column : Nat) (cell : Cell)
  | add
  | flush

/-- A writer with its pool, and the pages it has handed out. -/
structure PageSession where
  writer : PageWriter
  pool : Pool
  pages : List Page

namespace PageSession

def start (s : Schema) (pool : Pool) : PageSession := ⟨.ofSchema s, pool, []⟩

def perform (x : PageSession) : PageOperation → Except PageError Unit × PageSession
  | .set column cell =>
    match x.writer.set column cell with
    | .ok writer => (.ok (), { x with writer })
    | .error e => (.error e, x)
  | .add =>
    match x.writer.add x.pool with
    | (.ok page, writer, pool) => (.ok (), ⟨writer, pool, x.pages ++ page.toList⟩)
    | (.error e, writer, pool) => (.error e, ⟨writer, pool, x.pages⟩)
  | .flush =>
    let (page, writer, pool) := x.writer.flush x.pool
    (.ok (), ⟨writer, pool, x.pages ++ page.toList⟩)

/-- Performs one operation after the other; a failed one does not end the session. -/
def run (x : PageSession) : List PageOperation → List (Except PageError Unit) × PageSession
  | [] => ([], x)
  | op :: ops =>
    let (answer, next) := x.perform op
    let (answers, last) := next.run ops
    (answer :: answers, last)

/-- The records of the pages, in the order in which they were handed out. -/
def records (x : PageSession) (s : Schema) : List Record := x.pages.flatMap (·.records s)

end PageSession

namespace Schema

/-- A column accepts null and the values of its type; there is no other column. -/
def accepts (s : Schema) (column : Nat) (cell : Cell) : Bool :=
  (s.typeOf? column).any fun type => cell.type?.all (· = type)

/-- Only a set can be refused. -/
def permits (s : Schema) : PageOperation → Bool
  | .set column cell => s.accepts column cell
  | .add | .flush => true

def acceptedFor (s : Schema) (column : Nat) : PageOperation → Option Cell
  | .set i cell => if i = column ∧ s.accepts i cell then some cell else none
  | .add | .flush => none

/-- The last cell that was accepted for a column, or null. -/
def lastAccepted (s : Schema) (ops : List PageOperation) (column : Nat) : Cell :=
  (ops.filterMap (s.acceptedFor column)).getLast?.getD .null

/-- The row that these operations, none of them an add, leave to be added. -/
def rowOf (s : Schema) (ops : List PageOperation) : List Cell :=
  (List.range s.size).map (s.lastAccepted ops)

/-- The rows that are added, when `since` was done after the row before them. -/
def rowsAfter (s : Schema) (since : List PageOperation) : List PageOperation → List (List Cell)
  | [] => []
  | .add :: ops => s.rowOf since :: rowsAfter s [] ops
  | op :: ops => rowsAfter s (since ++ [op]) ops

def addedRows (s : Schema) (ops : List PageOperation) : List (List Cell) := s.rowsAfter [] ops

variable {s : Schema} {column : Nat} {cell : Cell} {since : List PageOperation}

theorem accepts_iff :
    s.accepts column cell ↔ ∃ c, s.columns[column]? = some c ∧ cell.FitsType c.type := by
  cases h : s.columns[column]? with
  | none => simp [accepts, typeOf?, column?, h]
  | some c =>
    cases ht : cell.type? with
    | none => simp [accepts, typeOf?, column?, h, Cell.FitsType, ht]
    | some t => simp [accepts, typeOf?, column?, h, Cell.FitsType, ht]

theorem rowOf_nil : s.rowOf [] = s.nullRow := by
  rw [rowOf, nullRow, List.eq_replicate_iff]
  refine ⟨by simp, ?_⟩
  intro cell hc
  obtain ⟨column, -, rfl⟩ := List.mem_map.mp hc
  rfl

theorem rowOf_skip (op : PageOperation) (h : ∀ column, s.acceptedFor column op = none) :
    s.rowOf (since ++ [op]) = s.rowOf since := by
  apply List.map_congr_left
  intro column _
  rw [lastAccepted, List.filterMap_append, List.filterMap_cons_none (h column), List.filterMap_nil,
    List.append_nil, lastAccepted]

/-- An accepted set replaces the cell of its column, and that one alone. -/
theorem rowOf_set (h : s.accepts column cell) :
    s.rowOf (since ++ [.set column cell]) = (s.rowOf since).set column cell := by
  apply List.ext_getElem
  · simp [rowOf]
  · intro i hi _
    simp only [rowOf, List.getElem_map, List.getElem_range, List.getElem_set]
    by_cases hc : column = i
    · subst hc
      simp [lastAccepted, acceptedFor, h]
    · simp [lastAccepted, acceptedFor, hc]

end Schema

namespace PageWriter

/-- The writer has these rows in its page and this row staged. -/
structure Shows (w : PageWriter) (s : Schema) (rows : List (List Cell)) (row : List Cell) :
    Prop where
  schema : w.schema = s
  bytes : w.bytes.toList = s.rowsBytes rows 0
  count : w.recordCount = rows.length
  fits : ∀ row ∈ rows, s.Fits row
  bound : w.bytes.size ≤ greatestOffset
  buffer : w.current = none → rows = []
  staged : RepresentsRow w.scratch w.staged row
  rowFits : s.Fits row

variable {w : PageWriter} {s : Schema} {rows : List (List Cell)} {row : List Cell} {column : Nat}
  {cell : Cell} {pool : Pool}

theorem ofSchema_shows (s : Schema) : (ofSchema s).Shows s [] s.nullRow where
  schema := rfl
  bytes := rfl
  count := rfl
  fits := by simp
  bound := Nat.zero_le _
  buffer := fun _ => rfl
  staged := blank_represents s #[]
  rowFits := s.nullRow_fits

/-- A set goes through exactly when the schema accepts it, and then stages the cell. -/
theorem set_eq (w : PageWriter) (column : Nat) (cell : Cell) :
    if w.schema.accepts column cell then
      w.set column cell = .ok { w with
        staged := w.staged.set column (cell.stage w.scratch).1
        scratch := (cell.stage w.scratch).2 }
    else ∃ e, w.set column cell = .error e := by
  cases hc : w.schema.columns[column]? with
  | none =>
    have outside : column ≥ w.schema.size := List.getElem?_eq_none_iff.mp hc
    have refused : w.schema.accepts column cell = false := by
      simp [Schema.accepts, Schema.typeOf?, Schema.column?, hc]
    rw [refused]
    cases ht : cell.type? with
    | none => exact ⟨_, by simp only [set, ht, if_pos outside]; rfl⟩
    | some t => exact ⟨_, by simp only [set, ht, Schema.expectType, Schema.column?, hc]; rfl⟩
  | some c =>
    have inside : ¬ column ≥ w.schema.size :=
      Nat.not_le.mpr (List.getElem?_eq_some_iff.mp hc).1
    cases ht : cell.type? with
    | none =>
      have accepted : w.schema.accepts column cell = true := by
        simp [Schema.accepts, Schema.typeOf?, Schema.column?, hc, ht]
      rw [accepted, set, ht]
      simp only [if_neg inside]
      rfl
    | some t =>
      by_cases same : c.type = t
      · have accepted : w.schema.accepts column cell = true := by
          simp [Schema.accepts, Schema.typeOf?, Schema.column?, hc, ht, same]
        rw [accepted, set, ht]
        simp only [Schema.expectType, Schema.column?, hc, if_pos same]
        rfl
      · have refused : w.schema.accepts column cell = false := by
          simp [Schema.accepts, Schema.typeOf?, Schema.column?, hc, ht, Ne.symm same]
        rw [refused]
        exact ⟨_, by
          simp only [set, ht, Schema.expectType, Schema.column?, hc, if_neg same]; rfl⟩

/-- An accepted cell replaces the one of its column in the staged row. -/
theorem Shows.set (h : w.Shows s rows row) (accepted : s.accepts column cell) :
    ∃ w', w.set column cell = .ok w' ∧ w'.Shows s rows (row.set column cell) := by
  obtain rfl := h.schema
  have staged := w.set_eq column cell
  rw [if_pos accepted] at staged
  refine ⟨_, staged, ?_⟩
  obtain ⟨more, grown, represents⟩ := cell.stage_spec w.scratch
  obtain ⟨c, place, fits⟩ := Schema.accepts_iff.mp accepted
  rw [grown]
  exact {
    schema := rfl, bytes := h.bytes, count := h.count, fits := h.fits, bound := h.bound
    buffer := h.buffer
    staged := forall₂_set (h.staged.grown more) column represents
    rowFits := forall₂_set_right h.rowFits place fits }

theorem Shows.set_refused (h : w.Shows s rows row) (refused : s.accepts column cell = false) :
    ∃ e, w.set column cell = .error e := by
  have staged := w.set_eq column cell
  rwa [h.schema, refused] at staged

theorem Shows.page (h : w.Shows s rows row) (buffer : Buffer) :
    Page.IsOf ⟨buffer, w.bytes, w.recordCount⟩ s rows := ⟨h.bytes, h.count, h.fits, h.bound⟩

/-- What is left when the page of a writer has been taken. -/
theorem Shows.emptied (h : w.Shows s rows row) :
    Shows { w with current := none, bytes := #[], recordCount := 0 } s [] row where
  schema := h.schema
  bytes := rfl
  count := rfl
  fits := by simp
  bound := Nat.zero_le _
  buffer := fun _ => rfl
  staged := h.staged
  rowFits := h.rowFits

/-- A page that holds a row has a buffer. -/
theorem Shows.takePage (h : w.Shows s rows row) (some : rows ≠ []) :
    ∃ page, w.takePage = (.some page, { w with current := none, bytes := #[], recordCount := 0 }) ∧
      page.IsOf s rows := by
  cases hb : w.current with
  | none => exact absurd (h.buffer hb) some
  | some buffer =>
    refine ⟨_, ?_, h.page buffer⟩
    rw [PageWriter.takePage, hb]

theorem acquire_pageSize (pool : Pool) (wished : Nat) :
    (pool.acquire wished).2.pageSize = pool.pageSize := by
  unfold Pool.acquire
  split
  · split <;> rfl
  · rfl

/-- The staged row goes behind the rows of the page, if it ends within four bytes. -/
theorem Shows.append (h : w.Shows s rows row) (buffer : Buffer)
    (bound : w.bytes.size + s.rowSize row ≤ greatestOffset) :
    Shows { w with
      current := some buffer
      bytes := w.bytes ++ w.schema.encodeRecord w.staged w.scratch w.bytes.size
      recordCount := w.recordCount + 1
      staged := blank w.schema
      scratch := #[] } s (rows ++ [row]) s.nullRow where
  schema := h.schema
  bytes := by
    have size : w.bytes.size = (s.rowsBytes rows 0).length := by
      rw [← h.bytes, Array.length_toList]
    rw [h.schema, h.staged.encodeRecord_eq, Schema.rowsBytes_concat h.fits, ← size, Nat.zero_add,
      ← h.bytes, Array.toList_appendList]
  count := by simp [h.count]
  fits := by
    intro r hr
    rcases List.mem_append.mp hr with hr | hr
    · exact h.fits r hr
    · rw [List.mem_singleton.mp hr]
      exact h.rowFits
  bound := by
    rw [h.schema, h.staged.encodeRecord_eq, ← Array.length_toList, Array.toList_appendList,
      List.length_append, Array.length_toList, Schema.rowBytes_length h.rowFits]
    exact bound
  buffer := by simp
  staged := h.schema ▸ blank_represents _ _
  rowFits := s.nullRow_fits

/-- The page that is being filled holds a record, and the row would carry it past the page size. -/
def isFull (w : PageWriter) (pool : Pool) (size : Nat) : Bool :=
  w.current.isSome && decide (w.recordCount > 0) && decide (w.bytes.size + size > pool.pageSize)

theorem Shows.size (h : w.Shows s rows row) : w.bytes.size = (rows.map s.rowSize).sum :=
  (h.page default).size

theorem Shows.isFull_iff (h : w.Shows s rows row) (size : Nat) :
    w.isFull pool size = true ↔ rows ≠ [] ∧ pool.pageSize < (rows.map s.rowSize).sum + size := by
  have buffered : rows ≠ [] → w.current.isSome = true := fun some =>
    Option.isSome_iff_ne_none.mpr fun hb => some (h.buffer hb)
  simp only [isFull, Bool.and_eq_true, decide_eq_true_eq, h.count, gt_iff_lt, List.length_pos_iff,
    h.size]
  exact ⟨fun full => ⟨full.1.2, full.2⟩, fun full => ⟨⟨buffered full.1, full.1⟩, full.2⟩⟩

/-- There is room for a row that does not make its page full. -/
theorem Shows.room (h : w.Shows s rows row) (hpool : pool.pageSize ≤ greatestOffset)
    (hrow : s.rowSize row ≤ greatestOffset) (full : w.isFull pool (s.rowSize row) = false) :
    w.bytes.size + s.rowSize row ≤ greatestOffset := by
  by_cases none : rows = []
  · rwa [h.size, none, List.map_nil, List.sum_nil, Nat.zero_add]
  · have fits : ¬ pool.pageSize < (rows.map s.rowSize).sum + s.rowSize row := fun large =>
      Bool.eq_false_iff.mp full ((h.isFull_iff _).mpr ⟨none, large⟩)
    rw [h.size]
    exact Nat.le_trans (Nat.not_lt.mp fits) hpool

theorem Shows.recordSize (h : w.Shows s rows row) : w.schema.recordSize w.staged = s.rowSize row := by
  rw [h.schema, h.staged.recordSize_eq]

/-- A row that no page can hold is refused, and nothing changes. -/
theorem Shows.add_refused (h : w.Shows s rows row) (pool : Pool)
    (hrow : greatestOffset < s.rowSize row) :
    w.add pool = (.error (.recordTooLarge (s.rowSize row)), w, pool) := by
  simp only [PageWriter.add, h.recordSize, if_pos hrow]

/-- A full page is handed out, and the row is the first of the next one. -/
theorem Shows.add_full (h : w.Shows s rows row) (hrow : s.rowSize row ≤ greatestOffset)
    (full : w.isFull pool (s.rowSize row) = true) :
    ∃ page w' pool', w.add pool = (.ok (some page), w', pool') ∧
      pool'.pageSize = pool.pageSize ∧ page.IsOf s rows ∧ w'.Shows s [row] s.nullRow := by
  obtain ⟨page, taken, isOf⟩ := h.takePage ((h.isFull_iff _).mp full).1
  have fresh : ¬ (#[] : Array UInt8).size + s.rowSize row > greatestOffset := by simpa using hrow
  simp only [isFull] at full
  simp only [PageWriter.add, h.recordSize, if_neg (Nat.not_lt.mpr hrow), full, if_true, taken,
    if_neg fresh]
  exact ⟨_, _, _, rfl, acquire_pageSize _ _, isOf, h.emptied.append _ (Nat.not_lt.mp fresh)⟩

/-- A row that does not make its page full goes behind the others, if there is room. -/
theorem Shows.add_open (h : w.Shows s rows row) (hrow : s.rowSize row ≤ greatestOffset)
    (full : w.isFull pool (s.rowSize row) = false)
    (room : w.bytes.size + s.rowSize row ≤ greatestOffset) :
    ∃ w' pool', w.add pool = (.ok none, w', pool') ∧ pool'.pageSize = pool.pageSize ∧
      w'.Shows s (rows ++ [row]) s.nullRow := by
  have inside := Nat.not_lt.mpr room
  simp only [isFull] at full
  simp only [PageWriter.add, h.recordSize, if_neg (Nat.not_lt.mpr hrow), full, Bool.false_eq_true,
    if_false, if_neg inside]
  refine ⟨_, _, rfl, ?_, h.append _ room⟩
  cases w.current with
  | none => exact acquire_pageSize _ _
  | some buffer => rfl

/-- Where there is room, either the row goes behind the others, or their page is handed out and the
row is the first of the next one. -/
theorem Shows.add_within (h : w.Shows s rows row) (hrow : s.rowSize row ≤ greatestOffset)
    (room : w.isFull pool (s.rowSize row) = false →
      w.bytes.size + s.rowSize row ≤ greatestOffset) :
    ∃ emitted w' pool', w.add pool = (.ok emitted, w', pool') ∧ pool'.pageSize = pool.pageSize ∧
      ((emitted = none ∧ w'.Shows s (rows ++ [row]) s.nullRow) ∨
        ∃ page, emitted = some page ∧ page.IsOf s rows ∧ w'.Shows s [row] s.nullRow) := by
  cases full : w.isFull pool (s.rowSize row) with
  | true =>
    obtain ⟨page, w', pool', added, size, isOf, next⟩ := h.add_full hrow full
    exact ⟨_, w', pool', added, size, .inr ⟨page, rfl, isOf, next⟩⟩
  | false =>
    obtain ⟨w', pool', added, size, next⟩ := h.add_open hrow full (room full)
    exact ⟨_, w', pool', added, size, .inl ⟨rfl, next⟩⟩

/-- An add never fails on a row of allowed size in pages of allowed size. -/
theorem Shows.add (h : w.Shows s rows row) (hpool : pool.pageSize ≤ greatestOffset)
    (hrow : s.rowSize row ≤ greatestOffset) :
    ∃ emitted w' pool', w.add pool = (.ok emitted, w', pool') ∧ pool'.pageSize = pool.pageSize ∧
      ((emitted = none ∧ w'.Shows s (rows ++ [row]) s.nullRow) ∨
        ∃ page, emitted = some page ∧ page.IsOf s rows ∧ w'.Shows s [row] s.nullRow) :=
  h.add_within hrow (h.room hpool hrow)

/-- Whatever the sizes, an add does what it should, or it fails since there is no room. -/
theorem Shows.add_or_fail (h : w.Shows s rows row) (pool : Pool) :
    ((∃ e, (w.add pool).1 = .error e) ∧ ¬ s.HasRoom pool.pageSize (rows ++ [row])) ∨
      ∃ emitted w' pool', w.add pool = (.ok emitted, w', pool') ∧
        ((emitted = none ∧ w'.Shows s (rows ++ [row]) s.nullRow) ∨
          ∃ page, emitted = some page ∧ page.IsOf s rows ∧ w'.Shows s [row] s.nullRow) := by
  by_cases hrow : s.rowSize row ≤ greatestOffset
  · by_cases room : w.isFull pool (s.rowSize row) = false →
        w.bytes.size + s.rowSize row ≤ greatestOffset
    · obtain ⟨emitted, w', pool', added, -, parts⟩ := h.add_within hrow room
      exact .inr ⟨emitted, w', pool', added, parts⟩
    · obtain ⟨full, large⟩ := Classical.not_imp.mp room
      refine .inl ⟨⟨.recordTooLarge (s.rowSize row), ?_⟩, fun has => ?_⟩
      · simp only [isFull] at full
        simp only [PageWriter.add, h.recordSize, if_neg (Nat.not_lt.mpr hrow), full,
          Bool.false_eq_true, if_false, if_pos (Nat.not_le.mp large)]
      · rcases has.all with paged | all
        · exact large (h.room paged hrow full)
        · rw [List.map_append, List.sum_append, ← h.size] at all
          simp at all
          exact large all
  · refine .inl ⟨⟨.recordTooLarge (s.rowSize row), ?_⟩, fun has => hrow (has.each row (by simp))⟩
    rw [h.add_refused pool (Nat.not_le.mp hrow)]

theorem add_pageSize (w : PageWriter) (pool : Pool) :
    (w.add pool).2.2.pageSize = pool.pageSize := by
  unfold PageWriter.add
  dsimp only
  split
  · rfl
  · split
    all_goals
      split
      all_goals
        split
        · rfl
        · exact acquire_pageSize _ _

theorem flush_pageSize (w : PageWriter) (pool : Pool) :
    (w.flush pool).2.2.pageSize = pool.pageSize := by
  unfold PageWriter.flush
  split
  · cases w.current <;> rfl
  · rfl

/-- A flush hands out the rows that are left, if there are any. -/
theorem Shows.flush (h : w.Shows s rows row) (pool : Pool) :
    ∃ emitted w' pool', w.flush pool = (emitted, w', pool') ∧ pool'.pageSize = pool.pageSize ∧
      w'.Shows s [] row ∧
      ((emitted = none ∧ rows = []) ∨ ∃ page, emitted = some page ∧ page.IsOf s rows) := by
  by_cases none : rows = []
  · have zero : w.recordCount = 0 := by rw [h.count, none]; rfl
    refine ⟨_, _, _, by rw [PageWriter.flush, if_pos zero], ?_, ?_, .inl ⟨rfl, none⟩⟩
    · cases w.current <;> rfl
    · have emptied := h.emptied
      rwa [← zero] at emptied
  · have some : w.recordCount ≠ 0 := by
      rw [h.count]
      exact fun zero => none (List.length_eq_zero_iff.mp zero)
    obtain ⟨page, taken, isOf⟩ := h.takePage none
    refine ⟨_, _, _, by rw [PageWriter.flush, if_neg some, taken], rfl, h.emptied, .inr ?_⟩
    exact ⟨page, rfl, isOf⟩

/-- Without rows there is no page to hand out. -/
theorem Shows.flush_nothing (h : w.Shows s [] row) (pool : Pool) : (w.flush pool).1 = none := by
  have empty : w.recordCount = 0 := h.count
  rw [PageWriter.flush, if_pos empty]

end PageWriter

namespace PageSession

/-- The session has put `rows` in its pages and its writer, in order, and has done `since` after
the last of them. -/
def Reflects (x : PageSession) (s : Schema) (rows : List (List Cell)) (since : List PageOperation) :
    Prop :=
  ∃ closed current, rows = closed.flatten ++ current ∧
    List.Forall₂ (fun page group => page.IsOf s group) x.pages closed ∧
    x.writer.Shows s current (s.rowOf since)

variable {s : Schema} {pool : Pool} {x : PageSession} {rows : List (List Cell)}
  {since : List PageOperation}

theorem start_reflects (s : Schema) (pool : Pool) : (start s pool).Reflects s [] [] := by
  refine ⟨[], [], rfl, .nil, ?_⟩
  rw [Schema.rowOf_nil]
  exact PageWriter.ofSchema_shows s

/-- A set stages its cell or is refused; nothing but the staged row changes. -/
theorem set_shows {current : List (List Cell)} (h : x.writer.Shows s current (s.rowOf since))
    (column : Nat) (cell : Cell) :
    (x.perform (.set column cell)).1.isOk = s.accepts column cell ∧
      ∃ w, (x.perform (.set column cell)).2 = { x with writer := w } ∧
        w.Shows s current (s.rowOf (since ++ [.set column cell])) := by
  cases accepted : s.accepts column cell with
  | true =>
    obtain ⟨w, staged, next⟩ := h.set accepted
    rw [← Schema.rowOf_set accepted] at next
    rw [perform, staged]
    exact ⟨rfl, w, rfl, next⟩
  | false =>
    obtain ⟨e, refused⟩ := h.set_refused accepted
    rw [← Schema.rowOf_skip (.set column cell) fun i => by
      simp [Schema.acceptedFor, accepted]] at h
    rw [perform, refused]
    exact ⟨rfl, x.writer, rfl, h⟩

theorem perform_set (h : x.Reflects s rows since) (column : Nat) (cell : Cell) :
    (x.perform (.set column cell)).1.isOk = s.accepts column cell ∧
      (x.perform (.set column cell)).2.pool = x.pool ∧
      (x.perform (.set column cell)).2.Reflects s rows (since ++ [.set column cell]) := by
  obtain ⟨closed, current, parts, pages, shows⟩ := h
  obtain ⟨answer, w, next, staged⟩ := set_shows shows column cell
  rw [next]
  exact ⟨answer, rfl, closed, current, parts, pages, staged⟩

theorem perform_add (h : x.Reflects s rows since) (hpool : x.pool.pageSize ≤ greatestOffset)
    (hrow : s.rowSize (s.rowOf since) ≤ greatestOffset) :
    (x.perform .add).1.isOk = true ∧
      (x.perform .add).2.pool.pageSize = x.pool.pageSize ∧
      (x.perform .add).2.Reflects s (rows ++ [s.rowOf since]) [] := by
  obtain ⟨closed, current, rfl, pages, shows⟩ := h
  obtain ⟨emitted, w, pool, added, size, done⟩ := shows.add hpool hrow
  rw [perform, added]
  refine ⟨rfl, size, ?_⟩
  rw [← Schema.rowOf_nil] at done
  rcases done with ⟨rfl, next⟩ | ⟨page, rfl, isOf, next⟩
  · exact ⟨closed, _, List.append_assoc .., by simpa using pages, next⟩
  · exact ⟨closed ++ [current], _, by simp, List.rel_append pages (.cons isOf .nil), next⟩

theorem records_hold {pages : List Page} {closed : List (List (List Cell))}
    (h : List.Forall₂ (fun page group => page.IsOf s group) pages closed) :
    List.Forall₂ Record.HoldsRow (pages.flatMap (·.records s)) closed.flatten := by
  induction h with
  | nil => exact .nil
  | cons isOf _ ih => exact List.rel_append isOf.records_hold ih

/-- After a flush every row that was added is in the pages. -/
theorem perform_flush (h : x.Reflects s rows since) :
    (x.perform .flush).1.isOk = true ∧
      (x.perform .flush).2.pool.pageSize = x.pool.pageSize ∧
      (x.perform .flush).2.Reflects s rows (since ++ [.flush]) ∧
      List.Forall₂ Record.HoldsRow ((x.perform .flush).2.records s) rows := by
  obtain ⟨closed, current, rfl, pages, shows⟩ := h
  obtain ⟨emitted, w, pool, flushed, size, next, done⟩ := shows.flush x.pool
  rw [perform, flushed]
  rw [← Schema.rowOf_skip .flush fun _ => rfl] at next
  refine ⟨rfl, size, ?_⟩
  have all : ∃ groups, closed.flatten ++ current = groups.flatten ∧
      List.Forall₂ (fun page group => page.IsOf s group) (x.pages ++ emitted.toList) groups := by
    rcases done with ⟨rfl, rfl⟩ | ⟨page, rfl, isOf⟩
    · exact ⟨closed, List.append_nil _, by simpa using pages⟩
    · exact ⟨closed ++ [current], by simp, List.rel_append pages (.cons isOf .nil)⟩
  obtain ⟨groups, parts, pages⟩ := all
  rw [parts]
  exact ⟨⟨groups, [], (List.append_nil _).symm, pages, next⟩, records_hold pages⟩

/-- A run answers and adds what the schema says, operation after operation. -/
theorem run_reflects (h : x.Reflects s rows since) (hpool : x.pool.pageSize ≤ greatestOffset)
    (ops : List PageOperation)
    (hrows : ∀ row ∈ s.rowsAfter since ops, s.rowSize row ≤ greatestOffset) :
    (x.run ops).1.map Except.isOk = ops.map s.permits ∧
      ∃ left, (x.run ops).2.Reflects s (rows ++ s.rowsAfter since ops) left := by
  induction ops generalizing x rows since with
  | nil => exact ⟨rfl, since, by simpa [run, Schema.rowsAfter] using h⟩
  | cons op ops ih =>
    cases op with
    | set column cell =>
      obtain ⟨answer, pool, next⟩ := perform_set h column cell
      obtain ⟨answers, last⟩ := ih next (pool ▸ hpool) hrows
      exact ⟨List.cons_eq_cons.mpr ⟨answer, answers⟩, last⟩
    | add =>
      have first := hrows _ List.mem_cons_self
      obtain ⟨answer, size, next⟩ := perform_add h hpool first
      obtain ⟨answers, left, last⟩ := ih next (size ▸ hpool) fun row hr =>
        hrows row (List.mem_cons_of_mem _ hr)
      refine ⟨List.cons_eq_cons.mpr ⟨answer, answers⟩, left, ?_⟩
      rwa [List.append_assoc] at last
    | flush =>
      obtain ⟨answer, size, next, -⟩ := perform_flush h
      obtain ⟨answers, last⟩ := ih next (size ▸ hpool) hrows
      exact ⟨List.cons_eq_cons.mpr ⟨answer, answers⟩, last⟩

theorem run_append (x : PageSession) (first second : List PageOperation) :
    x.run (first ++ second) =
      ((x.run first).1 ++ ((x.run first).2.run second).1, ((x.run first).2.run second).2) := by
  induction first generalizing x with
  | nil => rfl
  | cons op first ih => simp only [List.cons_append, run, ih]

end PageSession

/-- For every schema and page size, every sequence of operations and a flush behind them: a set goes
through when its column accepts the cell and everything else always does, and the records of the
pages are the added rows, one for one and in order, each column with its last accepted cell. -/
theorem pages_hold_added_rows (s : Schema) (pool : Pool) (ops : List PageOperation)
    (hpool : pool.pageSize ≤ greatestOffset)
    (hrows : ∀ row ∈ s.addedRows ops, s.rowSize row ≤ greatestOffset) :
    ((PageSession.start s pool).run (ops ++ [.flush])).1.map Except.isOk =
        List.map s.permits (ops ++ [.flush]) ∧
      List.Forall₂ Record.HoldsRow
        (((PageSession.start s pool).run (ops ++ [.flush])).2.records s) (s.addedRows ops) := by
  obtain ⟨answers, left, last⟩ :=
    PageSession.run_reflects (PageSession.start_reflects s pool) hpool ops hrows
  obtain ⟨answer, -, -, hold⟩ := PageSession.perform_flush last
  rw [PageSession.run_append, List.map_append, List.map_append, answers]
  exact ⟨congrArg _ (congrArg (· :: []) answer), hold⟩

/-- A set that is replaced, one that is refused, and a row of nulls. -/
theorem replaced_and_refused_sets_round_trip :
    let s : Schema := ⟨[⟨0, "n", .long⟩, ⟨1, "text", .string⟩], rfl⟩
    let ops : List PageOperation :=
      [.set 1 (.string "old"), .set 0 (.long 7), .set 1 (.string "é"), .set 0 (.boolean true), .add,
        .flush, .set 2 .null, .add]
    ((PageSession.start s (.ofPageSize 64)).run (ops ++ [.flush])).1.map Except.isOk =
        [true, true, true, false, true, true, false, true, true] ∧
      List.Forall₂ Record.HoldsRow
        (((PageSession.start s (.ofPageSize 64)).run (ops ++ [.flush])).2.records s)
        [[.long 7, .string "é"], [.null, .null]] :=
  pages_hold_added_rows _ (.ofPageSize 64) _ (by decide) (by
    intro row hr
    rcases List.mem_cons.mp hr with rfl | hr
    · decide
    · rw [List.mem_singleton.mp hr]
      decide)

end BulkTransfer
