import BulkTransfer.Plugin.Sink
/-!
# Feeds

What reads the rows of a task is a program that offers pages, and is told each time whether the page
was taken. A builder makes the pages: it hands over every record that was added exactly once, also
when the program ends with an error.
-/
namespace BulkTransfer

abbrev Feed := Program Page (Attempt Unit)

/-- Runs a feed into a chain. -/
def PageChain.receive {σ α : Type} (c : PageChain σ) (feed : Feed α) : SureCall σ α :=
  feed.answered fun page => (c.add page).attempt

structure PageBuilder where
  writer : PageWriter
  /-- Whether pages count in the metrics of the session. -/
  isCounted : Bool

/-- A program over a builder. -/
abbrev Building := ExceptT PluginError (StateT PageBuilder Feed)

namespace Building

variable {α : Type}

def ofFeed (f : Feed α) : Building α := ExceptT.lift (StateT.lift f)

def ofAttempt (a : Attempt α) : Building α := ExceptT.mk (pure a)

/-- An action in between. -/
def ofAction (a : Action (Attempt α)) : Building α := ExceptT.mk (StateT.lift (Program.ofAction a))

def count (page : Page) (m : Metrics) : Metrics :=
  { m with
    pages := m.pages + 1
    records := m.records + page.recordCount
    bytes := m.bytes + page.byteSize }

/-- Offers a page; afterwards its buffer is free. -/
def emit (page : Page) : Building Unit := do
  if (← get).isCounted then
    ofFeed (Program.change fun w => { w with metrics := count page w.metrics })
  let answer ← ofFeed (.ask page .done)
  ofFeed (Program.onPool fun pool => ((), pool.release page.buffer))
  ofAttempt answer

/-- Stages a cell of the next record. -/
def set (column : Nat) (cell : Cell) : Building Unit := do
  let b ← get
  let writer ← ofAttempt (Attempt.ofPage (b.writer.set column cell))
  MonadStateOf.set { b with writer }

def addRecord : Building Unit := do
  let b ← get
  let (added, writer) ← ofFeed (Program.onPool fun pool =>
    let (added, writer, pool) := b.writer.add pool
    ((added, writer), pool))
  MonadStateOf.set { b with writer }
  match ← ofAttempt (Attempt.ofPage added) with
  | some page => emit page
  | none => return ()

/-- Offers the page that is being filled, if it holds a record. -/
def flush : Building Unit := do
  let b ← get
  let (page?, writer) ← ofFeed (Program.onPool fun pool =>
    let (page?, writer, pool) := b.writer.flush pool
    ((page?, writer), pool))
  MonadStateOf.set { b with writer }
  match page? with
  | some page => emit page
  | none => return ()

/-- A record from its cells. -/
def addRow (cells : List Cell) : Building Unit := do
  for (cell, column) in cells.zipIdx do
    set column cell
  addRecord

/-- Runs a program over a new builder. Whatever happens, the records added are offered. -/
def build (schema : Schema) (isCounted : Bool) (program : Building α) : Feed (Attempt α) := do
  let (result, b) ← (program.run).run ⟨PageWriter.ofSchema schema, isCounted⟩
  let (_, _) ← (flush.run).run b
  return result

end Building

end BulkTransfer
