import BulkTransfer.Page.Reader
import BulkTransfer.Plugin.Output
/-!
# Outputs that keep nothing

One output forgets its records, the other prints them. Both count them, and their diffs say how many
there were.
-/
namespace BulkTransfer.Counting

/-- The records of all tasks together. -/
def total (reports : List Report) : Attempt Int := do
  let counts ← reports.mapM fun report => Attempt.ofConfig (report.getOr "records" .long 0)
  return counts.foldr (· + ·) 0

def around (task : Task) : Transaction Task (List Report) Report :=
  Transaction.callThen task fun reports => do
    return (total reports).map fun n => Document.empty.set "records" (.ofInt n)

def report (records : Nat) : Report := Document.empty.set "records" (.ofNat records)

/-- A sink whose state is the number of records it has seen. -/
def sink (add : Page → Call Nat Unit) : PageSink Nat where
  start := pure ()
  add := add
  finish := pure ()
  commit := do return report (← get)
  abort := pure ()
  close := pure ()

def plugin (add : Schema → Page → Call Nat Unit) : OutputPlugin where
  transaction := fun _ _ _ => around Document.empty
  resume := fun task _ _ => around task
  cleanup := fun _ _ _ _ => .done (.ok ())
  openTask := fun _ schema _ => .ok ⟨Nat, sink (add schema), 0⟩

/-- Forgets every record. -/
def null : OutputPlugin := plugin fun _ page => modify (· + page.recordCount)

def fieldText : Cell → String
  | .null => ""
  | cell => cell.text

/-- A record as a line with commas between its cells. -/
def lineText (cells : List Cell) : String := ",".intercalate (cells.map fieldText) ++ "\n"

/-- The lines of a page up to the first record that cannot be read, and whether there is one. -/
def lines : List Record → List String × Attempt Unit
  | [] => ([], .ok ())
  | r :: rest =>
    match r.cells with
    | .error e => ([], .error (.page e))
    | .ok cells =>
      let (others, result) := lines rest
      (lineText cells :: others, result)

/-- Prints every record; a page that cannot be read whole is not printed. -/
def stdout : OutputPlugin := plugin fun schema page => do
  let (texts, result) := lines (page.records schema)
  modify (· + texts.length)
  Call.ofAttempt result
  Call.ofAction do
    Program.print (Utf8.encode (String.join texts))
    return .ok ()

end BulkTransfer.Counting
