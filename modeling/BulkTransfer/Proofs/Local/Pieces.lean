import BulkTransfer.Local.Input
import BulkTransfer.Proofs.Text.Lines
/-!
# Files in pieces

Files can be read in any pieces that make them up.
-/
namespace BulkTransfer

namespace LocalInput

theorem piecesOf_joined (content : Bytes) : (piecesOf content).flatten = content := by
  fun_induction piecesOf content with
  | case1 => rfl
  | case2 content some ih => rw [List.flatten_cons, ih, List.take_append_drop]

/-- How files are read: in pieces that make them up, some of which may be empty. -/
structure Cutting where
  pieces : String → Bytes → List Bytes
  joined : ∀ path content, (pieces path content).flatten = content

namespace Cutting

def regular : Cutting := ⟨fun _ => piecesOf, fun _ => piecesOf_joined⟩

variable (c : Cutting)

def openFile (path : String) : Action (Attempt (List Poll)) := do
  match ← Program.onDisk (·.read path) with
  | .ok content => return .ok ((c.pieces path content).map .ok)
  | .error .isADirectory => return .ok [.error (.file path .isADirectory)]
  | .error cause => return .error (.file path cause)

def openTask (task : Task) (index : Nat) : Attempt FileInput := do
  let files ← Files.ofTask task
  match files.files[index]? with
  | none => throw (.config (.missing ("files[" ++ toString index ++ "]")))
  | some path => return {
      files := [c.openFile path]
      commit := .done (.ok Document.empty)
      abort := .done ()
      close := .done () }

def plugin : FileInputPlugin := { LocalInput.plugin with openTask := c.openTask }

end Cutting

end LocalInput

end BulkTransfer
