import BulkTransfer.Transfer.ResumeState
import BulkTransfer.World.Program
/-!
# The state store

A file that holds at most one resume state. A state is written beside the file and moved over it, so
that the file never holds a part of one. A missing or blank file holds none.
-/
namespace BulkTransfer

inductive StateStoreError where
  | io (path : String) (cause : IoError)
  | yaml (cause : YamlFault)
  deriving Repr

def StateStoreError.message : StateStoreError → String
  | io path cause => "Failed to access resume state at '" ++ path ++ "': " ++ cause.message
  | yaml cause => "Failed to encode resume state: " ++ cause.message

structure StateStore where
  path : String

namespace StateStore

def access {α : Type} (s : StateStore) (operation : Disk → Except IoError α × Disk) :
    Action (Except StateStoreError α) := do
  return (← Program.onDisk operation).mapError (.io s.path)

def besidePath (s : StateStore) : String := s.path ++ ".tmp"

def save (s : StateStore) (state : ResumeState) : Action (Except StateStoreError Unit) := do
  match ← s.access (·.write s.besidePath (Utf8.encode state.yaml)) with
  | .error e => return .error e
  | .ok () => s.access (·.rename s.besidePath s.path)

def load (s : StateStore) : Action (Except StateStoreError (Option ResumeState)) := do
  match ← Program.onDisk (·.readText s.path) with
  | .error .notFound => return .ok none
  | .error cause => return .error (.io s.path cause)
  | .ok text =>
    if text.toList.all isBlank then return .ok none
    else return (ResumeState.ofYaml text).map some |>.mapError .yaml

def delete (s : StateStore) : Action (Except StateStoreError Unit) := do
  match ← Program.onDisk (·.remove s.path) with
  | .ok () | .error .notFound => return .ok ()
  | .error cause => return .error (.io s.path cause)

end StateStore

end BulkTransfer
