import BulkTransfer.Disk.Basic
import BulkTransfer.Page.Pool
import BulkTransfer.Tree.Basic
/-!
# The world of a transfer

Everything that the stages of a transfer read or change outside themselves: the disk, what was
printed, whether a stop was asked for, the notes that plugins leave for whoever watches, what the
tasks of a session share, namely the page buffers and the counters, and how tasks that run side by
side are scheduled.
-/
namespace BulkTransfer

/-- Counters of a session. -/
structure Metrics where
  records : Nat
  bytes : Nat
  pages : Nat
  committed : Nat
  failed : Nat
  deriving DecidableEq, Repr, Inhabited

namespace Metrics

def zero : Metrics := ⟨0, 0, 0, 0, 0⟩

def toTree (m : Metrics) : Tree :=
  .obj [("records", .ofNat m.records), ("bytes", .ofNat m.bytes), ("pages", .ofNat m.pages),
    ("committed", .ofNat m.committed), ("failed", .ofNat m.failed)]

end Metrics

/-- A remark of a plugin, about a task or about the transfer as a whole. -/
structure Note where
  task : Option Nat
  text : String
  deriving DecidableEq, Repr

/-- What comes next while tasks run side by side. The choice is the system's, not the program's. -/
inductive Choice where
  /-- The task that has waited longest is dealt with. -/
  | launch
  /-- A running task takes its next step. -/
  | step (place : Nat)
  /-- A running task dies where it is. -/
  | crash (place : Nat) (text : String)
  /-- A stop is asked for. -/
  | stop
  deriving DecidableEq, Repr

structure World where
  disk : Disk
  printed : Bytes
  isCancelled : Bool
  notes : Array Note
  pool : Pool
  metrics : Metrics
  /-- The choices that are made while tasks run; when there are none left, one task runs after the
  other. -/
  schedule : List Choice

namespace World

def ofDisk (disk : Disk) : World :=
  ⟨disk, [], false, #[], Pool.ofPageSize defaultPageSize, Metrics.zero, []⟩

instance : Inhabited World := ⟨ofDisk Disk.empty⟩

/-- A new session has its own buffers and counters. -/
def beginSession (w : World) (pageSize : Nat) : World :=
  { w with pool := Pool.ofPageSize pageSize, metrics := Metrics.zero }

end World

end BulkTransfer
