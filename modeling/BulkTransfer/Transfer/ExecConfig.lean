import BulkTransfer.Config.Shape
import BulkTransfer.Page.Pool
/-!
# Execution settings

How many tasks may run at once and how large pages are. Both are optional; without a limit the
machine decides how many tasks run.
-/
namespace BulkTransfer

structure ExecConfig where
  maxThreads : Option Nat
  pageSize : Nat
  deriving DecidableEq, Repr

namespace ExecConfig

def fields : List RecordField :=
  [.defaulted "max_threads" Decoder.count, .defaulted "page_size" Decoder.count]

def decode : Decoder ExecConfig := fun tree => do
  let found ← Decoder.record "ExecConfig" fields tree
  return ⟨← Decoder.field found "max_threads" (fun t => (Decoder.count t).map some) (.ok none),
    ← Decoder.field found "page_size" Decoder.count (.ok defaultPageSize)⟩

def shape : Shape ExecConfig :=
  ⟨[.optional "max_threads" .long, .optional "page_size" .long], decode⟩

/-- The settings in the section `exec` of a config. -/
def ofConfig (config : Config) : Except ConfigError ExecConfig := do
  (← config.nestedOrEmpty "exec").load shape

/-- One task at least runs at a time. -/
def threads (e : ExecConfig) : Option Nat := e.maxThreads.map (max 1)

end ExecConfig

end BulkTransfer
