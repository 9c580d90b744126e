import BulkTransfer.World.Basic
/-!
# Programs

What a stage does is a program: a value, a step that changes the world at once, or a question put to
whoever runs it, after which it goes on with the answer. Steps are the smallest pieces, so programs
that share a world can be interleaved between them.
-/
namespace BulkTransfer

inductive Program (Q R : Type) (α : Type) where
  | done (value : α)
  /-- The world is changed; the program goes on with what it saw before the change. -/
  | step (change : World → World) (next : World → Program Q R α)
  | ask (question : Q) (next : R → Program Q R α)

/-- A program without questions. -/
abbrev Action := Program Empty Empty

namespace Program

variable {Q R α β : Type}

def andThen (p : Program Q R α) (f : α → Program Q R β) : Program Q R β :=
  match p with
  | .done a => f a
  | .step change next => .step change fun w => (next w).andThen f
  | .ask q next => .ask q fun r => (next r).andThen f

instance : Monad (Program Q R) where
  pure := .done
  bind := andThen

/-- Reads the world. -/
def look (view : World → α) : Program Q R α := .step id fun w => .done (view w)

def change (f : World → World) : Program Q R Unit := .step f fun _ => .done ()

/-- An operation on the disk. -/
def onDisk (operation : Disk → α × Disk) : Program Q R α :=
  .step (fun w => { w with disk := (operation w.disk).2 }) fun w => .done (operation w.disk).1

/-- An operation on the page buffers. -/
def onPool (operation : Pool → α × Pool) : Program Q R α :=
  .step (fun w => { w with pool := (operation w.pool).2 }) fun w => .done (operation w.pool).1

def note (task : Option Nat) (text : String) : Program Q R Unit :=
  change fun w => { w with notes := w.notes.push ⟨task, text⟩ }

def print (data : Bytes) : Program Q R Unit :=
  change fun w => { w with printed := w.printed ++ data }

/-- Does to completion, in one world. -/
def run : Action α → World → α × World
  | .done a, w => (a, w)
  | .step f next, w => (next w).run (f w)
  | .ask q _, _ => nomatch q

/-- The next step of an action that is not done. -/
def advance : Action α → World → Action α × World
  | .done a, w => (.done a, w)
  | .step f next, w => (next w, f w)
  | .ask q _, _ => nomatch q

/-- An action is a program that happens to ask nothing. -/
def ofAction : Action α → Program Q R α
  | .done a => .done a
  | .step f next => .step f fun w => (next w).ofAction
  | .ask q _ => nomatch q

/-- Answers every question by a server with a state of its own. -/
def answered {σ : Type} (server : Q → StateT σ Action R) :
    Program Q R α → StateT σ Action α
  | .done a, s => .done (a, s)
  | .step f next, s => .step f fun w => (next w).answered server s
  | .ask q next, s => (server q s).andThen fun (r, s) => (next r).answered server s

end Program

end BulkTransfer
