import BulkTransfer.Plugin.Input
import BulkTransfer.Text.Newline
/-!
# Lines of a file

A file that comes in pieces, cut into lines of text. Where the pieces are cut does not matter: a
line may go on from one piece to the next. A piece that cannot be read stands as an error between
the lines before it and those after it.
-/
namespace BulkTransfer

namespace Lines

def decodeLine (line : Bytes) : Attempt String :=
  match Utf8.decode line with
  | .ok text => .ok text
  | .error fault => .error (.invalidFormat ("invalid UTF-8: " ++ fault.message))

/-- What poll after poll gives, when `pending` is the start of a line that was not ended yet. -/
def ofPollsFrom (n : Newline) : (pending : Bytes) → List Poll → List (Attempt String)
  | pending, [] => if pending.isEmpty then [] else [decodeLine pending]
  | pending, .error e :: rest => .error e :: ofPollsFrom n pending rest
  | pending, .ok piece :: rest =>
    let (lines, left) := n.cut (pending ++ piece)
    lines.map decodeLine ++ ofPollsFrom n left rest

/-- The lines of a file, from its pieces. -/
def ofPolls (n : Newline) (polls : List Poll) : List (Attempt String) := ofPollsFrom n [] polls

end Lines

end BulkTransfer
