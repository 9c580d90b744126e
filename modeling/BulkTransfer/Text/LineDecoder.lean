import BulkTransfer.Text.Lines
/-!
# Line decoders

A decoder polls its files for pieces and gives one line at a time. It remembers how far it has looked
for a line end, so that bytes are not looked at again when the next piece comes.
-/
namespace BulkTransfer

namespace Newline

/-- The bytes of a line end. -/
def ending : Newline → Bytes
  | lf => [lineFeed]
  | crlf => [carriageReturn, lineFeed]
  | cr => [carriageReturn]

/-- The place of the first line end, when the first of these bytes is at `place`. -/
def search (n : Newline) : Bytes → (place : Nat) → Option Nat
  | [], _ => none
  | b :: rest, place =>
    if n.ending.isPrefixOf (b :: rest) then some place else search n rest (place + 1)

end Newline

/-- The files that are not opened yet, what the current one has left, and the bytes that are not given
out. -/
structure LineDecoder where
  newline : Newline
  files : List (List Poll)
  polls : List Poll
  buffer : Bytes
  scanned : Nat
  isEnded : Bool

namespace LineDecoder

def ofFiles (n : Newline) (files : List (List Poll)) : LineDecoder := ⟨n, files, [], [], 0, false⟩

/-- Goes on to the next file, if there is one. Nothing is kept of the file before it. -/
def nextFile (d : LineDecoder) : Bool × LineDecoder :=
  match d.files with
  | [] => (false, { d with polls := [], buffer := [], scanned := 0, isEnded := false })
  | polls :: files => (true, { d with files, polls, buffer := [], scanned := 0, isEnded := false })

/-- Where the first line of the buffer ends, and how many bytes end it. A carriage return before a line
feed is a part of the line end. -/
def findNewline (d : LineDecoder) : Option (Nat × Nat) :=
  (d.newline.search (d.buffer.drop d.scanned) d.scanned).map fun place =>
    if d.newline = .lf ∧ place > 0 ∧ d.buffer[place - 1]? = some Newline.carriageReturn then
      (place - 1, 2)
    else (place, d.newline.ending.length)

/-- Gives out the bytes before `stop` as a line and goes on `width` bytes behind it. -/
def takeLine (d : LineDecoder) (stop width : Nat) : Attempt (Option String) × LineDecoder :=
  ((Lines.decodeLine (d.buffer.take stop)).map some,
    { d with buffer := d.buffer.drop (stop + width), scanned := 0 })

/-- The next line of the current file, or nothing when there is none. The last byte is looked at again
after the next piece, since a line end may start there. -/
def pollLine (d : LineDecoder) : Attempt (Option String) × LineDecoder :=
  match d.findNewline with
  | some (stop, width) => d.takeLine stop width
  | none =>
    let seen := { d with scanned := d.buffer.length - 1 }
    if d.isEnded then
      if d.buffer.isEmpty then (.ok none, seen) else seen.takeLine d.buffer.length 0
    else
      match _h : d.polls with
      | [] => pollLine { seen with isEnded := true }
      | .error e :: polls => (.error e, { seen with polls })
      | .ok piece :: polls => pollLine { seen with polls, buffer := d.buffer ++ piece }
termination_by (d.polls.length, d.isEnded.not.toNat)
decreasing_by
  · simp_all [Prod.lex_def]
  · simp_all [Prod.lex_def]

/-- The bytes that are still to be polled, and the polls they take. -/
def sizeOfPolls : List Poll → Nat
  | [] => 0
  | .ok piece :: polls => piece.length + 1 + sizeOfPolls polls
  | .error _ :: polls => 1 + sizeOfPolls polls

def remaining (d : LineDecoder) : Nat := d.buffer.length + sizeOfPolls d.polls

theorem findNewline_width {d : LineDecoder} {stop width : Nat} (h : d.findNewline = some (stop, width)) :
    0 < width ∧ 0 < d.buffer.length := by
  rw [findNewline, Option.map_eq_some_iff] at h
  obtain ⟨place, found, ends⟩ := h
  constructor
  · split at ends
    · cases ends
      decide
    · cases ends
      cases d.newline <;> decide
  · apply List.length_pos_iff.mpr
    intro empty
    rw [empty, List.drop_nil, Newline.search] at found
    cases found

/-- Every line that is given out, and every error, leaves less to be given out. -/
theorem pollLine_remaining (d : LineDecoder) (h : d.pollLine.1 ≠ .ok none) :
    d.pollLine.2.remaining < d.remaining := by
  fun_induction pollLine d with
  | case1 d stop width found =>
    obtain ⟨wide, some⟩ := findNewline_width found
    simp only [takeLine, remaining, List.length_drop]
    omega
  | case2 => exact absurd rfl h
  | case3 d none seen ended some =>
    have some : 0 < d.buffer.length := List.length_pos_iff.mpr (by simpa using some)
    simp only [takeLine, remaining, seen, List.length_drop]
    omega
  | case4 d none seen going polls ih =>
    have less := ih h
    simp only [remaining, seen, polls] at less ⊢
    exact less
  | case5 d none seen going e polls eq =>
    simp only [remaining, eq, seen, sizeOfPolls]
    omega
  | case6 d none seen going piece polls eq ih =>
    have less := ih h
    simp only [remaining, eq, seen, sizeOfPolls, List.length_append] at less ⊢
    omega

/-- The lines that are left of the current file. An error does not end it. -/
def restOfFile (d : LineDecoder) : List (Attempt String) × LineDecoder :=
  match _h : d.pollLine with
  | (.ok none, next) => ([], next)
  | (.ok (some line), next) =>
    let (lines, last) := next.restOfFile
    (.ok line :: lines, last)
  | (.error e, next) =>
    let (lines, last) := next.restOfFile
    (.error e :: lines, last)
termination_by d.remaining
decreasing_by
  all_goals
    have less := d.pollLine_remaining (by rw [_h]; exact nofun)
    rwa [_h] at less

end LineDecoder

end BulkTransfer
