import BulkTransfer.Text.LineDecoder
import Mathlib.Data.List.Infix
/-!
# Bytes in lines

What it is for bytes to be divided into lines, said without a way to find them: each line holds no line
end, and neither does what is left. The lines that are found are these, in whatever pieces the bytes
come, since a line that a piece leaves unfinished goes on where the next piece starts.
-/
namespace BulkTransfer

namespace Newline

/-- The text of a line. With line feeds, a carriage return before the line end does not belong to it. -/
def textOf (n : Newline) (line : Bytes) : Bytes :=
  if n = lf ∧ line.getLast? = some carriageReturn then line.dropLast else line

/-- The bytes are these lines, each with its line end, and a rest behind the last line end. -/
structure Divides (n : Newline) (content : Bytes) (lines : List Bytes) (rest : Bytes) : Prop where
  joined : content = (lines.map (· ++ n.ending)).flatten ++ rest
  whole : ∀ line ∈ lines, ¬ n.ending <:+: line
  unended : ¬ n.ending <:+: rest

theorem cutFrom_nil (n : Newline) (line : Bytes) : n.cutFrom [] line = ([], line.reverse) := rfl

/-- Where a line has got so far does not depend on the bytes that led there. -/
def Resumes (n : Newline) (line : Bytes) : Prop :=
  ∀ rest, n.cutFrom (line.reverse ++ rest) [] = n.cutFrom rest line

theorem Resumes.longer {n : Newline} {line : Bytes} (h : n.Resumes line) {b : UInt8}
    (goes : ∀ rest, n.cutFrom (b :: rest) line = n.cutFrom rest (b :: line)) :
    n.Resumes (b :: line) := by
  intro rest
  rw [List.reverse_cons, List.append_assoc, List.singleton_append, h, goes]

/-- A byte ends the line or becomes a part of it, whatever comes next. -/
theorem cutFrom_cons (n : Newline) (b : UInt8) (line : Bytes) :
    (∃ done, ∀ rest, n.cutFrom (b :: rest) line =
        (done :: (n.cutFrom rest []).1, (n.cutFrom rest []).2)) ∨
      ∀ rest, n.cutFrom (b :: rest) line = n.cutFrom rest (b :: line) := by
  cases n with
  | lf =>
    by_cases ends : b = lineFeed
    · exact .inl ⟨(dropReturn line).reverse, fun rest => by rw [cutFrom, if_pos ends]⟩
    · exact .inr fun rest => by rw [cutFrom, if_neg ends]
  | cr =>
    by_cases ends : b = carriageReturn
    · exact .inl ⟨line.reverse, fun rest => by rw [cutFrom, if_pos ends]⟩
    · exact .inr fun rest => by rw [cutFrom, if_neg ends]
  | crlf =>
    by_cases ends : b = lineFeed ∧ line.head? = some carriageReturn
    · exact .inl ⟨(line.drop 1).reverse, fun rest => by rw [cutFrom, if_pos ends]⟩
    · exact .inr fun rest => by rw [cutFrom, if_neg ends]

/-- What is left of some bytes goes on as a line of its own. -/
theorem cutFrom_append (n : Newline) (first second line : Bytes) :
    n.cutFrom (first ++ second) line =
      ((n.cutFrom first line).1 ++ (n.cutFrom second (n.cutFrom first line).2.reverse).1,
        (n.cutFrom second (n.cutFrom first line).2.reverse).2) := by
  induction first generalizing line with
  | nil => simp [cutFrom_nil]
  | cons b first ih =>
    rcases cutFrom_cons n b line with ⟨done, ends⟩ | goes
    · rw [List.cons_append, ends, ends, ih []]
      rfl
    · rw [List.cons_append, goes, goes, ih (b :: line)]

theorem cutFrom_resumes {n : Newline} {line : Bytes} (h : n.Resumes line) (bytes : Bytes) :
    n.Resumes (n.cutFrom bytes line).2.reverse := by
  induction bytes generalizing line with
  | nil =>
    rw [cutFrom_nil, List.reverse_reverse]
    exact h
  | cons b bytes ih =>
    rcases cutFrom_cons n b line with ⟨done, ends⟩ | goes
    · rw [ends]
      exact ih fun rest => rfl
    · rw [goes]
      exact ih (h.longer goes)

/-- Without a line end the line goes on. -/
theorem cutFrom_quiet {n : Newline} {bytes line : Bytes} (quiet : ¬ n.ending <:+: line.reverse ++ bytes) :
    n.cutFrom bytes line = ([], line.reverse ++ bytes) := by
  induction bytes generalizing line with
  | nil => rw [cutFrom_nil, List.append_nil]
  | cons b bytes ih =>
    have later : ¬ n.ending <:+: (b :: line).reverse ++ bytes := by
      rwa [List.reverse_cons, List.append_assoc]
    have goes : n.cutFrom (b :: bytes) line = n.cutFrom bytes (b :: line) := by
      cases n with
      | lf =>
        have other : b ≠ lineFeed := by
          rintro rfl
          exact quiet ⟨line.reverse, bytes, by simp [ending]⟩
        rw [cutFrom, if_neg other]
      | cr =>
        have other : b ≠ carriageReturn := by
          rintro rfl
          exact quiet ⟨line.reverse, bytes, by simp [ending]⟩
        rw [cutFrom, if_neg other]
      | crlf =>
        have other : ¬ (b = lineFeed ∧ line.head? = some carriageReturn) := by
          rintro ⟨rfl, before⟩
          obtain ⟨line, rfl⟩ := List.head?_eq_some_iff.mp before
          exact quiet ⟨line.reverse, bytes, by simp [ending]⟩
        rw [cutFrom, if_neg other]
    rw [goes, ih later, List.reverse_cons, List.append_assoc, List.singleton_append]

theorem cutFrom_ending (n : Newline) (line : Bytes) :
    n.cutFrom n.ending line.reverse = ([n.textOf line], []) := by
  cases n with
  | lf =>
    rcases List.eq_nil_or_concat line with rfl | ⟨line, b, rfl⟩
    · rfl
    · by_cases returns : b = carriageReturn
      · simp [ending, cutFrom, dropReturn, textOf, returns]
      · simp [ending, cutFrom, dropReturn, textOf, returns]
  | cr => simp [ending, cutFrom, textOf]
  | crlf =>
    have apart : carriageReturn ≠ lineFeed := by decide
    simp [ending, cutFrom, textOf, apart]

/-- A line with its line end is what is found first, whatever comes behind it. -/
theorem cut_line {n : Newline} {line : Bytes} (whole : ¬ n.ending <:+: line) (rest : Bytes) :
    n.cut (line ++ n.ending ++ rest) = (n.textOf line :: (n.cut rest).1, (n.cut rest).2) := by
  have first : n.cutFrom (line ++ n.ending) [] = ([n.textOf line], []) := by
    rw [cutFrom_append, cutFrom_quiet whole]
    exact congrArg (fun p => ([] ++ p.1, p.2)) (n.cutFrom_ending line)
  rw [cut, cutFrom_append, first]
  rfl

theorem cut_quiet {n : Newline} {rest : Bytes} (unended : ¬ n.ending <:+: rest) :
    n.cut rest = ([], rest) := cutFrom_quiet unended

/-- However bytes are divided into lines, these are the lines that are found. -/
theorem Divides.cut {n : Newline} {content rest : Bytes} {lines : List Bytes}
    (h : n.Divides content lines rest) : n.cut content = (lines.map n.textOf, rest) := by
  obtain ⟨rfl, whole, unended⟩ := h
  induction lines with
  | nil => exact cut_quiet unended
  | cons line lines ih =>
    have later := ih fun line member => whole line (List.mem_cons_of_mem _ member)
    rw [List.map_cons, List.flatten_cons, List.append_assoc, cut_line (whole line List.mem_cons_self),
      later, List.map_cons]

end Newline

namespace Lines

theorem ofPollsFrom_joined {n : Newline} {pending : Bytes} (h : n.Resumes pending.reverse)
    (pieces : List Bytes) : ofPollsFrom n pending (pieces.map .ok) =
      ((n.cutFrom pieces.flatten pending.reverse).1.map decodeLine) ++
        if (n.cutFrom pieces.flatten pending.reverse).2.isEmpty then []
        else [decodeLine (n.cutFrom pieces.flatten pending.reverse).2] := by
  induction pieces generalizing pending with
  | nil => simp [ofPollsFrom, Newline.cutFrom]
  | cons piece pieces ih =>
    have goes := h piece
    rw [List.reverse_reverse] at goes
    have later := ih (Newline.cutFrom_resumes h piece)
    rw [List.map_cons, ofPollsFrom, Newline.cut, goes, List.flatten_cons, Newline.cutFrom_append,
      List.map_append, List.append_assoc]
    dsimp only
    rw [later]

/-- The lines of a file do not depend on its pieces. -/
theorem ofPolls_joined (n : Newline) {pieces others : List Bytes}
    (same : pieces.flatten = others.flatten) :
    ofPolls n (pieces.map .ok) = ofPolls n (others.map .ok) := by
  have fresh : n.Resumes ([] : Bytes).reverse := fun rest => rfl
  rw [ofPolls, ofPolls, ofPollsFrom_joined fresh, ofPollsFrom_joined fresh, same]

end Lines

end BulkTransfer
