import BulkTransfer.Proofs.Text.Lines
import BulkTransfer.Proofs.Text.Utf8
import Mathlib.Data.List.Forall2
/-!
# What a decoder gives

A decoder remembers bytes that it has looked at and does not look at them again. What is left to give is
said here from its buffer and the polls to come, without the cursor; each poll gives the first of it. So
the lines of a file are those of its bytes, whatever its pieces are.
-/
namespace BulkTransfer

namespace Newline

/-- A line end starts at this place. -/
def EndsAt (n : Newline) (bytes : Bytes) (place : Nat) : Prop := n.ending <+: bytes.drop place

variable {n : Newline} {bytes : Bytes} {place : Nat}

theorem ending_ne_nil (n : Newline) : n.ending ≠ [] := by
  cases n <;> exact List.cons_ne_nil _ _

theorem infix_iff_endsAt : n.ending <:+: bytes ↔ ∃ place, n.EndsAt bytes place := by
  constructor
  · rintro ⟨before, rest, rfl⟩
    refine ⟨before.length, rest, ?_⟩
    rw [List.append_assoc, List.drop_left]
  · rintro ⟨place, starts⟩
    exact starts.isInfix.trans (List.drop_suffix place bytes).isInfix

theorem EndsAt.of_take {size : Nat} (h : n.EndsAt (bytes.take size) place) :
    place < size ∧ n.EndsAt bytes place := by
  constructor
  · by_contra outside
    rw [EndsAt, List.drop_of_length_le (by rw [List.length_take]; omega)] at h
    exact n.ending_ne_nil (List.prefix_nil.mp h)
  · exact h.trans ((List.take_prefix size bytes).drop place)

/-- A line end that starts early enough starts there without the bytes behind. -/
theorem EndsAt.of_append {more : Bytes} (h : n.EndsAt (bytes ++ more) place)
    (early : place + n.ending.length ≤ bytes.length) : n.EndsAt bytes place := by
  rw [EndsAt, List.drop_append_of_le_length (by omega)] at h
  refine List.prefix_of_prefix_length_le h (List.prefix_append _ _) ?_
  rw [List.length_drop]
  omega

theorem search_cases (n : Newline) (bytes : Bytes) (start : Nat) :
    (n.search bytes start = none ∧ ∀ place, ¬ n.EndsAt bytes place) ∨
      ∃ first, n.search bytes start = some (start + first) ∧ n.EndsAt bytes first ∧
        ∀ place < first, ¬ n.EndsAt bytes place := by
  induction bytes generalizing start with
  | nil =>
    refine .inl ⟨rfl, ?_⟩
    intro place starts
    rw [EndsAt, List.drop_nil] at starts
    exact n.ending_ne_nil (List.prefix_nil.mp starts)
  | cons b bytes ih =>
    by_cases here : n.ending.isPrefixOf (b :: bytes)
    · refine .inr ⟨0, by rw [search, if_pos here, Nat.add_zero], List.isPrefixOf_iff_prefix.mp here, ?_⟩
      exact fun place before => absurd before (Nat.not_lt_zero place)
    · have not_here : ¬ n.EndsAt (b :: bytes) 0 := fun starts =>
        here (List.isPrefixOf_iff_prefix.mpr starts)
      rcases ih (start + 1) with ⟨none, nowhere⟩ | ⟨first, found, starts, before⟩
      · refine .inl ⟨by rw [search, if_neg here, none], ?_⟩
        intro place
        cases place with
        | zero => exact not_here
        | succ place => exact nowhere place
      · refine .inr ⟨first + 1, by rw [search, if_neg here, found]; congr 1; omega, starts, ?_⟩
        intro place less
        cases place with
        | zero => exact not_here
        | succ place => exact before place (Nat.lt_of_succ_lt_succ less)

/-- The bytes up to the first line end hold none. -/
theorem take_whole (before : ∀ p < place, ¬ n.EndsAt bytes p) : ¬ n.ending <:+: bytes.take place := by
  intro found
  obtain ⟨p, starts⟩ := infix_iff_endsAt.mp found
  obtain ⟨less, starts⟩ := starts.of_take
  exact before p less starts

theorem EndsAt.parts (h : n.EndsAt bytes place) :
    bytes = bytes.take place ++ n.ending ++ bytes.drop (place + n.ending.length) := by
  have rest := List.prefix_iff_eq_append.mp h
  rw [List.drop_drop] at rest
  rw [List.append_assoc, rest, List.take_append_drop]

/-- All bytes can be divided into lines. -/
theorem divides_exists (n : Newline) (content : Bytes) : ∃ lines rest, n.Divides content lines rest := by
  rcases n.search_cases content 0 with ⟨-, nowhere⟩ | ⟨first, -, starts, before⟩
  · have unended : ¬ n.ending <:+: content := fun found =>
      (infix_iff_endsAt.mp found).elim nowhere
    exact ⟨[], content, rfl, by simp, unended⟩
  · have less : content.length - (first + n.ending.length) < content.length := by
      have ending := List.length_pos_iff.mpr n.ending_ne_nil
      have size := congrArg List.length starts.parts
      simp only [List.length_append] at size
      omega
    obtain ⟨lines, rest, later⟩ := divides_exists n (content.drop (first + n.ending.length))
    refine ⟨content.take first :: lines, rest, ?_, ?_, later.unended⟩
    · rw [List.map_cons, List.flatten_cons, List.append_assoc, ← later.joined]
      exact starts.parts
    · intro line member
      rcases List.mem_cons.mp member with rfl | member
      · exact take_whole before
      · exact later.whole line member
termination_by content.length

end Newline

namespace LineDecoder

/-- No line end starts before the cursor, and a file that has ended has no more polls. -/
structure Sound (d : LineDecoder) : Prop where
  scanned : ∀ place < d.scanned, ¬ d.newline.EndsAt d.buffer place
  ended : d.isEnded → d.polls = []

/-- What is left to give of the current file. -/
def left (d : LineDecoder) : List (Attempt String) :=
  Lines.ofPollsFrom d.newline [] (.ok d.buffer :: d.polls)

variable {d : LineDecoder}

/-- The search for a line end finds the end of the first line, or there is none. -/
theorem Sound.findNewline_cases (h : d.Sound) :
    (d.findNewline = none ∧ ∀ place, ¬ d.newline.EndsAt d.buffer place) ∨
      ∃ stop width line rest, d.findNewline = some (stop, width) ∧
        d.buffer = line ++ d.newline.ending ++ rest ∧ ¬ d.newline.ending <:+: line ∧
        d.buffer.take stop = d.newline.textOf line ∧ d.buffer.drop (stop + width) = rest := by
  rcases d.newline.search_cases (d.buffer.drop d.scanned) d.scanned with
    ⟨none, nowhere⟩ | ⟨first, found, starts, before⟩
  · refine .inl ⟨by rw [findNewline, none]; rfl, ?_⟩
    intro place starts
    by_cases known : place < d.scanned
    · exact h.scanned place known starts
    · apply nowhere (place - d.scanned)
      rwa [Newline.EndsAt, List.drop_drop, Nat.add_sub_cancel' (Nat.not_lt.mp known)]
  · rw [Newline.EndsAt, List.drop_drop] at starts
    have before : ∀ place < d.scanned + first, ¬ d.newline.EndsAt d.buffer place := by
      intro place less starts
      by_cases known : place < d.scanned
      · exact h.scanned place known starts
      · apply before (place - d.scanned) (by omega)
        rwa [Newline.EndsAt, List.drop_drop, Nat.add_sub_cancel' (Nat.not_lt.mp known)]
    generalize d.scanned + first = place at found starts before
    have starts : d.newline.EndsAt d.buffer place := starts
    have parts := starts.parts
    have whole := Newline.take_whole before
    have inside : place < d.buffer.length := by
      have ending := List.length_pos_iff.mpr d.newline.ending_ne_nil
      have size := starts.length_le
      rw [List.length_drop] at size
      omega
    have last : (d.buffer.take place).getLast? = if place > 0 then d.buffer[place - 1]? else none := by
      rw [List.getLast?_eq_getElem?, List.length_take, Nat.min_eq_left (Nat.le_of_lt inside)]
      by_cases first : place > 0
      · rw [if_pos first, List.getElem?_take_of_lt (by omega)]
      · rw [if_neg first, List.getElem?_eq_none (by rw [List.length_take]; omega)]
    have search : d.findNewline = some (if d.newline = .lf ∧ place > 0 ∧
        d.buffer[place - 1]? = some Newline.carriageReturn then (place - 1, 2)
        else (place, d.newline.ending.length)) := by
      rw [findNewline, found]
      rfl
    by_cases returns : d.newline = .lf ∧ place > 0 ∧ d.buffer[place - 1]? = some Newline.carriageReturn
    · rw [if_pos returns] at search
      obtain ⟨mode, first, byte⟩ := returns
      refine .inr ⟨_, _, _, _, search, parts, whole, ?_, ?_⟩
      · rw [if_pos first, byte] at last
        rw [Newline.textOf, if_pos ⟨mode, last⟩, List.dropLast_take inside]
      · rw [mode]
        congr 1
        simp only [Newline.ending, List.length_singleton]
        omega
    · rw [if_neg returns] at search
      refine .inr ⟨_, _, _, _, search, parts, whole, ?_, rfl⟩
      rw [Newline.textOf, if_neg]
      rintro ⟨mode, byte⟩
      rw [last] at byte
      by_cases first : place > 0
      · rw [if_pos first] at byte
        exact returns ⟨mode, first, byte⟩
      · rw [if_neg first] at byte
        cases byte

theorem Sound.unended (h : d.Sound) (none : d.findNewline = none) (place : Nat) :
    ¬ d.newline.EndsAt d.buffer place := by
  rcases h.findNewline_cases with ⟨-, nowhere⟩ | ⟨_, _, _, _, found, -⟩
  · exact nowhere place
  · cases none.symm.trans found

theorem Sound.no_ending (h : d.Sound) (none : d.findNewline = none) :
    ¬ d.newline.ending <:+: d.buffer := fun found =>
  (Newline.infix_iff_endsAt.mp found).elim (h.unended none)

/-- A buffer without a line end waits for the polls. -/
theorem left_of_unended (h : ¬ d.newline.ending <:+: d.buffer) :
    d.left = Lines.ofPollsFrom d.newline d.buffer d.polls := by
  rw [left, Lines.ofPollsFrom, List.nil_append, Newline.cut_quiet h]
  rfl

/-- What poll after poll answers, one after the other. -/
def answerOf (line : Option (Attempt String)) : Attempt (Option String) :=
  match line with
  | none => .ok none
  | some line => line.map some

/-- A decoder that gave what `d` had left first, and is at the same file. -/
structure Goes (d : LineDecoder) (answer : Attempt (Option String)) (next : LineDecoder) : Prop where
  answer : answer = answerOf d.left.head?
  left : next.left = d.left.tail
  sound : next.Sound
  files : next.files = d.files
  newline : next.newline = d.newline

theorem Sound.pollLine (h : d.Sound) : d.Goes d.pollLine.1 d.pollLine.2 := by
  fun_induction LineDecoder.pollLine d with
  | case1 d stop width found =>
    rcases h.findNewline_cases with ⟨none, -⟩ | ⟨_, _, line, rest, found', parts, whole, text, behind⟩
    · cases none.symm.trans found
    · cases found'.symm.trans found
      have lines : d.left = Lines.decodeLine (d.newline.textOf line) ::
          Lines.ofPollsFrom d.newline [] (.ok rest :: d.polls) := by
        rw [left, Lines.ofPollsFrom, List.nil_append, parts, Newline.cut_line whole]
        rfl
      constructor
      · rw [lines, takeLine, text]
        rfl
      · rw [lines, takeLine, left, behind]
        rfl
      · exact ⟨fun place none => absurd none (Nat.not_lt_zero place), h.ended⟩
      · rfl
      · rfl
  | case2 d none seen ended empty =>
    have polls := h.ended ended
    have nothing : d.left = [] := by
      rw [left, polls, List.isEmpty_iff.mp empty]
      cases d.newline <;> rfl
    have unended := h.unended none
    have same : seen.left = d.left := rfl
    constructor
    · rw [nothing]
      rfl
    · rw [same, nothing]
      rfl
    · exact ⟨fun place _ => unended place, h.ended⟩
    · rfl
    · rfl
  | case3 d none seen ended some =>
    have polls := h.ended ended
    have last : d.left = [Lines.decodeLine d.buffer] := by
      rw [left_of_unended (h.no_ending none), polls, Lines.ofPollsFrom, if_neg some]
    constructor
    · rw [last, takeLine, List.take_length]
      rfl
    · rw [last, takeLine, left, Nat.add_zero, List.drop_length, polls]
      cases d.newline <;> rfl
    · exact ⟨fun place none => absurd none (Nat.not_lt_zero place), fun _ => polls⟩
    · rfl
    · rfl
  | case4 d none seen going polls ih =>
    have unended := h.unended none
    obtain ⟨answer, left, sound, files, newline⟩ := ih ⟨fun place _ => unended place, fun _ => polls⟩
    exact ⟨answer, left, sound, files, newline⟩
  | case5 d none seen going e polls eq =>
    have unended := h.unended none
    have first : d.left = .error e :: Lines.ofPollsFrom d.newline d.buffer polls := by
      rw [left_of_unended (h.no_ending none), eq, Lines.ofPollsFrom]
    have next : left { seen with polls } = Lines.ofPollsFrom d.newline d.buffer polls :=
      left_of_unended (h.no_ending none)
    constructor
    · rw [first]
      rfl
    · rw [first, next]
      rfl
    · exact ⟨fun place _ => unended place, fun ended => absurd ended going⟩
    · rfl
    · rfl
  | case6 d none seen going piece polls eq ih =>
    have unended := h.unended none
    have same : left { seen with polls, buffer := d.buffer ++ piece } = d.left := by
      rw [left_of_unended (h.no_ending none), eq]
      rfl
    have sound : Sound { seen with polls, buffer := d.buffer ++ piece } := by
      refine ⟨?_, fun ended => absurd ended going⟩
      intro place less starts
      have size : d.newline.ending.length ≤ 2 := by cases d.newline <;> decide
      have less : place < d.buffer.length - 1 := less
      have early : place + d.newline.ending.length ≤ d.buffer.length := by omega
      exact unended place (starts.of_append early)
    obtain ⟨answer, left, sound, files, newline⟩ := ih sound
    rw [same] at answer left
    exact ⟨answer, left, sound, files, newline⟩

/-- Going on to the next file forgets what is left of the file before it. -/
theorem nextFile_goes (d : LineDecoder) :
    d.nextFile.2.Sound ∧ d.nextFile.2.newline = d.newline ∧ d.nextFile.2.files = d.files.tail ∧
      d.nextFile.1 = d.files.head?.isSome ∧
      d.nextFile.2.left = Lines.ofPolls d.newline (d.files.head?.getD []) := by
  have unended : ¬ d.newline.ending <:+: ([] : Bytes) := fun found =>
    d.newline.ending_ne_nil (List.infix_nil.mp found)
  rw [nextFile]
  cases files : d.files with
  | nil => exact ⟨⟨nofun, nofun⟩, rfl, rfl, rfl, left_of_unended unended⟩
  | cons polls files => exact ⟨⟨nofun, nofun⟩, rfl, rfl, rfl, left_of_unended unended⟩

theorem ofFiles_sound (n : Newline) (files : List (List Poll)) : (ofFiles n files).Sound :=
  ⟨nofun, nofun⟩

theorem Goes.nothing {next : LineDecoder} (h : d.Goes (.ok none) next) : d.left = [] ∧ next.left = [] := by
  have answer := h.answer
  have left := h.left
  cases found : d.left with
  | nil =>
    rw [found] at left
    exact ⟨rfl, left⟩
  | cons line lines =>
    rw [found] at answer
    cases line <;> cases answer

theorem Goes.first {next : LineDecoder} {line : Attempt String} (h : d.Goes (line.map some) next) :
    d.left = line :: next.left := by
  have answer := h.answer
  rw [h.left]
  cases found : d.left with
  | nil =>
    rw [found] at answer
    cases line <;> cases answer
  | cons first lines =>
    rw [found] at answer
    have same : line.map some = first.map some := answer
    cases line <;> cases first <;> cases same <;> rfl

/-- Poll after poll until there is nothing more gives what is left, and ends. -/
theorem Sound.restOfFile (h : d.Sound) :
    d.restOfFile.1 = d.left ∧ d.restOfFile.2.Sound ∧ d.restOfFile.2.left = [] ∧
      d.restOfFile.2.files = d.files ∧ d.restOfFile.2.newline = d.newline := by
  fun_induction LineDecoder.restOfFile d with
  | case1 d next polled =>
    have goes := h.pollLine
    rw [polled] at goes
    obtain ⟨none, left⟩ := goes.nothing
    exact ⟨none.symm, goes.sound, left, goes.files, goes.newline⟩
  | case2 d line next polled lines last rest ih =>
    have goes := h.pollLine
    rw [polled] at goes
    have first : d.left = .ok line :: next.left := goes.first
    obtain ⟨lines_eq, sound, left, files, newline⟩ := ih goes.sound
    rw [rest] at lines_eq sound left files newline
    exact ⟨by rw [first, ← lines_eq], sound, left, files.trans goes.files, newline.trans goes.newline⟩
  | case3 d e next polled lines last rest ih =>
    have goes := h.pollLine
    rw [polled] at goes
    have first : d.left = .error e :: next.left := goes.first
    obtain ⟨lines_eq, sound, left, files, newline⟩ := ih goes.sound
    rw [rest] at lines_eq sound left files newline
    exact ⟨by rw [first, ← lines_eq], sound, left, files.trans goes.files, newline.trans goes.newline⟩

/-- A caller may also poll until there is nothing more. -/
inductive Call where
  | nextFile
  | pollLine
  | restOfFile

inductive Answer where
  | moved (more : Bool)
  | line (answer : Attempt (Option String))
  | lines (answers : List (Attempt String))

def perform (d : LineDecoder) : Call → Answer × LineDecoder
  | .nextFile => (.moved d.nextFile.1, d.nextFile.2)
  | .pollLine => (.line d.pollLine.1, d.pollLine.2)
  | .restOfFile => (.lines d.restOfFile.1, d.restOfFile.2)

def answers (d : LineDecoder) : List Call → List Answer
  | [] => []
  | call :: calls => (d.perform call).1 :: (d.perform call).2.answers calls

/-- The answers when the files hold these lines, and the current one has some left. -/
def expected : (files : List (List (Attempt String))) → (left : List (Attempt String)) → List Call →
    List Answer
  | _, _, [] => []
  | files, _, .nextFile :: calls =>
    .moved files.head?.isSome :: expected files.tail (files.head?.getD []) calls
  | files, left, .pollLine :: calls => .line (answerOf left.head?) :: expected files left.tail calls
  | files, left, .restOfFile :: calls => .lines left :: expected files [] calls

/-- Whatever is called, a decoder answers by the lines of its files. -/
theorem Sound.answers_eq (h : d.Sound) (calls : List Call) :
    d.answers calls = expected (d.files.map (Lines.ofPolls d.newline)) d.left calls := by
  induction calls generalizing d with
  | nil => rfl
  | cons call calls ih =>
    cases call with
    | nextFile =>
      obtain ⟨sound, newline, files, more, left⟩ := d.nextFile_goes
      rw [answers, perform, ih sound, newline, files, more, left, expected]
      cases d.files <;> rfl
    | pollLine =>
      obtain ⟨answer, left, sound, files, newline⟩ := h.pollLine
      rw [answers, perform, ih sound, answer, left, files, newline, expected]
    | restOfFile =>
      obtain ⟨lines, sound, left, files, newline⟩ := h.restOfFile
      rw [answers, perform, ih sound, lines, left, files, newline, expected]

end LineDecoder

namespace Lines

/-- The answers for bytes that are divided so: a line for each line end, and one for what is behind the
last of them, if anything is. -/
def ofParts (n : Newline) (lines : List Bytes) (rest : Bytes) : List (Attempt String) :=
  (lines.map n.textOf ++ if rest = [] then [] else [rest]).map decodeLine

theorem ofPolls_divided {n : Newline} {pieces lines : List Bytes} {rest : Bytes}
    (h : n.Divides pieces.flatten lines rest) : ofPolls n (pieces.map .ok) = ofParts n lines rest := by
  have fresh : n.Resumes ([] : Bytes).reverse := fun rest => rfl
  have found : n.cutFrom pieces.flatten [] = (lines.map n.textOf, rest) := h.cut
  rw [ofPolls, ofPollsFrom_joined fresh, List.reverse_nil, found, ofParts, List.map_append]
  cases rest with
  | nil => rfl
  | cons b rest => rfl

theorem decodeLine_encode (text : String) : decodeLine (Utf8.encode text) = .ok text := by
  rw [decodeLine, Utf8.decode_encode]

/-- A line is the text that its bytes write, or it is refused since they write none. -/
theorem decodeLine_cases (line : Bytes) :
    (∃ text, Utf8.encode text = line ∧ decodeLine line = .ok text) ∨
      (∀ text, Utf8.encode text ≠ line) ∧ ∃ message, decodeLine line = .error (.invalidFormat message) := by
  cases read : Utf8.decode line with
  | ok text => exact .inl ⟨text, Utf8.encode_decode read, by rw [decodeLine, read]⟩
  | error fault =>
    refine .inr ⟨?_, _, by rw [decodeLine, read]⟩
    rintro text rfl
    cases read.symm.trans (Utf8.decode_encode text)

end Lines

/-- For every line end and all files, each in any pieces: the bytes of a file are divided into lines, and
whatever is called, the answers are these lines, each once and in order, then nothing, and only those of
the next file when it is opened. A line that is no UTF-8 is refused, and those behind it are not. -/
theorem line_decoder_divides (n : Newline) (files : List (List Bytes)) :
    ∃ parts : List (List Bytes × Bytes),
      List.Forall₂ (fun pieces (lines, rest) => n.Divides pieces.flatten lines rest) files parts ∧
        (∀ calls, (LineDecoder.ofFiles n (files.map fun pieces => pieces.map .ok)).answers calls =
          LineDecoder.expected (parts.map fun (lines, rest) => Lines.ofParts n lines rest) [] calls) ∧
          ∀ line, (∃ text, Utf8.encode text = line ∧ Lines.decodeLine line = .ok text) ∨
            (∀ text, Utf8.encode text ≠ line) ∧
              ∃ message, Lines.decodeLine line = .error (.invalidFormat message) := by
  choose lines rest divides using fun pieces : List Bytes => n.divides_exists pieces.flatten
  refine ⟨files.map fun pieces => (lines pieces, rest pieces), ?_, ?_, Lines.decodeLine_cases⟩
  · rw [List.forall₂_map_right_iff, List.forall₂_same]
    exact fun pieces _ => divides pieces
  · intro calls
    have nothing : (LineDecoder.ofFiles n (files.map fun pieces => pieces.map .ok)).left = [] := by
      cases n <;> rfl
    rw [(LineDecoder.ofFiles_sound n _).answers_eq, nothing]
    congr 1
    rw [LineDecoder.ofFiles, List.map_map, List.map_map]
    exact List.map_congr_left fun pieces _ => Lines.ofPolls_divided (divides pieces)

/-- Two line ends in pieces, a line that is no UTF-8, and a file that is left for the next one. -/
example :
    (LineDecoder.ofFiles .crlf [[.ok [0x61, 0x0D], .ok [0x0A, 0xFF, 0x0D], .ok [0x0A, 0x62]],
      [.ok [0x63]]]).answers [.nextFile, .pollLine, .nextFile, .pollLine, .pollLine] =
      [.moved true, .line (.ok (some "a")), .moved true, .line (.ok (some "c")), .line (.ok none)] := by
  cbv

end BulkTransfer
