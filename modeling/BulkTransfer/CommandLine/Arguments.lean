/-!
# Arguments

The words of a command line as a command. Options stand anywhere after the word they belong to; a
value follows its option, or is attached to it. The first fault from the left counts, and so does a
wish for help or for the version.
-/
namespace BulkTransfer

inductive Command where
  /-- Runs a transfer, or resumes it when a state was saved. -/
  | run (config : String) (resumeState output : Option String)
  /-- Removes what the committed tasks of an interrupted transfer left behind. -/
  | cleanup (config resumeState : String)
  deriving DecidableEq, Repr

/-- Why words are no command. -/
inductive UsageFault where
  | unexpected (word : String)
  | valueMissing (option : String)
  | valueRefused (option : String)
  | repeated (option : String)
  | argumentMissing (name : String)
  | commandMissing
  deriving DecidableEq, Repr

def UsageFault.message : UsageFault → String
  | unexpected word => "unexpected argument '" ++ word ++ "' found"
  | valueMissing option => "a value is required for '--" ++ option ++ "' but none was supplied"
  | valueRefused option => "'--" ++ option ++ "' takes no value"
  | repeated option => "the argument '--" ++ option ++ "' cannot be used multiple times"
  | argumentMissing name => "the required argument '" ++ name ++ "' was not provided"
  | commandMissing => "a command is required"

/-- What help is about. -/
inductive HelpTopic where
  | program
  | run
  | cleanup
  deriving DecidableEq, Repr

/-- What ends the reading of a command line without a command. -/
inductive ArgumentStop where
  | version
  | help (topic : HelpTopic)
  | fault (cause : UsageFault)
  deriving DecidableEq, Repr

abbrev Arguments := Except ArgumentStop

/-- An option with a value. -/
structure ValueOption where
  name : String
  letter : Option Char
  /-- Paths are never empty. -/
  mayBeEmpty : Bool

/-- What may be written at one place of a command line. -/
structure ArgumentLevel where
  topic : HelpTopic
  options : List ValueOption
  hasVersion : Bool
  /-- The number of words beside the options; a level without any ends at the first one. -/
  wordCount : Nat

/-- What was read so far. -/
structure ArgumentsFound where
  values : List (String × String)
  words : List String

namespace ArgumentsFound

def none : ArgumentsFound := ⟨[], []⟩

def value? (f : ArgumentsFound) (name : String) : Option String := f.values.lookup name

def addValue (f : ArgumentsFound) (o : ValueOption) (value : String) : Arguments ArgumentsFound :=
  if value.isEmpty ∧ !o.mayBeEmpty then .error (.fault (.valueMissing o.name))
  else if (f.value? o.name).isSome then .error (.fault (.repeated o.name))
  else .ok { f with values := (o.name, value) :: f.values }

def addWord (level : ArgumentLevel) (f : ArgumentsFound) (word : String) :
    Arguments ArgumentsFound :=
  if f.words.length < level.wordCount ∧ !word.isEmpty then
    .ok { f with words := f.words ++ [word] }
  else .error (.fault (.unexpected word))

end ArgumentsFound

/-- A word by its form. -/
inductive ArgumentForm where
  | bare
  /-- Two dashes alone: whatever follows is a bare word. -/
  | divider
  | long (name : List Char) (value : Option (List Char))
  | short (letter : Char) (attached : List Char)

namespace ArgumentForm

def ofChars : List Char → ArgumentForm
  | ['-', '-'] => divider
  | '-' :: '-' :: rest =>
    let name := rest.takeWhile (· ≠ '=')
    match rest.drop name.length with
    | _ :: value => long name (some value)
    | [] => long name none
  | '-' :: letter :: attached => short letter attached
  | _ => bare

end ArgumentForm

namespace ArgumentLevel

/-- An option of the level: a flag that ends the reading, or an option that takes a value, with the
value if it was attached. -/
def recognize (level : ArgumentLevel) (word : String) :
    ArgumentForm → Arguments (ValueOption × Option String)
  | .long name value =>
    let name := String.ofList name
    let flag? : Option ArgumentStop :=
      if name = "help" then some (.help level.topic)
      else if name = "version" ∧ level.hasVersion then some .version
      else none
    match flag?, value, level.options.find? (·.name = name) with
    | some stop, none, _ => .error stop
    | some _, some _, _ => .error (.fault (.valueRefused name))
    | none, value, some o => .ok (o, value.map String.ofList)
    | none, _, none => .error (.fault (.unexpected word))
  | .short letter attached =>
    if letter = 'h' then .error (.help level.topic)
    else if letter = 'V' ∧ level.hasVersion then .error .version
    else match level.options.find? (·.letter = some letter), attached with
      | none, _ => .error (.fault (.unexpected word))
      | some o, [] => .ok (o, none)
      | some o, '=' :: value => .ok (o, some (String.ofList value))
      | some o, value => .ok (o, some (String.ofList value))
  | _ => .error (.fault (.unexpected word))

/-- Reads a level: what it holds, and the rest from the first bare word on if the level takes
none. -/
def read (level : ArgumentLevel) (f : ArgumentsFound) :
    List String → Arguments (ArgumentsFound × List String)
  | [] => .ok (f, [])
  | word :: rest =>
    match ArgumentForm.ofChars word.toList with
    | .bare =>
      if level.wordCount = 0 then .ok (f, word :: rest)
      else match f.addWord level word with
        | .ok f => read level f rest
        | .error stop => .error stop
    | .divider => (rest.foldlM (ArgumentsFound.addWord level) f).map (·, [])
    | form =>
      match level.recognize word form with
      | .error stop => .error stop
      | .ok (o, some value) =>
        match f.addValue o value with
        | .ok f => read level f rest
        | .error stop => .error stop
      | .ok (o, none) =>
        match rest with
        | [] => .error (.fault (.valueMissing o.name))
        | value :: rest =>
          match ArgumentForm.ofChars value.toList with
          | .bare =>
            match f.addValue o value with
            | .ok f => read level f rest
            | .error stop => .error stop
          | _ => .error (.fault (.valueMissing o.name))

end ArgumentLevel

namespace Command

def logLevel : ValueOption := ⟨"log-level", none, true⟩
def resumeStateOption : ValueOption := ⟨"resume-state", some 'r', false⟩
def outputOption : ValueOption := ⟨"output", some 'o', false⟩

def topLevel : ArgumentLevel := ⟨.program, [logLevel], true, 0⟩
def runLevel : ArgumentLevel :=
  ⟨.run, [resumeStateOption, outputOption, logLevel], false, 1⟩

def cleanupLevel : ArgumentLevel := ⟨.cleanup, [resumeStateOption, logLevel], false, 1⟩

private def configOf (f : ArgumentsFound) : Arguments String :=
  match f.words with
  | config :: _ => .ok config
  | [] => .error (.fault (.argumentMissing "<CONFIG>"))

private def runOf (words : List String) : Arguments Command := do
  let (f, _) ← runLevel.read .none words
  return .run (← configOf f) (f.value? resumeStateOption.name) (f.value? outputOption.name)

private def cleanupOf (words : List String) : Arguments Command := do
  let (f, _) ← cleanupLevel.read .none words
  let config ← configOf f
  match f.value? resumeStateOption.name with
  | some resumeState => return .cleanup config resumeState
  | none => throw (.fault (.argumentMissing "--resume-state <RESUME_STATE>"))

/-- The topic that words after `help` lead to. Only the program itself has topics below it. -/
def helpTopic : List String → Arguments HelpTopic
  | [] | ["help"] => .ok .program
  | ["run"] => .ok .run
  | ["cleanup"] => .ok .cleanup
  | "run" :: word :: _ | "cleanup" :: word :: _ | word :: _ => .error (.fault (.unexpected word))

/-- The command of a command line, without the name of the program. -/
def ofArguments (arguments : List String) : Arguments Command := do
  let (_, rest) ← topLevel.read .none arguments
  match rest with
  | [] => throw (.fault .commandMissing)
  | "run" :: words => runOf words
  | "cleanup" :: words => cleanupOf words
  | "help" :: words => throw (.help (← helpTopic words))
  | word :: _ => throw (.fault (.unexpected word))

end Command

end BulkTransfer
