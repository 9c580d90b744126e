import BulkTransfer.CommandLine.Arguments
import BulkTransfer.Config.Loader
import BulkTransfer.Transfer.Runner
/-!
# Commands carried out

What a command line does to the world, and the number that the program ends with.
-/
namespace BulkTransfer

inductive CommandError where
  | config (cause : ConfigError)
  | execution (cause : ExecutionError)
  | notWritable (path : String) (cause : IoError)
  | unwritten (path : String) (cause : IoError)

def CommandError.message : CommandError → String
  | config cause => "Failed to load the configuration: " ++ cause.message
  | execution cause => "Transfer failed: " ++ cause.message
  | notWritable path cause => "Path '" ++ path ++ "' is not writable: " ++ cause.message
  | unwritten path cause => "Failed to write '" ++ path ++ "': " ++ cause.message

namespace Command

private def loadConfig (path : String) : Action (Except CommandError Config) := do
  return (← Program.onDisk (Document.loadFile · path)).mapError .config

/-- A file that is to be written later has to be writable now; its content stays. -/
private def checkWritable : Option String → Action (Except CommandError Unit)
  | none => .done (.ok ())
  | some path => do
    return (← Program.onDisk (·.openToAppend path)).mapError (.notWritable path)

/-- A path that ends like one of JSON gets JSON, any other gets YAML. -/
def outputFormat (path : Option String) : DocumentFormat :=
  if ((path.bind Path.extension?).map lowerAscii) = some "json" then .json else .yaml

/-- The config of the next run goes to a file, or is printed. -/
private def deliver (output : Option String) (next : Config) : Action (Except CommandError Unit) :=
  let text := next.render (outputFormat output)
  match output with
  | some path => do
    return (← Program.onDisk (·.write path (Utf8.encode text))).mapError (.unwritten path)
  | none => do
    Program.print (Utf8.encode (text ++ "\n"))
    return .ok ()

private def runTransfer (registry : Registry) (configPath : String)
    (resumeState output : Option String) : Action (Except CommandError Unit) := do
  match ← loadConfig configPath with
  | .error e => return .error e
  | .ok config =>
    match ← checkWritable output with
    | .error e => return .error e
    | .ok () =>
      match ← checkWritable resumeState with
      | .error e => return .error e
      | .ok () =>
        match ← Runner.run registry (resumeState.map StateStore.mk) config with
        | .error e => return .error (.execution e)
        | .ok outcome => deliver output outcome.nextConfig

private def runCleanup (registry : Registry) (configPath resumeState : String) :
    Action (Except CommandError Unit) := do
  match ← loadConfig configPath with
  | .error e => return .error e
  | .ok config =>
    return (← Runner.cleanup registry (some ⟨resumeState⟩) config).mapError .execution

def execute (registry : Registry) : Command → Action (Except CommandError Unit)
  | .run config resumeState output => runTransfer registry config resumeState output
  | .cleanup config resumeState => runCleanup registry config resumeState

end Command

/-- How the program ends, with a complaint if it failed. -/
structure ExitStatus where
  code : Nat
  complaint : Option String
  deriving DecidableEq, Repr

namespace ExitStatus

def success : ExitStatus := ⟨0, none⟩
def failure (complaint : String) : ExitStatus := ⟨1, some complaint⟩
def misuse (complaint : String) : ExitStatus := ⟨2, some complaint⟩

end ExitStatus

namespace CommandLine

def versionText : String := "haul 0.1.0\n"

private def runAbout : String :=
  "Run a transfer. Resumes it when the resume state file holds a saved state"

private def cleanupAbout : String :=
  "Delete what the committed tasks of a failed transfer left behind"

private def logLevelAbout : String :=
  "Log filter (error, warn, info, debug, trace or a RUST_LOG directive)"

private def configHelp : String :=
  "Arguments:\n  <CONFIG>  Transfer config file (.yml, .yaml or .json)\n\n"

private def logLevelHelp : String := "      --log-level <LOG_LEVEL>        " ++ logLevelAbout ++ "\n"

def helpText : HelpTopic → String
  | .program =>
    "Transactional bulk data transfer\n\n" ++
    "Usage: haul [OPTIONS] <COMMAND>\n\n" ++
    "Commands:\n" ++
    "  run      " ++ runAbout ++ "\n" ++
    "  cleanup  " ++ cleanupAbout ++ "\n" ++
    "  help     Print this message or the help of the given subcommand(s)\n\n" ++
    "Options:\n" ++
    "      --log-level <LOG_LEVEL>  " ++ logLevelAbout ++ "\n" ++
    "  -h, --help                   Print help\n" ++
    "  -V, --version                Print version\n"
  | .run =>
    runAbout ++ "\n\n" ++
    "Usage: haul run [OPTIONS] <CONFIG>\n\n" ++
    configHelp ++
    "Options:\n" ++
    logLevelHelp ++
    "  -r, --resume-state <RESUME_STATE>  " ++
      "Keep a failed transfer resumable by saving its state to this file\n" ++
    "  -o, --output <OUTPUT>              Write the next config to this file after a commit\n" ++
    "  -h, --help                         Print help\n"
  | .cleanup =>
    cleanupAbout ++ "\n\n" ++
    "Usage: haul cleanup [OPTIONS] --resume-state <RESUME_STATE> <CONFIG>\n\n" ++
    configHelp ++
    "Options:\n" ++
    logLevelHelp ++
    "  -r, --resume-state <RESUME_STATE>  Resume state file of the failed transfer\n" ++
    "  -h, --help                         Print help\n"

def perform (registry : Registry) (arguments : List String) : Action ExitStatus :=
  match Command.ofArguments arguments with
  | .error .version => do
    Program.print (Utf8.encode versionText)
    return .success
  | .error (.help topic) => do
    Program.print (Utf8.encode (helpText topic))
    return .success
  | .error (.fault cause) => .done (.misuse cause.message)
  | .ok command => do
    match ← command.execute registry with
    | .ok () => return .success
    | .error e => return .failure e.message

end CommandLine

end BulkTransfer
