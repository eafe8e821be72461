import ChainIdentity.Command.Arguments
import ChainIdentity.EnvFile
import ChainIdentity.Logging.Line
import ChainIdentity.Logging.Setup
import ChainIdentity.Node.Exchange
import ChainIdentity.Startup

/-!
# The program

One run of the program, from its arguments to its exit code.  The variables are first completed
from the environment file.  Then the arguments are read (`plan`), the log is opened, and the
command is carried out (`carryOut`).  A failure to open the log is reported and nothing more.

`run` puts the steps together over the files below the working directory, the variables, the
date and a node at the other end of a line, so that a whole run is a function.
-/

namespace ChainIdentity

namespace Command

/-- The part of the program that reports on commands. -/
def target : String := "corechain_registry"

/-- Verifies the configured node and tells what it is. -/
def verifyNode (registry : Registry) (values : Variables) : Attempt Exchange Cause Json := do
  let loading : Attempt Exchange StartupError Configuration :=
    Attempt.ofJournaled (Startup.load registry values)
  let configuration ← loading.mapError StartupError.toCause
  let network := configuration.network.network.toJson
  let starting :=
    Startup.startBy (fun url => (HttpClient.ofUrl url).transport) registry configuration
  match ← (starting.run : Talk Exchange _) with
  | .ok service =>
    match service.node with
    | some report =>
      return .ofMembers
        [("network", network), ("genesis_block_identifier", report.genesis.toJson),
         ("chain_id", Quantity.toJson report.chainId)]
    | none =>
      Journaled.emit .info target "offline mode, node not verified" []
      return .ofMembers [("network", network), ("mode", .text Mode.offline.name)]
  | .error error =>
    Journaled.emit .error target ("startup failed: " ++ error.message)
      [("trace_id", .trace error.trace),
       ("fatal", .shown (if error.isFatal then "true" else "false"))]
    throw error.toCause

/-- Carries out a command and gives the document that it shows.  Records are listed in the order
of their fields, except for the outcome of a verification, which is sorted. -/
def perform (registry : Registry) (values : Variables) :
    Command → Attempt Exchange Cause Json
  | .networks => return .array (registry.networkIds.map (NetworkId.write Json.object))
  | .options => return NetworkOptions.standard.write Json.object
  | .describe name => do
    let descriptor ←
      (Attempt.ofJournaled (registry.descriptorFor name)).mapError RegistryError.toCause
    return descriptor.write Json.object
  | .workflow name => do
    let defaults ←
      (Attempt.ofJournaled (registry.transferDefaultsFor name)).mapError RegistryError.toCause
    return defaults.write Json.object
  | .verify => verifyNode registry values

end Command

namespace Program

/-- The name of the program. -/
def name : String := "corechain-registry"

/-- The version of the program. -/
def version : String := "1.0.0"

/-- What can be asked for. -/
def usage : String :=
  String.intercalate "\n"
    ["Network registry and node validation for Corechain networks.",
     "",
     "Usage: corechain-registry [OPTIONS] <COMMAND>",
     "",
     "Commands:",
     "  networks  List the supported networks",
     "  options   Print the network options",
     "  describe  Print the descriptor of a network",
     "  workflow  Print the scenario runner defaults of a network",
     "  verify    Verify the configured node against the configured network",
     "  help      Print this message or the help of the given subcommand(s)",
     "",
     "Options:",
     "      --log-file              Write logs to file instead of stdout",
     "      --log-level <LEVEL>     Set log level (trace, debug, info, warn, error)",
     "      --log-path <PATH>       Path to store log files (default: logs/)",
     "      --log-max-size <BYTES>  Maximum log file size in bytes before rolling",
     "  -h, --help                  Print help",
     "  -V, --version               Print version",
     ""]

/-- The text of an error for whoever started the program: its message, and the errors behind it
indented. -/
def errorText (error : Cause) : String :=
  match error.source? with
  | none => "Error: " ++ error.message ++ "\n"
  | some source =>
    "Error: " ++ error.message ++ "\n\nCaused by:\n"
      ++ String.join (source.messages.map fun message => indented message ++ "\n")
where
  indented (message : String) : String :=
    "    " ++ String.ofList (message.toList.flatMap fun c =>
      if c = '\n' then '\n' :: List.replicate 4 ' ' else [c])

/-- What the arguments lead to before anything is done. -/
inductive Plan where
  /-- To end at once, with an exit code and what is written to the two outputs. -/
  | ended (code : UInt8) (output errors : String)
  /-- To carry out a command with the log as the settings say. -/
  | command (settings : LogSettings) (command : Command)
deriving DecidableEq, Repr

/-- Plans a run. -/
def plan (values : Variables) (arguments : List String) : Plan :=
  match Invocation.ofArguments arguments with
  | .misuse => .ended 2 "" ("error: invalid arguments\n\n" ++ usage)
  | .version => .ended 0 (name ++ " " ++ version ++ "\n") ""
  | .help => .ended 0 usage ""
  | .run options command => .command (options.adjust (LogSettings.read values)) command

/-- What a run leaves behind. -/
structure Finished where
  /-- The exit code. -/
  code : UInt8
  /-- What is shown, the log apart. -/
  output : String
  /-- What is written for whoever started the program. -/
  errors : String
  /-- Where log records go. -/
  sink : Logging.Sink
  /-- The events that are written to the log. -/
  events : List Event
  /-- The line to the node. -/
  exchange : Exchange
deriving Repr

/-- A run that ends before there is a log. -/
def endedEarly (code : UInt8) (output errors : String) (exchange : Exchange) : Finished :=
  ⟨code, output, errors, .nowhere, [], exchange⟩

/-- Carries out a command.  The log was opened before, or could not be opened. -/
def carryOut (values : Variables) (settings : LogSettings) (command : Command)
    (opened : Except String Logging.Sink) (exchange : Exchange) : Finished :=
  let (sink, complaint) : Logging.Sink × String :=
    match opened with
    | .ok sink => (sink, "")
    | .error reason => (.nowhere, "Failed to setup logging: " ++ reason ++ "\n")
  let (_, journal) := (Logging.announce settings sink).run Journal.empty
  let ((result, exchange), journal) :=
    (command.perform Registry.standard values).run exchange journal
  let (code, output, errors) : UInt8 × String × String :=
    match result with
    | .ok document => (0, document.pretty ++ "\n", complaint)
    | .error error => (1, "", complaint ++ errorText error)
  let events :=
    if sink = .nowhere then [] else journal.events.filterMap (Logging.kept? settings.level)
  ⟨code, output, errors, sink, events, exchange⟩

/-- The records that go to the standard output, in front of what is shown. -/
def Finished.shownRecords (finished : Finished) (stamp : Logging.Stamp) : List String :=
  match finished.sink with
  | .stdout => finished.events.map (Logging.record .coloured stamp)
  | _ => []

/-- The records that go to a file. -/
def Finished.filedRecords (finished : Finished) (stamp : Logging.Stamp) : List String :=
  match finished.sink with
  | .file _ => finished.events.map (Logging.record .plain stamp)
  | _ => []

/-! ## A run over a tree of files -/

/-- The contents of the environment file. -/
def envText? (files : FileTree String) : Option String :=
  match files.find? [EnvFile.fileName] with
  | some (.file text) => some text
  | _ => none

/-- Runs the program over the files below the working directory, and gives them as they are
afterwards. -/
def run (files : FileTree String) (environment : Variables) (date : String)
    (stamp : Logging.Stamp) (exchange : Exchange) (arguments : List String) :
    Finished × FileTree String :=
  let values := EnvFile.loadOptional environment (envText? files)
  match plan values arguments with
  | .ended code output errors => (endedEarly code output errors exchange, files)
  | .command settings command =>
    match Logging.openSink files settings date with
    | .error error =>
      (carryOut values settings command (.error error.message) exchange, files)
    | .ok (files, sink) =>
      let finished := carryOut values settings command (.ok sink) exchange
      match sink with
      | .file ⟨_, some location⟩ =>
        (finished, files.modify location (· ++ String.join (finished.filedRecords stamp)))
      | _ => (finished, files)

end Program

end ChainIdentity
