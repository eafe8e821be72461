import ChainIdentity.Command.Program
import ChainIdentity.Node.HttpMessage
import Std.Async.DNS
import Std.Async.TCP
import Std.Time

/-!
# The command line program

The outermost layer: it looks up what a run needs (variables, the date, the log files that are
there), carries bytes to and from the node, and writes what `Program` says is to be written.

A run is a function of the replies of the node.  So it is evaluated with the replies received so
far, the first post without a reply is sent, and the run is evaluated again with one reply more,
until every post has its reply.  Nodes are reached over plain connections only.
-/

namespace ChainIdentity.Shell

open Text

/-! ## What a run finds -/

/-- The text of a file, if there is one that can be read. -/
def readText? (path : String) : IO (Option String) := do
  try
    return some (← IO.FS.readFile path)
  catch _ =>
    return none

/-- The names of the variables that the program reads. -/
def variableNames : List String :=
  [Setting.mode, .network, .port, .nodeUrl, .skipNodeAdmin].map Setting.name
    ++ ["LOG_MODE", "LOG_LEVEL", "LOG_DATA_DIR", "LOG_MAX_SIZE"]

/-- The names that a text mentions. -/
def mentionedNames (text : String) : List String :=
  text.splitToList fun c => !(EnvFile.continuesName c || isAlphanumeric c)

/-- The variables of the process as far as they can matter: those that the program reads, and
those that the environment file mentions. -/
def readVariables (envText : Option String) : IO Variables := do
  let names := variableNames ++ mentionedNames (envText.getD "")
  let mut entries : List (String × String) := []
  for name in names do
    if !name.isEmpty then
      if let some value ← IO.getEnv name then
        entries := (name, value) :: entries
  let found := entries
  return fun name => found.lookup name

/-- The present moment in the given format, in universal time. -/
def now (format : String) : IO String := do
  let moment := Std.Time.DateTime.ofTimestamp (← Std.Time.Timestamp.now) .UTC
  return moment.format format

/-- The text of a trace id: a random identifier of 128 bits, from a number that differs for every
run. -/
def traceText (seed : Nat) (id : TraceId) : String :=
  let number := (seed + id.number * 0x9e3779b97f4a7c15f39cc0605cedc835) % Nat.pow 2 128
  let digits := Numeral.padded 16 32 number
  let part := fun start length => String.ofList ((digits.drop start).take length)
  part 0 8 ++ "-" ++ part 8 4 ++ "-4" ++ part 13 3 ++ "-8" ++ part 17 3 ++ "-" ++ part 20 12

/-- What differs from run to run. -/
def stamp : IO Logging.Stamp := do
  let seed ← IO.getRandomBytes 16
  let number := seed.toList.foldl (fun read byte => read * 256 + byte.toNat) 0
  return {
    time := ← now "uuuu-MM-dd'T'HH:mm:ss.SSSSSS'Z'"
    moment := ← now "uuuu-MM-dd HH:mm:ss.SSSSSSSSS 'UTC'"
    trace := traceText number }

/-! ## The log -/

/-- The size of a file, if it is there. -/
def size? (path : String) : IO (Option Nat) := do
  try
    let info ← ((← IO.currentDir) / path).metadata
    return some info.byteSize.toNat
  catch _ =>
    return none

/-- The log files of a day from a place on, up to the first one that is absent. -/
partial def logFiles (base date : String) (index : Nat) : IO (List (String × Nat)) := do
  let path := Rotation.path base date index
  match ← size? path with
  | none => return []
  | some size => return (path, size) :: (← logFiles base date (index + 1))

/-- Opens the log. -/
def openLog (settings : LogSettings) (date : String) : IO (Except String Logging.Sink) := do
  match settings.output with
  | .stdout => return .ok .stdout
  | .file =>
    let directory := Logging.directoryText settings.directory
    let base := directory ++ Logging.fileName
    try
      IO.FS.createDirAll directory
      let start := Rotation.path base date 1
      let path := Rotation.choose (← logFiles base date 1) start base date settings.maxSize
      let _ ← IO.FS.Handle.mk path .append
      return .ok (.file ⟨path, none⟩)
    catch error =>
      return .error (toString error)

/-! ## The node -/

/-- Everything that arrives on a connection until it is closed or breaks off. -/
partial def receive (client : Std.Async.TCP.Socket.Client) (before : ByteArray) :
    Std.Async.Async ByteArray := do
  let arrived ← try client.recv? 65536 catch _ => pure none
  match arrived with
  | some bytes => receive client (before ++ bytes)
  | none => return before

/-- Sends a post to a node and waits for its reply. -/
def sendPost (url : Url) (post : Post) : IO HttpReply := do
  let host := (url.host?.map Url.Host.render).getD ""
  let port := (url.authority.bind (·.port)).getD 80
  let name := String.ofList (host.toList.filter fun c => c != '[' && c != ']')
  let hostLine := if port == 80 then host else host ++ ":" ++ Numeral.decimal port.toNat
  try
    let talk : Std.Async.Async ByteArray := do
      let addresses ← Std.Async.DNS.getAddrInfo name (Numeral.decimal port.toNat)
      match addresses[0]? with
      | none => return ByteArray.empty
      | some address =>
        let client ← Std.Async.TCP.Socket.Client.mk
        match address with
        | .v4 address => client.connect (.v4 ⟨address, port⟩)
        | .v6 address => client.connect (.v6 ⟨address, port⟩)
        client.send (HttpMessage.ofPost hostLine post).toUTF8
        receive client ByteArray.empty
    return HttpMessage.reply (← talk.block).toList
  catch _ =>
    return .lost

/-- Evaluates a run again and again until every post has its reply.  Connections are made in the
open only, so no node is reached under an encrypted scheme. -/
partial def converse (url : Url) (run : Exchange → Program.Finished) (replies : List HttpReply) :
    IO Program.Finished := do
  let finished := run (Exchange.start .http (url.host?.getD (.name "")) replies)
  match finished.exchange.posts[replies.length]? with
  | none => return finished
  | some post =>
    if !replies.isEmpty then
      IO.sleep (UInt32.ofNat (RetryPolicy.standard.waitBefore replies.length))
    converse url run (replies ++ [← sendPost url post])

/-- Carries out a command with whatever node is configured. -/
def carryOut (values : Variables) (settings : LogSettings) (command : Command)
    (opened : Except String Logging.Sink) : IO Program.Finished := do
  let run := Program.carryOut values settings command opened
  match Configuration.read Registry.standard values with
  | .ok configuration => converse configuration.nodeUrl run []
  | .error _ => return run (Exchange.start .http (.name "") [])

/-! ## What a run leaves behind -/

/-- Writes what a run leaves behind. -/
def deliver (finished : Program.Finished) : IO UInt32 := do
  let stamp ← stamp
  if let .file file := finished.sink then
    let handle ← IO.FS.Handle.mk file.path .append
    handle.putStr (String.join (finished.filedRecords stamp))
  IO.print (String.join (finished.shownRecords stamp) ++ finished.output)
  IO.eprint finished.errors
  return finished.code.toUInt32

end ChainIdentity.Shell

open ChainIdentity in
/-- Runs the program with the given arguments. -/
def main (arguments : List String) : IO UInt32 := do
  let envText ← Shell.readText? EnvFile.fileName
  let values := EnvFile.loadOptional (← Shell.readVariables envText) envText
  match Program.plan values arguments with
  | .ended code output errors =>
    Shell.deliver (Program.endedEarly code output errors (Exchange.start .http (.name "") []))
  | .command settings command =>
    let opened ← Shell.openLog settings (← Shell.now "uuuu-MM-dd")
    Shell.deliver (← Shell.carryOut values settings command opened)
