import ChainIdentity.Fault.Settings
import ChainIdentity.Registry
import ChainIdentity.Text.Numeral
import ChainIdentity.Url.Parser
import ChainIdentity.Variables

/-!
# Configuration

The process is configured by five variables, read in a fixed order: the mode, the network, the
port, the address of the node and whether to spare the node's administration.  The first three
have to be there; an empty value counts as none.  The first variable that is wrong decides
about the error, which names it.

`Configuration.read` is the decision by itself: a function of the registry and the variables.
`Configuration.load` turns what it says into an error with a trace id.
-/

namespace ChainIdentity

open Text

/-- Whether the process may talk to a node. -/
inductive Mode where
  /-- It may, and the node is verified at startup. -/
  | online
  /-- It may not. -/
  | offline
deriving DecidableEq, Repr

namespace Mode

/-- The name of a mode. -/
def name : Mode → String
  | online => "ONLINE"
  | offline => "OFFLINE"

/-- The mode with exactly the given name. -/
def ofName? : String → Option Mode
  | "ONLINE" => some online
  | "OFFLINE" => some offline
  | _ => none

end Mode

/-- A variable of the configuration. -/
inductive Setting where
  | mode
  | network
  | port
  | nodeUrl
  | skipNodeAdmin
deriving DecidableEq, Repr

namespace Setting

/-- The name of the variable in the environment. -/
def name : Setting → String
  | mode => "MODE"
  | network => "NETWORK"
  | port => "PORT"
  | nodeUrl => "GETH"
  | skipNodeAdmin => "SKIP_GETH_ADMIN"

end Setting

/-- What is wrong with a variable. -/
inductive SettingFault where
  /-- It has to be there and is not. -/
  | absent (setting : Setting)
  /-- The mode is none of the modes. -/
  | badMode (text : String)
  /-- The network has no descriptor. -/
  | badNetwork (text : String) (refusal : Refusal)
  /-- The port is no port. -/
  | badPort (text : String) (error : NumeralError)
  /-- The address of the node is no address. -/
  | badUrl (text : String) (error : UrlError)
  /-- The last variable is no truth value. -/
  | badFlag (text : String)
deriving DecidableEq

namespace SettingFault

/-- The variable at fault. -/
def setting : SettingFault → Setting
  | absent setting => setting
  | badMode _ => .mode
  | badNetwork _ _ => .network
  | badPort _ _ => .port
  | badUrl _ _ => .nodeUrl
  | badFlag _ => .skipNodeAdmin

/-- Whether the value is there but cannot be read. -/
def problem : SettingFault → SettingProblem
  | absent _ => .invalid
  | badMode _ => .invalid
  | badNetwork _ _ => .invalid
  | badPort _ _ => .unparsable
  | badUrl _ _ => .unparsable
  | badFlag _ => .unparsable

/-- The wording of a fault. -/
def message : SettingFault → String
  | absent setting => setting.name ++ " must be populated"
  | badMode text => text ++ " is not a valid mode"
  | badNetwork text _ => text ++ " is not a supported network"
  | badPort text _ => "unable to parse port " ++ text
  | badUrl text _ => "invalid node url " ++ text
  | badFlag text => "unable to parse " ++ text ++ " as a boolean"

/-- What the error says. -/
def note (fault : SettingFault) : Note :=
  .about fault.message [("variable", fault.setting.name)]

/-- The error behind a fault. -/
def source : SettingFault → Journaled (Option Cause)
  | absent _ => return none
  | badMode _ => return none
  | badNetwork _ refusal => return some (← refusal.toError).toCause
  | badPort _ error => return some (.foreign error.message none)
  | badUrl _ error => return some (.foreign error.message none)
  | badFlag _ => return some (.foreign "provided string was not `true` or `false`" none)

/-- The error that a fault becomes. -/
def toError (fault : SettingFault) : Journaled SettingError := do
  SettingError.raise fault.problem fault.note (← fault.source)

end SettingFault

/-- A resolved configuration. -/
structure Configuration where
  /-- The mode. -/
  mode : Mode
  /-- The facts of the configured network. -/
  network : Descriptor
  /-- The port on which clients are served. -/
  port : UInt16
  /-- The address of the node. -/
  nodeUrl : Url
  /-- Whether the address was given rather than the usual one. -/
  remoteNode : Bool
  /-- Whether to spare the node's administration. -/
  skipNodeAdmin : Bool
deriving DecidableEq

namespace Variables

/-- The value of a variable, an empty one counting as none. -/
def value? (values : Variables) (setting : Setting) : Option String :=
  (values setting.name).filter (!·.isEmpty)

/-- The value of a variable that has to be there. -/
def required (values : Variables) (setting : Setting) : Except SettingFault String :=
  match values.value? setting with
  | some text => .ok text
  | none => .error (.absent setting)

end Variables

namespace Configuration

/-- The address of a node on the same machine, which is taken where none is given. -/
def defaultNodeUrl : String := "http://localhost:8545"

/-- Whether the process may talk to a node. -/
def isOnline (configuration : Configuration) : Bool :=
  configuration.mode == .online

/-- Reads a mode. -/
def readMode (text : String) : Except SettingFault Mode :=
  match Mode.ofName? text with
  | some mode => .ok mode
  | none => .error (.badMode text)

/-- Reads a network. -/
def readNetwork (registry : Registry) (text : String) : Except SettingFault Descriptor :=
  match registry.lookup text with
  | .ok descriptor => .ok descriptor
  | .error refusal => .error (.badNetwork text refusal)

/-- Reads a port. -/
def readPort (text : String) : Except SettingFault UInt16 :=
  match Numeral.readUnsigned 10 0xFFFF text.toList with
  | .ok n => .ok (UInt16.ofNat n)
  | .error error => .error (.badPort text error)

/-- Reads the address of a node. -/
def readUrl (text : String) : Except SettingFault Url :=
  match Url.parse text with
  | .ok url => .ok url
  | .error error => .error (.badUrl text error)

/-- Reads a truth value; no value at all is false. -/
def readFlag : Option String → Except SettingFault Bool
  | none => .ok false
  | some "true" => .ok true
  | some "false" => .ok false
  | some text => .error (.badFlag text)

/-- The configuration that the variables describe, or the first fault in them. -/
def read (registry : Registry) (values : Variables) : Except SettingFault Configuration := do
  let mode ← readMode (← values.required .mode)
  let network ← readNetwork registry (← values.required .network)
  let port ← readPort (← values.required .port)
  let given := values.value? .nodeUrl
  let nodeUrl ← readUrl (given.getD defaultNodeUrl)
  let skipNodeAdmin ← readFlag (values.value? .skipNodeAdmin)
  return ⟨mode, network, port, nodeUrl, given.isSome, skipNodeAdmin⟩

/-- Loads the configuration.  Nothing is written to the journal. -/
def load (registry : Registry) (values : Variables) :
    ExceptT SettingError Journaled Configuration := do
  match read registry values with
  | .ok configuration => return configuration
  | .error fault => throw (← fault.toError)

end Configuration

end ChainIdentity
