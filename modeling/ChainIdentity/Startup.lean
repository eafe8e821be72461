import ChainIdentity.Configuration
import ChainIdentity.Fault.Startup
import ChainIdentity.Node.Passthrough
import ChainIdentity.Node.Verification

/-!
# Startup

Startup loads the configuration and, in online mode, verifies the node before anything is
handed out.  What it hands out is a `Service`: with a way to the node and the node's report when
online, with neither of them when offline.  A node of another chain ends startup, and that error
alone is fatal.
-/

namespace ChainIdentity

/-- What requests are served with. -/
structure Service (σ : Type) where
  /-- The registry. -/
  registry : Registry
  /-- The configuration. -/
  configuration : Configuration
  /-- The way to the node; only online. -/
  transport : Option (Transport σ)
  /-- What the node reported; only online. -/
  node : Option NodeReport

namespace Service

variable {σ : Type}

/-- Whether there is a node. -/
def isOnline (service : Service σ) : Bool :=
  service.transport.isSome

/-- Puts a query to the node; there is no answer without a node. -/
def query? (service : Service σ) (request : Request) : Option (Attempt σ ServiceError Json) :=
  service.transport.map fun transport => passThrough transport request

end Service

namespace Startup

/-- The part of the program that reports on startup. -/
def target : String := "corechain_registry::bootstrap"

/-- Loads the configuration; a failure is written to the journal here, once. -/
def load (registry : Registry) (values : Variables) :
    ExceptT StartupError Journaled Configuration := do
  match ← ((Configuration.load registry values).run : Journaled _) with
  | .ok configuration => return configuration
  | .error error =>
    Journaled.emit .error target ("invalid configuration: " ++ error.message)
      [("variable", .quoted (error.variableName?.getD "")), ("trace_id", .trace error.trace)]
    throw (.settings error)

section

variable {σ : Type}

/-- Verifies the node; that it serves another chain is written to the journal once more, with
its address. -/
def verifyNode (registry : Registry) (transport : Transport σ) (name : String) :
    Attempt σ StartupError NodeReport := do
  match ← ((Verification.verify registry transport name).run : Talk σ _) with
  | .ok report => return report
  | .error error =>
    let error := StartupError.ofService error
    if error.isFatal then
      Journaled.emit .error target ("node serves a different chain: " ++ error.message)
        [("url", .shown transport.url)]
    throw error

/-- Makes a service out of a configuration.  The network is looked up first, in either mode;
offline the transport is neither needed nor used. -/
def start (registry : Registry) (configuration : Configuration)
    (transport : Option (Transport σ)) : Attempt σ StartupError (Service σ) :=
  let name := configuration.network.network.name
  Attempt.within ⟨"initialize_with",
    [("network", .shown name), ("mode", .shown configuration.mode.name)]⟩ do
    let _ ← (Attempt.ofJournaled (registry.descriptorFor name)).mapError StartupError.registry
    if !configuration.isOnline then
      Journaled.emit .info target "offline mode, skipping node verification" []
      return ⟨registry, configuration, none, none⟩
    match transport with
    | none =>
      throw (← StartupError.missing
        (.about "online mode requires a node transport" [("network", name)]) none)
    | some transport =>
      let report ← verifyNode registry transport name
      Journaled.emit .info target "node verified"
        [("url", .shown transport.url), ("genesis", .shown report.genesis.render)]
      return ⟨registry, configuration, some transport, some report⟩

/-- Makes a service out of a configuration, reaching the configured node when online. -/
def startBy (connect : Url → Transport σ) (registry : Registry)
    (configuration : Configuration) : Attempt σ StartupError (Service σ) :=
  start registry configuration
    (if configuration.isOnline then some (connect configuration.nodeUrl) else none)

end

end Startup

end ChainIdentity
