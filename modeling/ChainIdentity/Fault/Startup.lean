import ChainIdentity.Fault.Service
import ChainIdentity.Fault.Settings

/-!
# Errors of startup

Startup fails for the reasons that its parts have, each shown as the cause of the startup
error, or because a part is missing.  The first three kinds take their context, trace id
included, from the error they wrap.
-/

namespace ChainIdentity

/-- An error of startup. -/
inductive StartupError where
  /-- The settings describe no usable configuration. -/
  | settings (error : SettingError)
  /-- The network is unknown, or the node serves another one. -/
  | registry (error : RegistryError)
  /-- The node could not be asked. -/
  | transport (error : TransportError)
  /-- A part is missing. -/
  | initialization (context : Context)
deriving DecidableEq

namespace StartupError

/-- Raises the error for a missing part, which is written to the journal. -/
def missing (note : Note) (source : Option Cause) : Journaled StartupError := do
  return .initialization (← Context.logged note source)

/-- The startup error for an error of a service. -/
def ofService : ServiceError → StartupError
  | .registry error => .registry error
  | .transport error => .transport error

/-- What went wrong. -/
def context : StartupError → Context
  | settings error => error.context
  | registry error => error.context
  | transport error => error.context
  | initialization context => context

/-- The text of the error. -/
def message : StartupError → String
  | settings error => "Configuration error: " ++ error.message
  | registry error => "Registry error: " ++ error.message
  | transport error => "Transport error: " ++ error.message
  | initialization context => "Initialization error: " ++ context.message

/-- The trace id. -/
def trace (error : StartupError) : TraceId := error.context.trace

/-- Whether the process must not serve this network. -/
def isFatal : StartupError → Bool
  | registry error => error.isFatal
  | _ => false

/-- The error as a cause, the wrapped error behind it. -/
def toCause (error : StartupError) : Cause :=
  match error with
  | settings wrapped => .before error.message (some error.trace) wrapped.toCause
  | registry wrapped => .before error.message (some error.trace) wrapped.toCause
  | transport wrapped => .before error.message (some error.trace) wrapped.toCause
  | initialization _ => .last error.message (some error.trace)

end StartupError

end ChainIdentity
