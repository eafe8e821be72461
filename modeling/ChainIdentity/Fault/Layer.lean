import ChainIdentity.Fault.Startup

/-!
# Layers of errors

Errors are wrapped in errors: each layer either takes the error below it as its cause or turns
it into an error of the next part of the program.  `Failure` is any error there is, and `Layer`
one way to put a layer around a failure.

An error of the transport that the node itself reported has nothing behind it, so such a layer
forgets what was below.
-/

namespace ChainIdentity

/-- Any error. -/
inductive Failure where
  /-- An error of another library. -/
  | foreign (message : String) (source : Option Cause)
  /-- A context by itself. -/
  | context (context : Context)
  /-- An error of the registry. -/
  | registry (error : RegistryError)
  /-- An error of the transport. -/
  | transport (error : TransportError)
  /-- An error of a setting. -/
  | setting (error : SettingError)
  /-- An error of verification. -/
  | verification (error : ServiceError)
  /-- An error of a passed-through query. -/
  | query (error : ServiceError)
  /-- An error of startup. -/
  | startup (error : StartupError)
deriving DecidableEq

namespace Failure

/-- The failure as a cause. -/
def toCause : Failure → Cause
  | foreign message source => .foreign message source
  | context c => c.toCause
  | registry error => error.toCause
  | transport error => error.toCause
  | setting error => error.toCause
  | verification error => error.toCause
  | query error => error.toCause
  | startup error => error.toCause

/-- The context of a failure; foreign errors have none. -/
def context? : Failure → Option Context
  | foreign _ _ => none
  | context c => some c
  | registry error => some error.context
  | transport error => some error.context
  | setting error => some error.context
  | verification error => some error.context
  | query error => some error.context
  | startup error => some error.context

/-- The text of a failure. -/
def message (failure : Failure) : String :=
  failure.toCause.message

/-- The trace id that a failure reports. -/
def trace? (failure : Failure) : Option TraceId :=
  failure.context?.map Context.trace

/-- The texts of the errors behind a failure, from the nearest on. -/
def sources (failure : Failure) : List String :=
  failure.toCause.messages.drop 1

end Failure

/-- One way to put a layer around a failure. -/
inductive Layer where
  /-- An error of another library that keeps its cause. -/
  | foreign (message : String)
  /-- A context. -/
  | context (note : Note)
  /-- A context that is written to the journal. -/
  | loggedContext (note : Note)
  /-- An error of the registry. -/
  | registry (problem : RegistryProblem) (note : Note)
  /-- An error for a status that is no success. -/
  | http (status : HttpStatus) (url body : String) (metadata : Option Metadata)
  /-- An error for a node that cannot be reached. -/
  | network (note : Note)
  /-- An error for an unreadable answer. -/
  | unreadable (note : Note)
  /-- An error that the node reported. -/
  | rpc (code : Int64) (note : Note)
  /-- An error of a setting. -/
  | setting (problem : SettingProblem) (note : Note)
  /-- An error for a missing part. -/
  | initialization (note : Note)
  /-- The conversion to an error of verification. -/
  | asVerification
  /-- The conversion to an error of a query. -/
  | asQuery
  /-- The conversion to an error of startup. -/
  | asStartup
deriving DecidableEq

namespace Layer

/-- The failure that a conversion makes of another one, where there is such a conversion. -/
def convert? : Layer → Failure → Option Failure
  | asVerification, .registry error => some (.verification (.registry error))
  | asVerification, .transport error => some (.verification (.transport error))
  | asQuery, .registry error => some (.query (.registry error))
  | asQuery, .transport error => some (.query (.transport error))
  | asStartup, .setting error => some (.startup (.settings error))
  | asStartup, .registry error => some (.startup (.registry error))
  | asStartup, .transport error => some (.startup (.transport error))
  | asStartup, .verification error => some (.startup (.ofService error))
  | _, _ => none

/-- Puts a layer around the failure below, if there is one below.  There is no result for a
conversion that does not exist. -/
def apply (layer : Layer) (below : Option Failure) : Journaled (Option Failure) := do
  let source := below.map Failure.toCause
  match layer with
  | foreign message => return some (.foreign message source)
  | context note => return some (.context (← Context.make note source))
  | loggedContext note => return some (.context (← Context.logged note source))
  | registry problem note => return some (.registry (← RegistryError.raise problem note source))
  | http status url body metadata =>
    return some (.transport (← TransportError.http status url body metadata source))
  | network note => return some (.transport (← TransportError.network note source))
  | unreadable note => return some (.transport (← TransportError.unreadable note source))
  | rpc code note => return some (.transport (← TransportError.rpc code note))
  | setting problem note => return some (.setting (← SettingError.raise problem note source))
  | initialization note => return some (.startup (← StartupError.missing note source))
  | conversion => return below.bind conversion.convert?

/-- Puts layers around one another, the first one innermost, and gives every failure on the
way.  It ends early at a conversion that does not exist. -/
def stack : List Layer → Option Failure → Journaled (List Failure)
  | [], _ => return []
  | layer :: rest, below => do
    match ← layer.apply below with
    | none => return []
    | some failure => return failure :: (← stack rest (some failure))

end Layer

end ChainIdentity
