import ChainIdentity.Fault.Context
import ChainIdentity.Fault.HttpStatus

/-!
# Errors of the transport

A round trip to the node fails because the node cannot be reached, because it refuses the
request as such, because its answer cannot be read, or because it answers with an error of its
own.  Every one of these errors is written to the journal as it arises.
-/

namespace ChainIdentity

open Text

/-- What kind of failure a round trip met. -/
inductive TransportProblem where
  /-- The node answered with a status that is no success. -/
  | http (status : HttpStatus) (url : String) (body : String)
  /-- The node could not be reached. -/
  | network
  /-- The answer could not be read. -/
  | unreadable
  /-- The answer is an error object. -/
  | rpc (code : Int64)
deriving DecidableEq, Repr

/-- An error of the transport. -/
structure TransportError where
  /-- Its kind. -/
  problem : TransportProblem
  /-- What went wrong. -/
  context : Context
deriving DecidableEq

namespace TransportError

/-- The wording for a status that is no success. -/
def httpMessage (status : HttpStatus) (url : String) : String :=
  "HTTP error: status " ++ status.render ++ " for URL " ++ url

/-- The node answered with a status that is no success. -/
def http (status : HttpStatus) (url body : String) (metadata : Option Metadata)
    (source : Option Cause) : Journaled TransportError := do
  return ⟨.http status url body, ← Context.logged ⟨httpMessage status url, metadata⟩ source⟩

/-- The node could not be reached. -/
def network (note : Note) (source : Option Cause) : Journaled TransportError := do
  return ⟨.network, ← Context.logged note source⟩

/-- The answer could not be read. -/
def unreadable (note : Note) (source : Option Cause) : Journaled TransportError := do
  return ⟨.unreadable, ← Context.logged note source⟩

/-- The answer is an error object; nothing lies behind it. -/
def rpc (code : Int64) (note : Note) : Journaled TransportError := do
  return ⟨.rpc code, ← Context.logged note none⟩

/-- The text of the error. -/
def message (error : TransportError) : String :=
  match error.problem with
  | .http status url _ => httpMessage status url
  | .network => "Network error: " ++ error.context.message
  | .unreadable => "Failed to parse JSON response: " ++ error.context.message
  | .rpc code =>
    "RPC error " ++ Numeral.signedDecimal code.toInt ++ ": " ++ error.context.message

/-- The trace id. -/
def trace (error : TransportError) : TraceId := error.context.trace

/-- The error as a cause; it shows nothing behind it. -/
def toCause (error : TransportError) : Cause :=
  .last error.message (some error.trace)

end TransportError

end ChainIdentity
