import ChainIdentity.Fault.Registry
import ChainIdentity.Fault.Transport

/-!
# Errors of the services

Verification and the passthrough of queries stand on the registry and the transport, and their
errors are just the errors of these two: same text, same trace id, and no layer of their own in
the way down.
-/

namespace ChainIdentity

/-- An error of a service over a node. -/
inductive ServiceError where
  /-- The registry refused. -/
  | registry (error : RegistryError)
  /-- The round trip failed. -/
  | transport (error : TransportError)
deriving DecidableEq

namespace ServiceError

/-- What went wrong. -/
def context : ServiceError → Context
  | registry error => error.context
  | transport error => error.context

/-- The text of the error. -/
def message : ServiceError → String
  | registry error => error.message
  | transport error => error.message

/-- The trace id. -/
def trace (error : ServiceError) : TraceId := error.context.trace

/-- Whether the process must not go on serving. -/
def isFatal : ServiceError → Bool
  | registry error => error.isFatal
  | transport _ => false

/-- The error as a cause. -/
def toCause : ServiceError → Cause
  | registry error => error.toCause
  | transport error => error.toCause

end ServiceError

end ChainIdentity
