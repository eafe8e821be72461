import ChainIdentity.Fault.Service
import ChainIdentity.Node.Transport
import ChainIdentity.Registry

/-!
# Queries that are passed through

Clients may put a few queries directly to the node.  A query outside the permitted ones is
refused before anything is sent; a permitted one is sent as it is, and its result comes back as
it is.
-/

namespace ChainIdentity

/-- Puts a query to the node. -/
def passThrough {σ : Type} (transport : Transport σ) (request : Request) :
    Attempt σ ServiceError Json :=
  Attempt.within ⟨"call", [("method", .quoted request.method)]⟩ do
    (Attempt.ofJournaled (ensureCallMethod request.method)).mapError .registry
    (transport.call request).mapError .transport

end ChainIdentity
