import ChainIdentity.Node.Response

/-!
# Round trips to a node

A transport reaches one node.  It can carry a single request or several at once, and what it
says depends on the state of the world behind it, about which nothing is assumed: `σ` is any
type, and a transport is any pair of functions on it.

`Transport.recorded` keeps a list of what is sent through a transport, so that what reaches the
node is itself a value.
-/

namespace ChainIdentity

/-- A method with its parameters. -/
structure Request where
  /-- The method. -/
  method : String
  /-- The parameters. -/
  params : Json
deriving Repr

/-- The record of a request. -/
def Request.toJson (request : Request) : Json :=
  .ofMembers [("method", .text request.method), ("params", request.params)]

/-- A computation that talks to a node in some state and writes to the journal. -/
abbrev Talk (σ : Type) := StateT σ Journaled

/-- A conversation that may fail. -/
abbrev Attempt (σ ε : Type) := ExceptT ε (Talk σ)

namespace Attempt

variable {σ ε α : Type}

/-- Does in a conversation what needs no node. -/
def ofJournaled (run : ExceptT ε Journaled α) : Attempt σ ε α := do
  match ← (run.run : Journaled (Except ε α)) with
  | .ok value => return value
  | .error error => throw error

/-- Holds a conversation inside a span. -/
def within (span : Span) (run : Attempt σ ε α) : Attempt σ ε α :=
  fun state => Journaled.within span (run state)

/-- Changes what a conversation fails with. -/
def mapError {ε' : Type} (f : ε → ε') (run : Attempt σ ε α) : Attempt σ ε' α := do
  match ← (run.run : Talk σ (Except ε α)) with
  | .ok value => return value
  | .error error => throw (f error)

end Attempt

/-- A way to reach a node. -/
structure Transport (σ : Type) where
  /-- The address of the node. -/
  url : String
  /-- Sends one request and gives its result. -/
  call : Request → Attempt σ TransportError Json
  /-- Sends several requests in one round trip.  The outer error is that of the round trip; the
  results stand in the order of the requests. -/
  batch : List Request → Attempt σ TransportError (List (Except TransportError Json))

/-- What was sent to a node. -/
inductive Sent where
  /-- A single request. -/
  | single (request : Request)
  /-- Several requests in one round trip. -/
  | several (requests : List Request)
deriving Repr

/-- The record of what was sent. -/
def Sent.toJson : Sent → Json
  | single request => request.toJson
  | several requests => .array (requests.map Request.toJson)

/-- The same way to the node, with a list of what was sent on it. -/
def Transport.recorded {σ : Type} (transport : Transport σ) : Transport (List Sent × σ) where
  url := transport.url
  call request := fun (sent, state) => do
    let (result, state) ← transport.call request state
    return (result, (sent ++ [.single request], state))
  batch requests := fun (sent, state) => do
    let (result, state) ← transport.batch requests state
    return (result, (sent ++ [.several requests], state))

end ChainIdentity
