import ChainIdentity.Fault.Service
import ChainIdentity.Node.Transport
import ChainIdentity.Registry

/-!
# Verification of a node

A node belongs to a network if its first block and its chain id are those of the network's
descriptor.  Both are asked for in one round trip, and the network is looked up before anything
is sent, so an unknown name never reaches the node.

`Verification.settle` is the judgement by itself: what follows from the two answers.  `verify`
asks and judges.
-/

namespace ChainIdentity

/-- What a node reported about itself. -/
structure NodeReport where
  /-- Its first block. -/
  genesis : BlockId
  /-- Its chain id. -/
  chainId : Quantity
deriving DecidableEq, Repr

namespace Verification

/-- The request for the first block. -/
def genesisRequest : Request :=
  ⟨blockMethod, .array [.text "0x0", .bool false]⟩

/-- The request for the chain id. -/
def chainIdRequest : Request :=
  ⟨chainIdMethod, .array []⟩

/-- The part of the program that reports a verified node. -/
def target : String := "corechain_registry::services::validation"

section

variable {σ : Type}

/-- An answer of the registry as a step of a conversation. -/
def ofRegistry {α : Type} (answer : Answer α) : Attempt σ ServiceError α :=
  (Attempt.ofJournaled answer).mapError .registry

/-- A reading of an answer as a step of a conversation. -/
def ofTrip {α : Type} (trip : Trip α) : Attempt σ ServiceError α :=
  (Attempt.ofJournaled trip).mapError .transport

/-- A round trip as a step of a conversation. -/
def ofTransport {α : Type} (trip : Attempt σ TransportError α) : Attempt σ ServiceError α :=
  trip.mapError .transport

/-- Asks for the first block. -/
def fetchGenesis (transport : Transport σ) : Attempt σ ServiceError BlockId :=
  Attempt.within ⟨"fetch_genesis", [("url", .shown transport.url)]⟩ do
    let block ← ofTransport (transport.call genesisRequest)
    ofTrip (BlockId.parse block)

/-- Asks for the chain id. -/
def fetchChainId (transport : Transport σ) : Attempt σ ServiceError Quantity :=
  Attempt.within ⟨"fetch_chain_id", [("url", .shown transport.url)]⟩ do
    let chainId ← ofTransport (transport.call chainIdRequest)
    ofTrip (Quantity.parse chainIdMethod chainId)

/-- Compares what a node reported with what the network requires. -/
def compare (registry : Registry) (name : String) (report : NodeReport) :
    Attempt σ ServiceError Unit := do
  ofRegistry (registry.validateGenesis name report.genesis)
  ofRegistry (registry.validateChainId name report.chainId)

/-- Reads the two answers and compares what they say.  Fewer than two answers are no answer,
further ones do not count. -/
def settle (registry : Registry) (name : String)
    (answers : List (Except TransportError Json)) : Attempt σ ServiceError NodeReport := do
  match answers with
  | genesis :: chainId :: _ =>
    let block ← ofTrip (ExceptT.mk (pure genesis))
    let genesis ← ofTrip (BlockId.parse block)
    let quantity ← ofTrip (ExceptT.mk (pure chainId))
    let chainId ← ofTrip (Quantity.parse chainIdMethod quantity)
    let report : NodeReport := ⟨genesis, chainId⟩
    compare registry name report
    return report
  | _ =>
    throw (.transport (← TransportError.unreadable
      (.about "batch response is missing entries" [("network", name)]) none))

/-- Verifies that the node belongs to the network. -/
def verify (registry : Registry) (transport : Transport σ) (name : String) :
    Attempt σ ServiceError NodeReport :=
  Attempt.within ⟨"verify", [("network_name", .quoted name), ("network", .shown name)]⟩ do
    let _ ← ofRegistry (registry.descriptorFor name)
    let answers ← ofTransport (transport.batch [genesisRequest, chainIdRequest])
    let report ← settle registry name answers
    Journaled.emit .info target "node matches network"
      [("genesis", .shown report.genesis.render),
       ("chain_id", .shown (Quantity.decimal report.chainId))]
    return report

/-- Verifies the same in single steps: the network is looked up, each of the two questions makes a
round trip of its own, for which it may take a way of its own to the node, and the registry is asked
about the first block and then about the chain id. -/
def verifyStepwise (registry : Registry) (first second : Transport σ) (name : String) :
    Attempt σ ServiceError NodeReport := do
  let _ ← ofRegistry (registry.descriptorFor name)
  let genesis ← fetchGenesis first
  let chainId ← fetchChainId second
  ofRegistry (registry.validateGenesis name genesis)
  ofRegistry (registry.validateChainId name chainId)
  return ⟨genesis, chainId⟩

end

end Verification

end ChainIdentity
