import ChainIdentity.Fault.Registry
import ChainIdentity.Offering

/-!
# The registry

The registry answers questions about networks by their exact name, and compares what a node
says about itself with what its network requires.  Every question is answered through the one
look-up `find?`, and nothing else is known of a registry: `Registry.standard` looks into the
compiled-in descriptors, `Registry.substitute` into any other list, and both are `IsExact`, that
is, they find a descriptor by the name of its own network only.

What is wrong with an answer is a `Refusal`, a plain value.  The question-and-answer functions
further down turn refusals into errors with a trace id.
-/

namespace ChainIdentity

open Text

/-- A look-up of descriptors. -/
structure Registry where
  /-- The descriptors in the order in which they are listed. -/
  descriptors : List Descriptor
  /-- The descriptor of a name, if it has one. -/
  find? : String → Option Descriptor
  /-- What is said of a name without descriptor. -/
  unsupported : String → Note

namespace Registry

/-- A registry that finds the first of the given descriptors whose network has exactly the given
name. -/
def ofDescriptors (descriptors : List Descriptor) (unsupported : String → Note) : Registry where
  descriptors := descriptors
  find? name := descriptors.find? fun descriptor => descriptor.network.name == name
  unsupported := unsupported

/-- What the compiled-in registry says of a name that is no network. -/
def unsupportedNote (name : String) : Note :=
  .about ("network " ++ name ++ " is not supported") [("network", name)]

/-- The compiled-in registry. -/
def standard : Registry :=
  .ofDescriptors (Network.all.map Descriptor.ofNetwork) unsupportedNote

/-- A registry that stands in for the compiled-in one. -/
def substitute (descriptors : List Descriptor) : Registry :=
  .ofDescriptors descriptors fun name => .plain ("no substitute for " ++ name)

/-- Whether a descriptor is found only by the name of its own network. -/
def IsExact (registry : Registry) : Prop :=
  ∀ name descriptor, registry.find? name = some descriptor → descriptor.network.name = name

/-- A look-up in a list of descriptors is exact. -/
theorem ofDescriptors_isExact (descriptors : List Descriptor) (unsupported : String → Note) :
    (ofDescriptors descriptors unsupported).IsExact := by
  intro name descriptor found
  have matched := List.find?_some found
  simpa using matched

/-- The identifiers of all networks. -/
def networkIds (registry : Registry) : List NetworkId :=
  registry.descriptors.map Descriptor.networkId

end Registry

/-- Why the registry refuses. -/
inductive Refusal where
  /-- A name without descriptor. -/
  | unsupported (note : Note)
  /-- A text that is no tag. -/
  | unrecognized (text : String)
  /-- A node with another first block. -/
  | otherGenesis (network : String) (observed expected : BlockId)
  /-- A node with another chain id. -/
  | otherChain (network : String) (observed expected : Quantity)
  /-- A method outside the permitted queries. -/
  | disallowed (method : String)
deriving DecidableEq

namespace Refusal

/-- The kind of error that the refusal becomes. -/
def problem : Refusal → RegistryProblem
  | unsupported _ => .unsupportedNetwork
  | unrecognized _ => .unrecognizedOperation
  | otherGenesis _ _ _ => .genesisMismatch
  | otherChain _ _ _ => .genesisMismatch
  | disallowed _ => .disallowedMethod

/-- What the error says. -/
def note : Refusal → Note
  | unsupported note => note
  | unrecognized text => .about (Operation.unrecognized text) [("operation_type", text)]
  | otherGenesis network observed expected =>
    .about ("node genesis " ++ observed.render ++ " does not match expected genesis "
        ++ expected.render)
      [("network", network), ("expected_hash", expected.hash.render),
       ("observed_hash", observed.hash.render),
       ("observed_index", Numeral.signedDecimal observed.index.toInt)]
  | otherChain network observed expected =>
    .about ("node chain id " ++ Quantity.decimal observed ++ " does not match expected chain id "
        ++ Quantity.decimal expected)
      [("network", network), ("expected_chain_id", Quantity.decimal expected),
       ("observed_chain_id", Quantity.decimal observed)]
  | disallowed method => .about ("method " ++ method ++ " is not allowed") [("method", method)]

/-- The error that the refusal becomes. -/
def toError (refusal : Refusal) : Journaled RegistryError :=
  RegistryError.raise refusal.problem refusal.note none

end Refusal

/-- A computation of the registry: it writes to the journal and may fail with its error. -/
abbrev Answer (α : Type) := ExceptT RegistryError Journaled α

/-- The answer of a plain decision. -/
def Answer.ofExcept {α : Type} (decision : Except Refusal α) : Answer α := do
  match decision with
  | .ok value => return value
  | .error refusal => throw (← refusal.toError)

namespace Registry

/-! ## Decisions -/

/-- The descriptor of a network, or the refusal of a name that has none. -/
def lookup (registry : Registry) (name : String) : Except Refusal Descriptor :=
  match registry.find? name with
  | some descriptor => .ok descriptor
  | none => .error (.unsupported (registry.unsupported name))

/-- Accepts only the first block that the network requires. -/
def matchGenesis (registry : Registry) (name : String) (observed : BlockId) :
    Except Refusal Unit := do
  let descriptor ← registry.lookup name
  if descriptor.genesis = observed then return ()
  else throw (.otherGenesis name observed descriptor.genesis)

/-- Accepts only the chain id that the network requires. -/
def matchChainId (registry : Registry) (name : String) (observed : Quantity) :
    Except Refusal Unit := do
  let descriptor ← registry.lookup name
  if descriptor.chainId = observed then return ()
  else throw (.otherChain name observed descriptor.chainId)

/-! ## Answers -/

/-- The descriptor of a network. -/
def descriptorFor (registry : Registry) (name : String) : Answer Descriptor :=
  .ofExcept (registry.lookup name)

/-- The flags with which a node of the network is launched. -/
def launchArgumentsFor (registry : Registry) (name : String) : Answer String :=
  return (← registry.descriptorFor name).launchArguments

/-- The defaults for a transfer on the network. -/
def transferDefaultsFor (registry : Registry) (name : String) : Answer TransferDefaults :=
  return .ofNetworkId (← registry.descriptorFor name).networkId

/-- Accepts only the first block that the network requires. -/
def validateGenesis (registry : Registry) (name : String) (observed : BlockId) : Answer Unit :=
  .ofExcept (registry.matchGenesis name observed)

/-- Accepts only the chain id that the network requires. -/
def validateChainId (registry : Registry) (name : String) (observed : Quantity) : Answer Unit :=
  .ofExcept (registry.matchChainId name observed)

end Registry

/-- The operation of a wire tag. -/
def classify (text : String) : Answer Operation :=
  .ofExcept <|
    match Operation.ofTag? text with
    | some operation => .ok operation
    | none => .error (.unrecognized text)

/-- The operation that a text is parsed as. -/
def Operation.parse (text : String) : Answer Operation :=
  classify text

/-- The operation that a text is converted to. -/
def Operation.ofText (text : String) : Answer Operation :=
  classify text

/-- Accepts only the permitted queries. -/
def ensureCallMethod (method : String) : Answer Unit :=
  .ofExcept (if isCallMethod method then .ok () else .error (.disallowed method))

end ChainIdentity
