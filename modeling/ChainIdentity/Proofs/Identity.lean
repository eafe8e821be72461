import ChainIdentity.Node.Script
import ChainIdentity.Proofs.Verification
import Mathlib.Control.Monad.Basic

/-!
# One node, one network

A node passes a verification if it answers with the first block and the chain id of the network.  If
no two networks of a registry require the same of their nodes, the same answers can therefore pass
for one network only.  `Registry.TellsApart` is this property of a registry, and the compiled-in one
has it because its chain ids are all different.  That a network goes by one name only is
`Registry.IsExact`.

`verified_once` is the main statement: whatever a node answers, it is verified under one name of the
compiled-in registry at most.
-/

namespace ChainIdentity

/-- The networks have different chain ids. -/
theorem Network.chainId_injective {network network' : Network}
    (same : network.chainId = network'.chainId) : network = network' := by
  revert same
  cases network <;> cases network' <;> decide

namespace Registry

/-- Descriptors that require the same of a node belong to the same network. -/
def TellsApart (registry : Registry) : Prop :=
  ∀ name name' descriptor descriptor',
    registry.find? name = some descriptor → registry.find? name' = some descriptor' →
    descriptor.genesis = descriptor'.genesis → descriptor.chainId = descriptor'.chainId →
    descriptor.network = descriptor'.network

/-- The compiled-in registry finds a descriptor only by the name of its own network. -/
theorem standard_isExact : standard.IsExact :=
  ofDescriptors_isExact _ _

/-- What the compiled-in registry finds are the facts of a network. -/
theorem eq_ofNetwork_of_find? {name : String} {descriptor : Descriptor}
    (found : standard.find? name = some descriptor) :
    ∃ network, descriptor = .ofNetwork network := by
  have first : (Network.all.map Descriptor.ofNetwork).find? (·.network.name == name)
      = some descriptor := found
  have among := List.mem_of_find?_eq_some first
  obtain ⟨network, -, rfl⟩ := List.mem_map.mp among
  exact ⟨network, rfl⟩

/-- The chain id alone tells the networks of the compiled-in registry apart. -/
theorem standard_tellsApart : standard.TellsApart := by
  intro name name' descriptor descriptor' found found' _ sameChain
  obtain ⟨network, rfl⟩ := eq_ofNetwork_of_find? found
  obtain ⟨network', rfl⟩ := eq_ofNetwork_of_find? found'
  exact Network.chainId_injective sameChain

end Registry

namespace Verification

variable {registry : Registry} {name name' : String} {outcome : BatchOutcome}
  {report report' : NodeReport}

/-- In a registry that tells its networks apart the same answers confirm one name at most. -/
theorem Confirms.name_eq (exact : registry.IsExact) (apart : registry.TellsApart)
    (confirms : Confirms registry name outcome report)
    (confirms' : Confirms registry name' outcome report') : name = name' := by
  obtain rfl := confirms.unique confirms'
  obtain ⟨descriptor, -, -, -, found, -, -, genesisEq, -, chainEq⟩ := confirms
  obtain ⟨descriptor', -, -, -, found', -, -, genesisEq', -, chainEq'⟩ := confirms'
  have network := apart name name' descriptor descriptor' found found'
    (genesisEq.symm.trans genesisEq') (chainEq.symm.trans chainEq')
  calc name = descriptor.network.name := (exact name descriptor found).symm
    _ = descriptor'.network.name := congrArg Network.name network
    _ = name' := exact name' descriptor' found'

/-- A node passes for one network at most.  If two verifications against the compiled-in registry
get the same answers, whichever nodes these come from and in whichever state, and both succeed, then
they are verifications of the same name, and with the same report. -/
theorem verified_once {σ σ' : Type} (way : Transport σ) (way' : Transport σ') (name name' : String)
    (state : σ) (state' : σ') (journal journal' : Journal)
    (same : (asked way name state journal).1.1 = (asked way' name' state' journal').1.1)
    {report report' : NodeReport}
    (passes : (verify .standard way name state journal).1.1 = .ok report)
    (passes' : (verify .standard way' name' state' journal').1.1 = .ok report') :
    name = name' ∧ report = report' := by
  have confirms : Confirms .standard name (asked way name state journal).1.1 report :=
    ((verify_settles .standard way name state journal).1.ok_iff report).mp passes
  have confirms' : Confirms .standard name' (asked way name state journal).1.1 report' := by
    rw [same]
    exact ((verify_settles .standard way' name' state' journal').1.ok_iff report').mp passes'
  exact ⟨confirms.name_eq Registry.standard_isExact Registry.standard_tellsApart confirms',
    confirms.unique confirms'⟩

/-- What a node of the main network answers to the two questions. -/
def coreBlock : Json :=
  .ofMembers [("hash", .text Network.core.genesisHash.render), ("number", .text "0x0")]

/-- Two nodes that answer alike, one with results and one with responses that hold them, are
both of the main network. -/
theorem verified_once_core :
    let bare : List Reply := [.several [.result coreBlock, .result (.text "0x45c")]]
    let wrapped : List Reply :=
      [.several [.response (Response.ofResult 7 coreBlock),
        .response (Response.ofResult 7 (.text "0x45c"))]]
    let report : NodeReport := ⟨.genesis Network.core.genesisHash, Network.core.chainId⟩
    (asked (Transport.scripted "a") "Core" bare .empty).1.1
        = (asked (Transport.scripted "b") "Core" wrapped .empty).1.1 ∧
    (verify .standard (Transport.scripted "a") "Core" bare .empty).1.1 = .ok report ∧
    (verify .standard (Transport.scripted "b") "Core" wrapped .empty).1.1 = .ok report ∧
    "Core" = "Core" ∧ report = report := by
  intro bare wrapped report
  have passes :
      (verify .standard (Transport.scripted "a") "Core" bare .empty).1.1 = .ok report := by
    decide +kernel
  have passes' :
      (verify .standard (Transport.scripted "b") "Core" wrapped .empty).1.1 = .ok report := by
    decide +kernel
  have same : (asked (Transport.scripted "a") "Core" bare .empty).1.1
      = (asked (Transport.scripted "b") "Core" wrapped .empty).1.1 := rfl
  exact ⟨same, passes, passes', verified_once _ _ _ _ _ _ _ _ same passes passes'⟩

end Verification

end ChainIdentity
