import ChainIdentity.Proofs.Raising

/-!
# What the registry answers

A registry is a look-up, and all its answers follow from what is looked up.  For a name with a
descriptor the descriptor is the answer and the two comparisons accept exactly what it requires;
for a name without one every answer is the error that says so.  Accepting writes nothing to the
journal.
-/

namespace ChainIdentity.Registry

variable {registry : Registry} {name : String} {descriptor : Descriptor}

/-- A descriptor that is found is the answer of the look-up. -/
theorem lookup_of_some (found : registry.find? name = some descriptor) :
    registry.lookup name = .ok descriptor := by
  unfold lookup
  rw [found]

/-- Where nothing is found, the look-up refuses the name in the registry's words. -/
theorem lookup_of_none (missing : registry.find? name = none) :
    registry.lookup name = .error (.unsupported (registry.unsupported name)) := by
  unfold lookup
  rw [missing]

/-! ## Descriptors -/

/-- A descriptor that is found is answered, and nothing is written. -/
theorem descriptorFor_of_some (found : registry.find? name = some descriptor)
    (journal : Journal) : registry.descriptorFor name journal = (.ok descriptor, journal) := by
  unfold descriptorFor
  rw [lookup_of_some found]
  rfl

/-- Where nothing is found, the answer is the error of an unsupported network. -/
theorem descriptorFor_of_none (missing : registry.find? name = none) (journal : Journal) :
    ∃ error later, registry.descriptorFor name journal = (.error error, later) ∧
      error.problem = .unsupportedNetwork ∧
      error.context.note = registry.unsupported name := by
  unfold descriptorFor
  rw [lookup_of_none missing]
  exact Answer.ofExcept_error _ journal

/-! ## Comparisons -/

/-- Where a descriptor is found, a first block is compared with its own. -/
theorem matchGenesis_of_some (found : registry.find? name = some descriptor)
    (observed : BlockId) :
    registry.matchGenesis name observed =
      if descriptor.genesis = observed then .ok ()
      else .error (.otherGenesis name observed descriptor.genesis) := by
  unfold matchGenesis
  rw [lookup_of_some found]
  rfl

/-- Where a descriptor is found, a chain id is compared with its own. -/
theorem matchChainId_of_some (found : registry.find? name = some descriptor)
    (observed : Quantity) :
    registry.matchChainId name observed =
      if descriptor.chainId = observed then .ok ()
      else .error (.otherChain name observed descriptor.chainId) := by
  unfold matchChainId
  rw [lookup_of_some found]
  rfl

/-- The first block of the network is accepted, and nothing is written. -/
theorem validateGenesis_of_eq (found : registry.find? name = some descriptor)
    {observed : BlockId} (equal : observed = descriptor.genesis) (journal : Journal) :
    registry.validateGenesis name observed journal = (.ok (), journal) := by
  unfold validateGenesis
  rw [matchGenesis_of_some found, if_pos equal.symm]
  rfl

/-- Another first block is answered with the error of a mismatch, which says what was observed. -/
theorem validateGenesis_of_ne (found : registry.find? name = some descriptor)
    {observed : BlockId} (different : observed ≠ descriptor.genesis) (journal : Journal) :
    ∃ error later, registry.validateGenesis name observed journal = (.error error, later) ∧
      error.problem = .genesisMismatch ∧
      error.context.note = (Refusal.otherGenesis name observed descriptor.genesis).note := by
  unfold validateGenesis
  rw [matchGenesis_of_some found, if_neg different.symm]
  exact Answer.ofExcept_error _ journal

/-- The chain id of the network is accepted, and nothing is written. -/
theorem validateChainId_of_eq (found : registry.find? name = some descriptor)
    {observed : Quantity} (equal : observed = descriptor.chainId) (journal : Journal) :
    registry.validateChainId name observed journal = (.ok (), journal) := by
  unfold validateChainId
  rw [matchChainId_of_some found, if_pos equal.symm]
  rfl

/-- Another chain id is answered with the error of a mismatch, which says what was observed. -/
theorem validateChainId_of_ne (found : registry.find? name = some descriptor)
    {observed : Quantity} (different : observed ≠ descriptor.chainId) (journal : Journal) :
    ∃ error later, registry.validateChainId name observed journal = (.error error, later) ∧
      error.problem = .genesisMismatch ∧
      error.context.note = (Refusal.otherChain name observed descriptor.chainId).note := by
  unfold validateChainId
  rw [matchChainId_of_some found, if_neg different.symm]
  exact Answer.ofExcept_error _ journal

end ChainIdentity.Registry
