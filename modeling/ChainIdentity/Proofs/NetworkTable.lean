import ChainIdentity.Proofs.Identity

/-!
# The views of the table of networks

The compiled-in registry has one table, and its views are the list of descriptors and of
identifiers, the look-ups by name, and the comparisons with what a node says of itself.  `Views`
says that all of them speak of one descriptor, and `Answer.RefusesUnless` that an answer is the
refusal of a name unless the name is listed.

A name is resolved in two steps: first the network that the text names, then the descriptor of this
network (`resolution`).  The second step cannot fail, since every network is in the table
(`resolution_standard`), so what names a network has a descriptor.

`views_agree` is the main statement: for every text, either all look-ups and comparisons refuse it,
or none does and all views agree on one descriptor.
-/

namespace ChainIdentity

/-! ## Names of networks -/

namespace Network

/-- No network is left out of the list. -/
theorem mem_all (network : Network) : network ∈ all := by
  cases network <;> decide

/-- A text is read as a network exactly if it is its name. -/
theorem ofName?_eq_some_iff {text : String} {network : Network} :
    ofName? text = some network ↔ text = network.name := by
  unfold ofName?
  split <;> cases network <;> simp_all [name]

/-- Different networks have different names. -/
theorem name_injective {network network' : Network} (same : network.name = network'.name) :
    network = network' :=
  Option.some.inj ((ofName?_eq_some_iff.mpr rfl).symm.trans (ofName?_eq_some_iff.mpr same))

section

variable {α : Type} {a : α}

/-- In a list that has one entry for each network there are no other entries. -/
theorem mem_map_all_iff {f : Network → α} : a ∈ all.map f ↔ ∃ network, a = f network := by
  rw [List.mem_map]
  constructor
  · rintro ⟨network, -, rfl⟩
    exact ⟨network, rfl⟩
  · rintro ⟨network, rfl⟩
    exact ⟨network, network.mem_all, rfl⟩

/-- In a list that has one entry for each network, the name tells the entry. -/
theorem mem_map_all_and_name_iff (f : Network → α) (nameOf : α → String)
    (named : ∀ network, nameOf (f network) = network.name) {network : Network} :
    a ∈ all.map f ∧ nameOf a = network.name ↔ a = f network := by
  rw [mem_map_all_iff]
  constructor
  · rintro ⟨⟨own, rfl⟩, same⟩
    obtain rfl := name_injective ((named own).symm.trans same)
    rfl
  · rintro rfl
    exact ⟨⟨network, rfl⟩, named network⟩

end

end Network

/-! ## Answers -/

namespace Answer

variable {α β : Type} {answer : Answer α} {value : α} {name : String}

/-- The answer is the value, and nothing is written. -/
def Gives (answer : Answer α) (value : α) : Prop :=
  ∀ journal, answer journal = (.ok value, journal)

/-- The answer is the error that says that the name is not supported. -/
def Refuses (answer : Answer α) (name : String) : Prop :=
  ∀ journal, ∃ error later, answer journal = (.error error, later) ∧
    error.problem = .unsupportedNetwork ∧
    error.context.note = Registry.unsupportedNote name ∧
    error.context.get? "network" = some name

/-- Whatever the answer is, it is no error of an unsupported network. -/
def Supports (answer : Answer α) : Prop :=
  ∀ journal error later, answer journal = (.error error, later) →
    error.problem ≠ .unsupportedNetwork

/-- The answer refuses the name unless the condition holds, and no network is unsupported if it
does. -/
def RefusesUnless (answer : Answer α) (name : String) (condition : Prop) : Prop :=
  (condition → answer.Supports) ∧ (¬ condition → answer.Refuses name)

/-- The answer accepts under the condition, and is a mismatch without it. -/
def AcceptsOnly (answer : Answer Unit) (condition : Prop) : Prop :=
  (condition → answer.Gives ()) ∧
    (¬ condition → ∀ journal, ∃ error later, answer journal = (.error error, later) ∧
      error.problem = .genesisMismatch)

/-- To change the value of an answer changes nothing else about it. -/
theorem map_apply {journal later : Journal} {outcome : Except RegistryError α} (f : α → β)
    (ends : answer journal = (outcome, later)) :
    (do return f (← answer) : Answer β) journal = (outcome.map f, later) := by
  show (ExceptT.bindCont (fun value => pure (f value)) (answer journal).1 : Journaled _)
    (answer journal).2 = _
  rw [ends]
  cases outcome <;> rfl

/-- What is made of an answer is made of its value. -/
theorem Gives.map (gives : answer.Gives value) (f : α → β) :
    Gives (do return f (← answer)) (f value) :=
  fun journal => map_apply f (gives journal)

/-- What is made of an answer that refuses a name refuses it as well. -/
theorem Refuses.map (refuses : answer.Refuses name) (f : α → β) :
    Refuses (do return f (← answer)) name := by
  intro journal
  obtain ⟨error, later, ends, about⟩ := refuses journal
  exact ⟨error, later, map_apply f ends, about⟩

/-- An answer with a value is no error at all. -/
theorem Gives.supports (gives : answer.Gives value) : answer.Supports := by
  intro journal error later ends
  cases (gives journal).symm.trans ends

/-- A mismatch is not an error of an unsupported network. -/
theorem AcceptsOnly.supports {answer : Answer Unit} {condition : Prop}
    (accepts : answer.AcceptsOnly condition) : answer.Supports := by
  by_cases holds : condition
  · exact (accepts.1 holds).supports
  · intro journal error later ends
    obtain ⟨raised, after, mismatched, problem⟩ := accepts.2 holds journal
    cases mismatched.symm.trans ends
    rw [problem]
    decide

/-- The registry's refusal of a name is the error that says so and carries the name. -/
theorem refuses_of_unsupported (name : String) :
    Refuses (ofExcept (.error (.unsupported (Registry.unsupportedNote name))) : Answer α) name := by
  intro journal
  obtain ⟨error, later, ends, problem, note⟩ :=
    ofExcept_error (.unsupported (Registry.unsupportedNote name)) journal
  refine ⟨error, later, ends, problem, note, ?_⟩
  rw [Context.get?_of_about note, if_pos rfl]

end Answer

namespace Registry

/-! ## Two steps of a look-up -/

/-- What would be said of the name of a network without a descriptor. -/
def undescribedNote (name : String) : Note :=
  .about ("network " ++ name ++ " has no descriptor") [("network", name)]

/-- What a text comes to when it is taken for the name of a network. -/
inductive Resolution where
  /-- It names no network. -/
  | unknown
  /-- It names a network without a descriptor. -/
  | undescribed (network : Network)
  /-- It names the network with the descriptor. -/
  | described (descriptor : Descriptor)

/-- First the network that the text names, and then the first descriptor of this network. -/
def resolution (descriptors : List Descriptor) (name : String) : Resolution :=
  match Network.ofName? name with
  | none => .unknown
  | some network =>
    match descriptors.find? fun descriptor => descriptor.network == network with
    | none => .undescribed network
    | some descriptor => .described descriptor

/-- What a look-up answers. -/
def Resolution.answer (name : String) : Resolution → Except Refusal Descriptor
  | unknown => .error (.unsupported (unsupportedNote name))
  | undescribed _ => .error (.unsupported (undescribedNote name))
  | described descriptor => .ok descriptor

/-- Every network has one descriptor in the list, its own. -/
theorem find?_ofNetwork (network : Network) :
    (standard.descriptors.find? fun descriptor => descriptor.network == network)
      = some (.ofNetwork network) := by
  cases network <;> rfl

/-- Every network has a descriptor, so that only the first step can fail. -/
theorem resolution_standard (name : String) :
    resolution standard.descriptors name =
      (Network.ofName? name).elim .unknown fun network => .described (.ofNetwork network) := by
  unfold resolution
  cases Network.ofName? name with
  | none => rfl
  | some network => simp only [find?_ofNetwork, Option.elim_some]

/-- The case of the letters counts. -/
example : resolution standard.descriptors "core" = .unknown := rfl

/-- What is found for a text is the descriptor of the network that has it for its name. -/
theorem find?_standard (name : String) :
    standard.find? name = (Network.ofName? name).map .ofNetwork := by
  cases named : Network.ofName? name with
  | none =>
    rw [Option.map_none, Option.eq_none_iff_forall_ne_some]
    intro descriptor found
    obtain ⟨network, rfl⟩ := eq_ofNetwork_of_find? found
    have own : network.name = name := standard_isExact name _ found
    rw [Network.ofName?_eq_some_iff.mpr own.symm] at named
    cases named
  | some network =>
    obtain rfl := Network.ofName?_eq_some_iff.mp named
    cases network <;> rfl

/-- The look-up is the one in two steps: first the network, then its descriptor. -/
theorem lookup_standard (name : String) :
    standard.lookup name = (resolution standard.descriptors name).answer name := by
  unfold lookup
  rw [find?_standard, resolution_standard]
  cases Network.ofName? name <;> rfl

/-! ## Listed names -/

/-- The name is that of a network in the list of identifiers. -/
def Listed (name : String) : Prop :=
  ∃ id ∈ standard.networkIds, id.network = name

/-- There is one identifier for each network. -/
theorem networkIds_standard : standard.networkIds = Network.all.map NetworkId.ofNetwork := rfl

/-- The listed names are the names of the networks. -/
theorem listed_iff {name : String} : Listed name ↔ ∃ network : Network, name = network.name := by
  unfold Listed
  constructor
  · rintro ⟨id, among, rfl⟩
    obtain ⟨network, rfl⟩ := Network.mem_map_all_iff.mp (networkIds_standard ▸ among)
    exact ⟨network, rfl⟩
  · rintro ⟨network, rfl⟩
    exact ⟨.ofNetwork network, Network.mem_map_all_iff.mpr ⟨network, rfl⟩, rfl⟩

/-- Under a name that is not listed nothing is found. -/
theorem find?_of_not_listed {name : String} (unlisted : ¬ Listed name) :
    standard.find? name = none := by
  rw [find?_standard, Option.map_eq_none_iff, Option.eq_none_iff_forall_ne_some]
  intro network named
  exact unlisted (listed_iff.mpr ⟨network, Network.ofName?_eq_some_iff.mp named⟩)

/-- Under the name of a network its descriptor is found. -/
theorem find?_name (network : Network) :
    standard.find? network.name = some (.ofNetwork network) := by
  rw [find?_standard, Network.ofName?_eq_some_iff.mpr rfl, Option.map_some]

/-! ## Refused names -/

section

variable {name : String} (missing : standard.find? name = none)

include missing

/-- The look-up refuses a name without descriptor. -/
theorem descriptorFor_refuses : (standard.descriptorFor name).Refuses name := by
  unfold descriptorFor
  rw [lookup_of_none missing]
  exact Answer.refuses_of_unsupported name

/-- No first block is compared for a name without descriptor. -/
theorem validateGenesis_refuses (observed : BlockId) :
    (standard.validateGenesis name observed).Refuses name := by
  unfold validateGenesis matchGenesis
  rw [lookup_of_none missing]
  exact Answer.refuses_of_unsupported name

/-- No chain id is compared for a name without descriptor. -/
theorem validateChainId_refuses (observed : Quantity) :
    (standard.validateChainId name observed).Refuses name := by
  unfold validateChainId matchChainId
  rw [lookup_of_none missing]
  exact Answer.refuses_of_unsupported name

end

/-! ## Views that agree -/

/-- All views of the table take the name for that of the described network. -/
structure Views (name : String) (descriptor : Descriptor) : Prop where
  /-- The descriptor is the one in the list whose network has the name. -/
  listed : ∀ other, other ∈ standard.descriptors ∧ other.network.name = name ↔ other = descriptor
  /-- The look-up finds it. -/
  found : (standard.descriptorFor name).Gives descriptor
  /-- Its identifier is the one in the list whose network has the name. -/
  identified : ∀ id, id ∈ standard.networkIds ∧ id.network = name ↔ id = descriptor.networkId
  /-- The defaults for a transfer have this identifier. -/
  transferred : ∃ defaults, (standard.transferDefaultsFor name).Gives defaults ∧
    defaults.network = descriptor.networkId
  /-- Nodes are launched with the flags of the descriptor. -/
  launched : (standard.launchArgumentsFor name).Gives descriptor.launchArguments
  /-- These are the shared flags and the network's own one. -/
  flagged : ∀ flag, descriptor.launchArguments = Network.baseLaunchArguments ++ " --" ++ flag ↔
    descriptor.network.launchFlag? = some flag
  /-- They are the shared flags alone if the network has none of its own. -/
  unflagged : descriptor.launchArguments = Network.baseLaunchArguments ↔
    descriptor.network.launchFlag? = none
  /-- Of all blocks only its first one is accepted. -/
  genesis : ∀ observed, (standard.validateGenesis name observed).AcceptsOnly
    (observed.hash = descriptor.genesis.hash ∧ observed.index = descriptor.genesis.index)
  /-- Of all chain ids only its own is accepted. -/
  chain : ∀ observed, (standard.validateChainId name observed).AcceptsOnly
    (observed = descriptor.chainId)

/-! ### Launch flags -/

/-- A flag stands behind the shared ones exactly if it is the network's own. -/
theorem flagged_ofNetwork (network : Network) (flag : String) :
    (Descriptor.ofNetwork network).launchArguments = Network.baseLaunchArguments ++ " --" ++ flag ↔
      network.launchFlag? = some flag := by
  show network.launchArguments = _ ↔ _
  unfold Network.launchArguments
  cases network.launchFlag? with
  | none =>
    simp only [reduceCtorEq, iff_false, String.append_assoc]
    intro same
    simpa using congrArg String.length same
  | some own => simp only [String.append_right_inj, Option.some.injEq]

/-- Only a network without a flag of its own is launched with the shared ones alone. -/
theorem unflagged_ofNetwork (network : Network) :
    (Descriptor.ofNetwork network).launchArguments = Network.baseLaunchArguments ↔
      network.launchFlag? = none := by
  show network.launchArguments = _ ↔ _
  unfold Network.launchArguments
  cases network.launchFlag? with
  | none => simp only
  | some own =>
    simp only [reduceCtorEq, iff_false, String.append_assoc]
    intro same
    simpa using congrArg String.length same

/-! ### Comparisons -/

section

variable {name : String} {descriptor : Descriptor} (found : standard.find? name = some descriptor)

include found

/-- A first block is accepted exactly if it has the hash and the index of the network's. -/
theorem validateGenesis_acceptsOnly (observed : BlockId) :
    (standard.validateGenesis name observed).AcceptsOnly
      (observed.hash = descriptor.genesis.hash ∧ observed.index = descriptor.genesis.index) := by
  have sameBlock : observed = descriptor.genesis ↔
      observed.hash = descriptor.genesis.hash ∧ observed.index = descriptor.genesis.index := by
    cases observed
    cases descriptor.genesis
    rw [BlockId.mk.injEq]
    exact And.comm
  rw [← sameBlock]
  constructor
  · intro same journal
    exact validateGenesis_of_eq found same journal
  · intro different journal
    obtain ⟨error, later, ends, problem, -⟩ := validateGenesis_of_ne found different journal
    exact ⟨error, later, ends, problem⟩

/-- A chain id is accepted exactly if it is the network's. -/
theorem validateChainId_acceptsOnly (observed : Quantity) :
    (standard.validateChainId name observed).AcceptsOnly (observed = descriptor.chainId) := by
  constructor
  · intro same journal
    exact validateChainId_of_eq found same journal
  · intro different journal
    obtain ⟨error, later, ends, problem, -⟩ := validateChainId_of_ne found different journal
    exact ⟨error, later, ends, problem⟩

end

/-! ### The agreement -/

/-- All views take the name of a network for that of this network. -/
theorem views_name (network : Network) : Views network.name (.ofNetwork network) := by
  have found := find?_name network
  have gives : (standard.descriptorFor network.name).Gives (.ofNetwork network) :=
    descriptorFor_of_some found
  exact {
    listed := fun _ =>
      Network.mem_map_all_and_name_iff Descriptor.ofNetwork (·.network.name) fun _ => rfl
    found := gives
    identified := fun _ =>
      Network.mem_map_all_and_name_iff NetworkId.ofNetwork NetworkId.network fun _ => rfl
    transferred :=
      ⟨.ofNetworkId (.ofNetwork network), gives.map (TransferDefaults.ofNetworkId ·.networkId), rfl⟩
    launched := gives.map Descriptor.launchArguments
    flagged := flagged_ofNetwork network
    unflagged := unflagged_ofNetwork network
    genesis := validateGenesis_acceptsOnly found
    chain := validateChainId_acceptsOnly found }

/-- The listed names are those on which all views agree. -/
theorem listed_iff_views {name : String} : Listed name ↔ ∃ descriptor, Views name descriptor := by
  constructor
  · intro listed
    obtain ⟨network, rfl⟩ := listed_iff.mp listed
    exact ⟨_, views_name network⟩
  · rintro ⟨descriptor, views⟩
    exact ⟨descriptor.networkId, (views.identified _).mpr rfl⟩

/-- Refusing what is not found and supporting what all views take for a network is refusing exactly
the names that are not listed. -/
theorem refusesUnless_listed {α : Type} {answer : Answer α} {name : String}
    (supports : ∀ descriptor, Views name descriptor → answer.Supports)
    (refuses : standard.find? name = none → answer.Refuses name) :
    answer.RefusesUnless name (Listed name) := by
  constructor
  · intro listed
    obtain ⟨descriptor, views⟩ := listed_iff_views.mp listed
    exact supports descriptor views
  · intro unlisted
    exact refuses (find?_of_not_listed unlisted)

/-- All views of the table of networks agree. -/
theorem views_agree (name : String) :
    standard.lookup name = (resolution standard.descriptors name).answer name ∧
    (∀ network, resolution standard.descriptors name ≠ .undescribed network) ∧
    (standard.descriptorFor name).RefusesUnless name (Listed name) ∧
    (standard.launchArgumentsFor name).RefusesUnless name (Listed name) ∧
    (standard.transferDefaultsFor name).RefusesUnless name (Listed name) ∧
    (∀ observed, (standard.validateGenesis name observed).RefusesUnless name (Listed name)) ∧
    (∀ observed, (standard.validateChainId name observed).RefusesUnless name (Listed name)) ∧
    (Listed name ↔ ∃ descriptor, Views name descriptor) := by
  refine ⟨lookup_standard name, ?described, ?descriptor, ?arguments, ?defaults, ?genesis, ?chain,
    listed_iff_views⟩
  case described =>
    intro network
    rw [resolution_standard]
    cases Network.ofName? name <;> exact Resolution.noConfusion
  case descriptor =>
    exact refusesUnless_listed (fun _ views => views.found.supports) descriptorFor_refuses
  case arguments =>
    exact refusesUnless_listed (fun _ views => views.launched.supports) fun missing =>
      (descriptorFor_refuses missing).map _
  case defaults =>
    refine refusesUnless_listed ?_ fun missing => (descriptorFor_refuses missing).map _
    intro _ views
    obtain ⟨_, gives, -⟩ := views.transferred
    exact gives.supports
  case genesis =>
    intro observed
    exact refusesUnless_listed (fun _ views => (views.genesis observed).supports) fun missing =>
      validateGenesis_refuses missing observed
  case chain =>
    intro observed
    exact refusesUnless_listed (fun _ views => (views.chain observed).supports) fun missing =>
      validateChainId_refuses missing observed

end Registry

end ChainIdentity
