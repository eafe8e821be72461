import ChainIdentity.Startup
import ChainIdentity.Proofs.Configuration
import ChainIdentity.Proofs.Verification

/-!
# What startup hands out

Startup ends in one of five ways, and `Ends` lists them, each with the condition under which it
comes about and with the state that it leaves the node in: the network is unknown, the mode is
offline, there is no way to the node, the node is verified, or the node is refused.
`start_ends` says that nothing else can happen.  It is the only place where the code of startup
is gone through; everything after it is read off the five cases.

`start_decides` is the main statement: a service is handed out exactly where the network is
known and either the mode is offline or the answers of a node confirm it, and what the service
holds is what this calls for.
-/

namespace ChainIdentity

namespace Configuration

/-- Whoever is not online is offline. -/
theorem isOnline_eq_false_iff (configuration : Configuration) :
    configuration.isOnline = false ↔ configuration.mode = .offline := by
  unfold isOnline
  cases configuration.mode with
  | online => simp
  | offline => simp

/-- To be online is to be in this mode. -/
theorem isOnline_eq_true_iff (configuration : Configuration) :
    configuration.isOnline = true ↔ configuration.mode = .online := by
  unfold isOnline
  cases configuration.mode with
  | online => simp
  | offline => simp

/-- The name of the configured network. -/
abbrev networkName (configuration : Configuration) : String :=
  configuration.network.network.name

end Configuration

namespace Startup

open Verification

/-! ## Errors -/

/-- An error of a service is as fatal at startup as it is there. -/
theorem ofService_isFatal (error : ServiceError) :
    (StartupError.ofService error).isFatal = error.isFatal := by
  cases error with
  | registry error => rfl
  | transport error => rfl

/-- An error of startup is fatal if and only if it is the mismatch of the registry. -/
theorem isFatal_iff (error : StartupError) :
    error.isFatal = true ↔
      ∃ refused, error = .registry refused ∧ refused.problem = .genesisMismatch := by
  cases error with
  | registry refused =>
    obtain ⟨problem, context⟩ := refused
    cases problem <;> simp [StartupError.isFatal, RegistryError.isFatal]
  | settings error => simp [StartupError.isFatal]
  | transport error => simp [StartupError.isFatal]
  | initialization context => simp [StartupError.isFatal]

/-! ## The ways in which startup ends -/

section

variable {σ : Type}

/-- The journal inside the span of startup. -/
abbrev opened (configuration : Configuration) (journal : Journal) : Journal :=
  journal.inside ⟨"initialize_with",
    [("network", .shown configuration.networkName), ("mode", .shown configuration.mode.name)]⟩

/-- What comes back from a node when startup verifies it. -/
def asked (configuration : Configuration) (way : Transport σ) (state : σ) (journal : Journal) :
    (BatchOutcome × σ) × Journal :=
  Verification.asked way configuration.networkName state (opened configuration journal)

/-- The ways in which startup ends: with which result, and in which state of the node. -/
inductive Ends (registry : Registry) (configuration : Configuration) (state : σ)
    (journal : Journal) :
    Option (Transport σ) → Except StartupError (Service σ) × σ → Prop where
  /-- The network has no descriptor. -/
  | unknown {transport : Option (Transport σ)} {refused : RegistryError}
      (missing : registry.find? configuration.networkName = none)
      (problem : refused.problem = .unsupportedNetwork) :
      Ends registry configuration state journal transport (.error (.registry refused), state)
  /-- The mode is offline, and no use is made of a way to the node. -/
  | offline {transport : Option (Transport σ)} {descriptor : Descriptor}
      (found : registry.find? configuration.networkName = some descriptor)
      (mode : configuration.mode = .offline) :
      Ends registry configuration state journal transport
        (.ok ⟨registry, configuration, none, none⟩, state)
  /-- The mode is online, and there is no way to the node. -/
  | noTransport {descriptor : Descriptor} {context : Context}
      (found : registry.find? configuration.networkName = some descriptor)
      (mode : configuration.mode = .online) :
      Ends registry configuration state journal none (.error (.initialization context), state)
  /-- The mode is online, and the answers of the node confirm a report. -/
  | verified {way : Transport σ} {descriptor : Descriptor} {report : NodeReport}
      (found : registry.find? configuration.networkName = some descriptor)
      (mode : configuration.mode = .online)
      (confirms : Confirms registry configuration.networkName
        (asked configuration way state journal).1.1 report) :
      Ends registry configuration state journal (some way)
        (.ok ⟨registry, configuration, some way, some report⟩,
          (asked configuration way state journal).1.2)
  /-- The mode is online, and the node is not confirmed. -/
  | refused {way : Transport σ} {descriptor : Descriptor} {exit : Exit} {error : ServiceError}
      (found : registry.find? configuration.networkName = some descriptor)
      (mode : configuration.mode = .online)
      (first : Exit.first? registry configuration.networkName
        (asked configuration way state journal).1.1 = some exit)
      (raises : Exit.Raises registry configuration.networkName
        (asked configuration way state journal).1.1 exit error) :
      Ends registry configuration state journal (some way)
        (.error (.ofService error), (asked configuration way state journal).1.2)

variable {registry : Registry} {way : Transport σ} {name : String} {state state' : σ}
  {journal later : Journal}

/-- A report of the verification is passed on. -/
theorem verifyNode_of_ok {report : NodeReport}
    (verifies : verify registry way name state journal = ((.ok report, state'), later)) :
    verifyNode registry way name state journal = ((.ok report, state'), later) := by
  unfold verifyNode
  rw [Attempt.bind_outcome verifies]
  rfl

/-- An error of the verification becomes one of startup; whether it is written to the journal
once more makes no difference to it. -/
theorem verifyNode_of_error {error : ServiceError}
    (verifies : verify registry way name state journal = ((.error error, state'), later)) :
    ∃ later', verifyNode registry way name state journal
      = ((.error (.ofService error), state'), later') := by
  unfold verifyNode
  rw [Attempt.bind_outcome verifies]
  cases fatal : (StartupError.ofService error).isFatal with
  | true =>
    simp only [fatal, if_true]
    rw [Attempt.bind_journaled]
    exact ⟨_, rfl⟩
  | false =>
    simp only [fatal]
    exact ⟨later, rfl⟩

/-- A network that the registry knows is resolved, and nothing is written. -/
theorem resolve_of_some {descriptor : Descriptor}
    (found : registry.find? name = some descriptor) :
    ((Attempt.ofJournaled (registry.descriptorFor name)).mapError StartupError.registry :
      Attempt σ StartupError Descriptor) state journal = ((.ok descriptor, state), journal) := by
  apply Attempt.mapError_of_ok
  rw [Attempt.ofJournaled_apply, registry.descriptorFor_of_some found]

/-- A network that the registry does not know is an error of startup, and the node is not asked. -/
theorem resolve_of_none (missing : registry.find? name = none) (state : σ)
    (journal : Journal) :
    ∃ refused later,
      ((Attempt.ofJournaled (registry.descriptorFor name)).mapError StartupError.registry :
        Attempt σ StartupError Descriptor) state journal
          = ((.error (.registry refused), state), later) ∧
      refused.problem = .unsupportedNetwork := by
  obtain ⟨refused, later, ends, problem, -⟩ := registry.descriptorFor_of_none missing journal
  refine ⟨refused, later, ?_, problem⟩
  apply Attempt.mapError_of_error
  rw [Attempt.ofJournaled_apply, ends]

variable {configuration : Configuration} {descriptor : Descriptor}

/-- Startup with an unknown network ends before the mode is looked at. -/
theorem start_of_none (missing : registry.find? configuration.networkName = none)
    (transport : Option (Transport σ)) (state : σ) (journal : Journal) :
    Ends registry configuration state journal transport
      (start registry configuration transport state journal).1 := by
  unfold start
  rw [Attempt.within_fst]
  obtain ⟨refused, later, ends, problem⟩ :=
    resolve_of_none missing state (opened configuration journal)
  rw [Attempt.bind_of_error ends]
  exact .unknown missing problem

/-- Startup in offline mode, with or without a way to the node. -/
theorem start_of_offline (found : registry.find? configuration.networkName = some descriptor)
    (mode : configuration.mode = .offline) (transport : Option (Transport σ)) (state : σ)
    (journal : Journal) :
    Ends registry configuration state journal transport
      (start registry configuration transport state journal).1 := by
  have offline := configuration.isOnline_eq_false_iff.mpr mode
  unfold start
  rw [Attempt.within_fst, Attempt.bind_of_ok (resolve_of_some found)]
  simp only [offline, Bool.not_false, if_true]
  rw [Attempt.bind_journaled]
  exact .offline found mode

/-- Startup in online mode without a way to the node. -/
theorem start_of_noTransport
    (found : registry.find? configuration.networkName = some descriptor)
    (mode : configuration.mode = .online) (state : σ) (journal : Journal) :
    Ends registry configuration state journal none
      (start registry configuration none state journal).1 := by
  have online := configuration.isOnline_eq_true_iff.mpr mode
  unfold start
  rw [Attempt.within_fst, Attempt.bind_of_ok (resolve_of_some found)]
  simp only [online, Bool.not_true, Bool.false_eq_true, if_false]
  exact .noTransport found mode

/-- Startup in online mode with a way to the node ends as the verification does. -/
theorem start_of_online (found : registry.find? configuration.networkName = some descriptor)
    (mode : configuration.mode = .online) (way : Transport σ) (state : σ) (journal : Journal) :
    Ends registry configuration state journal (some way)
      (start registry configuration (some way) state journal).1 := by
  have online := configuration.isOnline_eq_true_iff.mpr mode
  unfold start
  rw [Attempt.within_fst, Attempt.bind_of_ok (resolve_of_some found)]
  simp only [online, Bool.not_true, Bool.false_eq_true, if_false]
  obtain ⟨settles, stateEq⟩ := verify_settles registry way configuration.networkName state
    (opened configuration journal)
  rw [found, Option.isSome_some, if_pos rfl] at stateEq
  rcases verifies : verify registry way configuration.networkName state
    (opened configuration journal) with ⟨⟨result, state'⟩, later⟩
  rw [verifies] at settles stateEq
  obtain rfl : state' = (asked configuration way state journal).1.2 := stateEq
  cases result with
  | ok report =>
    rw [Attempt.bind_of_ok (verifyNode_of_ok verifies), Attempt.bind_journaled]
    exact .verified found mode ((settles.ok_iff report).mp rfl)
  | error error =>
    obtain ⟨later', ends⟩ := verifyNode_of_error verifies
    obtain ⟨exit, first, raises, -⟩ := settles.of_error
    rw [Attempt.bind_of_error ends]
    exact .refused found mode first raises

/-- Startup ends in one of the five ways. -/
theorem start_ends (registry : Registry) (configuration : Configuration)
    (transport : Option (Transport σ)) (state : σ) (journal : Journal) :
    Ends registry configuration state journal transport
      (start registry configuration transport state journal).1 := by
  cases found : registry.find? configuration.networkName with
  | none => exact start_of_none found transport state journal
  | some descriptor =>
    cases mode : configuration.mode with
    | offline => exact start_of_offline found mode transport state journal
    | online =>
      cases transport with
      | none => exact start_of_noTransport found mode state journal
      | some way => exact start_of_online found mode way state journal

/-! ## What follows from the way in which startup ends -/

/-- A node that startup hands out agrees with the descriptor of the configured network. -/
structure Agrees (node : NodeReport) (descriptor : Descriptor) : Prop where
  genesis : node.genesis = descriptor.genesis
  chainId : node.chainId = descriptor.chainId

/-- What a service holds that startup hands out. -/
structure Holds (registry : Registry) (configuration : Configuration)
    (transport : Option (Transport σ)) (service : Service σ) : Prop where
  /-- The registry is the given one. -/
  registry_eq : service.registry = registry
  /-- The configuration is the given one. -/
  configuration_eq : service.configuration = configuration
  /-- The way to the node is the given one when online, and none when offline. -/
  transport_eq : service.transport = if configuration.isOnline then transport else none
  /-- There is a way to the node when online only. -/
  online_iff_transport : configuration.mode = .online ↔ service.transport.isSome
  /-- There is a report of the node when online only. -/
  online_iff_node : configuration.mode = .online ↔ service.node.isSome
  /-- There is an answer to queries when online only. -/
  online_iff_query : ∀ request, configuration.mode = .online ↔ (service.query? request).isSome
  /-- The node is what the registry requires of the configured network. -/
  agrees : ∀ node, service.node = some node → ∃ descriptor,
    registry.find? configuration.networkName = some descriptor ∧ Agrees node descriptor

/-- What startup hands out offline. -/
theorem holds_offline (registry : Registry) {configuration : Configuration}
    (mode : configuration.mode = .offline) (transport : Option (Transport σ)) :
    Holds registry configuration transport ⟨registry, configuration, none, none⟩ := by
  have offline := configuration.isOnline_eq_false_iff.mpr mode
  refine ⟨rfl, rfl, ?_, ?_, ?_, ?_, ?_⟩
  · simp [offline]
  · simp [mode]
  · simp [mode]
  · simp [mode, Service.query?]
  · intro node contra
    cases contra

/-- What startup hands out online. -/
theorem holds_verified {registry : Registry} {configuration : Configuration}
    (mode : configuration.mode = .online) {outcome : BatchOutcome} {report : NodeReport}
    (confirms : Confirms registry configuration.networkName outcome report)
    (way : Transport σ) :
    Holds registry configuration (some way)
      ⟨registry, configuration, some way, some report⟩ := by
  have online := configuration.isOnline_eq_true_iff.mpr mode
  refine ⟨rfl, rfl, ?_, ?_, ?_, ?_, ?_⟩
  · simp [online]
  · simp [mode]
  · simp [mode]
  · simp [mode, Service.query?]
  · intro node same
    obtain rfl : report = node := Option.some.inj same
    obtain ⟨descriptor, -, -, -, found, -, -, genesisEq, -, chainEq⟩ := confirms
    exact ⟨descriptor, found, genesisEq, chainEq⟩

/-- Offline, startup does the same whatever way to the node it is given. -/
theorem start_offline_congr {configuration : Configuration}
    (mode : configuration.mode = .offline) (registry : Registry)
    (transport other : Option (Transport σ)) (state : σ) (journal : Journal) :
    start registry configuration other state journal
      = start registry configuration transport state journal := by
  have offline := configuration.isOnline_eq_false_iff.mpr mode
  unfold start
  simp only [offline, Bool.not_false, if_true]

section

variable {registry : Registry} {configuration : Configuration} {state : σ} {journal : Journal}
  {transport : Option (Transport σ)} {ended : Except StartupError (Service σ) × σ}

/-- What is handed out holds what the mode and the given way to the node call for. -/
theorem Ends.holds {service : Service σ}
    (ends : Ends registry configuration state journal transport ended)
    (handsOut : ended.1 = .ok service) : Holds registry configuration transport service := by
  cases ends with
  | unknown missing problem => cases handsOut
  | offline found mode =>
    cases handsOut
    exact holds_offline registry mode transport
  | noTransport found mode => cases handsOut
  | verified found mode confirms =>
    cases handsOut
    exact holds_verified mode confirms _
  | refused found mode first raises => cases handsOut

/-- Something is handed out exactly where the network is known and either the mode is offline
or the answers of a node confirm it. -/
theorem Ends.ok_iff (ends : Ends registry configuration state journal transport ended) :
    (∃ service, ended.1 = .ok service) ↔
      (∃ descriptor, registry.find? configuration.networkName = some descriptor) ∧
      (configuration.mode = .offline ∨
        ∃ way report, transport = some way ∧
          Confirms registry configuration.networkName
            (asked configuration way state journal).1.1 report) := by
  cases ends with
  | unknown missing problem => simp [missing]
  | offline found mode => simp [found, mode]
  | noTransport found mode => simp [mode]
  | verified found mode confirms =>
    exact ⟨fun _ => ⟨⟨_, found⟩, .inr ⟨_, _, rfl, confirms⟩⟩, fun _ => ⟨_, rfl⟩⟩
  | refused found mode first raises =>
    constructor
    · rintro ⟨_, contra⟩
      cases contra
    · rintro ⟨-, offline | ⟨way, report, same, confirms⟩⟩
      · rw [mode] at offline
        cases offline
      · obtain rfl := Option.some.inj same
        rw [confirms.first?_eq_none] at first
        cases first

/-- The error of startup is fatal exactly where the network is known, the mode is online, there
is a way to the node, and the first exit that its answers call for is one of the last two. -/
theorem Ends.isFatal_iff {error : StartupError}
    (ends : Ends registry configuration state journal transport ended)
    (fails : ended.1 = .error error) :
    error.isFatal = true ↔
      configuration.mode = .online ∧ ∃ way exit, transport = some way ∧
        Exit.first? registry configuration.networkName
          (asked configuration way state journal).1.1 = some exit ∧
        (exit = .otherGenesis ∨ exit = .otherChain) := by
  cases ends with
  | unknown missing problem =>
    cases fails
    constructor
    · intro fatal
      simp [StartupError.isFatal, RegistryError.isFatal, problem] at fatal
    · rintro ⟨-, way, exit, -, first, mismatch⟩
      have unknownFirst : Exit.first? registry configuration.networkName
          (asked configuration way state journal).1.1 = some .unknownName := by
        simp [Exit.first?, Exit.precedence, Exit.applies, missing]
      obtain rfl : Exit.unknownName = exit := Option.some.inj (unknownFirst.symm.trans first)
      simp at mismatch
  | offline found mode => cases fails
  | noTransport found mode =>
    cases fails
    simp [StartupError.isFatal]
  | verified found mode confirms => cases fails
  | refused found mode first raises =>
    cases fails
    rw [ofService_isFatal, raises.isFatal_eq, Exit.isMismatch_iff]
    constructor
    · intro mismatch
      exact ⟨mode, _, _, rfl, first, mismatch⟩
    · rintro ⟨-, way, exit, same, first', mismatch⟩
      obtain rfl := Option.some.inj same
      obtain rfl := Option.some.inj (first.symm.trans first')
      exact mismatch

/-- Offline, startup leaves the node alone. -/
theorem Ends.state_of_offline (mode : configuration.mode = .offline)
    (ends : Ends registry configuration state journal transport ended) : ended.2 = state := by
  cases ends with
  | unknown missing problem => rfl
  | offline found mode' => rfl
  | noTransport found online => rfl
  | verified found online confirms =>
    rw [mode] at online
    cases online
  | refused found online first raises =>
    rw [mode] at online
    cases online

end

/-- What startup loads is the configuration that is loaded. -/
theorem load_of_ok {registry : Registry} {values : Variables} {journal : Journal}
    {configuration : Configuration}
    (loaded : (load registry values journal).1 = .ok configuration) :
    (Configuration.load registry values journal).1 = .ok configuration := by
  rcases loads : Configuration.load registry values journal with ⟨outcome, later⟩
  unfold load at loaded
  rw [Journaled.bind_outcome loads] at loaded
  cases outcome with
  | ok configuration' => exact congrArg Except.ok (Except.ok.inj loaded)
  | error error => cases loaded

/-- A configuration that is loaded names the network that it describes, where the registry finds
descriptors by the names of their own networks only. -/
theorem find?_of_load {registry : Registry} (isExact : registry.IsExact) {values : Variables}
    {journal : Journal} {configuration : Configuration}
    (loaded : (load registry values journal).1 = .ok configuration) :
    registry.find? configuration.networkName = some configuration.network := by
  obtain ⟨-, network, -, -, -, -, found, -⟩ :=
    Configuration.read_of_ok (Configuration.load_of_ok (load_of_ok loaded))
  rw [← isExact network configuration.network found] at found
  exact found

/-! ## The main statement -/

/-- Startup hands out a node only after it was verified.  Something is handed out exactly where
the registry knows the configured network and either the mode is offline or there is a way to a
node whose answers confirm it.  What is handed out holds what this calls for; a node in it
agrees with the registry's descriptor, and with that of the configuration where the
configuration was loaded from the same registry.  Offline nothing is sent, whatever way to the
node is given, and the outcome is the same for all of them.  An error is fatal exactly where it
says that the node is of another chain, and this is where the answers of the node were read and
differ from what the network requires. -/
theorem start_decides (registry : Registry) (configuration : Configuration)
    (transport : Option (Transport σ)) (state : σ) (journal : Journal) :
    let result := (start registry configuration transport state journal).1.1
    ((∃ service, result = .ok service) ↔
      (∃ descriptor, registry.find? configuration.networkName = some descriptor) ∧
      (configuration.mode = .offline ∨
        ∃ way report, transport = some way ∧
          Confirms registry configuration.networkName
            (asked configuration way state journal).1.1 report)) ∧
    (∀ service, result = .ok service → Holds registry configuration transport service ∧
      ∀ node, service.node = some node → registry.IsExact →
        ∀ values earlier, (load registry values earlier).1 = .ok configuration →
          Agrees node configuration.network) ∧
    (configuration.mode = .offline →
      (∀ other, start registry configuration other state journal
        = start registry configuration transport state journal) ∧
      ∀ way sent, (start registry configuration (some (Transport.recorded way)) (sent, state)
        journal).1.2 = (sent, state)) ∧
    (∀ error, result = .error error →
      (error.isFatal = true ↔
        ∃ refused, error = .registry refused ∧ refused.problem = .genesisMismatch) ∧
      (error.isFatal = true ↔
        configuration.mode = .online ∧ ∃ way exit, transport = some way ∧
          Exit.first? registry configuration.networkName
            (asked configuration way state journal).1.1 = some exit ∧
          (exit = .otherGenesis ∨ exit = .otherChain))) := by
  intro result
  have ends := start_ends registry configuration transport state journal
  refine ⟨ends.ok_iff, ?_, ?_, ?_⟩
  · intro service handsOut
    have holds := ends.holds handsOut
    refine ⟨holds, ?_⟩
    intro node hasNode isExact values earlier loaded
    obtain ⟨descriptor, found, agrees⟩ := holds.agrees node hasNode
    obtain rfl : descriptor = configuration.network :=
      Option.some.inj (found.symm.trans (find?_of_load isExact loaded))
    exact agrees
  · intro mode
    refine ⟨fun other => start_offline_congr mode registry transport other state journal, ?_⟩
    intro way sent
    exact (start_ends registry configuration (some way.recorded) (sent, state)
      journal).state_of_offline mode
  · intro error fails
    exact ⟨isFatal_iff error, ends.isFatal_iff fails⟩

end

end Startup

end ChainIdentity
