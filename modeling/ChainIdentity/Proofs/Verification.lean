import ChainIdentity.Node.Verification
import ChainIdentity.Proofs.Conversation
import ChainIdentity.Proofs.Registry

/-!
# What a verification decides

A verification is decided by three things: the registry, the name, and what came back from the
one round trip.  `Confirms` says of these three what makes a verification succeed, and `Exit`
lists the nine ways in which it fails.  Each exit has a condition of its own (`Exit.applies`)
that does not refer to the other exits, and an error of its own (`Exit.Raises`); which of
several exits that apply at once is taken is only a matter of the order `Exit.precedence`.

`verify_decides` is the main statement: a verification ends with a report if and only if the
answers confirm it, and otherwise with the error of the first exit in that order which applies.
The proof runs along the code: `settle_settles` goes through the two answers, where the order of
the steps is the order of the exits, and `verify_settles` adds the look-up in front of them and
the round trip itself.
-/

namespace ChainIdentity

namespace Verification

/-! ## The answers to the two questions -/

/-- What comes back when both questions are put in one round trip. -/
abbrev BatchOutcome := Except TransportError (List (Except TransportError Json))

/-- The answer at a position, where the round trip brought one. -/
def answerAt? (outcome : BatchOutcome) (position : Nat) : Option (Except TransportError Json) :=
  match outcome with
  | .ok answers => answers[position]?
  | .error _ => none

/-- What the first answer says about the first block, where it is a result. -/
def block? (outcome : BatchOutcome) : Option (Except BlockFault BlockId) :=
  match answerAt? outcome 0 with
  | some (.ok block) => some (BlockId.ofNode block)
  | _ => none

/-- What the second answer says about the chain id, where it is a result. -/
def quantity? (outcome : BatchOutcome) : Option (Except QuantityFault Quantity) :=
  match answerAt? outcome 1 with
  | some (.ok quantity) => some (Quantity.ofNode quantity)
  | _ => none

/-- The answers confirm a report for a network: the name has a descriptor, there are at least
two answers, the first two are results that can be read, what they say is the report, and the
report is what the descriptor requires. -/
def Confirms (registry : Registry) (name : String) (outcome : BatchOutcome)
    (report : NodeReport) : Prop :=
  ∃ descriptor block quantity further,
    registry.find? name = some descriptor ∧
    outcome = .ok (.ok block :: .ok quantity :: further) ∧
    BlockId.ofNode block = .ok report.genesis ∧ report.genesis = descriptor.genesis ∧
    Quantity.ofNode quantity = .ok report.chainId ∧ report.chainId = descriptor.chainId

/-- The same answers confirm no two reports, whatever the names are under which they are read. -/
theorem Confirms.unique {registry : Registry} {name name' : String} {outcome : BatchOutcome}
    {report report' : NodeReport} (confirms : Confirms registry name outcome report)
    (confirms' : Confirms registry name' outcome report') : report = report' := by
  obtain ⟨-, block, quantity, further, -, rfl, readBlock, -, readQuantity, -⟩ := confirms
  obtain ⟨-, block', quantity', further', -, same, readBlock', -, readQuantity', -⟩ := confirms'
  cases same
  obtain ⟨genesis, chainId⟩ := report
  obtain ⟨genesis', chainId'⟩ := report'
  rw [readBlock] at readBlock'
  rw [readQuantity] at readQuantity'
  cases readBlock'
  cases readQuantity'
  rfl

/-! ## The ways out without a report -/

/-- A way in which a verification ends without a report. -/
inductive Exit where
  /-- The name has no descriptor. -/
  | unknownName
  /-- The round trip as a whole fails. -/
  | noRoundTrip
  /-- There are fewer than two answers. -/
  | tooShort
  /-- The first answer is an error. -/
  | noBlock
  /-- The first answer cannot be read as a block. -/
  | unreadableBlock
  /-- The second answer is an error. -/
  | noQuantity
  /-- The second answer cannot be read as a quantity. -/
  | unreadableQuantity
  /-- The first block is not the one that the network requires. -/
  | otherGenesis
  /-- The chain id is not the one that the network requires. -/
  | otherChain
deriving DecidableEq, Repr

namespace Exit

/-- The exits in the order in which they are taken. -/
def precedence : List Exit :=
  [unknownName, noRoundTrip, tooShort, noBlock, unreadableBlock, noQuantity, unreadableQuantity,
    otherGenesis, otherChain]

/-- Whether an exit applies, whatever may be said of the others. -/
def applies (registry : Registry) (name : String) (outcome : BatchOutcome) : Exit → Bool
  | unknownName => (registry.find? name).isNone
  | noRoundTrip =>
    match outcome with
    | .ok _ => false
    | .error _ => true
  | tooShort =>
    match outcome with
    | .ok answers => answers.length < 2
    | .error _ => false
  | noBlock =>
    match answerAt? outcome 0 with
    | some (.error _) => true
    | _ => false
  | unreadableBlock =>
    match block? outcome with
    | some (.error _) => true
    | _ => false
  | noQuantity =>
    match answerAt? outcome 1 with
    | some (.error _) => true
    | _ => false
  | unreadableQuantity =>
    match quantity? outcome with
    | some (.error _) => true
    | _ => false
  | otherGenesis =>
    match registry.find? name, block? outcome with
    | some descriptor, some (.ok observed) => observed != descriptor.genesis
    | _, _ => false
  | otherChain =>
    match registry.find? name, quantity? outcome with
    | some descriptor, some (.ok observed) => observed != descriptor.chainId
    | _, _ => false

/-- The exit that is taken: the first one that applies. -/
def first? (registry : Registry) (name : String) (outcome : BatchOutcome) : Option Exit :=
  precedence.find? (applies registry name outcome)

/-- Whether an error is the error of an exit.  Errors that come from the transport are passed on
as they are; the others are raised here, and kind and note say what they are raised with. -/
def Raises (registry : Registry) (name : String) (outcome : BatchOutcome) :
    Exit → ServiceError → Prop
  | unknownName, .registry error =>
    error.problem = .unsupportedNetwork ∧ error.context.note = registry.unsupported name
  | noRoundTrip, .transport error => outcome = .error error
  | tooShort, .transport error =>
    error.problem = .unreadable ∧
      error.context.note = .about "batch response is missing entries" [("network", name)]
  | noBlock, .transport error => answerAt? outcome 0 = some (.error error)
  | unreadableBlock, .transport error =>
    ∃ fault, block? outcome = some (.error fault) ∧
      error.problem = .unreadable ∧ error.context.note = .ofMethod blockMethod fault.message
  | noQuantity, .transport error => answerAt? outcome 1 = some (.error error)
  | unreadableQuantity, .transport error =>
    ∃ fault, quantity? outcome = some (.error fault) ∧
      error.problem = .unreadable ∧ error.context.note = .ofMethod chainIdMethod fault.message
  | otherGenesis, .registry error =>
    ∃ descriptor observed,
      registry.find? name = some descriptor ∧ block? outcome = some (.ok observed) ∧
      error.problem = .genesisMismatch ∧
      error.context.note = (Refusal.otherGenesis name observed descriptor.genesis).note
  | otherChain, .registry error =>
    ∃ descriptor observed,
      registry.find? name = some descriptor ∧ quantity? outcome = some (.ok observed) ∧
      error.problem = .genesisMismatch ∧
      error.context.note = (Refusal.otherChain name observed descriptor.chainId).note
  | _, _ => False

/-- Whether the exit is one of the two at which the node turns out to serve another chain. -/
def isMismatch : Exit → Bool
  | otherGenesis | otherChain => true
  | _ => false

/-- A mismatch is one of the first block or one of the chain id. -/
theorem isMismatch_iff (exit : Exit) :
    exit.isMismatch = true ↔ exit = .otherGenesis ∨ exit = .otherChain := by
  cases exit <;> simp [isMismatch]

/-- The error of an exit is fatal only where the node serves another chain. -/
theorem Raises.isFatal_eq {registry : Registry} {name : String} {outcome : BatchOutcome}
    {exit : Exit} {error : ServiceError} (raised : Raises registry name outcome exit error) :
    error.isFatal = exit.isMismatch := by
  cases exit <;> cases error <;> simp only [Raises] at raised
  case unknownName.registry error =>
    simp [ServiceError.isFatal, RegistryError.isFatal, raised.1, isMismatch]
  case otherGenesis.registry error =>
    obtain ⟨-, -, -, -, problem, -⟩ := raised
    simp [ServiceError.isFatal, RegistryError.isFatal, problem, isMismatch]
  case otherChain.registry error =>
    obtain ⟨-, -, -, -, problem, -⟩ := raised
    simp [ServiceError.isFatal, RegistryError.isFatal, problem, isMismatch]
  -- What is left are the errors of the transport, none of which is fatal.
  all_goals rfl

end Exit

/-! ## The steps of a verification -/

section

variable {σ α : Type} {registry : Registry} {name : String} {descriptor : Descriptor}
  {state : σ} {journal later : Journal}

/-- An answer of the registry is the value of the step, and the node is left as it is. -/
theorem ofRegistry_of_ok {answer : Answer α} {value : α}
    (ends : answer journal = (.ok value, later)) :
    ofRegistry answer state journal = ((.ok value, state), later) := by
  apply Attempt.mapError_of_ok
  rw [Attempt.ofJournaled_apply, ends]

/-- A refusal of the registry is the error of the step, and the node is left as it is. -/
theorem ofRegistry_of_error {answer : Answer α} {error : RegistryError}
    (ends : answer journal = (.error error, later)) :
    ofRegistry answer state journal = ((.error (.registry error), state), later) := by
  apply Attempt.mapError_of_error
  rw [Attempt.ofJournaled_apply, ends]

/-- What is read from an answer is the value of the step, and the node is left as it is. -/
theorem ofTrip_of_ok {trip : Trip α} {value : α} (ends : trip journal = (.ok value, later)) :
    ofTrip trip state journal = ((.ok value, state), later) := by
  apply Attempt.mapError_of_ok
  rw [Attempt.ofJournaled_apply, ends]

/-- An answer that cannot be read is the error of the step, and the node is left as it is. -/
theorem ofTrip_of_error {trip : Trip α} {error : TransportError}
    (ends : trip journal = (.error error, later)) :
    ofTrip trip state journal = ((.error (.transport error), state), later) := by
  apply Attempt.mapError_of_error
  rw [Attempt.ofJournaled_apply, ends]

/-- What comes back from a round trip is the value of the step. -/
theorem ofTransport_of_ok {trip : Attempt σ TransportError α} {value : α} {state' : σ}
    (ends : trip state journal = ((.ok value, state'), later)) :
    ofTransport trip state journal = ((.ok value, state'), later) :=
  Attempt.mapError_of_ok ends

/-- A round trip that fails is the error of the step. -/
theorem ofTransport_of_error {trip : Attempt σ TransportError α} {error : TransportError}
    {state' : σ} (ends : trip state journal = ((.error error, state'), later)) :
    ofTransport trip state journal = ((.error (.transport error), state'), later) :=
  Attempt.mapError_of_error ends

/-- An answer that is a result is taken as it is. -/
theorem given_ok (value : α) :
    (ofTrip (ExceptT.mk (pure (.ok value))) : Attempt σ ServiceError α) state journal
      = ((.ok value, state), journal) := ofTrip_of_ok rfl

/-- An answer that is an error ends the verification with it. -/
theorem given_error (error : TransportError) :
    (ofTrip (ExceptT.mk (pure (.error error))) : Attempt σ ServiceError α) state journal
      = ((.error (.transport error), state), journal) := ofTrip_of_error rfl

/-- A report that is what the network requires passes the comparison. -/
theorem compare_of_eq {report : NodeReport} (found : registry.find? name = some descriptor)
    (genesisEq : report.genesis = descriptor.genesis)
    (chainEq : report.chainId = descriptor.chainId) :
    compare registry name report state journal = ((.ok (), state), journal) := by
  unfold compare
  rw [Attempt.bind_of_ok (ofRegistry_of_ok (registry.validateGenesis_of_eq found genesisEq _))]
  exact ofRegistry_of_ok (registry.validateChainId_of_eq found chainEq _)

/-- Another first block fails the comparison, whatever the chain id is. -/
theorem compare_of_genesis_ne (report : NodeReport)
    (found : registry.find? name = some descriptor)
    (genesisNe : report.genesis ≠ descriptor.genesis) :
    ∃ error later,
      (∀ {σ : Type} (state : σ), compare registry name report state journal
        = ((.error (.registry error), state), later)) ∧
      error.problem = .genesisMismatch ∧
      error.context.note
        = (Refusal.otherGenesis name report.genesis descriptor.genesis).note := by
  obtain ⟨error, later, refused, raised⟩ :=
    registry.validateGenesis_of_ne found genesisNe journal
  exact ⟨error, later, fun _ => Attempt.bind_of_error (ofRegistry_of_error refused), raised⟩

/-- Another chain id fails the comparison where the first block is right. -/
theorem compare_of_chainId_ne (report : NodeReport)
    (found : registry.find? name = some descriptor)
    (genesisEq : report.genesis = descriptor.genesis)
    (chainNe : report.chainId ≠ descriptor.chainId) :
    ∃ error later,
      (∀ {σ : Type} (state : σ), compare registry name report state journal
        = ((.error (.registry error), state), later)) ∧
      error.problem = .genesisMismatch ∧
      error.context.note
        = (Refusal.otherChain name report.chainId descriptor.chainId).note := by
  obtain ⟨error, later, refused, raised⟩ := registry.validateChainId_of_ne found chainNe journal
  refine ⟨error, later, fun state => ?_, raised⟩
  unfold compare
  rw [Attempt.bind_of_ok (ofRegistry_of_ok (registry.validateGenesis_of_eq found genesisEq _))]
  exact ofRegistry_of_error refused

end

/-! ## Settling the answers -/

/-- A result is what the registry, the name and the answers call for: a report that the answers
confirm where no exit applies, and the error of the first exit that does otherwise. -/
def Settles (registry : Registry) (name : String) (outcome : BatchOutcome)
    (result : Except ServiceError NodeReport) : Prop :=
  match Exit.first? registry name outcome with
  | none => ∃ report, result = .ok report ∧ Confirms registry name outcome report
  | some exit => ∃ error, result = .error error ∧ Exit.Raises registry name outcome exit error

/-- Where an exit applies, its error is what is called for. -/
theorem Settles.of_exit {registry : Registry} {name : String} {outcome : BatchOutcome}
    {exit : Exit} {error : ServiceError}
    (first : Exit.first? registry name outcome = some exit)
    (raises : Exit.Raises registry name outcome exit error) :
    Settles registry name outcome (.error error) := by
  unfold Settles
  rw [first]
  exact ⟨error, rfl, raises⟩

/-- Where no exit applies, a report that the answers confirm is what is called for. -/
theorem Settles.of_confirms {registry : Registry} {name : String} {outcome : BatchOutcome}
    {report : NodeReport} (first : Exit.first? registry name outcome = none)
    (confirms : Confirms registry name outcome report) :
    Settles registry name outcome (.ok report) := by
  unfold Settles
  rw [first]
  exact ⟨report, rfl, confirms⟩

/-- The judgement on the answers is what they call for, and it is the same in every state of the
node, which it leaves alone. -/
def Judged (registry : Registry) (name : String)
    (answers : List (Except TransportError Json)) (journal : Journal) : Prop :=
  ∃ result later,
    (∀ {σ : Type} (state : σ),
      settle registry name answers state journal = ((result, state), later)) ∧
    Settles registry name (.ok answers) result

section

variable {registry : Registry} {name : String} {descriptor : Descriptor}

/-- Fewer than two answers are no answer. -/
theorem settle_tooShort (found : registry.find? name = some descriptor)
    {answers : List (Except TransportError Json)} (short : answers.length < 2)
    (journal : Journal) :
    Judged registry name answers journal := by
  let raised := TransportError.unreadable
    (.about "batch response is missing entries" [("network", name)]) none journal
  have first : Exit.first? registry name (.ok answers) = some .tooShort := by
    simp [Exit.first?, Exit.precedence, Exit.applies, found, short]
  refine ⟨.error (.transport raised.1), raised.2, ?_,
    .of_exit first ⟨rfl, TransportError.unreadable_note _ _ _⟩⟩
  intro σ state
  rcases answers with _ | ⟨first, _ | ⟨second, further⟩⟩
  · rfl
  · rfl
  · simp only [List.length_cons] at short
    omega

/-- A first answer that is an error decides, whatever the second one is. -/
theorem settle_noBlock (found : registry.find? name = some descriptor) (error : TransportError)
    (second : Except TransportError Json) (further : List (Except TransportError Json))
    (journal : Journal) :
    Judged registry name (.error error :: second :: further) journal := by
  have first : Exit.first? registry name (.ok (.error error :: second :: further))
      = some .noBlock := by
    simp [Exit.first?, Exit.precedence, Exit.applies, found, answerAt?]
  exact ⟨.error (.transport error), journal, fun _ => Attempt.bind_of_error (given_error error),
    .of_exit first rfl⟩

/-- A first answer that cannot be read decides, whatever the second one is. -/
theorem settle_unreadableBlock (found : registry.find? name = some descriptor) {block : Json}
    {fault : BlockFault} (readBlock : BlockId.ofNode block = .error fault)
    (second : Except TransportError Json) (further : List (Except TransportError Json))
    (journal : Journal) :
    Judged registry name (.ok block :: second :: further) journal := by
  have saysBlock : block? (.ok (.ok block :: second :: further)) = some (.error fault) :=
    congrArg some readBlock
  have first : Exit.first? registry name (.ok (.ok block :: second :: further))
      = some .unreadableBlock := by
    simp [Exit.first?, Exit.precedence, Exit.applies, found, saysBlock, answerAt?]
  obtain ⟨error, later, refused, problem, note⟩ := BlockId.parse_of_error readBlock journal
  refine ⟨.error (.transport error), later, fun state => ?_,
    .of_exit first ⟨fault, saysBlock, problem, note⟩⟩
  unfold settle
  simp only
  rw [Attempt.bind_of_ok (given_ok block)]
  exact Attempt.bind_of_error (ofTrip_of_error refused)

/-- Behind a first block that can be read, a second answer that is an error decides. -/
theorem settle_noQuantity (found : registry.find? name = some descriptor) {block : Json}
    {genesis : BlockId} (readBlock : BlockId.ofNode block = .ok genesis)
    (error : TransportError) (further : List (Except TransportError Json)) (journal : Journal) :
    Judged registry name (.ok block :: .error error :: further) journal := by
  have saysBlock : block? (.ok (.ok block :: .error error :: further)) = some (.ok genesis) :=
    congrArg some readBlock
  have first : Exit.first? registry name (.ok (.ok block :: .error error :: further))
      = some .noQuantity := by
    simp [Exit.first?, Exit.precedence, Exit.applies, found, saysBlock, answerAt?]
  refine ⟨.error (.transport error), journal, fun state => ?_, .of_exit first rfl⟩
  unfold settle
  simp only
  rw [Attempt.bind_of_ok (given_ok block),
    Attempt.bind_of_ok (ofTrip_of_ok (BlockId.parse_of_ok readBlock journal))]
  exact Attempt.bind_of_error (given_error error)

/-- Behind a first block that can be read, a second answer that cannot be read decides. -/
theorem settle_unreadableQuantity (found : registry.find? name = some descriptor)
    {block quantity : Json} {genesis : BlockId} {fault : QuantityFault}
    (readBlock : BlockId.ofNode block = .ok genesis)
    (readQuantity : Quantity.ofNode quantity = .error fault)
    (further : List (Except TransportError Json)) (journal : Journal) :
    Judged registry name (.ok block :: .ok quantity :: further) journal := by
  have saysBlock : block? (.ok (.ok block :: .ok quantity :: further)) = some (.ok genesis) :=
    congrArg some readBlock
  have saysQuantity : quantity? (.ok (.ok block :: .ok quantity :: further))
      = some (.error fault) := congrArg some readQuantity
  have first : Exit.first? registry name (.ok (.ok block :: .ok quantity :: further))
      = some .unreadableQuantity := by
    simp [Exit.first?, Exit.precedence, Exit.applies, found, saysBlock, saysQuantity, answerAt?]
  obtain ⟨error, later, refused, problem, note⟩ :=
    Quantity.parse_of_error readQuantity chainIdMethod journal
  refine ⟨.error (.transport error), later, fun state => ?_,
    .of_exit first ⟨fault, saysQuantity, problem, note⟩⟩
  unfold settle
  simp only
  rw [Attempt.bind_of_ok (given_ok block),
    Attempt.bind_of_ok (ofTrip_of_ok (BlockId.parse_of_ok readBlock journal)),
    Attempt.bind_of_ok (given_ok quantity)]
  exact Attempt.bind_of_error (ofTrip_of_error refused)

/-- Two answers that can be read are compared with what the network requires, the first block
before the chain id. -/
theorem settle_readable (found : registry.find? name = some descriptor) {block quantity : Json}
    {genesis : BlockId} {chainId : Quantity} (readBlock : BlockId.ofNode block = .ok genesis)
    (readQuantity : Quantity.ofNode quantity = .ok chainId)
    (further : List (Except TransportError Json)) (journal : Journal) :
    Judged registry name (.ok block :: .ok quantity :: further) journal := by
  let report : NodeReport := ⟨genesis, chainId⟩
  let outcome : BatchOutcome := .ok (.ok block :: .ok quantity :: further)
  have saysBlock : block? outcome = some (.ok genesis) := congrArg some readBlock
  have saysQuantity : quantity? outcome = some (.ok chainId) := congrArg some readQuantity
  have compared : ∀ {σ : Type} (state : σ),
      settle registry name (.ok block :: .ok quantity :: further) state journal =
        (compare registry name report >>= fun _ => pure report) state journal := by
    intro σ state
    unfold settle
    simp only
    rw [Attempt.bind_of_ok (given_ok block),
      Attempt.bind_of_ok (ofTrip_of_ok (BlockId.parse_of_ok readBlock journal)),
      Attempt.bind_of_ok (given_ok quantity),
      Attempt.bind_of_ok (ofTrip_of_ok (Quantity.parse_of_ok readQuantity _ journal))]
  by_cases genesisEq : genesis = descriptor.genesis
  · by_cases chainEq : chainId = descriptor.chainId
    · have first : Exit.first? registry name outcome = none := by
        simp [Exit.first?, Exit.precedence, Exit.applies, found, saysBlock, saysQuantity,
          genesisEq, chainEq, outcome, answerAt?]
      refine ⟨.ok report, journal, fun state => ?_, .of_confirms first
        ⟨descriptor, block, quantity, further, found, rfl, readBlock, genesisEq, readQuantity,
          chainEq⟩⟩
      rw [compared, Attempt.bind_of_ok (compare_of_eq found genesisEq chainEq)]
      rfl
    · have first : Exit.first? registry name outcome = some .otherChain := by
        simp [Exit.first?, Exit.precedence, Exit.applies, found, saysBlock, saysQuantity,
          genesisEq, chainEq, outcome, answerAt?]
      obtain ⟨error, later, refused, problem, note⟩ :=
        compare_of_chainId_ne report found genesisEq chainEq
      refine ⟨.error (.registry error), later, fun state => ?_, .of_exit first
        ⟨descriptor, chainId, found, saysQuantity, problem, note⟩⟩
      rw [compared, Attempt.bind_of_error (refused state)]
  · have first : Exit.first? registry name outcome = some .otherGenesis := by
      simp [Exit.first?, Exit.precedence, Exit.applies, found, saysBlock, saysQuantity,
        genesisEq, outcome, answerAt?]
    obtain ⟨error, later, refused, problem, note⟩ :=
      compare_of_genesis_ne report found genesisEq
    refine ⟨.error (.registry error), later, fun state => ?_, .of_exit first
      ⟨descriptor, genesis, found, saysBlock, problem, note⟩⟩
    rw [compared, Attempt.bind_of_error (refused state)]

/-- The answers of a round trip settle the verification of a name that has a descriptor.  The
cases are those of the code, in its order: how many answers there are, whether the first is a
result, whether it can be read, and the same for the second. -/
theorem settle_settles (found : registry.find? name = some descriptor)
    (answers : List (Except TransportError Json)) (journal : Journal) :
    Judged registry name answers journal := by
  rcases answers with _ | ⟨first, _ | ⟨second, further⟩⟩
  · exact settle_tooShort found (by simp) journal
  · exact settle_tooShort found (by simp) journal
  cases first with
  | error error => exact settle_noBlock found error second further journal
  | ok block =>
    cases readBlock : BlockId.ofNode block with
    | error fault => exact settle_unreadableBlock found readBlock second further journal
    | ok genesis =>
      cases second with
      | error error => exact settle_noQuantity found readBlock error further journal
      | ok quantity =>
        cases readQuantity : Quantity.ofNode quantity with
        | error fault =>
          exact settle_unreadableQuantity found readBlock readQuantity further journal
        | ok chainId => exact settle_readable found readBlock readQuantity further journal

end

/-! ## The whole verification -/

section

variable {σ : Type} {registry : Registry} {name : String}

/-- What comes back from a node when a verification asks its two questions. -/
def asked (transport : Transport σ) (name : String) (state : σ) (journal : Journal) :
    (BatchOutcome × σ) × Journal :=
  transport.batch [genesisRequest, chainIdRequest] state
    (journal.inside ⟨"verify", [("network_name", .quoted name), ("network", .shown name)]⟩)

/-- The record of what is sent changes nothing else, and gets the two questions. -/
theorem asked_recorded (transport : Transport σ) (name : String) (sent : List Sent) (state : σ)
    (journal : Journal) :
    asked transport.recorded name (sent, state) journal
      = (((asked transport name state journal).1.1,
          (sent ++ [.several [genesisRequest, chainIdRequest]],
            (asked transport name state journal).1.2)),
        (asked transport name state journal).2) := rfl

/-- A verification of a name without a descriptor ends before anything is sent, so the node has
no part in it. -/
theorem verify_of_none (missing : registry.find? name = none) (journal : Journal) :
    ∃ result,
      (∀ {σ : Type} (transport : Transport σ) (state : σ),
        (verify registry transport name state journal).1 = (result, state)) ∧
      ∀ outcome, Settles registry name outcome result := by
  obtain ⟨error, later, refused, raised⟩ :=
    registry.descriptorFor_of_none missing
      (journal.inside ⟨"verify", [("network_name", .quoted name), ("network", .shown name)]⟩)
  refine ⟨.error (.registry error), fun transport state => ?_, fun outcome => ?_⟩
  · unfold verify
    rw [Attempt.within_fst, Attempt.bind_of_error (ofRegistry_of_error refused)]
  · have first : Exit.first? registry name outcome = some .unknownName := by
      simp [Exit.first?, Exit.precedence, Exit.applies, missing]
    exact .of_exit first raised

/-- A verification of a name that has a descriptor is settled by what comes back, and takes
nothing else from the node. -/
theorem verify_of_some {descriptor : Descriptor} (found : registry.find? name = some descriptor)
    (outcome : BatchOutcome) (later : Journal) :
    ∃ result,
      (∀ {σ : Type} (transport : Transport σ) (state state' : σ) (journal : Journal),
        asked transport name state journal = ((outcome, state'), later) →
        (verify registry transport name state journal).1 = (result, state')) ∧
      Settles registry name outcome result := by
  cases outcome with
  | error error =>
    have first : Exit.first? registry name (.error error) = some .noRoundTrip := by
      simp [Exit.first?, Exit.precedence, Exit.applies, found]
    refine ⟨.error (.transport error), ?_, .of_exit first rfl⟩
    intro σ transport state state' journal back
    unfold asked at back
    unfold verify
    rw [Attempt.within_fst,
      Attempt.bind_of_ok (ofRegistry_of_ok (registry.descriptorFor_of_some found _)),
      Attempt.bind_of_error (ofTransport_of_error back)]
  | ok answers =>
    obtain ⟨result, later', settled, settles⟩ := settle_settles found answers later
    refine ⟨result, ?_, settles⟩
    intro σ transport state state' journal back
    unfold asked at back
    unfold verify
    rw [Attempt.within_fst,
      Attempt.bind_of_ok (ofRegistry_of_ok (registry.descriptorFor_of_some found _)),
      Attempt.bind_of_ok (ofTransport_of_ok back)]
    cases result with
    | error error => rw [Attempt.bind_of_error (settled state')]
    | ok report =>
      rw [Attempt.bind_of_ok (settled state'), Attempt.bind_journaled, Attempt.pure_apply]

/-- Every verification is settled by the registry, the name and what comes back from the one
round trip, and the node is left in the state behind that round trip, where there is one. -/
theorem verify_settles (registry : Registry) (transport : Transport σ) (name : String)
    (state : σ) (journal : Journal) :
    Settles registry name (asked transport name state journal).1.1
        (verify registry transport name state journal).1.1 ∧
      (verify registry transport name state journal).1.2
        = (if (registry.find? name).isSome then (asked transport name state journal).1.2
          else state) := by
  cases found : registry.find? name with
  | none =>
    obtain ⟨result, runs, settles⟩ := verify_of_none found journal
    rw [runs transport state]
    exact ⟨settles _, rfl⟩
  | some descriptor =>
    obtain ⟨result, runs, settles⟩ := verify_of_some found
      (asked transport name state journal).1.1 (asked transport name state journal).2
    rw [runs transport state _ journal rfl]
    exact ⟨settles, rfl⟩

/-- The record of what is sent changes nothing else in a verification. -/
theorem verify_recorded (registry : Registry) (transport : Transport σ) (name : String)
    (sent : List Sent) (state : σ) (journal : Journal) :
    (verify registry transport.recorded name (sent, state) journal).1
      = ((verify registry transport name state journal).1.1,
        (if (registry.find? name).isSome then
            sent ++ [.several [genesisRequest, chainIdRequest]] else sent),
        (verify registry transport name state journal).1.2) := by
  cases found : registry.find? name with
  | none =>
    obtain ⟨result, runs, -⟩ := verify_of_none found journal
    rw [runs transport.recorded (sent, state), runs transport state]
    rfl
  | some descriptor =>
    obtain ⟨result, runs, -⟩ := verify_of_some found
      (asked transport name state journal).1.1 (asked transport name state journal).2
    rw [runs _ _ _ _ (asked_recorded transport name sent state journal),
      runs transport state _ journal rfl]
    rfl

/-- Where the answers confirm a report no exit applies. -/
theorem Confirms.first?_eq_none {registry : Registry} {name : String} {outcome : BatchOutcome}
    {report : NodeReport} (confirms : Confirms registry name outcome report) :
    Exit.first? registry name outcome = none := by
  obtain ⟨descriptor, block, quantity, further, found, rfl, readBlock, genesisEq, readQuantity,
    chainEq⟩ := confirms
  have saysBlock : block? (.ok (.ok block :: .ok quantity :: further))
      = some (.ok report.genesis) := congrArg some readBlock
  have saysQuantity : quantity? (.ok (.ok block :: .ok quantity :: further))
      = some (.ok report.chainId) := congrArg some readQuantity
  simp [Exit.first?, Exit.precedence, Exit.applies, found, saysBlock, saysQuantity, genesisEq,
    chainEq, answerAt?]

/-- What settles a verification with a report is that the answers confirm it. -/
theorem Settles.ok_iff {registry : Registry} {name : String} {outcome : BatchOutcome}
    {result : Except ServiceError NodeReport} (settles : Settles registry name outcome result)
    (report : NodeReport) :
    result = .ok report ↔ Confirms registry name outcome report := by
  unfold Settles at settles
  constructor
  · rintro rfl
    cases first : Exit.first? registry name outcome with
    | none =>
      rw [first] at settles
      obtain ⟨report', same, confirms⟩ := settles
      obtain rfl : report = report' := Except.ok.inj same
      exact confirms
    | some exit =>
      rw [first] at settles
      obtain ⟨error, contra, -⟩ := settles
      cases contra
  · intro confirms
    rw [confirms.first?_eq_none] at settles
    obtain ⟨report', same, confirms'⟩ := settles
    rw [same, confirms.unique confirms']

/-- What settles a verification with an error is the first exit that applies. -/
theorem Settles.of_error {registry : Registry} {name : String} {outcome : BatchOutcome}
    {error : ServiceError} (settles : Settles registry name outcome (.error error)) :
    ∃ exit, Exit.first? registry name outcome = some exit ∧
      Exit.Raises registry name outcome exit error ∧ error.isFatal = exit.isMismatch := by
  unfold Settles at settles
  cases first : Exit.first? registry name outcome with
  | none =>
    rw [first] at settles
    obtain ⟨report, contra, -⟩ := settles
    cases contra
  | some exit =>
    rw [first] at settles
    obtain ⟨error', same, raises⟩ := settles
    obtain rfl : error = error' := Except.error.inj same
    exact ⟨exit, rfl, raises, raises.isFatal_eq⟩

/-- A verification decides exactly.  It ends with a report if and only if the answers confirm
it; it ends with an error if and only if an exit applies, with the error of the first one in the
order of `Exit.precedence`; and the error is fatal if and only if that exit is one of the last
two.  What the node gets are the two questions in one round trip, and nothing at all where the
name has no descriptor. -/
theorem verify_decides (registry : Registry) (transport : Transport σ) (name : String)
    (state : σ) (journal : Journal) :
    let outcome := (asked transport name state journal).1.1
    let result := (verify registry transport name state journal).1.1
    (∀ report, result = .ok report ↔ Confirms registry name outcome report) ∧
    (∀ error, result = .error error → ∃ exit,
      Exit.first? registry name outcome = some exit ∧
      Exit.Raises registry name outcome exit error ∧
      (error.isFatal = true ↔ exit = .otherGenesis ∨ exit = .otherChain)) ∧
    (∀ exit, Exit.first? registry name outcome = some exit → ∃ error, result = .error error) ∧
    ∀ sent,
      (verify registry transport.recorded name (sent, state) journal).1
        = (result,
          if (registry.find? name).isSome then
            (sent ++ [.several [genesisRequest, chainIdRequest]],
              (asked transport name state journal).1.2)
          else (sent, state)) := by
  intro outcome result
  obtain ⟨settles, stateAfter⟩ := verify_settles registry transport name state journal
  refine ⟨fun report => settles.ok_iff report, ?_, ?_, ?_⟩
  · intro error ends
    rw [show (verify registry transport name state journal).1.1 = .error error from ends]
      at settles
    obtain ⟨exit, first, raises, fatal⟩ := settles.of_error
    refine ⟨exit, first, raises, ?_⟩
    rw [fatal]
    exact exit.isMismatch_iff
  · intro exit first
    unfold Settles at settles
    rw [first] at settles
    obtain ⟨error, ends, -⟩ := settles
    exact ⟨error, ends⟩
  · intro sent
    rw [verify_recorded, stateAfter]
    cases registry.find? name with
    | none => rfl
    | some descriptor => rfl

end

end Verification

end ChainIdentity
