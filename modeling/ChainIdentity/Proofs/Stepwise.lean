import ChainIdentity.Node.Script
import ChainIdentity.Proofs.Untraced
import ChainIdentity.Proofs.Verification

/-!
# Both questions at once or one after the other

A verification puts its two questions in one round trip (`verify`); it could as well put them one
after the other (`verifyStepwise`).  If the node answers the same either way, both end alike: with
the same report, or with errors that differ in nothing but their trace ids, so that of several
things that are wrong at once both report the same one.

Two runs end `Alike` if their outcomes are the same with the trace ids left out.  This carries over
from the steps of two conversations to the conversations (`alike_bind`), whatever the states of the
nodes and the journals are, so the proof goes along the two programs side by side and has no cases
of its own: the registry is asked in both (`ofRegistry_alike`), each answer is read in both
(`fetched_alike`), and the registry is asked in both what it says to the two readings.  The main
statement is `verify_alike_stepwise`.

That a node gives a certain answer is said of the outcome of the round trip, again apart from trace
ids, and for every journal: an error that is made anew in every round trip is the same answer each
time (`Transport.Tells`, `Transport.TellsTogether`).  A node that follows a script is such a node
(`scripted_tells`, `scripted_tellsTogether`).
-/

namespace ChainIdentity

/-! ## What single steps leave behind -/

namespace Attempt

variable {σ ε ε' α β : Type}

/-- A change of error changes nothing but the error. -/
theorem mapError_apply (f : ε → ε') (run : Attempt σ ε α) (state : σ) (journal : Journal) :
    mapError f run state journal
      = (((run state journal).1.1.mapError f, (run state journal).1.2),
        (run state journal).2) := by
  rcases ends : run state journal with ⟨⟨outcome, state'⟩, journal'⟩
  cases outcome with
  | ok value => exact mapError_of_ok ends
  | error error => exact mapError_of_error ends

/-- What is only written to the journal behind a conversation does not change how it ends. -/
theorem bind_written_fst (run : Attempt σ ε α) (write : α → Journaled Unit) (state : σ)
    (journal : Journal) :
    ((run >>= fun value => (liftM (write value) : Attempt σ ε Unit) >>= fun _ => pure value)
        state journal).1.1 = (run state journal).1.1 := by
  rcases ends : run state journal with ⟨⟨outcome, state'⟩, journal'⟩
  cases outcome with
  | ok value => rw [bind_of_ok ends, bind_journaled, pure_apply]
  | error error => rw [bind_of_error ends]

end Attempt

/-! ## What a node answers -/

namespace Transport

variable {σ : Type}

/-- In a state, a node answers a request with a result, trace ids apart, whatever the journal holds,
and is in another state then. -/
def Tells (transport : Transport σ) (request : Request) (state : σ)
    (answer : Except TransportError Json) (after : σ) : Prop :=
  ∀ journal,
    (transport.call request state journal).1.1.mapError TransportError.untraced
      = answer.mapError TransportError.untraced ∧
    (transport.call request state journal).1.2 = after

/-- In a state, a node answers several requests with results, trace ids apart, whatever the journal
holds. -/
def TellsTogether (transport : Transport σ) (requests : List Request) (state : σ)
    (answers : List (Except TransportError Json)) : Prop :=
  ∀ journal, ∃ results, (transport.batch requests state journal).1.1 = .ok results ∧
    results.map (Except.mapError TransportError.untraced)
      = answers.map (Except.mapError TransportError.untraced)

end Transport

/-! ### Nodes that follow a script -/

/-- A reply of a script means the same whenever it comes, trace ids apart. -/
theorem Reply.answer_untraced (reply : Reply) (method : String) (journal journal' : Journal) :
    (reply.answer method journal).1.mapError TransportError.untraced
      = (reply.answer method journal').1.mapError TransportError.untraced := by
  have unreachable := fun message => TransportError.network_untraced (.plain message) none
  cases reply with
  | result value => rfl
  | response value => exact Response.decode_untraced method value journal journal'
  | network message =>
    exact congrArg Except.error
      ((unreachable message journal).trans (unreachable message journal').symm)
  | unreadable message =>
    have raised := TransportError.unreadable_untraced (.plain message) none
    exact congrArg Except.error ((raised journal).trans (raised journal').symm)
  | rpc code message =>
    have raised := TransportError.rpc_untraced code (.plain message)
    exact congrArg Except.error ((raised journal).trans (raised journal').symm)
  | http status url body =>
    have raised := TransportError.http_untraced status url body none none
    exact congrArg Except.error ((raised journal).trans (raised journal').symm)
  | several replies =>
    exact congrArg Except.error ((unreachable _ journal).trans (unreachable _ journal').symm)
  | nothing =>
    exact congrArg Except.error ((unreachable _ journal).trans (unreachable _ journal').symm)

/-- Several answers are those that each would be alone. -/
theorem Reply.answers_untraced {replies : List Reply} {requests : List Request}
    (lengthEq : replies.length = requests.length) (journal : Journal) :
    (Reply.answers replies requests journal).1.map (Except.mapError TransportError.untraced)
      = (List.zipWith (fun reply request => (reply.answer request.method .empty).1) replies
          requests).map (Except.mapError TransportError.untraced) := by
  induction replies generalizing requests journal with
  | nil => rfl
  | cons reply replies ih =>
    cases requests with
    | nil => cases lengthEq
    | cons request requests =>
      exact List.cons_eq_cons.mpr
        ⟨reply.answer_untraced request.method journal .empty, ih (Nat.succ.inj lengthEq) _⟩

/-- A node that follows a script tells what its next reply means. -/
theorem Transport.scripted_tells (url : String) (reply : Reply) (script : List Reply)
    (request : Request) :
    (scripted url).Tells request (reply :: script) (reply.answer request.method .empty).1
      script := by
  intro journal
  show ((Attempt.ofJournaled (reply.answer request.method) :
    Attempt (List Reply) TransportError Json) script journal).1.1.mapError _ = _ ∧
    ((Attempt.ofJournaled (reply.answer request.method) :
      Attempt (List Reply) TransportError Json) script journal).1.2 = _
  rw [Attempt.ofJournaled_apply]
  exact ⟨reply.answer_untraced request.method journal .empty, rfl⟩

/-- A node that follows a script tells together what several replies mean one by one. -/
theorem Transport.scripted_tellsTogether (url : String) {replies : List Reply}
    {requests : List Request} (lengthEq : replies.length = requests.length)
    (script : List Reply) :
    (scripted url).TellsTogether requests (.several replies :: script)
      (List.zipWith (fun reply request => (reply.answer request.method .empty).1) replies
        requests) := by
  intro journal
  exact ⟨_, rfl, Reply.answers_untraced lengthEq journal⟩

namespace Verification

/-! ## Outcomes apart from trace ids -/

/-- Two outcomes are the same apart from trace ids. -/
def Alike {α : Type} (outcome outcome' : Except ServiceError α) : Prop :=
  outcome.mapError ServiceError.untraced = outcome'.mapError ServiceError.untraced

section

variable {σ τ α β : Type}

/-- An outcome is like itself. -/
theorem Alike.refl (outcome : Except ServiceError α) : Alike outcome outcome := rfl

/-- Alike outcomes have the same value, if one of them has a value. -/
theorem Alike.eq_ok {outcome : Except ServiceError α} {value : α}
    (alike : Alike outcome (.ok value)) : outcome = .ok value := by
  cases outcome with
  | ok value' => exact congrArg Except.ok (Except.ok.inj alike)
  | error error => cases alike

/-- Alike first steps with alike continuations make alike conversations.  The continuations start
in whatever states and journals the first steps leave behind. -/
theorem alike_bind {left : Attempt σ ServiceError α} {right : Attempt τ ServiceError α}
    {next : α → Attempt σ ServiceError β} {next' : α → Attempt τ ServiceError β} {state : σ}
    {state' : τ} {journal journal' : Journal}
    (first : Alike (left state journal).1.1 (right state' journal').1.1)
    (rest : ∀ value, (right state' journal').1.1 = .ok value →
      Alike (next value (left state journal).1.2 (left state journal).2).1.1
        (next' value (right state' journal').1.2 (right state' journal').2).1.1) :
    Alike ((left >>= next) state journal).1.1 ((right >>= next') state' journal').1.1 := by
  rcases ends : left state journal with ⟨⟨outcome, after⟩, later⟩
  rcases ends' : right state' journal' with ⟨⟨outcome', after'⟩, later'⟩
  rw [ends, ends'] at first
  rw [ends, ends'] at rest
  cases outcome' with
  | ok value =>
    obtain rfl := first.eq_ok
    rw [Attempt.bind_of_ok ends, Attempt.bind_of_ok ends']
    exact rest value rfl
  | error error' =>
    cases outcome with
    | ok value => cases first
    | error error =>
      rw [Attempt.bind_of_error ends, Attempt.bind_of_error ends']
      exact congrArg Except.error (Except.error.inj first)

/-! ## The steps of a verification -/

/-- Outcomes that are the same apart from trace ids are so as outcomes of a service, if leaving out
the trace id and taking an error for one of a service can be done in either order. -/
theorem alike_mapError {ε : Type} {untraced : ε → ε} {wrap : ε → ServiceError}
    (commutes : ∀ error, (wrap error).untraced = wrap (untraced error))
    {outcome outcome' : Except ε α}
    (same : outcome.mapError untraced = outcome'.mapError untraced) :
    Alike (outcome.mapError wrap) (outcome'.mapError wrap) := by
  have passes : ∀ outcome : Except ε α,
      (outcome.mapError wrap).mapError ServiceError.untraced
        = (outcome.mapError untraced).mapError wrap := by
    intro outcome
    cases outcome with
    | ok value => rfl
    | error error => exact congrArg Except.error (commutes error)
  unfold Alike
  rw [passes, passes, same]

/-- The registry decides alike whenever it is asked. -/
theorem ofRegistry_alike (decision : Except Refusal α) (state : σ) (state' : τ)
    (journal journal' : Journal) :
    Alike (ofRegistry (.ofExcept decision) state journal).1.1
      (ofRegistry (.ofExcept decision) state' journal').1.1 := by
  unfold ofRegistry
  rw [Attempt.mapError_apply, Attempt.mapError_apply, Attempt.ofJournaled_apply,
    Attempt.ofJournaled_apply]
  exact alike_mapError ServiceError.registry_untraced
    (Answer.ofExcept_untraced decision journal journal')

/-- Readings that end the same apart from trace ids do so as steps of a service. -/
theorem ofTrip_alike {trip trip' : Trip α} {journal journal' : Journal}
    (same : (trip journal).1.mapError TransportError.untraced
      = (trip' journal').1.mapError TransportError.untraced)
    (state : σ) (state' : τ) :
    Alike (ofTrip trip state journal).1.1 (ofTrip trip' state' journal').1.1 := by
  unfold ofTrip
  rw [Attempt.mapError_apply, Attempt.mapError_apply, Attempt.ofJournaled_apply,
    Attempt.ofJournaled_apply]
  exact alike_mapError ServiceError.transport_untraced same

/-- To ask the registry leaves the node in its state. -/
theorem ofRegistry_snd (answer : Answer α) (state : σ) (journal : Journal) :
    (ofRegistry answer state journal).1.2 = state := by
  unfold ofRegistry
  rw [Attempt.mapError_apply, Attempt.ofJournaled_apply]

/-- To read an answer leaves the node in its state. -/
theorem ofTrip_snd (trip : Trip α) (state : σ) (journal : Journal) :
    (ofTrip trip state journal).1.2 = state := by
  unfold ofTrip
  rw [Attempt.mapError_apply, Attempt.ofJournaled_apply]

end

/-! ## The two ways -/

section

variable {σ τ α : Type}

/-- An answer that was given together with others is read as the same answer given alone. -/
theorem fetched_alike {parse : Json → Trip α}
    (steady : ∀ value journal journal',
      (parse value journal).1.mapError TransportError.untraced
        = (parse value journal').1.mapError TransportError.untraced)
    {transport : Transport τ} {request : Request} {state' after : τ}
    {answer answer' : Except TransportError Json}
    (tells : transport.Tells request state' answer' after)
    (same : answer.mapError TransportError.untraced = answer'.mapError TransportError.untraced)
    (state : σ) (journal journal' : Journal) :
    Alike
      ((ofTrip (ExceptT.mk (pure answer)) >>= fun value => ofTrip (parse value)) state journal).1.1
      ((ofTransport (transport.call request) >>= fun value => ofTrip (parse value)) state'
        journal').1.1 := by
  refine alike_bind ?_ fun value _ => ofTrip_alike (steady value _ _) _ _
  unfold ofTrip ofTransport
  rw [Attempt.mapError_apply, Attempt.mapError_apply, Attempt.ofJournaled_apply]
  exact alike_mapError ServiceError.transport_untraced (same.trans (tells journal').1.symm)

/-- Reading an answer leaves the node in the state behind the round trip. -/
theorem fetched_snd {parse : Json → Trip α} {transport : Transport τ} {request : Request}
    {state after : τ} {answer : Except TransportError Json}
    (tells : transport.Tells request state answer after) (journal : Journal) :
    ((ofTransport (transport.call request) >>= fun value => ofTrip (parse value)) state
      journal).1.2 = after := by
  have left : (ofTransport (transport.call request) state journal).1.2 = after := by
    unfold ofTransport
    rw [Attempt.mapError_apply]
    exact (tells journal).2
  rcases ends : ofTransport (transport.call request) state journal with ⟨⟨outcome, state'⟩, later⟩
  rw [ends] at left
  cases outcome with
  | ok value =>
    rw [Attempt.bind_of_ok ends, ofTrip_snd]
    exact left
  | error error =>
    rw [Attempt.bind_of_error ends]
    exact left

/-- Two answers are settled in the order of the single steps: the first is read, the second is read,
and both are compared. -/
theorem settle_pair (registry : Registry) (name : String)
    (genesis chainId : Except TransportError Json) :
    (settle registry name [genesis, chainId] : Attempt σ ServiceError NodeReport) =
      (ofTrip (ExceptT.mk (pure genesis)) >>= fun block => ofTrip (BlockId.parse block)) >>=
        fun genesis =>
          (ofTrip (ExceptT.mk (pure chainId)) >>= fun quantity =>
              ofTrip (Quantity.parse chainIdMethod quantity)) >>=
            fun chainId =>
              ofRegistry (registry.validateGenesis name genesis) >>= fun _ =>
                ofRegistry (registry.validateChainId name chainId) >>= fun _ =>
                  pure ⟨genesis, chainId⟩ := by
  simp only [settle, compare, bind_assoc]

/-- Two answers given together are settled as the same answers given one after the other are. -/
theorem settle_alike (registry : Registry) (name : String) {first second : Transport τ}
    {start middle finish : τ} {genesis chainId genesis' chainId' : Except TransportError Json}
    (tells : first.Tells genesisRequest start genesis' middle)
    (tells' : second.Tells chainIdRequest middle chainId' finish)
    (same : genesis.mapError TransportError.untraced = genesis'.mapError TransportError.untraced)
    (same' : chainId.mapError TransportError.untraced
      = chainId'.mapError TransportError.untraced)
    (state : σ) (journal journal' : Journal) :
    Alike (settle registry name [genesis, chainId] state journal).1.1
      ((fetchGenesis first >>= fun genesis => fetchChainId second >>= fun chainId =>
        ofRegistry (registry.validateGenesis name genesis) >>= fun _ =>
          ofRegistry (registry.validateChainId name chainId) >>= fun _ =>
            pure ⟨genesis, chainId⟩) start journal').1.1 := by
  rw [settle_pair]
  refine alike_bind (fetched_alike BlockId.parse_untraced tells same _ _ _) ?_
  intro block _
  rw [show (fetchGenesis first start journal').1.2 = middle from fetched_snd tells _]
  refine alike_bind (fetched_alike (Quantity.parse_untraced chainIdMethod) tells' same' _ _ _) ?_
  intro quantity _
  refine alike_bind (ofRegistry_alike (registry.matchGenesis name block) _ _ _ _) ?_
  intro _ _
  refine alike_bind (ofRegistry_alike (registry.matchChainId name quantity) _ _ _ _) ?_
  exact fun _ _ => Alike.refl _

/-- A verification with both questions in one round trip ends as the one with single steps does.
Whatever the registry, the name and the two answers are, and whether the node gives them together
or one after the other, the outcome is the same report, or the same error apart from its trace
id. -/
theorem verify_alike_stepwise (registry : Registry) (name : String) {together : Transport σ}
    {first second : Transport τ} {state : σ} {start middle finish : τ}
    {genesis chainId : Except TransportError Json}
    (tellsBoth : together.TellsTogether [genesisRequest, chainIdRequest] state [genesis, chainId])
    (tells : first.Tells genesisRequest start genesis middle)
    (tells' : second.Tells chainIdRequest middle chainId finish) (journal journal' : Journal) :
    Alike (verify registry together name state journal).1.1
      (verifyStepwise registry first second name start journal').1.1 := by
  unfold verify verifyStepwise
  rw [Attempt.within_fst]
  generalize journal.inside _ = inside
  refine alike_bind (ofRegistry_alike (registry.lookup name) state start inside journal') ?_
  intro descriptor _
  rw [ofRegistry_snd, ofRegistry_snd]
  generalize (ofRegistry (registry.descriptorFor name) state inside).2 = resolved
  rcases ends : together.batch [genesisRequest, chainIdRequest] state resolved
    with ⟨⟨back, after⟩, later⟩
  obtain ⟨answers, came, same⟩ := tellsBoth resolved
  rw [ends] at came
  obtain rfl : back = .ok answers := came
  obtain ⟨genesis', answers, rfl, sameGenesis, same⟩ := List.map_eq_cons_iff.mp same
  obtain ⟨chainId', answers, rfl, sameChainId, same⟩ := List.map_eq_cons_iff.mp same
  obtain rfl := List.map_eq_nil_iff.mp same
  rw [Attempt.bind_of_ok (ofTransport_of_ok ends)]
  -- The event behind a settled verification is all that the single steps do not have.
  refine (congrArg (Except.mapError ServiceError.untraced)
    (Attempt.bind_written_fst _ _ _ _)).trans ?_
  exact settle_alike registry name tells tells' sameGenesis sameChainId _ _ _

/-- The first block of the main network. -/
def strayBlock : Reply :=
  .result (.ofMembers [("hash", .text (Descriptor.ofNetwork .core).genesis.hash.render),
    ("number", .text "0x0")])

/-- The chain id of yet another network. -/
def strayChainId : Reply := .result (.text "0x1")

/-- The index of the block that a failed verification observed, if its error is about a block. -/
def observedIndex? : Except ServiceError NodeReport → Option String
  | .ok _ => none
  | .error error => error.context.get? "observed_index"

/-- Two things are wrong at once with a node of another chain, and either way it is the first block
that is reported. -/
theorem verify_alike_stepwise_stray :
    (Transport.scripted "").TellsTogether [genesisRequest, chainIdRequest]
      [.several [strayBlock, strayChainId]]
      [(strayBlock.answer blockMethod .empty).1,
        (strayChainId.answer chainIdMethod .empty).1] ∧
    (Transport.scripted "").Tells genesisRequest [strayBlock, strayChainId]
      (strayBlock.answer blockMethod .empty).1 [strayChainId] ∧
    (Transport.scripted "").Tells chainIdRequest [strayChainId]
      (strayChainId.answer chainIdMethod .empty).1 [] ∧
    Alike
      (verify .standard (.scripted "") "Buffalo" [.several [strayBlock, strayChainId]]
        .empty).1.1
      (verifyStepwise .standard (.scripted "") (.scripted "") "Buffalo"
        [strayBlock, strayChainId] .empty).1.1 ∧
    observedIndex?
        (verify .standard (.scripted "") "Buffalo" [.several [strayBlock, strayChainId]]
          .empty).1.1 = some "0" := by
  have together := Transport.scripted_tellsTogether ""
    (show [strayBlock, strayChainId].length = [genesisRequest, chainIdRequest].length from rfl)
    []
  have first := Transport.scripted_tells "" strayBlock [strayChainId] genesisRequest
  have second := Transport.scripted_tells "" strayChainId [] chainIdRequest
  exact ⟨together, first, second,
    verify_alike_stepwise .standard "Buffalo" together first second .empty .empty,
    by decide +kernel⟩

end

end Verification

end ChainIdentity
