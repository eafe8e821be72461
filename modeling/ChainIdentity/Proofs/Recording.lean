import ChainIdentity.Proofs.Startup

/-!
# Watching what is sent

A recorded way to the node keeps a list of what is sent on it, and a conversation over it is the
same conversation with the list in addition.  `Records` says so of a conversation and its recorded
double: in every state and with every journal, whatever was sent before, they end alike, and the
double has sent something more, always the same.

The relation goes through all the steps of which conversations are made, so that it need not be
shown of a conversation as a whole: `call` and `batch` send something, `bind`, `after`, `outcome`,
`mapError` and `within` put steps together, and `journaled`, `write` and `ofJournaled` are steps
that have no part in what is sent.  `verify_records` and `start_recorded` follow the code along
these.
-/

namespace ChainIdentity

variable {σ : Type}

/-- A conversation over a recorded way does what the plain one does and sends `extra`. -/
def Records {α : Type} (extra : List Sent) (recorded : Talk (List Sent × σ) α)
    (plain : Talk σ α) : Prop :=
  ∀ sent state journal,
    recorded (sent, state) journal
      = (((plain state journal).1.1, (sent ++ extra, (plain state journal).1.2)),
        (plain state journal).2)

namespace Records

section

variable {α β : Type} {extra further : List Sent}

/-- What only writes to the journal sends nothing. -/
theorem journaled (run : Journaled α) :
    Records [] (liftM run : Talk (List Sent × σ) α) (liftM run : Talk σ α) := by
  intro sent state journal
  rw [List.append_nil]
  rfl

/-- A value alone sends nothing. -/
theorem pure (value : α) :
    Records [] (Pure.pure value : Talk (List Sent × σ) α) (Pure.pure value : Talk σ α) :=
  journaled (Pure.pure value)

/-- Of two steps in a row, both are watched. -/
theorem bind {recorded : Talk (List Sent × σ) α} {plain : Talk σ α}
    {next : α → Talk (List Sent × σ) β} {plainNext : α → Talk σ β}
    (now : Records extra recorded plain)
    (later : ∀ value, Records further (next value) (plainNext value)) :
    Records (extra ++ further) (recorded >>= next) (plain >>= plainNext) := by
  intro sent state journal
  show next (recorded (sent, state) journal).1.1 (recorded (sent, state) journal).1.2
    (recorded (sent, state) journal).2 = _
  rw [now, ← List.append_assoc]
  exact later _ _ _ _

end

section

variable {ε ε' α β : Type} {extra : List Sent}

/-- An error alone sends nothing. -/
theorem throw (error : ε) :
    Records [] (throw error : Attempt (List Sent × σ) ε α)
      (throw error : Attempt σ ε α) :=
  pure (Except.error error)

/-- After a step that may fail nothing more is sent, if the next step sends nothing. -/
theorem after {recorded : Attempt (List Sent × σ) ε α} {plain : Attempt σ ε α}
    {next : α → Attempt (List Sent × σ) ε β} {plainNext : α → Attempt σ ε β}
    (now : Records extra recorded plain)
    (later : ∀ value, Records [] (next value) (plainNext value)) :
    Records extra (recorded >>= next : Attempt (List Sent × σ) ε β)
      (plain >>= plainNext : Attempt σ ε β) := by
  have watched : Records (extra ++ [])
      (recorded.run >>= ExceptT.bindCont next : Talk (List Sent × σ) (Except ε β))
      (plain.run >>= ExceptT.bindCont plainNext : Talk σ (Except ε β)) := by
    refine now.bind fun ended => ?_
    cases ended with
    | ok value => exact later value
    | error error => exact throw error
  rw [List.append_nil] at watched
  exact watched

/-- A conversation may look at the outcome of another one as a whole. -/
theorem outcome {recorded : Attempt (List Sent × σ) ε' α} {plain : Attempt σ ε' α}
    {next : Except ε' α → Attempt (List Sent × σ) ε β}
    {plainNext : Except ε' α → Attempt σ ε β} (now : Records extra recorded plain)
    (later : ∀ ended, Records [] (next ended) (plainNext ended)) :
    Records extra
      ((liftM (recorded.run : Talk (List Sent × σ) (Except ε' α)) :
        Attempt (List Sent × σ) ε (Except ε' α)) >>= next : Attempt (List Sent × σ) ε β)
      ((liftM (plain.run : Talk σ (Except ε' α)) : Attempt σ ε (Except ε' α)) >>= plainNext :
        Attempt σ ε β) := by
  have watched : Records (extra ++ [])
      (recorded.run >>= next : Talk (List Sent × σ) (Except ε β))
      (plain.run >>= plainNext : Talk σ (Except ε β)) := now.bind later
  rw [List.append_nil] at watched
  exact watched

/-- Writing to the journal in between sends nothing. -/
theorem write {run : Journaled α} {next : α → Attempt (List Sent × σ) ε β}
    {plainNext : α → Attempt σ ε β}
    (later : ∀ value, Records extra (next value) (plainNext value)) :
    Records extra
      ((liftM run : Attempt (List Sent × σ) ε α) >>= next : Attempt (List Sent × σ) ε β)
      ((liftM run : Attempt σ ε α) >>= plainNext : Attempt σ ε β) := by
  intro sent state journal
  rw [Attempt.bind_journaled, Attempt.bind_journaled]
  exact later _ _ _ _

/-- A change of error sends nothing. -/
theorem mapError {f : ε' → ε} {recorded : Attempt (List Sent × σ) ε' α}
    {plain : Attempt σ ε' α} (now : Records extra recorded plain) :
    Records extra (recorded.mapError f) (plain.mapError f) := by
  refine now.outcome fun ended => ?_
  cases ended with
  | ok value => exact pure (Except.ok value)
  | error error => exact throw (f error)

/-- A span sends nothing of its own. -/
theorem within {recorded : Attempt (List Sent × σ) ε α} {plain : Attempt σ ε α} (span : Span)
    (now : Records extra recorded plain) :
    Records extra (recorded.within span) (plain.within span) := by
  intro sent state journal
  rw [Attempt.within_apply, Attempt.within_apply, now]

/-- What needs no node sends nothing. -/
theorem ofJournaled (run : ExceptT ε Journaled α) :
    Records [] (Attempt.ofJournaled run : Attempt (List Sent × σ) ε α)
      (Attempt.ofJournaled run) := by
  intro sent state journal
  rw [Attempt.ofJournaled_apply, Attempt.ofJournaled_apply, List.append_nil]

/-- A single request is recorded. -/
theorem call (way : Transport σ) (request : Request) :
    Records [.single request] (way.recorded.call request) (way.call request) := by
  intro sent state journal
  rfl

/-- Several requests are recorded together. -/
theorem batch (way : Transport σ) (requests : List Request) :
    Records [.several requests] (way.recorded.batch requests) (way.batch requests) := by
  intro sent state journal
  rfl

end

end Records

/-! ## Verification -/

namespace Verification

/-- The registry is asked without the node. -/
theorem ofRegistry_records {α : Type} (answer : Answer α) :
    Records [] (ofRegistry answer : Attempt (List Sent × σ) ServiceError α) (ofRegistry answer) :=
  (Records.ofJournaled answer).mapError

/-- An answer is read without the node. -/
theorem ofTrip_records {α : Type} (trip : Trip α) :
    Records [] (ofTrip trip : Attempt (List Sent × σ) ServiceError α) (ofTrip trip) :=
  (Records.ofJournaled trip).mapError

/-- A report is compared without the node. -/
theorem compare_records (registry : Registry) (name : String) (report : NodeReport) :
    Records [] (compare registry name report : Attempt (List Sent × σ) ServiceError Unit)
      (compare registry name report) :=
  (ofRegistry_records _).after fun _ => ofRegistry_records _

/-- The judgement on the answers sends nothing. -/
theorem settle_records (registry : Registry) (name : String)
    (answers : List (Except TransportError Json)) :
    Records [] (settle registry name answers : Attempt (List Sent × σ) ServiceError NodeReport)
      (settle registry name answers) := by
  rcases answers with _ | ⟨first, _ | ⟨second, further⟩⟩
  · exact Records.write fun error => Records.throw _
  · exact Records.write fun error => Records.throw _
  · refine (ofTrip_records _).after fun block => ?_
    refine (ofTrip_records _).after fun genesis => ?_
    refine (ofTrip_records _).after fun quantity => ?_
    refine (ofTrip_records _).after fun chainId => ?_
    exact (compare_records registry name _).after fun _ => Records.pure (Except.ok _)

/-- The round trip of a verification: the first block and the chain id are asked for at once. -/
def opening : Sent :=
  .several
    [⟨"eth_getBlockByNumber", .array [.text "0x0", .bool false]⟩, ⟨"eth_chainId", .array []⟩]

/-- What a verification sends: its round trip, or nothing at all where the name has no
descriptor. -/
def questions (registry : Registry) (name : String) : List Sent :=
  if (registry.find? name).isSome then [opening] else []

/-- A verification is the same over a recorded way, and sends its questions. -/
theorem verify_records (registry : Registry) (way : Transport σ) (name : String) :
    Records (questions registry name) (verify registry way.recorded name)
      (verify registry way name) := by
  refine Records.within _ ?_
  intro sent state journal
  unfold questions
  cases found : registry.find? name with
  | none =>
    obtain ⟨error, later, refused, -⟩ := registry.descriptorFor_of_none found journal
    rw [Attempt.bind_of_error (ofRegistry_of_error refused),
      Attempt.bind_of_error (ofRegistry_of_error refused)]
    simp
  | some descriptor =>
    have resolved := registry.descriptorFor_of_some found journal
    rw [Attempt.bind_of_ok (ofRegistry_of_ok resolved),
      Attempt.bind_of_ok (ofRegistry_of_ok resolved)]
    have watched := (Records.batch way [genesisRequest, chainIdRequest]).mapError
      (f := ServiceError.transport)
    refine watched.after (fun answers => ?_) sent state journal
    refine (settle_records registry name answers).after fun report => ?_
    exact Records.write fun _ => Records.pure (Except.ok report)

end Verification

/-! ## Startup -/

/-- The same service with a recorded way to the node. -/
def Service.recorded (service : Service σ) : Service (List Sent × σ) :=
  { service with transport := service.transport.map Transport.recorded }

namespace Startup

/-- What startup sends: nothing offline, and what the verification sends online. -/
def questions (registry : Registry) (configuration : Configuration) : List Sent :=
  if configuration.isOnline then Verification.questions registry configuration.networkName else []

/-- The verification at startup sends the two questions, if the network is known. -/
theorem verifyNode_records (registry : Registry) (way : Transport σ) (name : String) :
    Records (Verification.questions registry name) (verifyNode registry way.recorded name)
      (verifyNode registry way name) := by
  refine (Verification.verify_records registry way name).outcome fun ended => ?_
  cases ended with
  | ok report => exact Records.pure (Except.ok report)
  | error error =>
    by_cases fatal : (StartupError.ofService error).isFatal = true
    · simp only [fatal, if_true]
      exact Records.write fun _ => Records.throw _
    · simp only [fatal]
      exact Records.throw _

/-- Startup is the same over a recorded way, and sends its questions. -/
theorem start_recorded (registry : Registry) (configuration : Configuration)
    (way : Transport σ) (sent : List Sent) (state : σ) (journal : Journal) :
    start registry configuration (some way.recorded) (sent, state) journal
      = (((start registry configuration (some way) state journal).1.1.map Service.recorded,
          (sent ++ questions registry configuration,
            (start registry configuration (some way) state journal).1.2)),
        (start registry configuration (some way) state journal).2) := by
  unfold start questions Verification.questions
  rw [Attempt.within_apply, Attempt.within_apply]
  cases found : registry.find? configuration.networkName with
  | none =>
    obtain ⟨error, later, refused, -⟩ :=
      resolve_of_none found state (opened configuration journal)
    have silent : Records []
        (Attempt.ofJournaled (registry.descriptorFor configuration.networkName))
        (Attempt.ofJournaled (registry.descriptorFor configuration.networkName)) :=
      Records.ofJournaled (σ := σ) _
    have watched := silent.mapError (f := StartupError.registry) sent state
      (opened configuration journal)
    rw [refused] at watched
    rw [Attempt.bind_of_error watched, Attempt.bind_of_error refused]
    simp [Except.map]
  | some descriptor =>
    rw [Attempt.bind_of_ok (resolve_of_some found), Attempt.bind_of_ok (resolve_of_some found)]
    cases online : configuration.isOnline with
    | false =>
      simp only [Bool.not_false, if_true]
      rw [Attempt.bind_journaled, Attempt.bind_journaled]
      simp [Except.map, Service.recorded, Attempt.pure_apply]
    | true =>
      simp only [Bool.not_true, Bool.false_eq_true, if_false]
      have watched := verifyNode_records registry way configuration.networkName sent state
        (opened configuration journal)
      rcases verifies : verifyNode registry way configuration.networkName state
        (opened configuration journal) with ⟨⟨ended, state'⟩, later⟩
      rw [verifies] at watched
      unfold Verification.questions at watched
      rw [found] at watched
      cases ended with
      | ok report =>
        rw [Attempt.bind_of_ok watched, Attempt.bind_of_ok verifies, Attempt.bind_journaled,
          Attempt.bind_journaled]
        rfl
      | error error =>
        rw [Attempt.bind_of_error watched, Attempt.bind_of_error verifies]
        rfl

end Startup

end ChainIdentity
