import ChainIdentity.Node.Script
import ChainIdentity.Proofs.Query

/-!
# What reaches the node

A session loads the configuration, starts a service with a way to the node, and puts queries to the
node through the service, one after the other.  `traffic` says what is sent in it: nothing unless
the startup asks its questions, and after these, if a service was handed out, the permitted
queries in their order and as they were given.

`session_sends` is the main statement, which has the two questions of a startup word by word.  The
proof takes a session apart into loading, startup and queries once (`session_of_unloaded`,
`session_of_unstarted`, `session_of_served`), and what is said of the whole is what is said of these
parts.
-/

namespace ChainIdentity

variable {σ : Type}

/-! ## Whole sessions -/

/-- How a session ends. -/
inductive SessionEnd where
  /-- The configuration could not be loaded. -/
  | unloaded (error : StartupError)
  /-- The configuration was loaded, and no service was handed out. -/
  | unstarted (configuration : Configuration) (error : StartupError)
  /-- A service was handed out, and queries were put to the node through it. -/
  | served (configuration : Configuration) (answers : List QueryAnswer)

/-- Loads the configuration, starts a service with the given way to the node, and puts queries to
the node. -/
def session (registry : Registry) (values : Variables) (way : Transport σ)
    (requests : List Request) : Talk σ SessionEnd := do
  match ← ((Startup.load registry values).run : Journaled _) with
  | .error error => return .unloaded error
  | .ok configuration =>
    match ← ((Startup.start registry configuration (some way)).run : Talk σ _) with
    | .error error => return .unstarted configuration error
    | .ok service => return .served configuration (← service.answers requests)

/-- What is sent in a session that ends in the given way, where `opening` is what the startup asks
in its one round trip.  Nothing is asked offline, or about a network that is unknown. -/
def traffic (registry : Registry) (opening : Sent) (requests : List Request) :
    SessionEnd → List Sent
  | .unloaded _ => []
  | .unstarted configuration _ =>
    if configuration.mode = .online ∧ (registry.find? configuration.networkName).isSome then
      [opening]
    else []
  | .served configuration _ =>
    if configuration.mode = .online then opening :: queries requests else []

section

variable {registry : Registry} {values : Variables} {way : Transport σ} {requests : List Request}
  {state state' : σ} {journal loaded started : Journal}

/-- A session ends with its configuration if that cannot be loaded. -/
theorem session_of_unloaded {error : StartupError}
    (loads : (Startup.load registry values).run journal = (.error error, loaded)) :
    session registry values way requests state journal
      = ((.unloaded error, state), loaded) := by
  unfold session
  rw [Talk.bind_journaled loads]
  rfl

/-- A session ends with its startup if that fails. -/
theorem session_of_unstarted {configuration : Configuration} {error : StartupError}
    (loads : (Startup.load registry values).run journal = (.ok configuration, loaded))
    (starts : (Startup.start registry configuration (some way)).run state loaded
      = ((.error error, state'), started)) :
    session registry values way requests state journal
      = ((.unstarted configuration error, state'), started) := by
  unfold session
  rw [Talk.bind_journaled loads]
  exact Talk.bind_apply starts

/-- A session that was started answers its queries one after the other. -/
theorem session_of_served {configuration : Configuration} {service : Service σ}
    (loads : (Startup.load registry values).run journal = (.ok configuration, loaded))
    (starts : (Startup.start registry configuration (some way)).run state loaded
      = ((.ok service, state'), started)) :
    session registry values way requests state journal
      = ((.served configuration (service.answers requests state' started).1.1,
          (service.answers requests state' started).1.2),
        (service.answers requests state' started).2) := by
  unfold session
  rw [Talk.bind_journaled loads]
  exact Talk.bind_apply starts

end

section

variable {registry : Registry} {configuration : Configuration} {way : Transport σ}
  {state state' : σ} {journal later : Journal} {service : Service σ}

/-- What is handed out holds what it should. -/
theorem holds_of_start
    (starts : (Startup.start registry configuration (some way)).run state journal
      = ((.ok service, state'), later)) :
    Startup.Holds registry configuration (some way) service := by
  have ends := Startup.start_ends registry configuration (some way) state journal
  rw [show Startup.start registry configuration (some way) state journal
    = ((.ok service, state'), later) from starts] at ends
  exact ends.holds rfl

/-- A service is handed out for a network that is known. -/
theorem known_of_start
    (starts : (Startup.start registry configuration (some way)).run state journal
      = ((.ok service, state'), later)) :
    (registry.find? configuration.networkName).isSome := by
  have ends := Startup.start_ends registry configuration (some way) state journal
  rw [show Startup.start registry configuration (some way) state journal
    = ((.ok service, state'), later) from starts] at ends
  obtain ⟨⟨descriptor, found⟩, -⟩ := ends.ok_iff.mp ⟨service, rfl⟩
  exact Option.isSome_of_mem found

/-- Online, a service that is handed out has the given way to the node. -/
theorem transport_of_online
    (starts : (Startup.start registry configuration (some way)).run state journal
      = ((.ok service, state'), later)) (mode : configuration.mode = .online) :
    service.transport = some way := by
  rw [(holds_of_start starts).transport_eq, configuration.isOnline_eq_true_iff.mpr mode]
  rfl

/-- Offline, it has none. -/
theorem transport_of_offline
    (starts : (Startup.start registry configuration (some way)).run state journal
      = ((.ok service, state'), later)) (mode : configuration.mode = .offline) :
    service.transport = none := by
  rw [(holds_of_start starts).transport_eq, configuration.isOnline_eq_false_iff.mpr mode]
  rfl

end

/-- The startup asks its questions online, about a network that is known. -/
theorem questions_eq (registry : Registry) (configuration : Configuration) :
    Startup.questions registry configuration =
      if configuration.mode = .online ∧ (registry.find? configuration.networkName).isSome then
        [Verification.opening]
      else [] := by
  unfold Startup.questions Verification.questions
  by_cases online : configuration.mode = .online
  · simp [configuration.isOnline_eq_true_iff.mpr online, online]
  · simp [mt configuration.isOnline_eq_true_iff.mp online, online]

/-- A session over a recorded way is the same session, and what is sent in it is its traffic. -/
theorem session_records (registry : Registry) (values : Variables) (way : Transport σ)
    (requests : List Request) (sent : List Sent) (state : σ) (journal : Journal) :
    session registry values way.recorded requests (sent, state) journal
      = (((session registry values way requests state journal).1.1,
          (sent ++ traffic registry Verification.opening requests
              (session registry values way requests state journal).1.1,
            (session registry values way requests state journal).1.2)),
        (session registry values way requests state journal).2) := by
  rcases loads : (Startup.load registry values).run journal with ⟨_ | configuration, loaded⟩
  · rw [session_of_unloaded loads, session_of_unloaded loads]
    simp [traffic]
  have watched := Startup.start_recorded registry configuration way sent state loaded
  rcases starts : (Startup.start registry configuration (some way)).run state loaded
    with ⟨⟨ended, state'⟩, started⟩
  rw [show Startup.start registry configuration (some way) state loaded
    = ((ended, state'), started) from starts] at watched
  cases ended with
  | error error =>
    rw [session_of_unstarted loads watched, session_of_unstarted loads starts, questions_eq]
    rfl
  | ok service =>
    have recorded : session registry values way.recorded requests (sent, state) journal
        = ((.served configuration (service.recorded.answers requests
              (sent ++ Startup.questions registry configuration, state') started).1.1,
            (service.recorded.answers requests
              (sent ++ Startup.questions registry configuration, state') started).1.2),
          (service.recorded.answers requests
            (sent ++ Startup.questions registry configuration, state') started).2) :=
      session_of_served loads watched
    rw [recorded, session_of_served loads starts, questions_eq]
    cases mode : configuration.mode with
    | online =>
      have known := known_of_start starts
      rw [answers_records (transport_of_online starts mode)]
      simp [traffic, mode, known]
    | offline =>
      have transport := transport_of_offline starts mode
      have transport' : service.recorded.transport = none := by
        unfold Service.recorded
        rw [transport]
        rfl
      rw [Service.answers_offline transport', Service.answers_offline transport]
      simp [traffic, mode]

section

variable {registry : Registry} {values : Variables} {way : Transport σ} {requests : List Request}
  {state : σ} {journal : Journal} {configuration : Configuration} {answers : List QueryAnswer}

/-- A session with queries is one in which the configuration was loaded and a service handed out. -/
theorem session_served
    (ends : (session registry values way requests state journal).1.1
      = .served configuration answers) :
    ∃ loaded service state' started,
      (Startup.load registry values).run journal = (.ok configuration, loaded) ∧
      (Startup.start registry configuration (some way)).run state loaded
        = ((.ok service, state'), started) ∧
      session registry values way requests state journal
        = ((.served configuration answers, (service.answers requests state' started).1.2),
          (service.answers requests state' started).2) ∧
      answers = (service.answers requests state' started).1.1 := by
  rcases loads : (Startup.load registry values).run journal with ⟨outcome, loaded⟩
  cases outcome with
  | error error =>
    rw [session_of_unloaded loads] at ends
    cases ends
  | ok configuration' =>
    rcases starts : (Startup.start registry configuration' (some way)).run state loaded
      with ⟨⟨ended, state'⟩, started⟩
    cases ended with
    | error error =>
      rw [session_of_unstarted loads starts] at ends
      cases ends
    | ok service =>
      have runs : session registry values way requests state journal
          = ((.served configuration' (service.answers requests state' started).1.1,
              (service.answers requests state' started).1.2),
            (service.answers requests state' started).2) := session_of_served loads starts
      rw [runs] at ends
      obtain ⟨rfl, rfl⟩ := SessionEnd.served.inj ends
      exact ⟨loaded, service, state', started, rfl, starts, runs, rfl⟩

/-- Offline nothing comes of the queries of a session, and the node is left alone. -/
theorem session_offline
    (ends : (session registry values way requests state journal).1.1
      = .served configuration answers) (mode : configuration.mode = .offline) :
    answers = requests.map (fun _ => none) ∧
      (session registry values way requests state journal).1.2 = state := by
  obtain ⟨loaded, service, state', started, -, starts, runs, rfl⟩ := session_served ends
  have left : state' = state := by
    have startup := Startup.start_ends registry configuration (some way) state loaded
    rw [show Startup.start registry configuration (some way) state loaded
      = ((.ok service, state'), started) from starts] at startup
    exact startup.state_of_offline mode
  rw [runs, Service.answers_offline (transport_of_offline starts mode)]
  exact ⟨rfl, left⟩

/-- Online the queries of a session are put step by step from where the startup ended. -/
theorem session_steps
    (ends : (session registry values way requests state journal).1.1
      = .served configuration answers) (mode : configuration.mode = .online) :
    Steps way requests
      (Startup.start registry configuration (some way) state
        (Startup.load registry values journal).2).1.2
      (Startup.start registry configuration (some way) state
        (Startup.load registry values journal).2).2
      answers (session registry values way requests state journal).1.2
      (session registry values way requests state journal).2 := by
  obtain ⟨loaded, service, state', started, loads, starts, runs, rfl⟩ := session_served ends
  have transport := transport_of_online starts mode
  have after : Startup.start registry configuration (some way) state
      (Startup.load registry values journal).2 = ((.ok service, state'), started) := by
    rw [show (Startup.load registry values journal).2 = loaded from congrArg Prod.snd loads]
    exact starts
  rw [after, runs]
  exact answers_steps transport requests state' started

/-- Where the node does not depend on the journal, the session without the queries that are not
permitted ends with the same answers to the others. -/
theorem session_filter {β : Type} {view : Except ServiceError Json → β}
    (ends : (session registry values way requests state journal).1.1
      = .served configuration answers) (mode : configuration.mode = .online)
    (blind : way.Blind view) :
    ∃ others,
      (session registry values way (requests.filter fun request => request.Permitted) state
        journal).1 = (.served configuration others,
          (session registry values way requests state journal).1.2) ∧
      (permittedAnswers requests answers).map (Option.map view)
        = others.map (Option.map view) := by
  obtain ⟨loaded, service, state', started, loads, starts, runs, rfl⟩ := session_served ends
  have transport := transport_of_online starts mode
  obtain ⟨views, states⟩ := answers_filter transport blind requests state' started started
  rw [session_of_served loads starts, runs]
  exact ⟨_, congrArg (Prod.mk _) states.symm, views⟩

end

/-- What reaches the node, and what comes back.  A session over a way to the node that is watched is
the same session, and what is sent in it is its traffic: nothing where the configuration cannot be
loaded, the mode is offline or the network is unknown, and otherwise the questions for the first
block and for the chain id in one round trip, followed by the permitted queries if a service was
handed out.  Offline
nothing comes of a query.  Online the queries are put step by step, each permitted one with the
result of the transport and each other one refused without any part for the node; and where the
node does not depend on the journal, the permitted ones come to the same without the others. -/
theorem session_sends (registry : Registry) (values : Variables) (way : Transport σ)
    (requests : List Request) (state : σ) (journal : Journal) :
    let run := session registry values way requests state journal
    (∀ sent, session registry values way.recorded requests (sent, state) journal
      = ((run.1.1, (sent ++ traffic registry
            (.several [⟨"eth_getBlockByNumber", .array [.text "0x0", .bool false]⟩,
              ⟨"eth_chainId", .array []⟩])
            requests run.1.1, run.1.2)), run.2)) ∧
    (∀ configuration answers, run.1.1 = .served configuration answers →
      configuration.mode = .offline →
      answers = requests.map (fun _ => none) ∧ run.1.2 = state) ∧
    (∀ configuration answers, run.1.1 = .served configuration answers →
      configuration.mode = .online →
      let started := Startup.start registry configuration (some way) state
        (Startup.load registry values journal).2
      Steps way requests started.1.2 started.2 answers run.1.2 run.2 ∧
      ∀ {β : Type} (view : Except ServiceError Json → β), way.Blind view →
        ∃ others,
          (session registry values way (requests.filter fun request => request.Permitted) state
            journal).1 = (.served configuration others, run.1.2) ∧
          (permittedAnswers requests answers).map (Option.map view)
            = others.map (Option.map view)) := by
  intro run
  refine ⟨fun sent => session_records registry values way requests sent state journal, ?_, ?_⟩
  · intro configuration answers ends mode
    exact session_offline ends mode
  · intro configuration answers ends mode
    exact ⟨session_steps ends mode, fun view blind => session_filter ends mode blind⟩

/-! ## An online session -/

/-- The variables of a process that serves the main network with a node. -/
def onlineVariables : Variables := fun name =>
  [("MODE", "ONLINE"), ("NETWORK", "Core"), ("PORT", "8080")].lookup name

/-- A node of the main network, which answers two queries after it was verified. -/
def coreScript : List Reply :=
  [.several
    [.result (.ofMembers
      [("hash", .text Network.core.genesisHash.render), ("number", .text "0x0")]),
     .result (.text "0x45c")],
   .result (.text "0x1"), .rpc 3 "reverted"]

/-- Queries, the second of which is not permitted. -/
def coreQueries : List Request :=
  [⟨"eth_call", .array [.null]⟩, ⟨"eth_sendRawTransaction", .array []⟩,
   ⟨"eth_estimateGas", .array []⟩]

/-- Whether a session ends with a service that has a node. -/
def SessionEnd.isServedOnline : SessionEnd → Bool
  | .served configuration _ => configuration.isOnline
  | _ => false

/-- The node is asked for its first block and its chain id, and then gets the two queries that are
permitted. -/
theorem session_sends_core :
    let way := Transport.scripted "http://core.node/"
    (∃ configuration answers script journal script' journal',
      session .standard onlineVariables way coreQueries coreScript .empty
        = ((.served configuration answers, script'), journal') ∧
      configuration.mode = .online ∧
      Steps way coreQueries script journal answers script' journal') ∧
    (session .standard onlineVariables way.recorded coreQueries ([], coreScript) .empty).1.2.1
      = [.several [⟨"eth_getBlockByNumber", .array [.text "0x0", .bool false]⟩,
          ⟨"eth_chainId", .array []⟩],
        .single ⟨"eth_call", .array [.null]⟩, .single ⟨"eth_estimateGas", .array []⟩] := by
  intro way
  have facts := session_sends .standard onlineVariables way coreQueries coreScript .empty
  have serves : (session .standard onlineVariables way coreQueries coreScript
      .empty).1.1.isServedOnline = true := by decide +kernel
  have permitted : queries coreQueries
      = [.single ⟨"eth_call", .array [.null]⟩, .single ⟨"eth_estimateGas", .array []⟩] := rfl
  generalize session .standard onlineVariables way coreQueries coreScript .empty = run
    at facts serves ⊢
  obtain ⟨⟨ended, script'⟩, journal'⟩ := run
  obtain ⟨sends, -, online⟩ := facts
  cases ended with
  | unloaded error => cases serves
  | unstarted configuration error => cases serves
  | served configuration answers =>
    have mode : configuration.mode = .online := configuration.isOnline_eq_true_iff.mp serves
    obtain ⟨steps, -⟩ := online configuration answers rfl mode
    refine ⟨⟨configuration, answers, _, _, script', journal', rfl, mode, steps⟩, ?_⟩
    rw [sends [], traffic, if_pos mode, permitted, List.nil_append]

end ChainIdentity
