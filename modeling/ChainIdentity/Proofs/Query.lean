import ChainIdentity.Proofs.Ledger
import ChainIdentity.Proofs.Recording

/-!
# What comes of queries

A query that is permitted has the result of the transport, and another one is refused before the
node has any part in it (`passThrough_of_permitted`, `passThrough_of_refused`).  `Steps` is what
follows for queries in a row: each of them starts in the state of the node and with the journal that
the one before it left, and a refusal leaves both as they were, but for the trace id of its error.

Two things are read off this.  What a row of queries sends are the permitted ones in their order
(`answers_records`).  And where a node does not depend on the journal, the permitted ones come to
the same with and without the others in between (`answers_filter`); a client that posts to a node
is such a one (`HttpClient.transport_blind`).
-/

namespace ChainIdentity

variable {σ : Type}

/-! ## One query -/

/-- The method of a request is one that is advertised for queries. -/
def Request.Permitted (request : Request) : Prop :=
  request.method ∈ NetworkOptions.standard.callMethods

instance (request : Request) : Decidable request.Permitted :=
  inferInstanceAs (Decidable (request.method ∈ NetworkOptions.standard.callMethods))

/-- The span of a query. -/
abbrev querySpan (request : Request) : Span := ⟨"call", [("method", .quoted request.method)]⟩

/-- The check of a query asks whether its method is permitted. -/
theorem isCallMethod_iff (request : Request) :
    isCallMethod request.method = true ↔ request.Permitted :=
  List.contains_iff_mem

/-- The error for a query that is not permitted, raised under a fresh trace id. -/
def refusal (request : Request) (journal : Journal) : RegistryError :=
  ⟨.disallowedMethod, (Refusal.disallowed request.method).note, ⟨journal.nextTrace⟩, none⟩

/-- The journal after a trace id was handed out. -/
def Journal.traced (journal : Journal) : Journal :=
  { journal with nextTrace := journal.nextTrace + 1 }

section

variable {way : Transport σ} {request : Request} {state : σ} {journal : Journal}

/-- A permitted query has the result of the transport. -/
theorem passThrough_of_permitted (permitted : request.Permitted) {state' : σ} {later : Journal}
    {result : Except TransportError Json}
    (calls : way.call request state (journal.inside (querySpan request))
      = ((result, state'), later)) :
    passThrough way request state journal
      = ((result.mapError .transport, state'), { later with spans := journal.spans }) := by
  have allowed : ((Attempt.ofJournaled (ensureCallMethod request.method)).mapError
      ServiceError.registry : Attempt σ ServiceError Unit) state
        (journal.inside (querySpan request))
        = ((.ok (), state), journal.inside (querySpan request)) := by
    apply Attempt.mapError_of_ok
    unfold ensureCallMethod
    rw [Attempt.ofJournaled_apply, if_pos ((isCallMethod_iff request).mpr permitted)]
    rfl
  have passed : (way.call request).mapError ServiceError.transport state
      (journal.inside (querySpan request)) = ((result.mapError .transport, state'), later) := by
    cases result with
    | ok value => exact Attempt.mapError_of_ok calls
    | error error => exact Attempt.mapError_of_error calls
  unfold passThrough
  rw [Attempt.within_apply]
  rw [Attempt.bind_of_ok allowed, passed]

/-- A query that is not permitted is refused before anything is sent, whatever the node is. -/
theorem passThrough_of_refused (outside : ¬ request.Permitted) :
    passThrough way request state journal
      = ((.error (.registry (refusal request journal)), state), journal.traced) := by
  have refused : ((Attempt.ofJournaled (ensureCallMethod request.method)).mapError
      ServiceError.registry : Attempt σ ServiceError Unit) state
        (journal.inside (querySpan request))
        = ((.error (.registry (refusal request journal)), state),
          (journal.inside (querySpan request)).traced) := by
    apply Attempt.mapError_of_error
    unfold ensureCallMethod
    rw [Attempt.ofJournaled_apply, if_neg (mt (isCallMethod_iff request).mp outside)]
    rfl
  unfold passThrough
  rw [Attempt.within_apply, Attempt.bind_of_error refused]
  rfl

end

/-- What a query sends. -/
def Request.sends (request : Request) : List Sent :=
  if request.Permitted then [.single request] else []

/-- A query is the same over a recorded way, and sends itself if it is permitted. -/
theorem passThrough_records (way : Transport σ) (request : Request) :
    Records request.sends (passThrough way.recorded request) (passThrough way request) := by
  intro sent state journal
  unfold Request.sends
  by_cases permitted : request.Permitted
  · rcases calls : way.call request state (journal.inside (querySpan request))
      with ⟨⟨result, state'⟩, later⟩
    have watched := Records.call way request sent state (journal.inside (querySpan request))
    rw [calls] at watched
    rw [passThrough_of_permitted permitted watched, passThrough_of_permitted permitted calls,
      if_pos permitted]
  · rw [passThrough_of_refused permitted, passThrough_of_refused permitted, if_neg permitted,
      List.append_nil]

/-! ## Queries in a row -/

/-- What comes of a query; without a node there is nothing. -/
abbrev QueryAnswer := Option (Except ServiceError Json)

namespace Service

/-- Puts a query to the node. -/
def answer (service : Service σ) (request : Request) : Talk σ QueryAnswer :=
  match service.query? request with
  | some query => do return some (← query.run)
  | none => return none

/-- Puts queries to the node, one after the other. -/
def answers (service : Service σ) : List Request → Talk σ (List QueryAnswer)
  | [] => return []
  | request :: rest => do return (← service.answer request) :: (← service.answers rest)

/-- Queries are answered one after the other. -/
theorem answers_cons (service : Service σ) (request : Request) (rest : List Request) (state : σ)
    (journal : Journal) :
    service.answers (request :: rest) state journal
      = (((service.answer request state journal).1.1
          :: (service.answers rest (service.answer request state journal).1.2
              (service.answer request state journal).2).1.1,
          (service.answers rest (service.answer request state journal).1.2
              (service.answer request state journal).2).1.2),
        (service.answers rest (service.answer request state journal).1.2
          (service.answer request state journal).2).2) := rfl

/-- Offline nothing comes of a query. -/
theorem answers_offline {service : Service σ} (offline : service.transport = none)
    (requests : List Request) (state : σ) (journal : Journal) :
    service.answers requests state journal
      = ((requests.map fun _ => none, state), journal) := by
  have nothing : ∀ request state journal,
      service.answer request state journal = ((none, state), journal) := by
    intro request state journal
    unfold answer query?
    rw [offline]
    rfl
  induction requests with
  | nil => rfl
  | cons request rest ih =>
    rw [answers_cons, nothing, ih]
    rfl

/-- Online a query is passed through. -/
theorem answer_online {service : Service σ} {way : Transport σ}
    (online : service.transport = some way) (request : Request) (state : σ) (journal : Journal) :
    service.answer request state journal
      = ((some (passThrough way request state journal).1.1,
          (passThrough way request state journal).1.2),
        (passThrough way request state journal).2) := by
  unfold answer query?
  rw [online]
  rfl

end Service

/-- The queries of an online service, step by step: what comes of each of them, and in which state
of the node and with which journal the next one is put. -/
inductive Steps (way : Transport σ) :
    List Request → σ → Journal → List QueryAnswer → σ → Journal → Prop where
  /-- No query is left. -/
  | done {state : σ} {journal : Journal} : Steps way [] state journal [] state journal
  /-- A permitted query has the result of the transport, or its error. -/
  | permitted {request : Request} {rest : List Request} {state between state' : σ}
      {journal later journal' : Journal} {result : Except TransportError Json}
      {answers : List QueryAnswer} (allowed : request.Permitted)
      (calls : way.call request state (journal.inside (querySpan request))
        = ((result, between), later))
      (steps : Steps way rest between { later with spans := journal.spans } answers state'
        journal') :
      Steps way (request :: rest) state journal (some (result.mapError .transport) :: answers)
        state' journal'
  /-- Another query is refused, with its method in the error.  The node is left alone, and what is
  left in the journal is that one more trace id was handed out. -/
  | refused {request : Request} {rest : List Request} {state state' : σ}
      {journal journal' : Journal} {error : RegistryError} {answers : List QueryAnswer}
      (outside : ¬ request.Permitted) (problem : error.problem = .disallowedMethod)
      (named : error.context.get? "method" = some request.method)
      (steps : Steps way rest state journal.traced answers state' journal') :
      Steps way (request :: rest) state journal (some (.error (.registry error)) :: answers)
        state' journal'

/-- The error of a refusal names the method. -/
theorem refusal_method (request : Request) (journal : Journal) :
    (refusal request journal).context.get? "method" = some request.method := by
  have noted : (refusal request journal).context.note = (Refusal.disallowed request.method).note :=
    rfl
  rw [Context.get?_of_about noted, if_pos rfl]

/-- The queries of an online service are put step by step. -/
theorem answers_steps {service : Service σ} {way : Transport σ}
    (online : service.transport = some way) (requests : List Request) (state : σ)
    (journal : Journal) :
    Steps way requests state journal (service.answers requests state journal).1.1
      (service.answers requests state journal).1.2 (service.answers requests state journal).2 := by
  induction requests generalizing state journal with
  | nil => exact .done
  | cons request rest ih =>
    rw [Service.answers_cons, Service.answer_online online]
    by_cases permitted : request.Permitted
    · rcases calls : way.call request state (journal.inside (querySpan request))
        with ⟨⟨result, state'⟩, later⟩
      rw [passThrough_of_permitted permitted calls]
      exact .permitted permitted calls (ih _ _)
    · rw [passThrough_of_refused permitted]
      exact .refused permitted rfl (refusal_method request journal) (ih _ _)

/-- What queries send: the permitted ones, in their order. -/
def queries (requests : List Request) : List Sent :=
  (requests.filter fun request => request.Permitted).map .single

/-- The first query sends what it sends, and the others follow. -/
theorem queries_cons (request : Request) (rest : List Request) :
    queries (request :: rest) = request.sends ++ queries rest := by
  unfold queries Request.sends
  by_cases permitted : request.Permitted
  · simp [permitted]
  · simp [permitted]

/-- Over a recorded way a query is answered as over the way itself, and what it sends is
recorded. -/
theorem answer_records {service : Service σ} {way : Transport σ}
    (online : service.transport = some way) (request : Request) :
    Records request.sends (service.recorded.answer request) (service.answer request) := by
  have online' : service.recorded.transport = some way.recorded := by
    unfold Service.recorded
    rw [online]
    rfl
  intro sent state journal
  rw [Service.answer_online online', Service.answer_online online, passThrough_records]

/-- Queries are the same over a recorded way, and send the permitted ones of them. -/
theorem answers_records {service : Service σ} {way : Transport σ}
    (online : service.transport = some way) (requests : List Request) :
    Records (queries requests) (service.recorded.answers requests) (service.answers requests) := by
  induction requests with
  | nil => exact Records.pure []
  | cons request rest ih =>
    rw [queries_cons, ← List.append_nil (queries rest)]
    exact (answer_records online request).bind fun _ => ih.bind fun _ => Records.pure _

/-! ## Queries that are refused -/

/-- The results of a node do not depend on the journal, as far as `view` shows. -/
def Transport.Blind {β : Type} (way : Transport σ) (view : Except ServiceError Json → β) : Prop :=
  ∀ request state journal journal',
    view ((way.call request state journal).1.1.mapError .transport)
        = view ((way.call request state journal').1.1.mapError .transport) ∧
      (way.call request state journal).1.2 = (way.call request state journal').1.2

/-- The answers to the permitted ones among some queries. -/
def permittedAnswers (requests : List Request) (answers : List QueryAnswer) : List QueryAnswer :=
  ((requests.zip answers).filter fun step => step.1.Permitted).map Prod.snd

/-- The answer to a permitted query is kept. -/
theorem permittedAnswers_of_permitted {request : Request} (permitted : request.Permitted)
    (rest : List Request) (answer : QueryAnswer) (answers : List QueryAnswer) :
    permittedAnswers (request :: rest) (answer :: answers)
      = answer :: permittedAnswers rest answers := by
  simp [permittedAnswers, permitted]

/-- The answer to a query that is not permitted is left out. -/
theorem permittedAnswers_of_refused {request : Request} (outside : ¬ request.Permitted)
    (rest : List Request) (answer : QueryAnswer) (answers : List QueryAnswer) :
    permittedAnswers (request :: rest) (answer :: answers) = permittedAnswers rest answers := by
  simp [permittedAnswers, outside]

/-- The permitted queries are answered as if the others were not there. -/
theorem answers_filter {β : Type} {service : Service σ} {way : Transport σ}
    {view : Except ServiceError Json → β} (online : service.transport = some way)
    (blind : way.Blind view) (requests : List Request) (state : σ) (journal journal' : Journal) :
    (permittedAnswers requests (service.answers requests state journal).1.1).map (Option.map view)
        = (service.answers (requests.filter fun request => request.Permitted) state
            journal').1.1.map (Option.map view) ∧
      (service.answers requests state journal).1.2
        = (service.answers (requests.filter fun request => request.Permitted) state
            journal').1.2 := by
  induction requests generalizing state journal journal' with
  | nil => exact ⟨rfl, rfl⟩
  | cons request rest ih =>
    rw [Service.answers_cons, Service.answer_online online]
    by_cases permitted : request.Permitted
    · rw [List.filter_cons_of_pos (by simpa using permitted), Service.answers_cons,
        Service.answer_online online]
      obtain ⟨sameView, sameState⟩ := blind request state (journal.inside (querySpan request))
        (journal'.inside (querySpan request))
      rcases calls : way.call request state (journal.inside (querySpan request))
        with ⟨⟨result, between⟩, later⟩
      rcases calls' : way.call request state (journal'.inside (querySpan request))
        with ⟨⟨result', between'⟩, later'⟩
      rw [calls, calls'] at sameView sameState
      obtain rfl : between = between' := sameState
      rw [passThrough_of_permitted permitted calls, passThrough_of_permitted permitted calls']
      obtain ⟨views, states⟩ := ih between { later with spans := journal.spans }
        { later' with spans := journal'.spans }
      refine ⟨?_, states⟩
      have sameAnswer : Option.map view (some (result.mapError .transport))
          = Option.map view (some (result'.mapError .transport)) := congrArg some sameView
      rw [permittedAnswers_of_permitted permitted, List.map_cons, List.map_cons, views, sameAnswer]
    · rw [List.filter_cons_of_neg (by simpa using permitted), passThrough_of_refused permitted]
      obtain ⟨views, states⟩ := ih state journal.traced journal'
      refine ⟨?_, states⟩
      rw [permittedAnswers_of_refused permitted]
      exact views

/-! ## A client has no use for the journal -/

/-- What an error of a service says, its trace id apart. -/
def ServiceError.said : ServiceError → (RegistryProblem ⊕ TransportProblem) × Note
  | .registry error => (.inl error.problem, error.context.note)
  | .transport error => (.inr error.problem, error.context.note)

/-- An error of the transport says that this is what went wrong. -/
def TransportError.Says (error : TransportError) (problem : TransportProblem) (note : Note) :
    Prop :=
  error.problem = problem ∧ error.context.note = note

/-- Errors that say the same are told apart by their trace ids only. -/
theorem TransportError.Says.said_eq {error error' : TransportError} {problem : TransportProblem}
    {note : Note} (tells : error.Says problem note) (tells' : error'.Says problem note) :
    (ServiceError.transport error).said = (ServiceError.transport error').said := by
  show (Sum.inr error.problem, error.context.note) = (Sum.inr error'.problem, error'.context.note)
  rw [tells.1, tells.2, tells'.1, tells'.2]

/-- An answer without a result raises an error about what it holds instead. -/
theorem Response.decode_raises {response : Json} {fault : ResponseFault}
    (holds : Response.result response = .error fault) (method : String) :
    ∃ problem note, ∀ journal, ∃ error later,
      Response.decode method response journal = (.error error, later) ∧
        error.Says problem note := by
  unfold Response.decode
  rw [holds]
  cases fault with
  | reported code message =>
    exact ⟨_, _, fun _ => ⟨_, _, rfl, rfl, rfl⟩⟩
  | noResult =>
    exact ⟨_, _, fun _ => ⟨_, _, rfl, rfl, rfl⟩⟩

namespace HttpClient

/-- A body without a document raises an error about the body. -/
theorem settleBody_raises {status : HttpStatus} {body : Option String}
    (missing : status.isSuccess = true → body.bind Json.parse? = none) (url : String) :
    ∃ problem note, ∀ journal, ∃ error later,
      settleBody url status body journal = (.error error, later) ∧ error.Says problem note := by
  unfold settleBody
  split
  · rename_i success
    rw [missing success]
    exact ⟨_, _, fun _ => ⟨_, _, rfl, rfl, rfl⟩⟩
  · exact ⟨_, _, fun _ => ⟨_, _, rfl, rfl, rfl⟩⟩

/-- A reply without a document raises an error about the reply. -/
theorem settle_raises {reply : HttpReply} (holds : reply.document? = none) (url : String) :
    ∃ problem note, ∀ journal, ∃ error later,
      settle url reply journal = (.error error, later) ∧ error.Says problem note := by
  cases reply with
  | lost =>
    exact ⟨_, _, fun _ => ⟨_, _, rfl, rfl, rfl⟩⟩
  | response status body =>
    refine settleBody_raises (fun success => ?_) url
    rw [Option.bind_some]
    simpa only [HttpReply.document?, success, if_true] using holds
  | broken status => exact settleBody_raises (fun _ => rfl) url

/-- A request for which no document is received raises an error about the reply that decides. -/
theorem call_raises {client : HttpClient} {exchange : Exchange}
    (holds : client.received exchange = none) (request : Request) :
    ∃ problem note, ∀ journal, ∃ error,
      (client.call request exchange journal).1.1 = .error error ∧ error.Says problem note := by
  let taken : Exchange := { exchange with nextId := exchange.nextId + 1 }
  have holdsTaken : (lastReply client.url client.policy.maxRetries
    (taken.upcoming client.url)).document? = none := holds
  obtain ⟨problem, note, settles⟩ := settle_raises holdsTaken client.url.render
  refine ⟨problem, note, fun journal => ?_⟩
  obtain ⟨between, posts⟩ := client.post_apply (Exchange.envelope exchange.nextId request) taken
    (journal.inside ⟨"call",
      [("method", .quoted request.method), ("url", .shown client.url.render)]⟩)
  obtain ⟨error, later, settled, tells⟩ := settles between
  refine ⟨error, ?_, tells⟩
  rw [settled] at posts
  unfold call
  rw [Attempt.within_fst, Attempt.bind_talk (exchange.takeId_apply _), Attempt.bind_of_error posts]

/-- The results of a client that posts to a node do not depend on the journal, as far as the
results themselves and what errors say is concerned. -/
theorem transport_blind (client : HttpClient) :
    client.transport.Blind (Except.mapError ServiceError.said) := by
  intro request exchange journal journal'
  refine ⟨?_, (client.call_snd request exchange journal).trans
    (client.call_snd request exchange journal').symm⟩
  show ((client.call request exchange journal).1.1.mapError _).mapError _
    = ((client.call request exchange journal').1.1.mapError _).mapError _
  cases holds : client.received exchange with
  | some document =>
    obtain ⟨between, runs⟩ := call_of_some holds request journal
    obtain ⟨between', runs'⟩ := call_of_some holds request journal'
    rw [runs, runs']
    cases result : Response.result document with
    | ok value => rw [Response.decode_of_ok result, Response.decode_of_ok result]
    | error fault =>
      obtain ⟨problem, note, raises⟩ := Response.decode_raises result request.method
      obtain ⟨error, later, ends, tells⟩ := raises between
      obtain ⟨error', later', ends', tells'⟩ := raises between'
      rw [ends, ends']
      exact congrArg Except.error (tells.said_eq tells')
  | none =>
    obtain ⟨problem, note, raises⟩ := call_raises holds request
    obtain ⟨error, ends, tells⟩ := raises journal
    obtain ⟨error', ends', tells'⟩ := raises journal'
    rw [ends, ends']
    exact congrArg Except.error (tells.said_eq tells')

end HttpClient

end ChainIdentity
