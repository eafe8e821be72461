import ChainIdentity.Proofs.Ledger

/-!
# No answer is delivered to another request

A run of operations over one line is cut into turns, and each turn is judged by itself.  A turn
is honest if the elements of a batch reply that carry the id of an envelope answer an envelope
with this id; what answers what is not said anywhere and is any relation between envelopes and
documents.  Everything else is left to the other end of the line: the order of the elements,
doubles and gaps, elements without an id, and elements that answer requests of earlier turns.

A turn is faithful if every result of a batch is either taken from an answer to the envelope
that was sent for the request at the same position, or the error that says that there was none.
`turn_faithful` shows it of an honest turn on a line that is accounted for, and
`turns_faithful` carries the ledger through the run.
-/

namespace ChainIdentity

open HttpClient

/-- One operation of a run. -/
structure Turn where
  /-- The operation. -/
  inquiry : Inquiry
  /-- The line before it. -/
  before : Exchange
  /-- What it ended with. -/
  finding : Finding
  /-- The line after it. -/
  after : Exchange

/-- The turns of a run: each operation finds the line as the one before it left it. -/
def HttpClient.turns (client : HttpClient) : List Inquiry → Exchange → Journal → List Turn
  | [], _, _ => []
  | inquiry :: rest, exchange, journal =>
    let ((finding, after), later) := client.inquire inquiry exchange journal
    ⟨inquiry, exchange, finding, after⟩ :: client.turns rest after later

namespace Turn

/-- The other end of the line is honest in a turn: every element of a batch reply that carries
the id of an envelope that was sent, be it in this turn or before, answers an envelope that was
sent with this id. -/
def Honest (client : HttpClient) (answers : Json → Json → Prop) (turn : Turn) : Prop :=
  ∀ requests responses, turn.inquiry = .several requests →
    client.received turn.before = some (.array responses) →
    ∀ response ∈ responses, ∀ id, responseId? response = some id →
      (∃ envelope ∈ turn.after.envelopes, responseId? envelope = some id) →
      ∃ envelope ∈ turn.after.envelopes,
        responseId? envelope = some id ∧ answers envelope response

/-- A result is taken from one of the responses, as it decodes, and this response answers the
envelope. -/
def IsAnswer (answers : Json → Json → Prop) (responses : List Json) (id : UInt64)
    (request : Request) (result : Except TransportError Json) : Prop :=
  ∃ response ∈ responses, responseId? response = some id ∧
    answers (Exchange.envelope id request) response ∧
    ∃ journal, result = (Response.decode request.method response journal).1

/-- A result is the error that says that no response has the id, and none of them has. -/
def IsMissing (responses : List Json) (id : UInt64) (request : Request)
    (result : Except TransportError Json) : Prop :=
  (∀ response ∈ responses, responseId? response ≠ some id) ∧
    ∃ error, result = .error error ∧ error.problem = .unreadable ∧
      error.context.note = .ofMethod request.method
        ("missing response for request " ++ Text.Numeral.decimal id.toNat)

/-- What it takes for the results of a batch to be delivered to the requests that they belong
to.  The requests were posted in their order with ids that no envelope had before and that
differ from one another, and every result is the answer to the request at its position, or the
error that says that this answer is missing. -/
structure Delivers (client : HttpClient) (answers : Json → Json → Prop) (turn : Turn)
    (requests : List Request) (results : List (Except TransportError Json))
    (ids : List UInt64) (responses : List Json) : Prop where
  /-- There is one id for each request. -/
  ids_length : ids.length = requests.length
  /-- The ids differ from one another. -/
  ids_nodup : ids.Nodup
  /-- The ids are new. -/
  ids_fresh : ∀ envelope ∈ turn.before.envelopes, ∀ id ∈ ids, responseId? envelope ≠ some id
  /-- The envelopes of the requests, made with these ids, arrived together. -/
  posted : ⟨client.url.target, .array (List.zipWith Exchange.envelope ids requests)⟩
    ∈ turn.after.posts
  /-- Every request has its own result. -/
  delivered : ∀ (index : Nat) (request : Request), requests[index]? = some request →
    ∃ id result,
      ids[index]? = some id ∧ results[index]? = some result ∧
        (IsAnswer answers responses id request result ∨
          IsMissing responses id request result)

/-- A turn is faithful: a batch that ends with results ends with one for each request, and if
there is a request at all, an array was received and its elements were delivered to the requests
that they belong to. -/
def Faithful (client : HttpClient) (answers : Json → Json → Prop) (turn : Turn) : Prop :=
  ∀ requests results, turn.inquiry = .several requests → turn.finding = .several (.ok results) →
    results.length = requests.length ∧
    (requests ≠ [] → ∃ responses ids, client.received turn.before = some (.array responses) ∧
      Delivers client answers turn requests results ids responses)

end Turn

/-! ## One turn -/

section

variable {client : HttpClient} {answers : Json → Json → Prop} {exchange : Exchange}
  {issued : List Request} {journal : Journal}

/-- The result of a request whose id no two responses compete for: what is delivered to it comes
from the response with its id, or there is none. -/
theorem resultOf_delivered {responses : List Json} {id : UInt64} {request : Request}
    (honest : ∀ response ∈ responses, responseId? response = some id →
      answers (Exchange.envelope id request) response) (between : Journal) :
    Turn.IsAnswer answers responses id request
        (resultOf id request (lastResponse? id responses) between).1 ∨
      Turn.IsMissing responses id request
        (resultOf id request (lastResponse? id responses) between).1 := by
  cases last : lastResponse? id responses with
  | some response =>
    obtain ⟨member, hasId⟩ := lastResponse?_of_some last
    exact .inl ⟨response, member, hasId, honest response member hasId, between, rfl⟩
  | none =>
    obtain ⟨error, later, missing, problem, note⟩ := resultOf_none id request between
    rw [missing]
    exact .inr ⟨lastResponse?_eq_none_iff.mp last, error, rfl, problem, note⟩

/-- A batch arrives where an array is received for it. -/
theorem batch_posted {requests : List Request} (nonempty : requests ≠ []) {responses : List Json}
    (holds : client.received exchange = some (.array responses)) :
    ⟨client.url.target, batchBody exchange requests⟩
      ∈ (client.afterBatch requests exchange).posts := by
  have notEmpty : requests.isEmpty = false := by simpa using nonempty
  have reached : (afterIds requests exchange).reaches client.url = true :=
    reaches_of_received holds
  unfold afterBatch
  rw [notEmpty]
  exact Exchange.mem_posts_afterPosts reached _ (client.tries_pos _)

/-- With a batch the envelope of every request arrives. -/
theorem batch_envelope {requests : List Request} {responses : List Json}
    (holds : client.received exchange = some (.array responses)) {index : Nat} {id : UInt64}
    {request : Request} (hasId : (batchIds exchange requests)[index]? = some id)
    (hasRequest : requests[index]? = some request) :
    Exchange.envelope id request ∈ (client.afterBatch requests exchange).envelopes := by
  have nonempty : requests ≠ [] := by
    rintro rfl
    cases hasRequest
  refine List.mem_flatMap.mpr ⟨_, batch_posted nonempty holds, ?_⟩
  show Exchange.envelope id request
    ∈ List.zipWith Exchange.envelope (batchIds exchange requests) requests
  exact List.mem_of_getElem? (List.getElem?_zipWith_eq_some.mpr
    ⟨id, request, hasId, hasRequest, rfl⟩)

/-- A batch for which an array is received delivers its elements, if these are honest.  The ids
are the numbers of the requests in the ledger; that an id belongs to one request only is what
turns an answer to some envelope with the id into the answer to this request. -/
theorem batch_delivers (accounted : Accounted exchange issued) {requests : List Request}
    (nonempty : requests ≠ []) (bound : issued.length + requests.length < UInt64.size)
    {responses : List Json} (holds : client.received exchange = some (.array responses))
    {finding : Finding} (honest : Turn.Honest client answers
      ⟨.several requests, exchange, finding, client.afterBatch requests exchange⟩)
    (between : Journal) :
    Turn.Delivers client answers
      ⟨.several requests, exchange, finding, client.afterBatch requests exchange⟩ requests
      (resultsFrom (.ofResponses responses) (batchIds exchange requests) requests between).1
      (batchIds exchange requests) responses := by
  have first := accounted.nextId_toNat (by
    have := List.length_pos_iff.mpr nonempty
    omega)
  have distinct : (batchIds exchange requests).Nodup :=
    Exchange.idsFrom_nodup (by omega)
  refine ⟨Exchange.idsFrom_length _ _, distinct, ?_, batch_posted nonempty holds, ?_⟩
  · intro envelope sent id member
    obtain ⟨index, hasId⟩ := List.mem_iff_getElem?.mp member
    have below : index < requests.length := by
      have inside := (List.getElem?_eq_some_iff.mp hasId).1
      rwa [batchIds, Exchange.idsFrom_length] at inside
    rw [accounted.batchIds_getElem? bound below] at hasId
    rw [← Option.some.inj hasId]
    exact accounted.ne_of_issued_le (by omega) (by omega) sent
  · intro index request hasRequest
    have below := (List.getElem?_eq_some_iff.mp hasRequest).1
    have hasId := accounted.batchIds_getElem? bound below
    obtain ⟨between', result⟩ :=
      positionalResults_getElem? responses hasId hasRequest between
    rw [← resultsFrom_eq_positionalResults responses distinct requests] at result
    refine ⟨_, _, hasId, result, resultOf_delivered ?_ between'⟩
    intro response member hasResponseId
    obtain ⟨envelope, sent, hasEnvelopeId, answered⟩ :=
      honest requests responses rfl holds response member _ hasResponseId
        ⟨_, batch_envelope holds hasId hasRequest, Exchange.responseId?_envelope _ _⟩
    have inLedger : (issued ++ requests)[issued.length + index]? = some request := by
      rw [List.getElem?_append_right (by omega), Nat.add_sub_cancel_left]
      exact hasRequest
    have accountedAfter : Accounted (client.afterBatch requests exchange) (issued ++ requests) :=
      accounted.afterBatch bound
    rw [← List.length_append] at bound
    rw [← accountedAfter.eq_envelope bound inLedger sent hasEnvelopeId]
    exact answered

/-- An honest turn on a line that is accounted for is faithful. -/
theorem turn_faithful (accounted : Accounted exchange issued) {inquiry : Inquiry}
    (bound : issued.length + inquiry.requests.length < UInt64.size)
    (honest : Turn.Honest client answers
      ⟨inquiry, exchange, (client.inquire inquiry exchange journal).1.1,
        (client.inquire inquiry exchange journal).1.2⟩) :
    Turn.Faithful client answers
      ⟨inquiry, exchange, (client.inquire inquiry exchange journal).1.1,
        (client.inquire inquiry exchange journal).1.2⟩ := by
  rintro requests results rfl ends
  rw [inquire_several_fst] at honest ends ⊢
  rw [batch_snd] at honest ⊢
  have ends : (client.batch requests exchange journal).1.1 = .ok results :=
    Finding.several.inj ends
  by_cases nonempty : requests = []
  · subst nonempty
    rw [batch_nil] at ends
    obtain rfl : [] = results := Except.ok.inj ends
    exact ⟨rfl, fun contra => absurd rfl contra⟩
  · by_cases array : ∃ responses, client.received exchange = some (.array responses)
    · obtain ⟨responses, holds⟩ := array
      obtain ⟨between, runs⟩ := batch_of_array holds nonempty journal
      rw [runs] at ends
      obtain rfl := Except.ok.inj ends
      have delivers := batch_delivers accounted nonempty bound holds honest between
      refine ⟨?_, fun _ => ⟨responses, _, holds, delivers⟩⟩
      rw [resultsFrom_eq_positionalResults responses delivers.ids_nodup]
      exact positionalResults_length responses delivers.ids_length between
    · obtain ⟨error, runs⟩ :=
        batch_of_other (fun responses holds => array ⟨responses, holds⟩) nonempty journal
      rw [runs] at ends
      cases ends

end

/-! ## Whole runs -/

/-- The requests of a run, in the order in which they are issued. -/
def requestsOf (inquiries : List Inquiry) : List Request :=
  inquiries.flatMap Inquiry.requests

/-- On a line that is accounted for, every turn of a run is faithful if every turn is honest.
The induction is on the operations; what one turn hands to the next is the ledger. -/
theorem turns_faithful_of_accounted {client : HttpClient} {answers : Json → Json → Prop}
    {inquiries : List Inquiry} {exchange : Exchange} {issued : List Request} {journal : Journal}
    (accounted : Accounted exchange issued)
    (bound : issued.length + (requestsOf inquiries).length < UInt64.size)
    (honest : ∀ turn ∈ client.turns inquiries exchange journal, turn.Honest client answers) :
    ∀ turn ∈ client.turns inquiries exchange journal, turn.Faithful client answers := by
  induction inquiries generalizing exchange issued journal with
  | nil =>
    intro turn member
    cases member
  | cons inquiry rest ih =>
    rw [requestsOf, List.flatMap_cons, List.length_append] at bound
    have boundNow : issued.length + inquiry.requests.length < UInt64.size := by omega
    intro turn member
    rcases List.mem_cons.mp member with rfl | later
    · exact turn_faithful accounted boundNow (honest _ List.mem_cons_self)
    · refine ih (accounted.inquire boundNow journal) ?_ ?_ turn later
      · rw [List.length_append]
        unfold requestsOf
        omega
      · exact fun turn member => honest turn (List.mem_cons_of_mem _ member)

/-- No answer is delivered to another request, over whole runs.  A client and its clones carry
out any operations in any order over a line on which nothing was sent before, with fewer than
`UInt64.size` requests in all, and whatever `answers` means, the other end is honest in every turn.
Then every turn is faithful: each result of a batch comes from an answer to the envelope that was
sent for its own request, or says that this answer is missing. -/
theorem turns_faithful (client : HttpClient) (answers : Json → Json → Prop)
    (inquiries : List Inquiry) (scheme : HttpScheme) (host : Url.Host)
    (replies : List HttpReply) (journal : Journal)
    (bound : (requestsOf inquiries).length < UInt64.size)
    (honest : ∀ turn ∈ client.turns inquiries (.start scheme host replies) journal,
      turn.Honest client answers) :
    ∀ turn ∈ client.turns inquiries (.start scheme host replies) journal,
      turn.Faithful client answers :=
  turns_faithful_of_accounted (start_accounted scheme host replies) (by simpa using bound) honest

/-! ## A run with a gap and a late answer -/

namespace Turn

/-- Whether a turn is honest, where it can be computed what answers what. -/
def isHonest (client : HttpClient) (answers : Json → Json → Bool) (turn : Turn) : Bool :=
  match client.received turn.before with
  | some (.array responses) =>
    responses.all fun response =>
      match responseId? response with
      | some id =>
        turn.after.envelopes.any fun envelope =>
          responseId? envelope == some id && answers envelope response
      | none => true
  | _ => true

/-- The check of a turn is sound: what passes it is honest. -/
theorem honest_of_isHonest {client : HttpClient} {answers : Json → Json → Bool} {turn : Turn}
    (checked : turn.isHonest client answers = true) :
    turn.Honest client (fun envelope response => answers envelope response = true) := by
  intro requests responses _ holds response member id hasId _
  unfold isHonest at checked
  simp only [holds, List.all_eq_true] at checked
  have found := checked response member
  simp only [hasId, List.any_eq_true, Bool.and_eq_true, beq_iff_eq] at found
  exact found

end Turn

/-- A client of a node that is reached under its own name. -/
def echoClient : HttpClient :=
  .ofUrl ⟨"http", some ⟨"", none, some (.name "node"), none⟩, .segments [""], none, none⟩

/-- Two batches. -/
def echoInquiries : List Inquiry :=
  [.several [⟨"a", .array []⟩, ⟨"b", .array []⟩], .several [⟨"c", .array []⟩]]

/-- A node that answers every request with its method.  It leaves the first request out and
answers it together with the third one. -/
def echoReplies : List HttpReply :=
  [.response ⟨200⟩ "[\x7b\"id\":2,\"result\":\"b\"\x7d,null]",
   .response ⟨200⟩ "[\x7b\"id\":3,\"result\":\"c\"\x7d,\x7b\"id\":1,\"result\":\"a\"\x7d]"]

/-- A response answers an envelope if its result is the envelope's method. -/
def echoes (envelope response : Json) : Bool :=
  (response.member? "result").bind Json.text? == (envelope.member? "method").bind Json.text?

/-- The results of a turn, the errors among them left out. -/
def Turn.texts (turn : Turn) : List (Option String) :=
  match turn.finding with
  | .several (.ok results) => results.map fun result => result.toOption.bind Json.text?
  | _ => []

/-- The request that was left out misses its answer, and the answer that comes too late for it goes
to no other request. -/
theorem turns_faithful_echo :
    (requestsOf echoInquiries).length < UInt64.size ∧
    (∀ turn ∈ echoClient.turns echoInquiries (.start .http (.name "node") echoReplies) .empty,
      turn.Honest echoClient (fun envelope response => echoes envelope response = true)) ∧
    (∀ turn ∈ echoClient.turns echoInquiries (.start .http (.name "node") echoReplies) .empty,
      turn.Faithful echoClient (fun envelope response => echoes envelope response = true)) ∧
    (echoClient.turns echoInquiries (.start .http (.name "node") echoReplies) .empty).map Turn.texts
      = [[none, some "b"], [some "c"]] := by
  have bound : (requestsOf echoInquiries).length < UInt64.size := by decide
  have honest : ∀ turn ∈
      echoClient.turns echoInquiries (.start .http (.name "node") echoReplies) .empty,
      turn.Honest echoClient (fun envelope response => echoes envelope response = true) := by
    have checked : ((echoClient.turns echoInquiries (.start .http (.name "node") echoReplies)
        .empty).all fun turn => turn.isHonest echoClient echoes) = true := by decide +kernel
    intro turn member
    exact Turn.honest_of_isHonest (List.all_eq_true.mp checked turn member)
  refine ⟨bound, honest, ?_, by decide +kernel⟩
  exact turns_faithful echoClient _ echoInquiries .http (.name "node") echoReplies .empty bound
    honest

end ChainIdentity
