import ChainIdentity.Proofs.Delivery

/-!
# A single request is not matched by id

A batch gives a result to a request only if the result carries the request's id.  A single
request goes another way: whatever document is received for it is taken for its answer, with or
without the id of the envelope that was sent.

`call_eq_ok_iff` and `batch_singleton_eq_ok_iff` say when the two give a result, and
`call_matches_iff` puts them side by side: a single request is answered by a response to another
one exactly where a document comes back that holds a result and another id or none.
-/

namespace ChainIdentity.HttpClient

variable (client : HttpClient) (request : Request) (exchange : Exchange) (journal : Journal)
  (value : Json)

/-- A single request gets the result of the document that is received for it. -/
theorem call_eq_ok_iff :
    (client.call request exchange journal).1.1 = .ok value ↔
      ∃ document, client.received exchange = some document ∧
        Response.result document = .ok value := by
  cases holds : client.received exchange with
  | some document =>
    obtain ⟨between, runs⟩ := call_of_some holds request journal
    rw [runs, Response.decode_eq_ok_iff]
    simp only [Option.some.injEq, exists_eq_left']
  | none =>
    obtain ⟨error, runs⟩ := call_of_none holds request journal
    rw [runs]
    constructor
    · intro contra
      cases contra
    · rintro ⟨_, contra, _⟩
      cases contra

/-- A batch of one request takes one response out of the table. -/
theorem resultsFrom_singleton (responses : List Json) (id : UInt64) :
    (resultsFrom (.ofResponses responses) [id] [request] journal).1
      = [(resultOf id request (lastResponse? id responses) journal).1] := by
  rw [← find?_ofResponses, ← Table.take_fst]
  rfl

/-- A batch of one request takes the next id. -/
theorem batchIds_singleton : batchIds exchange [request] = [exchange.nextId] := by
  simp [batchIds, Exchange.idsFrom]

/-- What a request is given for the response that was found is a result where one was found that
holds it. -/
theorem resultOf_eq_ok_iff (id : UInt64) (found : Option Json) :
    (resultOf id request found journal).1 = .ok value ↔
      ∃ document, found = some document ∧ Response.result document = .ok value := by
  cases found with
  | some document =>
    rw [resultOf_some, Response.decode_eq_ok_iff]
    simp only [Option.some.injEq, exists_eq_left']
  | none =>
    obtain ⟨error, later, missing, -, -⟩ := resultOf_none id request journal
    rw [missing]
    constructor
    · intro contra
      cases contra
    · rintro ⟨_, contra, _⟩
      cases contra

/-- A batch of one request gets the result of the last element with its id. -/
theorem batch_singleton_eq_ok_iff :
    (client.batch [request] exchange journal).1.1 = .ok [.ok value] ↔
      ∃ responses document, client.received exchange = some (.array responses) ∧
        lastResponse? exchange.nextId responses = some document ∧
        Response.result document = .ok value := by
  by_cases array : ∃ responses, client.received exchange = some (.array responses)
  · obtain ⟨responses, holds⟩ := array
    obtain ⟨between, runs⟩ := batch_of_array holds (List.cons_ne_nil request []) journal
    rw [runs, batchIds_singleton, resultsFrom_singleton]
    constructor
    · intro ends
      obtain ⟨document, last, result⟩ := (resultOf_eq_ok_iff request between value _ _).mp
        (List.head_eq_of_cons_eq (Except.ok.inj ends))
      exact ⟨responses, document, holds, last, result⟩
    · rintro ⟨responses', document, holds', last, result⟩
      obtain rfl : responses = responses' :=
        Json.array.inj (Option.some.inj (holds.symm.trans holds'))
      rw [(resultOf_eq_ok_iff request between value _ _).mpr ⟨document, last, result⟩]
  · obtain ⟨error, runs⟩ := batch_of_other (fun responses holds => array ⟨responses, holds⟩)
      (List.cons_ne_nil request []) journal
    rw [runs]
    constructor
    · intro contra
      cases contra
    · rintro ⟨responses, -, holds, -⟩
      exact absurd ⟨responses, holds⟩ array

/-- A single request and a batch of one, side by side.  Both send an envelope with the next id.
The batch gives a result if and only if an array is received whose last element with this id
holds the result; the single request gives it for every document that holds it.  So the answer
of a single request is that to its own envelope unless a document is received that holds a
result and has another id, or none that an envelope can have. -/
theorem call_matches_iff :
    (client.call request exchange journal).1.2
        = client.posted (Exchange.envelope exchange.nextId request)
          { exchange with nextId := exchange.nextId + 1 } ∧
    ((client.batch [request] exchange journal).1.1 = .ok [.ok value] ↔
      ∃ responses document, client.received exchange = some (.array responses) ∧
        lastResponse? exchange.nextId responses = some document ∧
        Response.result document = .ok value) ∧
    ((client.call request exchange journal).1.1 = .ok value ↔
      ∃ document, client.received exchange = some document ∧
        Response.result document = .ok value) ∧
    (((client.call request exchange journal).1.1 = .ok value →
        ∃ document, client.received exchange = some document ∧
          responseId? document = some exchange.nextId) ↔
      ¬ ∃ document, client.received exchange = some document ∧
        Response.result document = .ok value ∧
        responseId? document ≠ some exchange.nextId) := by
  refine ⟨client.call_snd request exchange journal,
    client.batch_singleton_eq_ok_iff request exchange journal value,
    client.call_eq_ok_iff request exchange journal value, ?_⟩
  rw [client.call_eq_ok_iff request exchange journal value]
  constructor
  · rintro matching ⟨document, holds, result, otherId⟩
    obtain ⟨document', holds', sameId⟩ := matching ⟨document, holds, result⟩
    obtain rfl : document = document' := Option.some.inj (holds.symm.trans holds')
    exact otherId sameId
  · rintro noForeign ⟨document, holds, result⟩
    refine ⟨document, holds, ?_⟩
    by_cases sameId : responseId? document = some exchange.nextId
    · exact sameId
    · exact absurd ⟨document, holds, result, sameId⟩ noForeign

/-- A response to request 99 is taken for the answer to request 1. -/
theorem call_takes_foreign_answer :
    ¬ ∀ (client : HttpClient) (request : Request) (exchange : Exchange) (journal : Journal)
        (value : Json), (client.call request exchange journal).1.1 = .ok value →
      ∃ document, client.received exchange = some document ∧
        responseId? document = some exchange.nextId := by
  intro claim
  let exchange : Exchange := .start .http (.name "node")
    [.response ⟨200⟩ "\x7b\"id\":99,\"jsonrpc\":\"2.0\",\"result\":\"0x45b\"\x7d"]
  have foreign : (echoClient.received exchange).bind responseId? = some 99 := by decide +kernel
  have answered : (echoClient.call ⟨chainIdMethod, .array []⟩ exchange .empty).1.1.isOk = true := by
    decide +kernel
  cases ends : (echoClient.call ⟨chainIdMethod, .array []⟩ exchange .empty).1.1 with
  | error error =>
    rw [ends] at answered
    cases answered
  | ok value =>
    obtain ⟨document, holds, sameId⟩ := claim echoClient _ exchange .empty value ends
    rw [holds, Option.bind_some, sameId] at foreign
    cases foreign

end ChainIdentity.HttpClient
