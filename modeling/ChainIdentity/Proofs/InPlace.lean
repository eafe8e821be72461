import ChainIdentity.Proofs.Delivery
import ChainIdentity.Proofs.Untraced

/-!
# Results stand where their requests do

A batch that is answered with an array ends with a list of results as long as the list of requests,
and the result at a position is computed from one element of the array at most: the last one with
the id that the request at this position was sent with (`IsLast`).  Where there is none, the result
is an error that says so.  `InPlace` states this of a whole list.

What else the array holds does not matter.  `Interchangeable` names two ways in which one array can
stand for another: they hold the same elements with one of the ids in the same order, or they hold
the same elements in any order and no id twice.  In both the last element with an id is the same
(`Interchangeable.lastResponse?_eq`).

`batch_in_place` is the main statement.  It says the two things of every batch for which a document
is received, and that any document but an array is an error of the whole batch.  Ids are words of
64 bits, so the request behind `UInt64.size` others gets the id of the first one again; up to there,
which is farther than any list in memory goes, no two requests share an id, whatever the next id of
the client is (`notMem_take_batchIds`).
-/

namespace ChainIdentity.HttpClient

/-! ## The last element with an id -/

/-- A response is the last one with an id: it has the id, and none behind it has. -/
def IsLast (responses : List Json) (id : UInt64) (response : Json) : Prop :=
  ∃ before after, responses = before ++ response :: after ∧ responseId? response = some id ∧
    ∀ later ∈ after, responseId? later ≠ some id

/-- What is looked up for an id is the last response with this id. -/
theorem lastResponse?_eq_some_iff {responses : List Json} {id : UInt64} {response : Json} :
    lastResponse? id responses = some response ↔ IsLast responses id response := by
  unfold lastResponse? IsLast
  rw [List.find?_eq_some_iff_append]
  constructor
  · rintro ⟨hasId, after, before, same, others⟩
    refine ⟨before.reverse, after.reverse, ?_, by simpa using hasId, ?_⟩
    · rw [← List.reverse_reverse responses, same]
      simp
    · intro later among
      simpa using others later (List.mem_reverse.mp among)
  · rintro ⟨before, after, rfl, hasId, others⟩
    refine ⟨by simpa using hasId, after.reverse, before.reverse, by simp, ?_⟩
    intro later among
    simpa using others later (List.mem_reverse.mp among)

/-- The elements of an array that carry one of the given ids. -/
def usable (ids : List UInt64) (responses : List Json) : List Json :=
  responses.filter fun response => (responseId? response).any ids.contains

/-- Elements without one of the ids do not count for any of them. -/
theorem lastResponse?_usable {ids : List UInt64} {id : UInt64} (among : id ∈ ids)
    (responses : List Json) :
    lastResponse? id (usable ids responses) = lastResponse? id responses := by
  unfold lastResponse? usable
  rw [← List.filter_reverse, List.find?_filter]
  congr 1
  funext response
  by_cases same : responseId? response = some id
  · simp [same, among]
  · simp [same]

/-- Where no id comes twice, any element with an id is the last one with it. -/
theorem lastResponse?_eq_some_iff_mem {responses : List Json}
    (distinct : (responses.filterMap responseId?).Nodup) {id : UInt64} {response : Json} :
    lastResponse? id responses = some response ↔
      response ∈ responses ∧ responseId? response = some id := by
  refine ⟨lastResponse?_of_some, ?_⟩
  rintro ⟨member, hasId⟩
  cases last : lastResponse? id responses with
  | none => exact absurd hasId (lastResponse?_eq_none_iff.mp last response member)
  | some response' =>
    obtain ⟨before, after, rfl, hasId', others⟩ := lastResponse?_eq_some_iff.mp last
    rcases List.mem_append.mp member with earlier | rest
    · have among : id ∈ before.filterMap responseId? :=
        List.mem_filterMap.mpr ⟨response, earlier, hasId⟩
      rw [List.filterMap_append, List.filterMap_cons_some hasId'] at distinct
      exact absurd rfl ((List.nodup_append.mp distinct).2.2 id among id List.mem_cons_self)
    · rcases List.mem_cons.mp rest with rfl | later
      · rfl
      · exact absurd hasId (others response later)

/-- Where no id comes twice, the order of the elements does not matter. -/
theorem lastResponse?_perm {responses responses' : List Json} (perm : responses.Perm responses')
    (distinct : (responses.filterMap responseId?).Nodup) (id : UInt64) :
    lastResponse? id responses = lastResponse? id responses' := by
  have distinct' : (responses'.filterMap responseId?).Nodup :=
    (perm.filterMap responseId?).nodup distinct
  ext response
  rw [lastResponse?_eq_some_iff_mem distinct, lastResponse?_eq_some_iff_mem distinct',
    perm.mem_iff]

/-- One array can stand for another where the given ids are asked for: the elements with one of the
ids are the same in the same order, or all elements are the same in any order and no id comes
twice. -/
def Interchangeable (ids : List UInt64) (responses responses' : List Json) : Prop :=
  usable ids responses = usable ids responses' ∨
    responses.Perm responses' ∧ (responses.filterMap responseId?).Nodup

/-- For the ids that are asked for, the same is looked up in either array. -/
theorem Interchangeable.lastResponse?_eq {ids : List UInt64} {responses responses' : List Json}
    (interchangeable : Interchangeable ids responses responses') {id : UInt64} (among : id ∈ ids) :
    lastResponse? id responses = lastResponse? id responses' := by
  rcases interchangeable with same | ⟨perm, distinct⟩
  · rw [← lastResponse?_usable among, same, lastResponse?_usable among]
  · exact lastResponse?_perm perm distinct id

/-! ## The ids of a batch -/

/-- As long as there are ids left, no request gets the id of one in front of it. -/
theorem notMem_take_batchIds {exchange : Exchange} {requests : List Request} {index : Nat}
    {id : UInt64} (hasId : (batchIds exchange requests)[index]? = some id)
    (below : index < UInt64.size) : id ∉ (batchIds exchange requests).take index := by
  intro earlier
  obtain ⟨index', hasId'⟩ := List.mem_iff_getElem?.mp earlier
  rw [List.getElem?_take] at hasId'
  split at hasId'
  · rename_i before
    have inside := (List.getElem?_eq_some_iff.mp hasId).1
    rw [batchIds, Exchange.idsFrom_length] at inside
    rw [batchIds, Exchange.idsFrom_getElem? inside] at hasId
    rw [batchIds, Exchange.idsFrom_getElem? (Nat.lt_trans before inside)] at hasId'
    -- Both are the next id plus less than a full round of ids, so the words differ.
    have words := congrArg UInt64.toNat (Option.some.inj (hasId'.trans hasId.symm))
    rw [UInt64.toNat_ofNat', UInt64.toNat_ofNat'] at words
    unfold UInt64.size at below
    omega
  · cases hasId'

/-! ## The results of a batch -/

/-- Every result stands where its request does.  There are as many results as requests, and the
result at a position is the last element with the id of the request there, as it decodes, or the
error that says that no element has the id. -/
structure InPlace (responses : List Json) (ids : List UInt64) (requests : List Request)
    (results : List (Except TransportError Json)) : Prop where
  /-- There is one result for each request. -/
  length_eq : results.length = requests.length
  /-- The result at a position is that of the request there. -/
  in_place : ∀ (index : Nat) (request : Request), requests[index]? = some request →
    index < UInt64.size → ∃ id result,
      ids[index]? = some id ∧ results[index]? = some result ∧
        ((∃ response between, IsLast responses id response ∧
            result = (Response.decode request.method response between).1) ∨
          Turn.IsMissing responses id request result)

/-- The result of a request is the last element with its id, as it decodes, or says that there is
none. -/
theorem resultOf_lastResponse? (responses : List Json) (id : UInt64) (request : Request)
    (between : Journal) :
    (∃ response between', IsLast responses id response ∧
        (resultOf id request (lastResponse? id responses) between).1
          = (Response.decode request.method response between').1) ∨
      Turn.IsMissing responses id request
        (resultOf id request (lastResponse? id responses) between).1 := by
  cases last : lastResponse? id responses with
  | some response => exact .inl ⟨response, between, lastResponse?_eq_some_iff.mp last, rfl⟩
  | none =>
    obtain ⟨error, later, missing, problem, note⟩ := resultOf_none id request between
    rw [missing]
    exact .inr ⟨lastResponse?_eq_none_iff.mp last, error, rfl, problem, note⟩

/-- What is taken from the table of the responses stands in place. -/
theorem resultsFrom_inPlace (responses : List Json) (exchange : Exchange)
    (requests : List Request) (journal : Journal) :
    InPlace responses (batchIds exchange requests) requests
      (resultsFrom (.ofResponses responses) (batchIds exchange requests) requests journal).1 where
  length_eq := resultsFrom_length _ (Exchange.idsFrom_length _ _) journal
  in_place := by
    intro index request hasRequest below
    have inside := (List.getElem?_eq_some_iff.mp hasRequest).1
    have hasId : (batchIds exchange requests)[index]?
        = some (UInt64.ofNat (exchange.nextId.toNat + index)) := Exchange.idsFrom_getElem? inside
    obtain ⟨between, result⟩ := resultsFrom_getElem? hasId hasRequest
      (notMem_take_batchIds hasId below) (.ofResponses responses) journal
    rw [find?_ofResponses] at result
    exact ⟨_, _, hasId, result, resultOf_lastResponse? responses _ request between⟩

/-! ## Two arrays for one batch -/

/-- What a response means for its request does not depend on the journal, trace ids apart. -/
theorem resultOf_untraced (id : UInt64) (request : Request) (found : Option Json)
    (journal journal' : Journal) :
    (resultOf id request found journal).1.mapError TransportError.untraced
      = (resultOf id request found journal').1.mapError TransportError.untraced := by
  cases found with
  | some response => exact Response.decode_untraced request.method response journal journal'
  | none =>
    have raised := TransportError.unreadable_untraced (.ofMethod request.method
      ("missing response for request " ++ Text.Numeral.decimal id.toNat)) none
    exact congrArg Except.error ((raised journal).trans (raised journal').symm)

/-- The same table gives the same results whenever it is read, trace ids apart. -/
theorem resultsFrom_untraced (table : Table) (ids : List UInt64) (requests : List Request)
    (journal journal' : Journal) :
    (resultsFrom table ids requests journal).1.map (Except.mapError TransportError.untraced)
      = (resultsFrom table ids requests journal').1.map
          (Except.mapError TransportError.untraced) := by
  induction ids generalizing table requests journal journal' with
  | nil =>
    cases requests with
    | nil => rfl
    | cons request requests => rfl
  | cons id ids ih =>
    cases requests with
    | nil => rfl
    | cons request requests =>
      exact List.cons_eq_cons.mpr
        ⟨resultOf_untraced id request _ journal journal', ih _ requests _ _⟩

/-- Interchangeable arrays make one table of results, trace ids apart. -/
theorem resultsFrom_interchangeable {ids : List UInt64} {responses responses' : List Json}
    (interchangeable : Interchangeable ids responses responses') (requests : List Request)
    (journal journal' : Journal) :
    (resultsFrom (.ofResponses responses) ids requests journal).1.map
        (Except.mapError TransportError.untraced)
      = (resultsFrom (.ofResponses responses') ids requests journal').1.map
        (Except.mapError TransportError.untraced) := by
  have agree : ∀ id ∈ ids,
      (Table.ofResponses responses).find? id = (Table.ofResponses responses').find? id := by
    intro id among
    rw [find?_ofResponses, find?_ofResponses]
    exact interchangeable.lastResponse?_eq among
  rw [resultsFrom_congr (Table.ofResponses_distinct responses)
    (Table.ofResponses_distinct responses') agree requests]
  exact resultsFrom_untraced _ ids requests journal journal'

/-! ## Whole batches -/

/-- What becomes of a document that is no array, whatever else it is. -/
theorem matched_of_no_array (client : HttpClient) {document : Json}
    (noArray : ∀ responses, document ≠ .array responses) (ids : List UInt64)
    (requests : List Request) (exchange : Exchange) (journal : Journal) :
    (client.matched ids requests document exchange journal).1.1
      = .error (TransportError.unreadable
          (.about "batch response is not an array" [("url", client.url.render)])
          none journal).1 := by
  cases document with
  | array responses => exact absurd rfl (noArray responses)
  | null => rfl
  | bool value => rfl
  | integer value => rfl
  | real value => rfl
  | text value => rfl
  | object members => rfl

/-- A document that is no array is an error of the whole batch. -/
theorem batch_of_no_array {client : HttpClient} {exchange : Exchange} {document : Json}
    (holds : client.received exchange = some document)
    (noArray : ∀ responses, document ≠ .array responses) {requests : List Request}
    (nonempty : requests ≠ []) (journal : Journal) :
    ∃ error, (client.batch requests exchange journal).1.1 = .error error ∧
      error.problem = .unreadable ∧
      error.context.note
        = .about "batch response is not an array" [("url", client.url.render)] := by
  have holdsAfter : client.received (afterIds requests exchange) = some document := holds
  obtain ⟨between, runs⟩ := client.batch_of_ne_nil exchange nonempty journal
  obtain ⟨later, posts⟩ := post_of_some holdsAfter (batchBody exchange requests) between
  refine ⟨_, ?_, rfl, TransportError.unreadable_note _ none later⟩
  rw [runs, Attempt.bind_of_ok posts, client.matched_of_no_array noArray]

/-- A batch for which a document is received is decided by this document.  Anything but an array is
an error of the whole batch.  An array gives results that stand where their requests do, whatever
its order, its doubles and its gaps; and any other array that is interchangeable with it for the
ids of the batch gives the same results, trace ids apart, whenever it is received instead. -/
theorem batch_in_place (client : HttpClient) {requests : List Request} (nonempty : requests ≠ [])
    {exchange : Exchange} {document : Json} (holds : client.received exchange = some document)
    (journal : Journal) :
    let ids := batchIds exchange requests
    ((∀ responses, document ≠ .array responses) → ∃ error,
      (client.batch requests exchange journal).1.1 = .error error ∧
      error.problem = .unreadable ∧
      error.context.note
        = .about "batch response is not an array" [("url", client.url.render)]) ∧
    ∀ responses, document = .array responses →
      ⟨client.url.target, .array (List.zipWith Exchange.envelope ids requests)⟩
        ∈ (client.batch requests exchange journal).1.2.posts ∧
      ∃ results, (client.batch requests exchange journal).1.1 = .ok results ∧
        InPlace responses ids requests results ∧
        ∀ exchange' responses' journal', exchange'.nextId = exchange.nextId →
          client.received exchange' = some (.array responses') →
          Interchangeable ids responses responses' →
          ∃ results', (client.batch requests exchange' journal').1.1 = .ok results' ∧
            results'.map (Except.mapError TransportError.untraced)
              = results.map (Except.mapError TransportError.untraced) := by
  intro ids
  refine ⟨fun noArray => batch_of_no_array holds noArray nonempty journal, ?_⟩
  rintro responses rfl
  refine ⟨?_, ?_⟩
  · rw [client.batch_snd]
    exact batch_posted nonempty holds
  obtain ⟨between, runs⟩ := batch_of_array holds nonempty journal
  refine ⟨_, congrArg Prod.fst runs, resultsFrom_inPlace responses exchange requests between, ?_⟩
  intro exchange' responses' journal' nextEq holds' interchangeable
  obtain ⟨between', runs'⟩ := batch_of_array holds' nonempty journal'
  have idsEq : batchIds exchange' requests = ids := by
    unfold batchIds
    rw [nextEq]
    rfl
  rw [idsEq] at runs'
  exact ⟨_, congrArg Prod.fst runs',
    (resultsFrom_interchangeable interchangeable requests between between').symm⟩

/-! ## An array in disorder -/

/-- Three requests. -/
def disorderedRequests : List Request := [⟨"a", .array []⟩, ⟨"b", .array []⟩, ⟨"c", .array []⟩]

/-- A line on which the second request is answered twice and the third not at all, among elements
without an id that a request can have. -/
def disorderedLine : Exchange :=
  .start .http (.name "node") [.response ⟨200⟩ ("[\x7b\"id\":2,\"result\":\"old\"\x7d,null,"
    ++ "\x7b\"id\":\"3\",\"result\":\"x\"\x7d,\x7b\"id\":3.0,\"result\":\"x\"\x7d,"
    ++ "\x7b\"id\":-3,\"result\":\"x\"\x7d,\x7b\"id\":9,\"result\":\"x\"\x7d,"
    ++ "\x7b\"id\":2,\"result\":\"b\"\x7d,\x7b\"id\":1,\"result\":\"a\"\x7d]")]

/-- The texts among results, where there are results. -/
def textsOf (outcome : Except TransportError (List (Except TransportError Json))) :
    Option (List (Option String)) :=
  outcome.toOption.map fun results => results.map fun result => result.toOption.bind Json.text?

/-- The answers are put in the order of the requests, the later one of two counts, and the request
without an answer gets an error in its place. -/
theorem batch_in_place_disordered :
    disorderedRequests ≠ [] ∧
    ∃ responses, echoClient.received disorderedLine = some (.array responses) ∧
      ∃ results, (echoClient.batch disorderedRequests disorderedLine .empty).1.1 = .ok results ∧
        InPlace responses (batchIds disorderedLine disorderedRequests) disorderedRequests results ∧
        textsOf (.ok results) = some [some "a", some "b", none] := by
  have nonempty : disorderedRequests ≠ [] := List.cons_ne_nil _ _
  have texts : textsOf (echoClient.batch disorderedRequests disorderedLine .empty).1.1
      = some [some "a", some "b", none] := by decide +kernel
  have received : (echoClient.received disorderedLine).isSome = true := by decide +kernel
  obtain ⟨document, holds⟩ := Option.isSome_iff_exists.mp received
  obtain ⟨other, array⟩ := batch_in_place echoClient nonempty holds .empty
  refine ⟨nonempty, ?_⟩
  by_cases isArray : ∃ responses, document = .array responses
  · obtain ⟨responses, rfl⟩ := isArray
    obtain ⟨-, results, ends, inPlace, -⟩ := array responses rfl
    rw [ends] at texts
    exact ⟨responses, holds, results, ends, inPlace, texts⟩
  · obtain ⟨error, ends, -⟩ := other fun responses same => isArray ⟨responses, same⟩
    rw [ends] at texts
    cases texts

end ChainIdentity.HttpClient
