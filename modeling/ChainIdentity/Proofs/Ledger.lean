import ChainIdentity.Proofs.Exchange

/-!
# Which id belongs to which request

The requests that a client and its clones send over a line are issued one after the other, and
the list of those issued so far is the ledger of the line.  `Accounted` ties the two together:
the next id is the number of the next request, and every envelope that was sent carries the
number of its own request.  A line on which nothing was sent is accounted for by the empty ledger
(`start_accounted`), and every operation keeps the ledger, whatever is received for it
(`Accounted.inquire`).

As long as the numbers have 64 bits an id therefore belongs to one request only
(`Accounted.eq_envelope`), no matter how the requests were distributed over operations and how
often each of them was posted.
-/

namespace ChainIdentity

open HttpClient

/-! ## Envelopes on a line -/

/-- The envelopes that a post holds: all elements of an array, and any other document itself. -/
def Post.envelopes (post : Post) : List Json :=
  match post.body with
  | .array envelopes => envelopes
  | envelope => [envelope]

namespace Exchange

/-- The envelopes that were sent over a line, once for each time they were sent. -/
def envelopes (exchange : Exchange) : List Json :=
  exchange.posts.flatMap Post.envelopes

/-- What is sent in addition stands in the document that is posted. -/
theorem mem_envelopes_afterPosts {exchange : Exchange} {url : Url} {body : Json} {count : Nat}
    {envelope : Json} (sent : envelope ∈ (exchange.afterPosts url body count).envelopes) :
    envelope ∈ exchange.envelopes ∨ envelope ∈ Post.envelopes ⟨url.target, body⟩ := by
  unfold afterPosts at sent
  split at sent
  · unfold envelopes at sent
    rw [List.flatMap_append, List.mem_append] at sent
    rcases sent with before | now
    · exact .inl before
    · obtain ⟨post, posted, held⟩ := List.mem_flatMap.mp now
      obtain rfl := List.eq_of_mem_replicate posted
      exact .inr held
  · exact .inl sent

/-- A post that is sent at least once to an address that can be reached arrives. -/
theorem mem_posts_afterPosts {exchange : Exchange} {url : Url} (reached : exchange.reaches url)
    (body : Json) {count : Nat} (positive : 0 < count) :
    ⟨url.target, body⟩ ∈ (exchange.afterPosts url body count).posts := by
  unfold afterPosts
  rw [if_pos reached]
  exact List.mem_append_right _ (List.mem_replicate.mpr ⟨by omega, rfl⟩)

end Exchange

namespace HttpClient

/-- Every post is sent at least once. -/
theorem tries_pos (client : HttpClient) (exchange : Exchange) : 0 < client.tries exchange :=
  List.length_pos_iff.mpr (repliesTo_ne_nil _ _ _)

/-- Where nothing is to come, nothing comes. -/
theorem lastReply_nil (url : Url) (retries : Nat) : lastReply url retries [] = .lost := by
  induction retries with
  | zero => rfl
  | succ retries ih =>
    by_cases again : mayRetry url .lost = true
    · have replies : repliesTo url (retries + 1) [] = .lost :: repliesTo url retries [] :=
        if_pos again
      rw [← ih]
      simp only [lastReply, replies]
      exact List.getLast_cons _
    · have replies : repliesTo url (retries + 1) [] = [.lost] := if_neg again
      simp only [lastReply, replies, List.getLast_singleton]

/-- A document is received only from a host that can be reached. -/
theorem reaches_of_received {client : HttpClient} {exchange : Exchange} {document : Json}
    (holds : client.received exchange = some document) : exchange.reaches client.url = true := by
  cases reached : exchange.reaches client.url with
  | true => rfl
  | false =>
    have nothing : exchange.upcoming client.url = [] := by
      unfold Exchange.upcoming
      rw [reached]
      rfl
    unfold received at holds
    rw [nothing, lastReply_nil] at holds
    cases holds

end HttpClient

/-! ## Operations -/

/-- An operation of a client or of one of its clones, which share address, policy and ids with
it. -/
inductive Inquiry where
  /-- One request. -/
  | single (request : Request)
  /-- Several requests in one post. -/
  | several (requests : List Request)

/-- The requests of an operation. -/
def Inquiry.requests : Inquiry → List Request
  | single request => [request]
  | several requests => requests

/-- What an operation ends with. -/
inductive Finding where
  /-- The result of one request. -/
  | single (result : Except TransportError Json)
  /-- The results of several requests, or the error of the post. -/
  | several (results : Except TransportError (List (Except TransportError Json)))

/-- Carries out an operation. -/
def HttpClient.inquire (client : HttpClient) : Inquiry → Talk Exchange Finding
  | .single request => return .single (← (client.call request).run)
  | .several requests => return .several (← (client.batch requests).run)

/-- A single request ends with its result. -/
theorem HttpClient.inquire_single_fst (client : HttpClient) (request : Request)
    (exchange : Exchange) (journal : Journal) :
    (client.inquire (.single request) exchange journal).1
      = (.single (client.call request exchange journal).1.1,
        (client.call request exchange journal).1.2) := rfl

/-- Several requests end with their results, or with the error of the post. -/
theorem HttpClient.inquire_several_fst (client : HttpClient) (requests : List Request)
    (exchange : Exchange) (journal : Journal) :
    (client.inquire (.several requests) exchange journal).1
      = (.several (client.batch requests exchange journal).1.1,
        (client.batch requests exchange journal).1.2) := rfl

namespace HttpClient

/-- Whatever comes of a call, the line has carried its posts. -/
theorem call_snd (client : HttpClient) (request : Request) (exchange : Exchange)
    (journal : Journal) :
    (client.call request exchange journal).1.2 = client.afterCall request exchange := by
  cases holds : client.received exchange with
  | some document =>
    obtain ⟨between, runs⟩ := call_of_some holds request journal
    rw [runs]
  | none =>
    obtain ⟨error, runs⟩ := call_of_none holds request journal
    rw [runs]

/-- Whatever comes of a batch, the line has carried its posts. -/
theorem batch_snd (client : HttpClient) (requests : List Request) (exchange : Exchange)
    (journal : Journal) :
    (client.batch requests exchange journal).1.2 = client.afterBatch requests exchange := by
  by_cases nonempty : requests = []
  · rw [nonempty, batch_nil]
  · by_cases holds : ∃ responses, client.received exchange = some (.array responses)
    · obtain ⟨responses, holds⟩ := holds
      obtain ⟨between, runs⟩ := batch_of_array holds nonempty journal
      rw [runs]
    · obtain ⟨error, runs⟩ :=
        batch_of_other (fun responses same => holds ⟨responses, same⟩) nonempty journal
      rw [runs]

end HttpClient

/-! ## The ledger -/

/-- A line is accounted for by the requests that were issued on it. -/
structure Accounted (exchange : Exchange) (issued : List Request) : Prop where
  /-- The next id is the number of the next request, the first one being number one. -/
  next : exchange.nextId = UInt64.ofNat (issued.length + 1)
  /-- Every envelope that was sent is that of a request, with its number for an id. -/
  numbered : ∀ envelope ∈ exchange.envelopes, ∃ index request,
    issued[index]? = some request ∧
      envelope = Exchange.envelope (UInt64.ofNat (index + 1)) request

/-- A line on which nothing was sent is accounted for. -/
theorem start_accounted (scheme : HttpScheme) (host : Url.Host) (replies : List HttpReply) :
    Accounted (Exchange.start scheme host replies) [] where
  next := rfl
  numbered := by
    intro envelope sent
    cases sent

namespace Accounted

variable {client : HttpClient} {exchange : Exchange} {issued : List Request}

/-- Posting keeps the ledger, extended by some requests, if what is posted are the envelopes of
these requests.  The ids were taken before, so the next id is that of the longer ledger. -/
theorem posted {further : List Request} {body : Json}
    (numbered : ∀ envelope ∈ exchange.envelopes, ∃ index request,
      issued[index]? = some request ∧
        envelope = Exchange.envelope (UInt64.ofNat (index + 1)) request)
    (next : exchange.nextId = UInt64.ofNat (issued.length + further.length + 1))
    (made : ∀ envelope ∈ Post.envelopes ⟨client.url.target, body⟩, ∃ index request,
      further[index]? = some request ∧
        envelope = Exchange.envelope (UInt64.ofNat (issued.length + index + 1)) request) :
    Accounted (client.posted body exchange) (issued ++ further) where
  next := by
    rw [List.length_append, ← next]
    unfold HttpClient.posted Exchange.afterPosts
    split <;> rfl
  numbered := by
    intro envelope sent
    rcases Exchange.mem_envelopes_afterPosts sent with before | now
    · obtain ⟨index, request, found, same⟩ := numbered envelope before
      refine ⟨index, request, ?_, same⟩
      rw [List.getElem?_append_left (List.getElem?_eq_some_iff.mp found).1]
      exact found
    · obtain ⟨index, request, found, same⟩ := made envelope now
      refine ⟨issued.length + index, request, ?_, same⟩
      rw [List.getElem?_append_right (by omega), Nat.add_sub_cancel_left]
      exact found

/-- A request keeps the ledger, whether it succeeds or not. -/
theorem afterCall (accounted : Accounted exchange issued) (request : Request) :
    Accounted (client.afterCall request exchange) (issued ++ [request]) := by
  refine posted accounted.numbered ?_ ?_
  · show exchange.nextId + 1 = _
    rw [accounted.next, List.length_singleton, UInt64.ofNat_add (issued.length + 1) 1]
    rfl
  · intro envelope made
    obtain rfl : envelope = Exchange.envelope exchange.nextId request := by
      simpa [Post.envelopes, Exchange.envelope, Json.ofMembers] using made
    refine ⟨0, request, rfl, ?_⟩
    rw [accounted.next]

/-- The next id is a number as long as the numbers have 64 bits. -/
theorem nextId_toNat (accounted : Accounted exchange issued)
    (bound : issued.length + 1 < UInt64.size) : exchange.nextId.toNat = issued.length + 1 := by
  rw [accounted.next, UInt64.toNat_ofNat_of_lt' bound]

/-- The request at a position of a batch gets its number in the ledger for an id. -/
theorem batchIds_getElem? (accounted : Accounted exchange issued) {requests : List Request}
    (bound : issued.length + requests.length < UInt64.size) {index : Nat}
    (below : index < requests.length) :
    (batchIds exchange requests)[index]? = some (UInt64.ofNat (issued.length + index + 1)) := by
  unfold batchIds
  rw [Exchange.idsFrom_getElem? below, accounted.nextId_toNat (by omega),
    show issued.length + 1 + index = issued.length + index + 1 by omega]

/-- Several requests keep the ledger, whether they succeed or not. -/
theorem afterBatch (accounted : Accounted exchange issued) {requests : List Request}
    (bound : issued.length + requests.length < UInt64.size) :
    Accounted (client.afterBatch requests exchange) (issued ++ requests) := by
  unfold HttpClient.afterBatch
  cases requests with
  | nil => simpa using accounted
  | cons request rest =>
    have first := accounted.nextId_toNat (by rw [List.length_cons] at bound; omega)
    refine posted accounted.numbered ?_ ?_
    · show UInt64.ofNat (exchange.nextId.toNat + (request :: rest).length) = _
      rw [first]
      congr 1
      omega
    · intro envelope made
      obtain ⟨index, held⟩ := List.mem_iff_getElem?.mp
        (show envelope ∈ List.zipWith Exchange.envelope
          (batchIds exchange (request :: rest)) (request :: rest) from made)
      obtain ⟨id, request', hasId, hasRequest, same⟩ := List.getElem?_zipWith_eq_some.mp held
      have below := (List.getElem?_eq_some_iff.mp hasRequest).1
      refine ⟨index, request', hasRequest, ?_⟩
      rw [batchIds_getElem? accounted bound below] at hasId
      rw [← same, ← Option.some.inj hasId]

/-- An operation keeps the ledger, extended by its requests, whatever is received for it. -/
theorem inquire (accounted : Accounted exchange issued) {inquiry : Inquiry}
    (bound : issued.length + inquiry.requests.length < UInt64.size) (journal : Journal) :
    Accounted (client.inquire inquiry exchange journal).1.2 (issued ++ inquiry.requests) := by
  cases inquiry with
  | single request =>
    rw [inquire_single_fst, call_snd]
    exact accounted.afterCall request
  | several requests =>
    rw [inquire_several_fst, batch_snd]
    exact accounted.afterBatch bound

/-- As long as the numbers have 64 bits, an envelope that was sent with the number of a request
for its id is the envelope of this request. -/
theorem eq_envelope (accounted : Accounted exchange issued) (bound : issued.length < UInt64.size)
    {index : Nat} {request : Request} (found : issued[index]? = some request) {envelope : Json}
    (sent : envelope ∈ exchange.envelopes)
    (hasId : responseId? envelope = some (UInt64.ofNat (index + 1))) :
    envelope = Exchange.envelope (UInt64.ofNat (index + 1)) request := by
  obtain ⟨index', request', found', rfl⟩ := accounted.numbered envelope sent
  rw [Exchange.responseId?_envelope] at hasId
  have below := (List.getElem?_eq_some_iff.mp found).1
  have below' := (List.getElem?_eq_some_iff.mp found').1
  obtain rfl : index' = index := by
    have same := Exchange.ofNat_injective (by omega) (by omega) (Option.some.inj hasId)
    omega
  rw [Option.some.inj (found'.symm.trans found)]

/-- No envelope that was sent has the number of a request that is still to be issued. -/
theorem ne_of_issued_le (accounted : Accounted exchange issued) {index : Nat}
    (later : issued.length ≤ index) (bound : index + 1 < UInt64.size) {envelope : Json}
    (sent : envelope ∈ exchange.envelopes) :
    responseId? envelope ≠ some (UInt64.ofNat (index + 1)) := by
  obtain ⟨index', request', found', rfl⟩ := accounted.numbered envelope sent
  rw [Exchange.responseId?_envelope]
  intro hasId
  have below' := (List.getElem?_eq_some_iff.mp found').1
  have same := Exchange.ofNat_injective (by omega) (by omega) (Option.some.inj hasId)
  omega

end Accounted

end ChainIdentity
