import ChainIdentity.Proofs.Conversation
import ChainIdentity.Proofs.Matching

/-!
# What a post does

A post is sent once, and again as long as its reply may pass and repetitions are left.  Which
replies it gets is decided by what is still to come on the line (`Exchange.upcoming`) and by
nothing else (`repliesTo`), and the last of them decides what the client receives
(`HttpClient.received`).  `deliver_fst` says so of the loop, and the lemmas after it say what
the three kinds of operation make of it: `post_of_some` and `post_of_none` for a single post,
`call_of_some` and `call_of_none` for a request, and `batch_of_array` and `batch_of_other` for
several at once.  In all of them the line is left with as many replies fewer and as many posts
more as there were replies, and with the next ids.
-/

namespace ChainIdentity

/-! ## Envelopes and ids -/

/-- A number that is an id is read as this id. -/
theorem Json.unsigned?_integer_toNat (id : UInt64) :
    Json.unsigned? (.integer id.toNat) = some id := by
  have bound : id.toNat < 0x10000000000000000 := id.toNat_lt
  show (if 0 ≤ (id.toNat : Int) ∧ (id.toNat : Int) < 0x10000000000000000
    then some (UInt64.ofNat (id.toNat : Int).toNat) else none) = some id
  rw [if_pos ⟨by omega, by omega⟩, Int.toNat_natCast, UInt64.ofNat_toNat]

namespace Exchange

/-- The id of an envelope is one of its members. -/
theorem member?_id_envelope (id : UInt64) (request : Request) :
    (envelope id request).member? "id" = some (.integer id.toNat) := by
  unfold envelope Json.ofMembers Json.member? Ordered.ofList
  simp only [List.foldl_cons, List.foldl_nil, Ordered.lookup_insert]
  simp

/-- An envelope carries the id it was made with. -/
theorem responseId?_envelope (id : UInt64) (request : Request) :
    HttpClient.responseId? (envelope id request) = some id :=
  calc ((envelope id request).member? "id").bind Json.unsigned?
      = (some (.integer id.toNat)).bind Json.unsigned? :=
        congrArg (fun member => Option.bind member Json.unsigned?) (member?_id_envelope id request)
    _ = Json.unsigned? (.integer id.toNat) := Option.bind_some _ _
    _ = some id := Json.unsigned?_integer_toNat id

/-- The ids from a number on. -/
def idsFrom (first count : Nat) : List UInt64 :=
  (List.range' first count).map UInt64.ofNat

/-- There are as many ids as are asked for. -/
@[simp] theorem idsFrom_length (first count : Nat) : (idsFrom first count).length = count := by
  simp [idsFrom]

/-- The first id is the one of the first number. -/
theorem idsFrom_succ (first count : Nat) :
    idsFrom first (count + 1) = UInt64.ofNat first :: idsFrom (first + 1) count := by
  simp [idsFrom, List.range'_succ]

/-- The id at a place is the one of the number so many places on. -/
theorem idsFrom_getElem? {first count i : Nat} (below : i < count) :
    (idsFrom first count)[i]? = some (UInt64.ofNat (first + i)) := by
  simp [idsFrom, below]

/-- Different numbers of 64 bits are different ids. -/
theorem ofNat_injective {m n : Nat} (hm : m < UInt64.size) (hn : n < UInt64.size)
    (same : UInt64.ofNat m = UInt64.ofNat n) : m = n := by
  have numbers := congrArg UInt64.toNat same
  rwa [UInt64.toNat_ofNat_of_lt' hm, UInt64.toNat_ofNat_of_lt' hn] at numbers

/-- The ids differ from one another as long as the numbers do not run out. -/
theorem idsFrom_nodup {first count : Nat} (bound : first + count ≤ UInt64.size) :
    (idsFrom first count).Nodup := by
  unfold idsFrom
  rw [List.Nodup, List.pairwise_map]
  refine List.Pairwise.imp_of_mem ?_ (List.nodup_range' (s := first) (n := count) 1)
  intro m n hm hn different same
  rw [List.mem_range'_1] at hm hn
  exact different (ofNat_injective (by omega) (by omega) same)

/-- A request gets the next id. -/
theorem takeId_apply (exchange : Exchange) (journal : Journal) :
    takeId exchange journal
      = ((exchange.nextId, { exchange with nextId := exchange.nextId + 1 }), journal) := rfl

/-- Every request gets the next id. -/
theorem takeIds_apply {exchange : Exchange} {first : Nat}
    (next : exchange.nextId = UInt64.ofNat first) (requests : List Request) (journal : Journal) :
    takeIds requests exchange journal
      = ((idsFrom first requests.length,
          { exchange with nextId := UInt64.ofNat (first + requests.length) }), journal) := by
  induction requests generalizing exchange first with
  | nil =>
    rw [List.length_nil, Nat.add_zero, ← next]
    rfl
  | cons request rest ih =>
    have next' : exchange.nextId + 1 = UInt64.ofNat (first + 1) := by
      rw [next, UInt64.ofNat_add]
      rfl
    have taken : takeIds rest { exchange with nextId := exchange.nextId + 1 } journal
        = ((idsFrom (first + 1) rest.length,
            { exchange with nextId := UInt64.ofNat (first + 1 + rest.length) }), journal) :=
      ih next'
    rw [List.length_cons, idsFrom_succ, ← next,
      show first + (rest.length + 1) = first + 1 + rest.length by omega]
    show ((exchange.nextId :: (takeIds rest { exchange with nextId := exchange.nextId + 1 }
        journal).1.1, (takeIds rest { exchange with nextId := exchange.nextId + 1 }
        journal).1.2), (takeIds rest { exchange with nextId := exchange.nextId + 1 }
        journal).2) = _
    rw [taken]

/-! ## Posts and their repetitions -/

/-- The replies to come for posts to an address. -/
def upcoming (exchange : Exchange) (url : Url) : List HttpReply :=
  if exchange.reaches url then exchange.replies else []

/-- The line after a post was sent a number of times. -/
def afterPosts (exchange : Exchange) (url : Url) (body : Json) (count : Nat) : Exchange :=
  if exchange.reaches url then
    { exchange with
      replies := exchange.replies.drop count
      posts := exchange.posts ++ List.replicate count ⟨url.target, body⟩ }
  else exchange

/-- A post does not change which host the line leads to. -/
theorem reaches_afterPosts (exchange : Exchange) (url : Url) (body : Json) (count : Nat) :
    (exchange.afterPosts url body count).reaches url = exchange.reaches url := by
  unfold afterPosts
  cases reached : exchange.reaches url with
  | true => exact reached
  | false => exact reached

/-- Replies that were given are not to come any more. -/
theorem upcoming_afterPosts (exchange : Exchange) (url : Url) (body : Json) (count : Nat) :
    (exchange.afterPosts url body count).upcoming url = (exchange.upcoming url).drop count := by
  unfold upcoming
  rw [reaches_afterPosts]
  unfold afterPosts
  cases reached : exchange.reaches url with
  | true => rfl
  | false => simp

/-- Posts that are sent one after the other add up. -/
theorem afterPosts_afterPosts (exchange : Exchange) (url : Url) (body : Json) (m n : Nat) :
    (exchange.afterPosts url body m).afterPosts url body n
      = exchange.afterPosts url body (m + n) := by
  have reachedAfter := reaches_afterPosts exchange url body m
  unfold afterPosts at reachedAfter ⊢
  cases reached : exchange.reaches url with
  | true =>
    simp only [reached, if_true] at reachedAfter ⊢
    simp [reachedAfter, List.drop_drop, List.replicate_append_replicate]
  | false => simp [reached]

/-- A post is sent once. -/
theorem send_apply (url : Url) (body : Json) (exchange : Exchange) (journal : Journal) :
    send url body exchange journal
      = (((exchange.upcoming url).head?.getD .lost, exchange.afterPosts url body 1), journal) := by
  unfold send upcoming afterPosts
  cases reached : exchange.reaches url with
  | true =>
    simp only [if_true, List.replicate_one]
    rw [← List.drop_one]
    rfl
  | false => rfl

end Exchange

namespace HttpClient

/-- The replies that a post gets: those in front that may pass, as far as repetitions are left,
and the one behind them. -/
def repliesTo (url : Url) : Nat → List HttpReply → List HttpReply
  | 0, upcoming => [upcoming.head?.getD .lost]
  | retries + 1, upcoming =>
    let reply := upcoming.head?.getD .lost
    if mayRetry url reply then reply :: repliesTo url retries upcoming.tail else [reply]

/-- A post gets one reply at least, be it that nothing came back. -/
theorem repliesTo_ne_nil (url : Url) (retries : Nat) (upcoming : List HttpReply) :
    repliesTo url retries upcoming ≠ [] := by
  cases retries with
  | zero => simp [repliesTo]
  | succ retries =>
    simp only [repliesTo]
    split
    · exact List.cons_ne_nil _ _
    · exact List.cons_ne_nil _ _

/-- The last of the replies that a post gets. -/
def lastReply (url : Url) (retries : Nat) (upcoming : List HttpReply) : HttpReply :=
  (repliesTo url retries upcoming).getLast (repliesTo_ne_nil url retries upcoming)

/-- One round of the loop: the post is sent, and whether it is sent again is decided by its
reply. -/
theorem deliver_succ (url : Url) (body : Json) (retries past : Nat) (exchange : Exchange)
    (journal : Journal) :
    deliver url body (retries + 1) past exchange journal =
      if mayRetry url ((exchange.upcoming url).head?.getD .lost) then
        deliver url body retries (past + 1) (exchange.afterPosts url body 1)
          (Journaled.emit .warn retryTarget
            ("Retry attempt #" ++ Text.Numeral.decimal past ++ ". Sleeping before the next attempt")
            [] journal).2
      else
        (((exchange.upcoming url).head?.getD .lost, exchange.afterPosts url body 1), journal) := by
  have runs : deliver url body (retries + 1) past exchange journal =
      (if mayRetry url (Exchange.send url body exchange journal).1.1 then do
        Journaled.emit .warn retryTarget
          ("Retry attempt #" ++ Text.Numeral.decimal past ++ ". Sleeping before the next attempt")
          []
        deliver url body retries (past + 1)
      else (pure (Exchange.send url body exchange journal).1.1 : Talk Exchange HttpReply))
        (Exchange.send url body exchange journal).1.2
        (Exchange.send url body exchange journal).2 := rfl
  rw [runs, Exchange.send_apply]
  split
  · rfl
  · rfl

/-- A post is sent as often as it gets replies, and the last of them decides.  The induction is
on the repetitions that are left. -/
theorem deliver_fst (url : Url) (body : Json) (retries past : Nat) (exchange : Exchange)
    (journal : Journal) :
    (deliver url body retries past exchange journal).1
      = (lastReply url retries (exchange.upcoming url),
        exchange.afterPosts url body (repliesTo url retries (exchange.upcoming url)).length) := by
  induction retries generalizing past exchange journal with
  | zero =>
    unfold deliver
    rw [Exchange.send_apply]
    rfl
  | succ retries ih =>
    rw [deliver_succ]
    by_cases again : mayRetry url ((exchange.upcoming url).head?.getD .lost) = true
    · have replies : repliesTo url (retries + 1) (exchange.upcoming url)
          = (exchange.upcoming url).head?.getD .lost
            :: repliesTo url retries (exchange.upcoming url).tail := if_pos again
      rw [if_pos again, ih, Exchange.upcoming_afterPosts, List.drop_one,
        Exchange.afterPosts_afterPosts]
      simp only [lastReply, replies, List.length_cons,
        List.getLast_cons (repliesTo_ne_nil url retries (exchange.upcoming url).tail)]
      rw [Nat.add_comm]
    · have replies : repliesTo url (retries + 1) (exchange.upcoming url)
          = [(exchange.upcoming url).head?.getD .lost] := if_neg again
      rw [if_neg again]
      simp only [lastReply, replies, List.getLast_singleton, List.length_singleton]

end HttpClient

/-! ## What the client receives -/

/-- The document that a reply holds: a response that reports success, with a text that can be
read. -/
def HttpReply.document? : HttpReply → Option Json
  | .lost => none
  | .response status body =>
    if status.isSuccess then Json.parse? (HttpReply.text status body) else none
  | .broken _ => none

namespace HttpClient

/-- The body of a success gives the document that is read from it. -/
theorem settleBody_of_some {status : HttpStatus} (success : status.isSuccess = true)
    {body : Option String} {document : Json} (reads : body.bind Json.parse? = some document)
    (url : String) (journal : Journal) :
    settleBody url status body journal = (.ok document, journal) := by
  unfold settleBody
  simp only [success, if_true, reads]
  rfl

/-- Unless it is a success with a document, a body means an error. -/
theorem settleBody_of_none {status : HttpStatus} {body : Option String}
    (missing : status.isSuccess = true → body.bind Json.parse? = none) (url : String)
    (journal : Journal) :
    ∃ error later, settleBody url status body journal = (.error error, later) := by
  unfold settleBody
  split
  · rename_i success
    rw [missing success]
    exact ⟨_, _, rfl⟩
  · exact ⟨_, _, rfl⟩

/-- A reply that holds a document is settled with it, and nothing is written about it. -/
theorem settle_of_some {reply : HttpReply} {document : Json}
    (holds : reply.document? = some document) (url : String) (journal : Journal) :
    settle url reply journal = (.ok document, journal) := by
  cases reply with
  | lost => cases holds
  | response status body =>
    simp only [HttpReply.document?] at holds
    split at holds
    · rename_i success
      have reads : (some (HttpReply.text status body)).bind Json.parse? = some document := holds
      exact settleBody_of_some success reads url journal
    · cases holds
  | broken status => cases holds

/-- A reply that holds no document is settled with an error. -/
theorem settle_of_none {reply : HttpReply} (holds : reply.document? = none) (url : String)
    (journal : Journal) : ∃ error later, settle url reply journal = (.error error, later) := by
  cases reply with
  | lost => exact ⟨_, _, rfl⟩
  | response status body =>
    refine settleBody_of_none (fun success => ?_) url journal
    rw [Option.bind_some]
    simpa only [HttpReply.document?, success, if_true] using holds
  | broken status => exact settleBody_of_none (fun _ => rfl) url journal

/-- How often a post of the client is sent. -/
def tries (client : HttpClient) (exchange : Exchange) : Nat :=
  (repliesTo client.url client.policy.maxRetries (exchange.upcoming client.url)).length

/-- The document that a client receives for a post, if it receives one.  It depends on what is
still to come on the line only. -/
def received (client : HttpClient) (exchange : Exchange) : Option Json :=
  (lastReply client.url client.policy.maxRetries (exchange.upcoming client.url)).document?

/-- The line after a post of the client. -/
def posted (client : HttpClient) (body : Json) (exchange : Exchange) : Exchange :=
  exchange.afterPosts client.url body (client.tries exchange)

/-- The reply to a post is settled, whatever was posted. -/
theorem post_apply (client : HttpClient) (body : Json) (exchange : Exchange)
    (journal : Journal) :
    ∃ between, client.post body exchange journal =
      (((settle client.url.render (lastReply client.url client.policy.maxRetries
          (exchange.upcoming client.url)) between).1, client.posted body exchange),
        (settle client.url.render (lastReply client.url client.policy.maxRetries
          (exchange.upcoming client.url)) between).2) := by
  rcases delivered : deliver client.url body client.policy.maxRetries 0 exchange journal
    with ⟨⟨reply, after⟩, between⟩
  have said := deliver_fst client.url body client.policy.maxRetries 0 exchange journal
  rw [delivered] at said
  obtain ⟨rfl, rfl⟩ := Prod.mk.inj said
  refine ⟨between, ?_⟩
  have runs : client.post body exchange journal =
      (Attempt.ofJournaled (settle client.url.render
          (deliver client.url body client.policy.maxRetries 0 exchange journal).1.1) :
        Attempt Exchange TransportError Json)
        (deliver client.url body client.policy.maxRetries 0 exchange journal).1.2
        (deliver client.url body client.policy.maxRetries 0 exchange journal).2 := rfl
  rw [runs, delivered, Attempt.ofJournaled_apply]
  rfl

/-- A post for which a document is received gives this document. -/
theorem post_of_some {client : HttpClient} {exchange : Exchange} {document : Json}
    (holds : client.received exchange = some document) (body : Json) (journal : Journal) :
    ∃ later, client.post body exchange journal
      = ((.ok document, client.posted body exchange), later) := by
  obtain ⟨between, runs⟩ := client.post_apply body exchange journal
  rw [settle_of_some holds] at runs
  exact ⟨between, runs⟩

/-- A post for which no document is received fails. -/
theorem post_of_none {client : HttpClient} {exchange : Exchange}
    (holds : client.received exchange = none) (body : Json) (journal : Journal) :
    ∃ error later, client.post body exchange journal
      = ((.error error, client.posted body exchange), later) := by
  obtain ⟨between, runs⟩ := client.post_apply body exchange journal
  obtain ⟨error, later, settled⟩ := settle_of_none holds client.url.render between
  rw [settled] at runs
  exact ⟨error, later, runs⟩

/-! ## Single requests -/

/-- The line after a single request. -/
def afterCall (client : HttpClient) (request : Request) (exchange : Exchange) : Exchange :=
  client.posted (Exchange.envelope exchange.nextId request)
    { exchange with nextId := exchange.nextId + 1 }

/-- A request is answered by what the document says that is received for it. -/
theorem call_of_some {client : HttpClient} {exchange : Exchange} {document : Json}
    (holds : client.received exchange = some document) (request : Request)
    (journal : Journal) :
    ∃ between, (client.call request exchange journal).1
      = ((Response.decode request.method document between).1,
        client.afterCall request exchange) := by
  let taken : Exchange := { exchange with nextId := exchange.nextId + 1 }
  have holdsTaken : client.received taken = some document := holds
  obtain ⟨later, posts⟩ := post_of_some holdsTaken
    (Exchange.envelope exchange.nextId request)
    (journal.inside ⟨"call",
      [("method", .quoted request.method), ("url", .shown client.url.render)]⟩)
  refine ⟨later, ?_⟩
  unfold call
  rw [Attempt.within_fst, Attempt.bind_talk (exchange.takeId_apply _),
    Attempt.bind_of_ok posts, Attempt.ofJournaled_apply]
  rfl

/-- A request for which no document is received fails, with its id used up all the same. -/
theorem call_of_none {client : HttpClient} {exchange : Exchange}
    (holds : client.received exchange = none) (request : Request) (journal : Journal) :
    ∃ error, (client.call request exchange journal).1
      = (.error error, client.afterCall request exchange) := by
  let taken : Exchange := { exchange with nextId := exchange.nextId + 1 }
  have holdsTaken : client.received taken = none := holds
  obtain ⟨error, later, posts⟩ := post_of_none holdsTaken
    (Exchange.envelope exchange.nextId request)
    (journal.inside ⟨"call",
      [("method", .quoted request.method), ("url", .shown client.url.render)]⟩)
  refine ⟨error, ?_⟩
  unfold call
  rw [Attempt.within_fst, Attempt.bind_talk (exchange.takeId_apply _),
    Attempt.bind_of_error posts]
  rfl

/-! ## Several requests -/

/-- The ids that the requests of a batch get. -/
def batchIds (exchange : Exchange) (requests : List Request) : List UInt64 :=
  Exchange.idsFrom exchange.nextId.toNat requests.length

/-- The document that a batch posts. -/
def batchBody (exchange : Exchange) (requests : List Request) : Json :=
  .array (List.zipWith Exchange.envelope (batchIds exchange requests) requests)

/-- The line after the requests of a batch got their ids. -/
def afterIds (requests : List Request) (exchange : Exchange) : Exchange :=
  { exchange with nextId := UInt64.ofNat (exchange.nextId.toNat + requests.length) }

/-- The line after several requests; none at all leave it alone. -/
def afterBatch (client : HttpClient) (requests : List Request) (exchange : Exchange) : Exchange :=
  if requests.isEmpty then exchange
  else client.posted (batchBody exchange requests) (afterIds requests exchange)

/-- What becomes of the document that is received for a batch. -/
def matched (client : HttpClient) (ids : List UInt64) (requests : List Request) :
    Json → Attempt Exchange TransportError (List (Except TransportError Json))
  | .array responses => do return ← resultsFrom (.ofResponses responses) ids requests
  | _ => do
    throw (← TransportError.unreadable
      (.about "batch response is not an array" [("url", client.url.render)]) none)

/-- An empty batch has no results and sends nothing. -/
theorem batch_nil (client : HttpClient) (exchange : Exchange) (journal : Journal) :
    (client.batch [] exchange journal).1 = (.ok [], client.afterBatch [] exchange) := rfl

/-- A batch takes its ids before it posts anything, and looks at what comes back after. -/
theorem batch_of_ne_nil (client : HttpClient) (exchange : Exchange) {requests : List Request}
    (nonempty : requests ≠ []) (journal : Journal) :
    ∃ between, (client.batch requests exchange journal).1 =
      ((client.post (batchBody exchange requests) >>=
          client.matched (batchIds exchange requests) requests)
        (afterIds requests exchange) between).1 := by
  have notEmpty : requests.isEmpty = false := by simpa using nonempty
  have taken : ∀ journal, Exchange.takeIds requests exchange journal
      = ((batchIds exchange requests, afterIds requests exchange), journal) :=
    Exchange.takeIds_apply UInt64.ofNat_toNat.symm requests
  unfold batch
  rw [Attempt.within_fst]
  simp only [notEmpty, Bool.false_eq_true, if_false]
  rw [Attempt.bind_talk (taken _)]
  exact ⟨_, rfl⟩

/-- Several requests for which an array is received get the results that are matched to them. -/
theorem batch_of_array {client : HttpClient} {exchange : Exchange} {responses : List Json}
    (holds : client.received exchange = some (.array responses)) {requests : List Request}
    (nonempty : requests ≠ []) (journal : Journal) :
    ∃ between, (client.batch requests exchange journal).1
      = (.ok (resultsFrom (.ofResponses responses) (batchIds exchange requests) requests
          between).1, client.afterBatch requests exchange) := by
  have notEmpty : requests.isEmpty = false := by simpa using nonempty
  have holdsAfter : client.received (afterIds requests exchange) = some (.array responses) := holds
  obtain ⟨between, runs⟩ := client.batch_of_ne_nil exchange nonempty journal
  obtain ⟨later, posts⟩ := post_of_some holdsAfter (batchBody exchange requests) between
  refine ⟨later, ?_⟩
  unfold afterBatch
  rw [runs, Attempt.bind_of_ok posts, notEmpty]
  rfl

/-- Several requests for which anything else is received, or nothing, fail as a whole. -/
theorem batch_of_other {client : HttpClient} {exchange : Exchange}
    (holds : ∀ responses, client.received exchange ≠ some (.array responses))
    {requests : List Request} (nonempty : requests ≠ []) (journal : Journal) :
    ∃ error, (client.batch requests exchange journal).1
      = (.error error, client.afterBatch requests exchange) := by
  have notEmpty : requests.isEmpty = false := by simpa using nonempty
  obtain ⟨between, runs⟩ := client.batch_of_ne_nil exchange nonempty journal
  unfold afterBatch
  rw [runs, notEmpty]
  cases back : client.received (afterIds requests exchange) with
  | none =>
    obtain ⟨error, later, posts⟩ := post_of_none back (batchBody exchange requests) between
    rw [Attempt.bind_of_error posts]
    exact ⟨error, rfl⟩
  | some document =>
    obtain ⟨later, posts⟩ := post_of_some back (batchBody exchange requests) between
    rw [Attempt.bind_of_ok posts]
    cases document with
    | array responses => exact absurd back (holds responses)
    | null => exact ⟨_, rfl⟩
    | bool value => exact ⟨_, rfl⟩
    | integer value => exact ⟨_, rfl⟩
    | real value => exact ⟨_, rfl⟩
    | text value => exact ⟨_, rfl⟩
    | object members => exact ⟨_, rfl⟩

end HttpClient

end ChainIdentity
