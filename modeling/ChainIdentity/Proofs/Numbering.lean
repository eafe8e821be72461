import ChainIdentity.Proofs.Delivery

/-!
# Which ids go over the line

A client numbers its requests from one on.  An operation takes as many numbers as it has requests
before it posts anything, so what is received for it has no say in this: a turn is `Numbered` from
the number of requests issued before it, whatever it ends with.  What it posts is one document,
made of these numbers and these requests, and every repetition is a post of the same document.  A
batch without requests leaves the line as it found it.

`turn_numbered` shows this of one operation on a line that is accounted for, and `turns_numbered`
of whole runs.  There the envelopes of all turns, each turn's counted once, are read as one list:
its element at every position is the envelope of the request at this position of the run, and its
id is the number of the position.
-/

namespace ChainIdentity

open HttpClient

/-! ## Envelopes -/

namespace Exchange

/-- What an envelope says: the version of the protocol, a number for an id, the request as it was
given, and nothing else. -/
structure Carries (envelope : Json) (number : Nat) (request : Request) : Prop where
  /-- The version. -/
  version : envelope.member? "jsonrpc" = some (.text "2.0")
  /-- The id. -/
  id : envelope.member? "id" = some (.integer number)
  /-- The method. -/
  method : envelope.member? "method" = some (.text request.method)
  /-- The parameters. -/
  params : envelope.member? "params" = some request.params
  /-- There is no other member. -/
  nothing : ∀ name ∉ ["jsonrpc", "id", "method", "params"], envelope.member? name = none

/-- The members of an envelope by name. -/
theorem member?_envelope (id : UInt64) (request : Request) (name : String) :
    (envelope id request).member? name =
      if name = "params" then some request.params
      else if name = "method" then some (.text request.method)
      else if name = "id" then some (.integer id.toNat)
      else if name = "jsonrpc" then some (.text "2.0")
      else none := by
  unfold envelope Json.ofMembers Json.member? Ordered.ofList
  simp only [List.foldl_cons, List.foldl_nil, Ordered.lookup_insert]
  rfl

/-- An envelope carries its number as long as the numbers have 64 bits. -/
theorem envelope_carries {number : Nat} (bound : number < UInt64.size) (request : Request) :
    Carries (envelope (UInt64.ofNat number) request) number request where
  version := by simp [member?_envelope]
  id := by simp [member?_envelope, Nat.mod_eq_of_lt bound]
  method := by simp [member?_envelope]
  params := by simp [member?_envelope]
  nothing := by
    intro name other
    simp only [List.mem_cons, List.not_mem_nil, or_false, not_or] at other
    obtain ⟨notVersion, notId, notMethod, notParams⟩ := other
    rw [member?_envelope, if_neg notParams, if_neg notMethod, if_neg notId, if_neg notVersion]

/-- The envelopes of some requests, numbered from a number on. -/
def envelopesFrom (first : Nat) (requests : List Request) : List Json :=
  List.zipWith envelope (idsFrom first requests.length) requests

/-- Every request has an envelope. -/
@[simp] theorem envelopesFrom_length (first : Nat) (requests : List Request) :
    (envelopesFrom first requests).length = requests.length := by
  simp [envelopesFrom]

/-- What is numbered after some requests begins with the number after theirs. -/
theorem envelopesFrom_append (first : Nat) (front back : List Request) :
    envelopesFrom first (front ++ back)
      = envelopesFrom first front ++ envelopesFrom (first + front.length) back := by
  have ids : idsFrom first (front ++ back).length
      = idsFrom first front.length ++ idsFrom (first + front.length) back.length := by
    simp [idsFrom, ← List.range'_append_1]
  unfold envelopesFrom
  rw [ids, List.zipWith_append (idsFrom_length _ _)]

/-- The envelope at a position carries the request at this position. -/
theorem envelopesFrom_carries {first : Nat} {requests : List Request}
    (bound : first + requests.length ≤ UInt64.size) {index : Nat} {request : Request}
    (found : requests[index]? = some request) :
    ∃ envelope, (envelopesFrom first requests)[index]? = some envelope ∧
      Carries envelope (first + index) request := by
  have below := (List.getElem?_eq_some_iff.mp found).1
  refine ⟨_, List.getElem?_zipWith_eq_some.mpr
    ⟨_, request, idsFrom_getElem? below, found, rfl⟩, ?_⟩
  exact envelope_carries (by omega) request

end Exchange

/-! ## What an operation posts -/

/-- The document that an operation posts if its first request has the given number: the envelope
of a single request, and an array for several. -/
def Inquiry.body (first : Nat) : Inquiry → Json
  | .single request => Exchange.envelope (UInt64.ofNat first) request
  | .several requests => .array (Exchange.envelopesFrom first requests)

/-- The envelopes that are posted are those of the requests. -/
theorem Inquiry.envelopes_body (target : String) (first : Nat) (inquiry : Inquiry) :
    Post.envelopes ⟨target, inquiry.body first⟩
      = Exchange.envelopesFrom first inquiry.requests := by
  cases inquiry with
  | single request =>
    simp [Post.envelopes, Inquiry.body, Inquiry.requests, Exchange.envelope, Json.ofMembers,
      Exchange.envelopesFrom, Exchange.idsFrom]
  | several requests => rfl

namespace HttpClient

/-- A post gets at most one reply more than it may be repeated. -/
theorem repliesTo_length_le (url : Url) (retries : Nat) (upcoming : List HttpReply) :
    (repliesTo url retries upcoming).length ≤ retries + 1 := by
  induction retries generalizing upcoming with
  | zero => simp [repliesTo]
  | succ retries ih =>
    simp only [repliesTo]
    split
    · have later := ih upcoming.tail
      rw [List.length_cons]
      omega
    · rw [List.length_singleton]
      omega

/-- Posting leaves the ids alone. -/
theorem posted_nextId (client : HttpClient) (body : Json) (exchange : Exchange) :
    (client.posted body exchange).nextId = exchange.nextId := by
  unfold posted Exchange.afterPosts
  split <;> rfl

/-- A post arrives as often as it is tried, on a line that leads to the address. -/
theorem posted_posts (client : HttpClient) (body : Json) (exchange : Exchange) :
    ∃ count ≤ client.policy.maxRetries + 1,
      (0 < count ↔ exchange.reaches client.url = true) ∧
      (client.posted body exchange).posts
        = exchange.posts ++ List.replicate count ⟨client.url.target, body⟩ := by
  unfold posted Exchange.afterPosts
  cases reached : exchange.reaches client.url with
  | true =>
    refine ⟨client.tries exchange, repliesTo_length_le _ _ _, ?_, rfl⟩
    simp [client.tries_pos exchange]
  | false => exact ⟨0, Nat.zero_le _, by simp, by simp⟩

end HttpClient

/-! ## One turn -/

namespace Turn

/-- A turn is numbered from the number of requests that were issued before it.  How it ends is not
mentioned: a turn that fails takes as many numbers as one that succeeds. -/
structure Numbered (client : HttpClient) (issued : Nat) (turn : Turn) : Prop where
  /-- The first id is the number after those of the requests before. -/
  takes : turn.before.nextId = UInt64.ofNat (issued + 1)
  /-- The next turn's first id is the number after those of its own requests. -/
  leaves : turn.after.nextId = UInt64.ofNat (issued + turn.inquiry.requests.length + 1)
  /-- What arrives is one document, time and again, and at least once if there is a request and
  the host can be reached. -/
  repeats : ∃ count ≤ client.policy.maxRetries + 1,
    (0 < count ↔ turn.inquiry.requests ≠ [] ∧ turn.before.reaches client.url = true) ∧
    turn.after.posts = turn.before.posts
      ++ List.replicate count ⟨client.url.target, turn.inquiry.body (issued + 1)⟩
  /-- The line leads to the same host, under the same scheme. -/
  stays : turn.after.line = turn.before.line
  /-- No request, no post: the line is left alone. -/
  silent : turn.inquiry.requests = [] → turn.after = turn.before

/-- The posts that arrived in a turn. -/
def posts (turn : Turn) : List Post :=
  turn.after.posts.drop turn.before.posts.length

/-- The envelopes of a turn, counted once however often they were posted. -/
def envelopes (turn : Turn) : List Json :=
  (turn.posts.head?.map Post.envelopes).getD []

/-- On a line that leads to the client's host, the envelopes of a turn are those of its requests
with the numbers that follow. -/
theorem Numbered.envelopes_eq {client : HttpClient} {issued : Nat} {turn : Turn}
    (numbered : turn.Numbered client issued) (reached : turn.before.reaches client.url = true) :
    turn.envelopes = Exchange.envelopesFrom (issued + 1) turn.inquiry.requests := by
  obtain ⟨count, -, positive, same⟩ := numbered.repeats
  unfold envelopes posts
  rw [same, List.drop_left]
  by_cases nonempty : turn.inquiry.requests = []
  · have none : count = 0 := Nat.eq_zero_of_not_pos fun some => (positive.mp some).1 nonempty
    rw [none, nonempty]
    rfl
  · have some : count ≠ 0 := Nat.ne_of_gt (positive.mpr ⟨nonempty, reached⟩)
    rw [List.head?_replicate, if_neg some]
    exact Inquiry.envelopes_body _ _ _

end Turn

section

variable {client : HttpClient} {exchange : Exchange} {issued : List Request}

/-- Where a line leads decides which addresses it reaches. -/
theorem reaches_of_line {exchange exchange' : Exchange} (same : exchange'.line = exchange.line)
    (url : Url) : exchange'.reaches url = exchange.reaches url := by
  obtain ⟨scheme, host⟩ := Prod.mk.inj same
  unfold Exchange.reaches
  rw [scheme, host]

/-- A line leads to the same end after a post. -/
theorem HttpClient.posted_line (client : HttpClient) (body : Json) (exchange : Exchange) :
    (client.posted body exchange).line = exchange.line := by
  unfold HttpClient.posted Exchange.afterPosts
  split
  · rfl
  · rfl

/-- An operation that posts a document made of the next numbers, after it took them, is
numbered. -/
theorem numbered_of_posted {inquiry : Inquiry} {finding : Finding} {taken : Exchange}
    (accounted : Accounted exchange issued) (nonempty : inquiry.requests ≠ [])
    (next : taken.nextId = UInt64.ofNat (issued.length + inquiry.requests.length + 1))
    (line : taken.line = exchange.line) (posts : taken.posts = exchange.posts) :
    Turn.Numbered client issued.length
      ⟨inquiry, exchange, finding, client.posted (inquiry.body (issued.length + 1)) taken⟩ where
  takes := accounted.next
  leaves := (client.posted_nextId _ _).trans next
  repeats := by
    obtain ⟨count, most, positive, same⟩ :=
      client.posted_posts (inquiry.body (issued.length + 1)) taken
    rw [posts] at same
    rw [reaches_of_line line] at positive
    refine ⟨count, most, ?_, same⟩
    simpa [nonempty] using positive
  stays := (client.posted_line _ _).trans line
  silent := fun empty => absurd empty nonempty

/-- An operation on a line that is accounted for is numbered from the length of the ledger,
whatever is received for it. -/
theorem turn_numbered (accounted : Accounted exchange issued) {inquiry : Inquiry}
    (bound : issued.length + inquiry.requests.length < UInt64.size) (journal : Journal) :
    Turn.Numbered client issued.length
      ⟨inquiry, exchange, (client.inquire inquiry exchange journal).1.1,
        (client.inquire inquiry exchange journal).1.2⟩ := by
  cases inquiry with
  | single request =>
    have next : exchange.nextId + 1 = UInt64.ofNat (issued.length + 1 + 1) := by
      rw [accounted.next, UInt64.ofNat_add (issued.length + 1) 1]
      rfl
    have ends : (client.inquire (.single request) exchange journal).1.2
        = client.posted (Inquiry.body (issued.length + 1) (.single request))
          { exchange with nextId := exchange.nextId + 1 } := by
      rw [inquire_single_fst, call_snd]
      unfold afterCall Inquiry.body
      rw [accounted.next]
    rw [ends]
    exact numbered_of_posted accounted (List.cons_ne_nil _ _) next rfl rfl
  | several requests =>
    by_cases nonempty : requests = []
    · subst nonempty
      exact
        { takes := accounted.next
          leaves := accounted.next
          repeats := ⟨0, Nat.zero_le _, by simp [Inquiry.requests], (List.append_nil _).symm⟩
          stays := rfl
          silent := fun _ => rfl }
    · have positive := List.length_pos_iff.mpr nonempty
      have boundHere : issued.length + requests.length < UInt64.size := bound
      have first : exchange.nextId.toNat = issued.length + 1 :=
        accounted.nextId_toNat (by omega)
      have ends : (client.inquire (.several requests) exchange journal).1.2
          = client.posted (Inquiry.body (issued.length + 1) (.several requests))
            (afterIds requests exchange) := by
        have notEmpty : requests.isEmpty = false := by simpa using nonempty
        rw [inquire_several_fst, batch_snd]
        unfold afterBatch batchBody batchIds Inquiry.body Exchange.envelopesFrom
        rw [notEmpty, first]
        rfl
      have next : (afterIds requests exchange).nextId
          = UInt64.ofNat (issued.length + requests.length + 1) := by
        unfold afterIds
        rw [first, Nat.add_right_comm]
      rw [ends]
      exact numbered_of_posted accounted nonempty next rfl rfl

end

/-! ## Whole runs -/

/-- A run has a turn for each operation. -/
theorem turns_inquiries (client : HttpClient) (inquiries : List Inquiry) (exchange : Exchange)
    (journal : Journal) :
    (client.turns inquiries exchange journal).map Turn.inquiry = inquiries := by
  induction inquiries generalizing exchange journal with
  | nil => rfl
  | cons inquiry rest ih => exact congrArg (inquiry :: ·) (ih _ _)

/-- The requests of the first operation come first. -/
theorem requestsOf_cons (inquiry : Inquiry) (rest : List Inquiry) :
    requestsOf (inquiry :: rest) = inquiry.requests ++ requestsOf rest :=
  List.flatMap_cons

/-- On a line that is accounted for, every turn of a run is numbered from the requests that were
issued before it.  The induction is on the operations, and the ledger is what one turn hands to
the next. -/
theorem turns_numbered_of_accounted {client : HttpClient} {inquiries : List Inquiry}
    {exchange : Exchange} {issued : List Request} {journal : Journal}
    (accounted : Accounted exchange issued)
    (bound : issued.length + (requestsOf inquiries).length < UInt64.size) {index : Nat}
    {turn : Turn} (found : (client.turns inquiries exchange journal)[index]? = some turn) :
    turn.Numbered client (issued.length + (requestsOf (inquiries.take index)).length) := by
  induction inquiries generalizing exchange issued journal index with
  | nil => cases found
  | cons inquiry rest ih =>
    rw [requestsOf_cons, List.length_append] at bound
    have boundNow : issued.length + inquiry.requests.length < UInt64.size := by omega
    cases index with
    | zero =>
      obtain rfl := Option.some.inj found
      exact turn_numbered accounted boundNow journal
    | succ index =>
      have later := ih (accounted.inquire boundNow journal)
        (by rw [List.length_append]; omega) found
      rw [List.length_append] at later
      rw [List.take_succ_cons, requestsOf_cons, List.length_append, ← Nat.add_assoc]
      exact later

/-- On a line that is accounted for and leads to the client's host, the envelopes of a run are
those of its requests with the numbers that follow. -/
theorem turns_envelopes {client : HttpClient} {inquiries : List Inquiry} {exchange : Exchange}
    {issued : List Request} {journal : Journal} (accounted : Accounted exchange issued)
    (bound : issued.length + (requestsOf inquiries).length < UInt64.size)
    (reached : exchange.reaches client.url = true) :
    (client.turns inquiries exchange journal).flatMap Turn.envelopes
      = Exchange.envelopesFrom (issued.length + 1) (requestsOf inquiries) := by
  induction inquiries generalizing exchange issued journal with
  | nil => rfl
  | cons inquiry rest ih =>
    rw [requestsOf_cons, List.length_append] at bound
    have boundNow : issued.length + inquiry.requests.length < UInt64.size := by omega
    have numbered : Turn.Numbered client issued.length
        ⟨inquiry, exchange, (client.inquire inquiry exchange journal).1.1,
          (client.inquire inquiry exchange journal).1.2⟩ :=
      turn_numbered accounted boundNow journal
    have reachedAfter := (reaches_of_line numbered.stays client.url).trans reached
    have later : (client.turns rest (client.inquire inquiry exchange journal).1.2
        (client.inquire inquiry exchange journal).2).flatMap Turn.envelopes
          = Exchange.envelopesFrom ((issued ++ inquiry.requests).length + 1) (requestsOf rest) :=
      ih (accounted.inquire boundNow journal) (by rw [List.length_append]; omega) reachedAfter
    rw [List.length_append, Nat.add_right_comm] at later
    rw [requestsOf_cons, Exchange.envelopesFrom_append, ← later, ← numbered.envelopes_eq reached]
    rfl

/-- Which ids go over the line, over whole runs.  A client and its clones carry out any operations
in any order over a line on which nothing was sent before, with fewer than `UInt64.size` requests
in all, and whatever is received, each turn is numbered from the requests before it: it takes one
id for each of its own requests, however it ends, and posts one document made of these, as often
as the policy allows at most.  On a line that leads to the client's address the envelopes of the
run, each turn's counted once, are those of the run's requests in their order, with the ids one,
two, three and so on. -/
theorem turns_numbered (client : HttpClient) (inquiries : List Inquiry) (scheme : HttpScheme)
    (host : Url.Host) (replies : List HttpReply) (journal : Journal)
    (bound : (requestsOf inquiries).length < UInt64.size) :
    (client.turns inquiries (.start scheme host replies) journal).map Turn.inquiry = inquiries ∧
    (∀ (index : Nat) (turn : Turn),
      (client.turns inquiries (.start scheme host replies) journal)[index]? = some turn →
      turn.Numbered client (requestsOf (inquiries.take index)).length) ∧
    ((Exchange.start scheme host replies).reaches client.url = true →
      ((client.turns inquiries (.start scheme host replies) journal).flatMap Turn.envelopes).length
        = (requestsOf inquiries).length ∧
      ∀ (index : Nat) (request : Request), (requestsOf inquiries)[index]? = some request →
        ∃ envelope, ((client.turns inquiries (.start scheme host replies) journal).flatMap
            Turn.envelopes)[index]? = some envelope ∧
          Exchange.Carries envelope (index + 1) request) := by
  have accounted := start_accounted scheme host replies
  have bound' : ([] : List Request).length + (requestsOf inquiries).length < UInt64.size := by
    simpa using bound
  refine ⟨turns_inquiries client inquiries _ journal, ?_, ?_⟩
  · intro index turn found
    simpa using turns_numbered_of_accounted accounted bound' found
  · intro reached
    rw [turns_envelopes accounted bound' reached]
    refine ⟨Exchange.envelopesFrom_length _ _, ?_⟩
    intro index request found
    rw [Nat.add_comm index 1]
    exact Exchange.envelopesFrom_carries (by rw [List.length_nil]; omega) found

/-- Single requests and batches, one of them empty. -/
def mixedInquiries : List Inquiry :=
  [.single ⟨"a", .array []⟩, .several [], .several [⟨"b", .array []⟩, ⟨"c", .null⟩],
   .single ⟨"d", .array []⟩]

/-- A node that answers the first request on the second try, the batch with a document that is no
array, and the last request not at all. -/
def failingReplies : List HttpReply :=
  [.response ⟨503⟩ "", .response ⟨200⟩ "\x7b\"id\":1,\"result\":true\x7d",
   .response ⟨200⟩ "null", .response ⟨404⟩ "not here"]

/-- Four envelopes arrive with the numbers from one to four, the first of them twice, though two
operations fail. -/
theorem turns_numbered_mixed :
    (requestsOf mixedInquiries).length < UInt64.size ∧
    (∀ (index : Nat) (turn : Turn), (echoClient.turns mixedInquiries
        (.start .http (.name "node") failingReplies) .empty)[index]? = some turn →
      turn.Numbered echoClient (requestsOf (mixedInquiries.take index)).length) ∧
    ((echoClient.turns mixedInquiries (.start .http (.name "node") failingReplies) .empty).map
        fun turn => turn.posts.length) = [2, 0, 1, 1] ∧
    (((echoClient.turns mixedInquiries (.start .http (.name "node") failingReplies) .empty).flatMap
        Turn.envelopes).map responseId?) = [some 1, some 2, some 3, some 4] := by
  have bound : (requestsOf mixedInquiries).length < UInt64.size := by decide
  obtain ⟨-, numbered, -⟩ := turns_numbered echoClient mixedInquiries .http (.name "node")
    failingReplies .empty bound
  exact ⟨bound, numbered, by decide +kernel, by decide +kernel⟩

end ChainIdentity
