import ChainIdentity.Node.Exchange
import ChainIdentity.Node.Script
import ChainIdentity.Proofs.Reporting

/-!
# Ways to the node that make their errors

Both ways to a node make every error that they fail with by a constructor of `TransportError`, and
all of them anew: what stands behind an error here, if there is anything, is the text of another
library, in which no trace id is found.  `Transport.scripted_makesErrors` says so of a node that
follows a script, and `HttpClient.transport_makesErrors` of a client that posts to a node.

The proofs follow the text of the two with the account of the contexts that were written
(`Account.made`).  Readings and the matching of responses are covered before the ways themselves.
-/

namespace ChainIdentity

variable {σ α : Type} {anew : Prop} {start : Journal} {before : List Context}

/-! ## Errors that were made -/

/-- An attempt fails with an error that was made. -/
abbrev FailsMade : Except TransportError α → List Context → Prop :=
  Ended (fun _ _ => True) fun error contexts => error.context ∈ contexts

/-- The errors among some results were made. -/
def ResultsMade (results : List (Except TransportError α)) (contexts : List Context) : Prop :=
  ∀ error, .error error ∈ results → error.context ∈ contexts

/-- An attempt at several results fails with an error that was made, and so do the results. -/
abbrev AllMade : Except TransportError (List (Except TransportError α)) → List Context → Prop :=
  Ended ResultsMade fun error contexts => error.context ∈ contexts

/-- Where there are no results, there are no errors among them. -/
theorem resultsMade_nil (contexts : List Context) :
    ResultsMade ([] : List (Except TransportError α)) contexts := by
  intro error among
  cases among

/-- Results are made one after the other. -/
theorem ResultsMade.cons {result : Except TransportError α}
    {results : List (Except TransportError α)} {contexts further : List Context}
    (first : FailsMade result contexts) (kept : contexts ⊆ further)
    (rest : ResultsMade results further) : ResultsMade (result :: results) further := by
  intro error among
  rcases List.mem_cons.mp among with same | later
  · rw [← same] at first
    exact kept first
  · exact rest error later

/-- A constructor that finds no trace id in what it is given makes an error anew. -/
theorem TransportError.Constructor.made {source : Option Cause}
    {make : Journaled TransportError} (constructor : TransportError.Constructor source make)
    (traceless : source.bind Cause.inherited? = none) :
    (Account.made anew start).Covers before make fun error contexts =>
      error.context ∈ contexts := by
  intro journal makes
  have further := makes.error constructor (handedOut_of_traceless traceless journal)
    fun _ => unreported_of_traceless traceless _
  have last : (make journal).1.context ∈ before ++ [(make journal).1.context] :=
    List.mem_append_right _ (List.mem_singleton.mpr rfl)
  exact ⟨_, List.subset_append_left _ _, further, last⟩

/-- An attempt may fail with an error that a constructor makes. -/
theorem raise_made {source : Option Cause} {make : Journaled TransportError}
    (constructor : TransportError.Constructor source make)
    (traceless : source.bind Cause.inherited? = none) :
    (Account.made anew start).Covers before (do throw (← make) : Trip α).run FailsMade :=
  (constructor.made traceless).raise

/-! ## Nodes that follow a script -/

/-- The reading of a response makes the error that it fails with. -/
theorem Response.decode_made (method : String) (response : Json) :
    (Account.made anew start).Covers before (Response.decode method response).run FailsMade := by
  unfold Response.decode
  cases result response with
  | ok value => exact .pure trivial
  | error fault =>
    cases fault with
    | reported code message => exact raise_made (.rpc code (.ofMethod method message)) rfl
    | noResult => exact raise_made (.unreadable _ none) rfl

namespace Reply

/-- A reply of a script makes the error that it is. -/
theorem answer_made (method : String) (reply : Reply) :
    (Account.made anew start).Covers before (reply.answer method).run FailsMade := by
  cases reply with
  | result value => exact .pure trivial
  | response value => exact Response.decode_made method value
  | network message => exact raise_made (.network (.plain message) none) rfl
  | unreadable message => exact raise_made (.unreadable (.plain message) none) rfl
  | rpc code message => exact raise_made (.rpc code (.plain message)) rfl
  | http status url body => exact raise_made (.http status url body none none) rfl
  | several replies => exact raise_made (.network (.plain "no scripted reply") none) rfl
  | nothing => exact raise_made (.network (.plain "no scripted reply") none) rfl

/-- The replies to several requests make the errors among them, one after the other. -/
theorem answers_made (replies : List Reply) (requests : List Request) :
    (Account.made anew start).Covers before (answers replies requests) ResultsMade := by
  induction replies generalizing before requests with
  | nil => exact .pure (resultsMade_nil _)
  | cons reply replies ih =>
    cases requests with
    | nil =>
      apply (answer_made "" reply).bind
      intro result contexts _ made
      apply (ih []).bind
      intro results further kept rest
      exact .pure (.cons made kept rest)
    | cons request requests =>
      apply (answer_made request.method reply).bind
      intro result contexts _ made
      apply (ih requests).bind
      intro results further kept rest
      exact .pure (.cons made kept rest)

/-- An answer that is not one to several requests gives no results. -/
theorem answerSingle_made (reply : Reply) :
    (Account.made anew start).Covers before
      (do let _ ← reply.answer "batch"; return [] :
        Trip (List (Except TransportError Json))).run AllMade := by
  apply (answer_made "batch" reply).after
  intro value contexts _ _
  exact .pure (resultsMade_nil contexts)

/-- A reply to several requests makes the error that it is, or those among its results. -/
theorem answerAll_made (requests : List Request) (reply : Reply) :
    (Account.made anew start).Covers before (reply.answerAll requests).run AllMade := by
  cases reply with
  | several replies => exact .lift (answers_made replies requests)
  | result value => exact answerSingle_made _
  | response value => exact answerSingle_made _
  | network message => exact answerSingle_made _
  | unreadable message => exact answerSingle_made _
  | rpc code message => exact answerSingle_made _
  | http status url body => exact answerSingle_made _
  | nothing => exact answerSingle_made _

end Reply

/-- A way to the node makes its errors by the constructors if its two functions are covered by the
account of them, begun anew. -/
theorem Transport.makesErrors_of_covered {way : Transport σ}
    (call : ∀ start request, (Account.made anew start).CoversTalk [] (way.call request) FailsMade)
    (batch : ∀ start requests,
      (Account.made anew start).CoversTalk [] (way.batch requests) AllMade) :
    way.MakesErrors anew where
  call request state journal := by
    obtain ⟨contexts, -, makes, made⟩ := call journal request state journal .nothing
    exact ⟨contexts, makes, (ended_iff.mp made).2⟩
  batch requests state journal := by
    obtain ⟨contexts, -, makes, made⟩ := batch journal requests state journal .nothing
    exact ⟨contexts, makes, (ended_iff.mp made).2, (ended_iff.mp made).1⟩

/-- A scripted node makes its errors by the constructors and anew, whatever the script is. -/
theorem Transport.scripted_makesErrors (url : String) (anew : Prop) :
    (Transport.scripted url).MakesErrors anew := by
  apply makesErrors_of_covered
  · intro start request script
    exact Account.CoversTalk.ofJournaled (Reply.answer_made request.method _) script.tail
  · intro start requests script
    exact Account.CoversTalk.ofJournaled (Reply.answerAll_made requests _) script.tail

/-! ## Clients that post to a node -/

namespace HttpClient

/-- Sending a post says nothing in the journal. -/
theorem send_made (url : Url) (body : Json) :
    (Account.made anew start).CoversTalk before (Exchange.send url body) fun _ _ => True := by
  intro exchange
  have quietly : ∀ journal : Journal,
      journal.Quietly (Exchange.send url body exchange journal).2 := by
    intro journal
    unfold Exchange.send
    split
    · exact .refl journal
    · exact .refl journal
  exact .quiet quietly fun _ => trivial

/-- Repetitions of a post are written down as warnings and make no error. -/
theorem deliver_made (url : Url) (body : Json) (retries past : Nat) :
    (Account.made anew start).CoversTalk before (deliver url body retries past)
      fun _ _ => True := by
  induction retries generalizing before past with
  | zero => exact send_made url body
  | succ retries ih =>
    apply (send_made url body).bind
    intro reply contexts _ _
    split
    · -- The event about a repetition is a warning, under no trace id.
      apply Account.CoversTalk.bind (.journaled (.emit fun _ => rfl))
      intro value contexts' _ _
      exact ih (past + 1)
    · exact .pure trivial

/-- The reading of a body makes the error that it fails with. -/
theorem settleBody_made (url : String) (status : HttpStatus) (body : Option String) :
    (Account.made anew start).Covers before (settleBody url status body).run FailsMade := by
  unfold settleBody
  split
  · cases body.bind Json.parse? with
    | some value => exact .pure trivial
    | none => exact raise_made (.unreadable _ (some (.foreign _ none))) rfl
  · apply Account.Covers.write (.emit fun _ => rfl)
    intro value contexts _ _
    exact raise_made (.http status url _ none none) rfl

/-- The judgement on a reply makes the error that it fails with. -/
theorem settle_made (url : String) (reply : HttpReply) :
    (Account.made anew start).Covers before (settle url reply).run FailsMade := by
  cases reply with
  | lost => exact raise_made (.network _ (some (.foreign _ none))) rfl
  | response status body => exact settleBody_made url status _
  | broken status => exact settleBody_made url status none

/-- Taking ids says nothing in the journal. -/
theorem takeIds_made (requests : List Request) :
    (Account.made anew start).CoversTalk before (Exchange.takeIds requests) fun _ _ => True := by
  intro exchange
  have same : ∀ journal, (Exchange.takeIds requests exchange journal).2 = journal := by
    intro journal
    induction requests generalizing exchange with
    | nil => rfl
    | cons request rest ih => exact ih _
  have quietly : ∀ journal : Journal,
      journal.Quietly (Exchange.takeIds requests exchange journal).2 := by
    intro journal
    rw [same journal]
    exact .refl journal
  exact .quiet quietly fun _ => trivial

/-- A post makes the error that it fails with, which is that of its last reply. -/
theorem post_made (client : HttpClient) (body : Json) :
    (Account.made anew start).CoversTalk before (client.post body) FailsMade := by
  apply (deliver_made client.url body client.policy.maxRetries 0).talk
  intro reply contexts _ _
  exact .ofJournaled (settle_made client.url.render reply)

/-- A call makes the error that it fails with. -/
theorem call_made (client : HttpClient) (request : Request) :
    (Account.made anew start).CoversTalk before (client.call request) FailsMade := by
  have takes : (Account.made anew start).CoversTalk before Exchange.takeId fun _ _ => True := by
    intro exchange
    exact .pure trivial
  apply Account.CoversTalk.within
  apply takes.talk
  intro id contexts _ _
  apply (post_made client (Exchange.envelope id request)).after
  intro response contexts' _ _
  exact .ofJournaled (Response.decode_made request.method response)

/-- What is looked up for a request makes the error of a missing or unreadable response. -/
theorem resultOf_made (id : UInt64) (request : Request) (found : Option Json) :
    (Account.made anew start).Covers before (resultOf id request found).run FailsMade := by
  cases found with
  | some response => exact Response.decode_made request.method response
  | none => exact raise_made (.unreadable _ none) rfl

/-- The results of a batch make the errors among them, one after the other. -/
theorem resultsFrom_made (table : Table) (ids : List UInt64) (requests : List Request) :
    (Account.made anew start).Covers before (resultsFrom table ids requests) ResultsMade := by
  induction ids generalizing before table requests with
  | nil => exact .pure (resultsMade_nil _)
  | cons id ids ih =>
    cases requests with
    | nil => exact .pure (resultsMade_nil _)
    | cons request requests =>
      apply (resultOf_made id request (table.take id).1).bind
      intro result contexts _ made
      apply (ih (table.take id).2 requests).bind
      intro results further kept rest
      exact .pure (.cons made kept rest)

/-- A batch makes the error that its post fails with, or those among its results. -/
theorem batch_made (client : HttpClient) (requests : List Request) :
    (Account.made anew start).CoversTalk before (client.batch requests) AllMade := by
  apply Account.CoversTalk.within
  split
  · exact .ok (resultsMade_nil _)
  · apply (takeIds_made requests).talk
    intro ids contexts _ _
    apply (post_made client _).after
    intro document contexts' _ _
    split
    · exact .lift (resultsFrom_made _ ids requests)
    · apply Account.CoversTalk.write ((TransportError.Constructor.unreadable _ none).made rfl)
      intro error further _ made
      exact .throw made

/-- A client makes its errors by the constructors and anew, whatever comes back for its posts. -/
theorem transport_makesErrors (client : HttpClient) (anew : Prop) :
    client.transport.MakesErrors anew := by
  apply Transport.makesErrors_of_covered
  · intro start request
    exact call_made client request
  · intro start requests
    exact batch_made client requests

end HttpClient

end ChainIdentity
