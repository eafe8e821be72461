import ChainIdentity.Proofs.Exchange
import Mathlib.Data.ENat.Lattice

/-!
# The last reply decides

A post is sent once, and once more for every reply in front that may pass, as long as repetitions
are left.  `passing` counts the replies in front that may pass.  It is infinite if all of them may,
for the connection is closed whenever something is sent after the last one.

The loop gets one reply more than the smaller of the two numbers (`length_repliesTo`), and these
are the replies of the line in their order (`getElem?_repliesTo`).  What a reply means for the one
who posted is said without the client: `Decides` goes by the number of the status and by the text
that came with it.  A response may also have a text that cannot be read: it passes and succeeds by
its status as any other, but there is no document in it, and nothing of its text is shown.

`post_last_reply` is the main statement, and `post_alters_reply` shows where a reply is not passed
on as it was sent.  The mark of the byte order is taken off a refusal, and a document is not read if
more arrays or objects are nested in one another than the reader allows, of which the first section
has the case of arrays.
-/

namespace ChainIdentity

/-! ## Documents that are nested too deeply -/

namespace Json

/-- More opening brackets than arrays may be nested are not read, whatever follows them. -/
theorem Parser.readValue_of_deep (fuel depth : ℕ) (rest : List Char) :
    readValue fuel depth (List.replicate (depth + 1) '[' ++ rest) = none := by
  induction depth generalizing fuel with
  | zero =>
    cases fuel with
    | zero => rfl
    | succ fuel => rfl
  | succ depth ih =>
    cases fuel with
    | zero => rfl
    | succ fuel =>
      -- The second bracket is neither a blank nor the end of the array.
      have inner : readValue (fuel + 1) (depth + 1) (List.replicate (depth + 2) '[' ++ rest)
          = readElements fuel depth [] (List.replicate (depth + 1) '[' ++ rest) := rfl
      rw [inner]
      cases fuel with
      | zero => rfl
      | succ fuel => rw [readElements, ih]

/-- A text that opens more arrays in one another than may be nested is not read. -/
theorem parse?_of_deep {text : String} {rest : List Char}
    (deep : text.toList = List.replicate 128 '[' ++ rest) : parse? text = none := by
  unfold parse?
  rw [deep]
  simp only [Parser.nestingLimit, Parser.readValue_of_deep _ 127 rest]

/-- Arrays in one another, the innermost one empty. -/
def nested : ℕ → Json
  | 0 => .array []
  | depth + 1 => .array [nested depth]

/-- In writing, arrays in one another are as many opening brackets and then as many closing ones. -/
theorem toList_compact_nested (depth : ℕ) :
    (nested depth).compact.toList
      = List.replicate (depth + 1) '[' ++ List.replicate (depth + 1) ']' := by
  induction depth with
  | zero => rfl
  | succ depth ih =>
    have around : (nested (depth + 1)).compact = "[" ++ (nested depth).compact ++ "]" := by
      rw [nested, compact]
      rfl
    have opening : List.replicate (depth + 2) '[' = '[' :: List.replicate (depth + 1) '[' := rfl
    have closing : List.replicate (depth + 2) ']' = List.replicate (depth + 1) ']' ++ [']'] :=
      List.replicate_succ'
    have front : "[".toList = ['['] := rfl
    have back : "]".toList = [']'] := rfl
    rw [around, String.toList_append, String.toList_append, ih, opening, closing, front, back]
    simp only [List.append_assoc, List.cons_append, List.nil_append]

end Json

/-! ## Replies -/

namespace HttpReply

/-- The reply is a response that reports success. -/
def Succeeds : HttpReply → Prop
  | .lost => False
  | .response status _ => 200 ≤ status.code ∧ status.code < 300
  | .broken status => 200 ≤ status.code ∧ status.code < 300

/-- The reply may be another one a moment later: the connection was closed, the node was too slow
or too busy, or it failed. -/
def Passes : HttpReply → Prop
  | .lost => True
  | .response status _ =>
    status.code = 408 ∨ status.code = 429 ∨ 500 ≤ status.code ∧ status.code < 600
  | .broken status =>
    status.code = 408 ∨ status.code = 429 ∨ 500 ≤ status.code ∧ status.code < 600

/-- The statuses that may pass are those of a request that came too late, of one too many, and of
a node that failed. -/
theorem status_isTransient_iff (status : HttpStatus) :
    status.isTransient = true ↔
      status.code = 408 ∨ status.code = 429 ∨ 500 ≤ status.code ∧ status.code < 600 := by
  simp only [HttpStatus.isTransient, Bool.or_eq_true, Bool.and_eq_true, beq_iff_eq,
    decide_eq_true_iff, or_assoc]
  omega

/-- The statuses that report success are those that begin with a two. -/
theorem status_isSuccess_iff (status : HttpStatus) :
    status.isSuccess = true ↔ 200 ≤ status.code ∧ status.code < 300 := by
  simp only [HttpStatus.isSuccess, Bool.and_eq_true, decide_eq_true_iff]
  omega

/-- What the loop goes by is whether a reply may pass. -/
theorem isTransient_iff (reply : HttpReply) : reply.isTransient = true ↔ reply.Passes := by
  cases reply with
  | lost => exact iff_of_true rfl trivial
  | response status body => exact status_isTransient_iff status
  | broken status => exact status_isTransient_iff status

/-- No success may pass. -/
theorem Succeeds.not_passes {reply : HttpReply} (succeeds : reply.Succeeds) : ¬ reply.Passes := by
  have apart : ∀ status : HttpStatus, 200 ≤ status.code ∧ status.code < 300 →
      ¬ (status.code = 408 ∨ status.code = 429 ∨ 500 ≤ status.code ∧ status.code < 600) := by
    intro status inside outside
    omega
  cases reply with
  | lost => exact succeeds.elim
  | response status body => exact apart status succeeds
  | broken status => exact apart status succeeds

instance : (reply : HttpReply) → Decidable reply.Succeeds
  | .lost => inferInstanceAs (Decidable False)
  | .response status _ => inferInstanceAs (Decidable (200 ≤ status.code ∧ status.code < 300))
  | .broken status => inferInstanceAs (Decidable (200 ≤ status.code ∧ status.code < 300))

instance (reply : HttpReply) : Decidable reply.Passes :=
  decidable_of_iff (reply.isTransient = true) reply.isTransient_iff

/-- How many replies in front may pass.  After the last reply the connection is closed, which may
pass as well. -/
def passing : List HttpReply → ℕ∞
  | [] => ⊤
  | reply :: rest => if reply.Passes then passing rest + 1 else 0

/-- The next reply, of which there always is one, decides whether any may pass. -/
theorem passing_eq (replies : List HttpReply) :
    passing replies =
      if (replies.head?.getD .lost).Passes then passing replies.tail + 1 else 0 := by
  cases replies with
  | nil => exact (if_pos trivial).symm
  | cons reply rest => rfl

/-- The replies that are counted may pass. -/
theorem passes_of_lt {i : ℕ} {replies : List HttpReply} (among : (i : ℕ∞) < passing replies) :
    (replies[i]?.getD .lost).Passes := by
  induction i generalizing replies with
  | zero =>
    rw [passing_eq] at among
    split at among
    · rename_i passes
      rwa [List.head?_eq_getElem?] at passes
    · exact absurd among (by simp)
  | succ i ih =>
    rw [passing_eq] at among
    split at among
    · have amongRest : (i : ℕ∞) < passing replies.tail := by
        rw [Nat.cast_add_one] at among
        exact lt_of_add_lt_add_right among
      rw [← List.getElem?_tail]
      exact ih amongRest
    · exact absurd among (by simp)

/-- The text is what is shown, apart from a mark of the byte order in front of it. -/
def Shows (text shown : String) : Prop :=
  text = "\ufeff" ++ shown ∨ text = shown ∧ ∀ rest, text ≠ "\ufeff" ++ rest

/-- A text shows in one way only. -/
theorem Shows.unique {text shown shown' : String} (shows : Shows text shown)
    (shows' : Shows text shown') : shown = shown' := by
  rcases shows with marked | ⟨same, unmarked⟩
  · rcases shows' with marked' | ⟨-, unmarked'⟩
    · exact (String.append_right_inj "\ufeff").mp (marked.symm.trans marked')
    · exact absurd marked (unmarked' shown)
  · rcases shows' with marked' | ⟨same', -⟩
    · exact absurd marked' (unmarked shown')
    · exact same.symm.trans same'

/-- The text that is kept of a body is the one that it shows. -/
theorem shows_withoutMark (text : String) : Shows text (withoutMark text) := by
  unfold withoutMark
  split
  · rename_i rest marked
    refine .inl (String.toList_injective ?_)
    simp [marked]
  · rename_i unmarked
    refine .inr ⟨rfl, ?_⟩
    rintro rest rfl
    exact unmarked rest.toList (String.toList_append ..)

end HttpReply

namespace HttpClient

open HttpReply

/-! ## The replies that a post gets -/

/-- An address that leads somewhere can be served. -/
theorem mayRetry_iff {exchange : Exchange} {url : Url} (reached : exchange.reaches url = true)
    (reply : HttpReply) : mayRetry url reply = true ↔ reply.Passes := by
  have scheme : url.scheme = exchange.scheme.name := by
    simp only [Exchange.reaches, Bool.and_eq_true, beq_iff_eq] at reached
    exact reached.1
  rw [← isTransient_iff]
  unfold mayRetry
  rw [scheme]
  cases exchange.scheme with
  | http => simp [HttpScheme.name]
  | https => simp [HttpScheme.name]

section

variable {url : Url}

/-- A post gets one reply, and one more for every repetition.  There are as many of these as are
allowed, or as many as there are replies in front that may pass if that is less. -/
theorem length_repliesTo (served : ∀ reply, mayRetry url reply = true ↔ reply.Passes)
    (retries : ℕ) (replies : List HttpReply) :
    ((repliesTo url retries replies).length : ℕ∞) = min (retries : ℕ∞) (passing replies) + 1 := by
  induction retries generalizing replies with
  | zero => simp [repliesTo]
  | succ retries ih =>
    rw [repliesTo, passing_eq replies]
    by_cases passes : (replies.head?.getD .lost).Passes
    · simp only [(served _).mpr passes, if_true, if_pos passes]
      rw [List.length_cons, Nat.cast_add_one, ih, Nat.cast_add_one, min_add_add_right]
    · simp [mt (served _).mp passes, if_neg passes]

/-- The first reply is the next one of the line. -/
theorem getElem?_repliesTo_zero (retries : ℕ) (replies : List HttpReply) :
    (repliesTo url retries replies)[0]? = some (replies[0]?.getD .lost) := by
  rw [← List.head?_eq_getElem?, ← List.head?_eq_getElem?]
  cases retries with
  | zero => rfl
  | succ retries =>
    rw [repliesTo]
    split
    · rfl
    · rfl

/-- The replies are those of the line in their order. -/
theorem getElem?_repliesTo {retries i : ℕ} {replies : List HttpReply} {reply : HttpReply}
    (here : (repliesTo url retries replies)[i]? = some reply) :
    reply = replies[i]?.getD .lost := by
  induction i generalizing retries replies with
  | zero => exact Option.some.inj (here.symm.trans (getElem?_repliesTo_zero retries replies))
  | succ i ih =>
    cases retries with
    | zero => cases here
    | succ retries =>
      rw [repliesTo] at here
      split at here
      · rw [← List.getElem?_tail]
        exact ih here
      · cases here

/-- The last reply is the one of the line at the place of the last post. -/
theorem lastReply_eq (retries : ℕ) (replies : List HttpReply) :
    lastReply url retries replies
      = replies[(repliesTo url retries replies).length - 1]?.getD .lost := by
  have last := List.getLast?_eq_some_getLast (repliesTo_ne_nil url retries replies)
  rw [List.getLast?_eq_getElem?] at last
  exact getElem?_repliesTo last

end

/-! ## What the last reply means -/

/-- What comes of a post to an address for its last reply. -/
inductive Decides (url : String) : HttpReply → Except TransportError Json → Prop
  /-- The node was not reached. -/
  | lost {error : TransportError} (network : error.problem = .network) :
      Decides url .lost (.error error)
  /-- The node refused, and the error shows with which status and text. -/
  | refused {status : HttpStatus} {body shown : String} {error : TransportError}
      (failure : ¬ (response status body).Succeeds)
      (shows : Shows (HttpReply.text status body) shown)
      (http : error.problem = .http status url shown) :
      Decides url (.response status body) (.error error)
  /-- The node refused, and the error shows with which status; of its text nothing can be read. -/
  | brokenRefusal {status : HttpStatus} {error : TransportError}
      (failure : ¬ (broken status).Succeeds) (http : error.problem = .http status url "") :
      Decides url (.broken status) (.error error)
  /-- The node served the post with what is no document. -/
  | unreadable {status : HttpStatus} {body : String} {error : TransportError}
      (success : (response status body).Succeeds)
      (senseless : Json.parse? (HttpReply.text status body) = none)
      (unreadable : error.problem = .unreadable) :
      Decides url (.response status body) (.error error)
  /-- The node served the post, and what with cannot be read. -/
  | brokenSuccess {status : HttpStatus} {error : TransportError}
      (success : (broken status).Succeeds) (unreadable : error.problem = .unreadable) :
      Decides url (.broken status) (.error error)
  /-- The node served the post with a document. -/
  | served {status : HttpStatus} {body : String} {document : Json}
      (success : (response status body).Succeeds)
      (parses : Json.parse? (HttpReply.text status body) = some document) :
      Decides url (.response status body) (.ok document)

/-- A refusal is settled with its status and with what shows of its text. -/
theorem settleBody_of_refusal {status : HttpStatus} (failure : status.isSuccess = false)
    (url : String) (body : Option String) (journal : Journal) :
    ∃ error later, settleBody url status body journal = (.error error, later) ∧
      error.problem = .http status url (withoutMark (body.getD "")) := by
  unfold settleBody
  simp only [failure]
  exact ⟨_, _, rfl, rfl⟩

/-- A success without a document is settled as unreadable. -/
theorem settleBody_of_unread {status : HttpStatus} (success : status.isSuccess = true)
    {body : Option String} (unread : body.bind Json.parse? = none) (url : String)
    (journal : Journal) :
    ∃ error later, settleBody url status body journal = (.error error, later) ∧
      error.problem = .unreadable := by
  unfold settleBody
  simp only [success, if_true, unread]
  exact ⟨_, _, rfl, rfl⟩

/-- What is settled for a reply is what the reply decides. -/
theorem settle_decides (url : String) (reply : HttpReply) (journal : Journal) :
    Decides url reply (settle url reply journal).1 := by
  have refuses : ∀ status : HttpStatus, status.isSuccess = false →
      ¬ (200 ≤ status.code ∧ status.code < 300) := by
    intro status failure inside
    rw [(status_isSuccess_iff status).mpr inside] at failure
    cases failure
  cases reply with
  | lost => exact .lost rfl
  | response status body =>
    cases succeeds : status.isSuccess with
    | true =>
      have success := (status_isSuccess_iff status).mp succeeds
      cases parses : Json.parse? (HttpReply.text status body) with
      | some document =>
        have reads : (some (HttpReply.text status body)).bind Json.parse? = some document := parses
        rw [settle, settleBody_of_some succeeds reads]
        exact .served success parses
      | none =>
        have unread : (some (HttpReply.text status body)).bind Json.parse? = none := parses
        obtain ⟨error, later, settles, unreadable⟩ :=
          settleBody_of_unread succeeds unread url journal
        rw [settle, settles]
        exact .unreadable success parses unreadable
    | false =>
      obtain ⟨error, later, settles, http⟩ :=
        settleBody_of_refusal succeeds url (some (HttpReply.text status body)) journal
      rw [settle, settles]
      exact .refused (refuses status succeeds) (shows_withoutMark _) http
  | broken status =>
    cases succeeds : status.isSuccess with
    | true =>
      have unread : (none : Option String).bind Json.parse? = none := rfl
      obtain ⟨error, later, settles, unreadable⟩ :=
        settleBody_of_unread succeeds unread url journal
      rw [settle, settles]
      exact .brokenSuccess ((status_isSuccess_iff status).mp succeeds) unreadable
    | false =>
      obtain ⟨error, later, settles, http⟩ := settleBody_of_refusal succeeds url none journal
      rw [settle, settles]
      exact .brokenRefusal (refuses status succeeds) http

/-- The last of the replies that a post gets decides what comes of it. -/
theorem post_decides (client : HttpClient) (body : Json) (exchange : Exchange)
    (journal : Journal) :
    Decides client.url.render
      (lastReply client.url client.policy.maxRetries (exchange.upcoming client.url))
      (client.post body exchange journal).1.1 := by
  obtain ⟨between, runs⟩ := client.post_apply body exchange journal
  rw [runs]
  exact settle_decides _ _ _

/-- A post to a node that can be reached arrives once more often than there are replies in front
that may pass, or than repetitions are allowed if these are less.  What comes of it is decided by
the last of the replies, and no reply that reports success is followed by another one. -/
theorem post_last_reply {client : HttpClient} {exchange : Exchange}
    (reached : exchange.reaches client.url = true) (body : Json) (journal : Journal) :
    ∃ count : ℕ,
      (count : ℕ∞) = min (client.policy.maxRetries : ℕ∞) (passing exchange.replies) + 1 ∧
      (client.post body exchange journal).1.2 = { exchange with
        replies := exchange.replies.drop count
        posts := exchange.posts ++ List.replicate count ⟨client.url.target, body⟩ } ∧
      Decides client.url.render (exchange.replies[count - 1]?.getD .lost)
        (client.post body exchange journal).1.1 ∧
      ∀ (i : ℕ) (reply : HttpReply), exchange.replies[i]? = some reply → reply.Succeeds →
        count ≤ i + 1 := by
  have served := mayRetry_iff reached
  have upcoming : exchange.upcoming client.url = exchange.replies := if_pos reached
  have count_eq := length_repliesTo served client.policy.maxRetries exchange.replies
  refine ⟨client.tries exchange, ?count, ?line, ?outcome, ?settled⟩
  case count =>
    rw [tries, upcoming]
    exact count_eq
  case line =>
    obtain ⟨between, runs⟩ := client.post_apply body exchange journal
    rw [runs]
    exact if_pos reached
  case outcome =>
    have outcome := client.post_decides body exchange journal
    rw [lastReply_eq, upcoming] at outcome
    rw [tries, upcoming]
    exact outcome
  case settled =>
    intro i reply here succeeds
    by_contra more
    -- A reply that another one follows is one of those that are counted.
    have counted : (i : ℕ∞) < passing exchange.replies := by
      have behind : ((i + 1 : ℕ) : ℕ∞)
          < min (client.policy.maxRetries : ℕ∞) (passing exchange.replies) + 1 := by
        rw [← count_eq, Nat.cast_lt, ← upcoming]
        exact not_le.mp more
      rw [Nat.cast_add_one] at behind
      exact (lt_of_add_lt_add_right behind).trans_le (min_le_right _ _)
    have passes := passes_of_lt counted
    rw [here] at passes
    exact succeeds.not_passes passes

/-- A client of the node that is called so. -/
def insistentClient (retries : ℕ) : HttpClient where
  url := ⟨"https", some ⟨"", none, some (.name "node"), none⟩, .segments [""], none, none⟩
  policy := { RetryPolicy.standard with maxRetries := retries }

/-- An encrypted line to this node. -/
def lineWith (replies : List HttpReply) : Exchange := .start .https (.name "node") replies

/-- The client is one of the node at the other end of the line. -/
theorem lineWith_reaches (retries : ℕ) (replies : List HttpReply) :
    (lineWith replies).reaches (insistentClient retries).url = true := by
  have same : ("https" == "https" &&
      (some (.name "node") : Option Url.Host) == some (.name "node")) = true := by decide
  exact same

/-- A node that breaks off while it fails, closes the connection once, and then refuses. -/
def unsteadyReplies : List HttpReply :=
  [.broken ⟨503⟩, .lost, .response ⟨404⟩ "\ufeffgone", .response ⟨200⟩ "1"]

/-- A node that breaks off in the middle of a document, and would give it afterwards. -/
def tornReplies : List HttpReply :=
  [.broken ⟨200⟩, .response ⟨200⟩ "1"]

/-- The third reply of the one node decides, though another repetition would be left for the
fourth.  The first one of the other decides, since it reports success, and nothing is posted
again. -/
theorem post_last_reply_unsteady :
    ((lineWith unsteadyReplies).reaches (insistentClient 3).url = true ∧
      ((insistentClient 3).post .null (lineWith unsteadyReplies) .empty).1.2
        = { lineWith unsteadyReplies with
            replies := [.response ⟨200⟩ "1"], posts := List.replicate 3 ⟨"/", .null⟩ } ∧
      ∃ error, ((insistentClient 3).post .null (lineWith unsteadyReplies) .empty).1.1
          = .error error ∧
        error.problem = .http ⟨404⟩ (insistentClient 3).url.render "gone") ∧
    (lineWith tornReplies).reaches (insistentClient 3).url = true ∧
      ((insistentClient 3).post .null (lineWith tornReplies) .empty).1.2
        = { lineWith tornReplies with
            replies := [.response ⟨200⟩ "1"], posts := [⟨"/", .null⟩] } ∧
      ∃ error, ((insistentClient 3).post .null (lineWith tornReplies) .empty).1.1
          = .error error ∧
        error.problem = .unreadable := by
  constructor
  · have reached := lineWith_reaches 3 unsteadyReplies
    obtain ⟨count, count_eq, line, outcome, -⟩ := post_last_reply reached .null .empty
    obtain rfl : count = 3 := by
      have two : passing (lineWith unsteadyReplies).replies = 2 := by
        simp [lineWith, Exchange.start, unsteadyReplies, passing, Passes, one_add_one_eq_two]
      have three : min ((insistentClient 3).policy.maxRetries : ℕ∞) 2 + 1 = ((3 : ℕ) : ℕ∞) := by
        decide
      rw [two, three] at count_eq
      exact Nat.cast_injective count_eq
    refine ⟨reached, line, ?_⟩
    generalize ((insistentClient 3).post .null (lineWith unsteadyReplies) .empty).1.1 = result
      at outcome
    cases outcome with
    | refused failure shows http =>
      rw [shows.unique (.inl rfl : Shows _ "gone")] at http
      exact ⟨_, rfl, http⟩
    | unreadable success => exact absurd success (by decide)
    | served success => exact absurd success (by decide)
  · have reached := lineWith_reaches 3 tornReplies
    obtain ⟨count, count_eq, line, outcome, -⟩ := post_last_reply reached .null .empty
    obtain rfl : count = 1 := by
      have none : passing (lineWith tornReplies).replies = 0 := by
        simp [lineWith, Exchange.start, tornReplies, passing, Passes]
      rw [none, min_zero, zero_add] at count_eq
      exact_mod_cast count_eq
    refine ⟨reached, line, ?_⟩
    generalize ((insistentClient 3).post .null (lineWith tornReplies) .empty).1.1 = result
      at outcome
    cases outcome with
    | brokenSuccess success unreadable => exact ⟨_, rfl, unreadable⟩
    | brokenRefusal failure => exact absurd (by decide) failure

/-- A single reply to a post that is not repeated decides. -/
theorem post_single_decides (reply : HttpReply) :
    Decides (insistentClient 0).url.render reply
      ((insistentClient 0).post .null (lineWith [reply]) .empty).1.1 := by
  have outcome := (insistentClient 0).post_decides .null (lineWith [reply]) .empty
  have upcoming : (lineWith [reply]).upcoming (insistentClient 0).url = [reply] :=
    if_pos (lineWith_reaches 0 [reply])
  rw [upcoming] at outcome
  exact outcome

/-- A reply is not always passed on as it was sent.  The mark of the byte order that a refusal
begins with is not part of the text that the error shows, and a document that is nested too deeply
is none for the client, although it was served as one. -/
theorem post_alters_reply :
    (¬ ∀ (client : HttpClient) (exchange : Exchange) (status : HttpStatus) (text : String),
      exchange.reaches client.url = true → exchange.replies = [.response status text] →
      ¬ (response status text).Passes → ¬ (response status text).Succeeds →
      ∃ error, (client.post .null exchange .empty).1.1 = .error error ∧
        error.problem = .http status client.url.render text) ∧
    ¬ ∀ (client : HttpClient) (exchange : Exchange) (document : Json),
      exchange.reaches client.url = true →
      exchange.replies = [.response ⟨200⟩ document.compact] →
      (client.post .null exchange .empty).1.1 = .ok document := by
  constructor
  · intro verbatim
    obtain ⟨error, fails, http⟩ := verbatim (insistentClient 0)
      (lineWith [.response ⟨404⟩ "\ufeffgone"]) ⟨404⟩ "\ufeffgone" (lineWith_reaches 0 _) rfl
      (by decide) (by decide)
    have outcome := post_single_decides (.response ⟨404⟩ "\ufeffgone")
    rw [fails] at outcome
    cases outcome with
    | refused failure shows http' =>
      rw [shows.unique (.inl rfl : Shows _ "gone"), http] at http'
      exact absurd http' (by decide)
    | unreadable success => exact absurd success (by decide)
  · intro verbatim
    have serves := verbatim (insistentClient 0)
      (lineWith [.response ⟨200⟩ (Json.nested 127).compact]) (Json.nested 127)
      (lineWith_reaches 0 _) rfl
    have outcome := post_single_decides (.response ⟨200⟩ (Json.nested 127).compact)
    rw [serves] at outcome
    cases outcome with
    | served success parses =>
      rw [show HttpReply.text ⟨200⟩ (Json.nested 127).compact = (Json.nested 127).compact from rfl,
        Json.parse?_of_deep (Json.toList_compact_nested 127)] at parses
      cases parses

end HttpClient

end ChainIdentity
