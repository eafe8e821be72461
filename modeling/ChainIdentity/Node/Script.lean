import ChainIdentity.Node.Transport

/-!
# Nodes that follow a script

A scripted node takes its answers from a list, one for every round trip, whatever it is asked.
It stands in for a real node wherever only the answers matter: a script can hold any mixture of
results, raw responses and failures, and every conversation with a node of which only finitely
many answers are seen is a conversation with a scripted one.
-/

namespace ChainIdentity

/-- An answer of a scripted node. -/
inductive Reply where
  /-- A result. -/
  | result (value : Json)
  /-- A response, from which the result is still to be taken. -/
  | response (value : Json)
  /-- The node cannot be reached. -/
  | network (message : String)
  /-- The answer cannot be read. -/
  | unreadable (message : String)
  /-- The node reports an error. -/
  | rpc (code : Int64) (message : String)
  /-- The node answers with a status that is no success. -/
  | http (status : HttpStatus) (url : String) (body : String)
  /-- Answers to several requests. -/
  | several (replies : List Reply)
  /-- No answer at all. -/
  | nothing
deriving Repr

namespace Reply

instance : Inhabited Reply := ⟨nothing⟩

/-- What an answer means to a request with the given method. -/
def answer (method : String) : Reply → Trip Json
  | result value => return value
  | response value => Response.decode method value
  | network message => do throw (← TransportError.network (.plain message) none)
  | unreadable message => do throw (← TransportError.unreadable (.plain message) none)
  | rpc code message => do throw (← TransportError.rpc code (.plain message))
  | http status url body => do throw (← TransportError.http status url body none none)
  | several _ => do throw (← TransportError.network (.plain "no scripted reply") none)
  | nothing => do throw (← TransportError.network (.plain "no scripted reply") none)

/-- What several answers mean to several requests, one after the other.  There are as many
results as answers; an answer to which there is no request is read for an empty method. -/
def answers : List Reply → List Request → Journaled (List (Except TransportError Json))
  | [], _ => return []
  | reply :: replies, [] => return (← (reply.answer "").run) :: (← answers replies [])
  | reply :: replies, request :: requests =>
    return (← (reply.answer request.method).run) :: (← answers replies requests)

/-- What an answer means to several requests.  A single answer is no answer to them: its error
is the error of the round trip, its result no result. -/
def answerAll (requests : List Request) : Reply → Trip (List (Except TransportError Json))
  | several replies => do return ← answers replies requests
  | reply => do
    let _ ← reply.answer "batch"
    return []

end Reply

/-- The way to a scripted node; the state is what is left of the script. -/
def Transport.scripted (url : String) : Transport (List Reply) where
  url := url
  call request := fun script =>
    (Attempt.ofJournaled ((script.head?.getD .nothing).answer request.method)) script.tail
  batch requests := fun script =>
    (Attempt.ofJournaled ((script.head?.getD .nothing).answerAll requests)) script.tail

end ChainIdentity
