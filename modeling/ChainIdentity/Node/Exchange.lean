import ChainIdentity.Json.Parser
import ChainIdentity.Node.RetryPolicy
import ChainIdentity.Node.Transport
import ChainIdentity.Url.Basic

/-!
# Requests over HTTP

A client posts JSON-RPC envelopes to one address.  Every request gets the next id, whether the
operation it belongs to succeeds or not, and the answers to several requests are matched to
them by id, in whatever order they come.

A post is repeated when the node cannot be reached or answers with a status that may pass, at
most as often as the client allows, and always with the same body; the last reply decides.  Whether
a reply may pass is told by its status alone, before its body is read.

The other end of the line is a list of replies, given out one for each post that arrives, and a
list of the posts that did.  A clone of a client shares the ids with it, so a clone needs no
state of its own.
-/

namespace ChainIdentity

open Text

/-- What comes back for a post. -/
inductive HttpReply where
  /-- The connection is closed without a response. -/
  | lost
  /-- A response. -/
  | response (status : HttpStatus) (body : String)
  /-- A response whose body cannot be read, because it breaks off or is not put together as
  announced. -/
  | broken (status : HttpStatus)
deriving DecidableEq, Repr

/-- A post that arrived. -/
structure Post where
  /-- The path and query that the request names. -/
  target : String
  /-- The body. -/
  body : Json
deriving Repr

/-- How a line is spoken on. -/
inductive HttpScheme where
  /-- In the open. -/
  | http
  /-- Encrypted. -/
  | https
deriving DecidableEq, Repr

/-- The scheme as an address names it. -/
def HttpScheme.name : HttpScheme → String
  | http => "http"
  | https => "https"

/-- The line and the ids. -/
structure Exchange where
  /-- How the line is spoken on; an address with another scheme does not lead to it. -/
  scheme : HttpScheme
  /-- The host at the other end; no other host is reached. -/
  host : Url.Host
  /-- The replies to come; none left means that the connection is closed. -/
  replies : List HttpReply
  /-- The posts that arrived. -/
  posts : List Post
  /-- The next id. -/
  nextId : UInt64
deriving Repr

namespace Exchange

/-- A line to a host on which nothing was sent. -/
def start (scheme : HttpScheme) (host : Url.Host) (replies : List HttpReply) : Exchange :=
  ⟨scheme, host, replies, [], 1⟩

/-- The next id. -/
def takeId : Talk Exchange UInt64 := fun exchange =>
  return (exchange.nextId, { exchange with nextId := exchange.nextId + 1 })

/-- The next ids, one for each request. -/
def takeIds : List Request → Talk Exchange (List UInt64)
  | [] => return []
  | _ :: rest => return (← takeId) :: (← takeIds rest)

/-- The envelope of a request. -/
def envelope (id : UInt64) (request : Request) : Json :=
  .ofMembers
    [("jsonrpc", .text "2.0"), ("id", .integer id.toNat), ("method", .text request.method),
     ("params", request.params)]

/-- Where the line leads. -/
def line (exchange : Exchange) : HttpScheme × Url.Host :=
  (exchange.scheme, exchange.host)

/-- Whether the address leads to the other end of the line. -/
def reaches (exchange : Exchange) (url : Url) : Bool :=
  url.scheme == exchange.scheme.name && url.host? == some exchange.host

/-- Sends a post once. -/
def send (url : Url) (body : Json) : Talk Exchange HttpReply := fun exchange =>
  if exchange.reaches url then
    return (exchange.replies.head?.getD .lost,
      { exchange with
        replies := exchange.replies.tail
        posts := exchange.posts ++ [⟨url.target, body⟩] })
  else return (.lost, exchange)

end Exchange

namespace HttpReply

/-- Whether the same post may be answered better a moment later. -/
def isTransient : HttpReply → Bool
  | lost => true
  | response status _ => status.isTransient
  | broken status => status.isTransient

/-- The text that a response carries. -/
def text (status : HttpStatus) (body : String) : String :=
  if status.isBodiless then "" else body

/-- A text without the mark of its byte order. -/
def withoutMark (body : String) : String :=
  match body.toList with
  | '\ufeff' :: rest => String.ofList rest
  | _ => body

end HttpReply

/-- A client that posts to one address. -/
structure HttpClient where
  /-- The address. -/
  url : Url
  /-- How posts are repeated. -/
  policy : RetryPolicy
deriving DecidableEq

namespace HttpClient

/-- A client with the usual policy. -/
def ofUrl (url : Url) : HttpClient := ⟨url, .standard⟩

/-- The part of the program that reports on posts. -/
def target : String := "corechain_registry::services::transport::http"

/-- The part of the program that reports on repeated posts. -/
def retryTarget : String := "reqwest_retry::middleware"

/-- Whether a post that failed in passing is worth repeating: only where the scheme of the
address can be served at all. -/
def mayRetry (url : Url) (reply : HttpReply) : Bool :=
  reply.isTransient && (url.scheme == "http" || url.scheme == "https")

/-- Sends a post, again while it fails in passing and retries are left, and gives the last
reply. -/
def deliver (url : Url) (body : Json) : Nat → Nat → Talk Exchange HttpReply
  | 0, _ => Exchange.send url body
  | retries + 1, past => do
    let reply ← Exchange.send url body
    if mayRetry url reply then
      Journaled.emit .warn retryTarget
        ("Retry attempt #" ++ Numeral.decimal past ++ ". Sleeping before the next attempt") []
      deliver url body retries (past + 1)
    else return reply

/-- The document in the body of a response, or the error that the response means.  A body that
cannot be read is no document, and a refusal shows an empty text for it. -/
def settleBody (url : String) (status : HttpStatus) (body : Option String) : Trip Json := do
  if status.isSuccess then
    match body.bind Json.parse? with
    | some value => return value
    | none =>
      throw (← TransportError.unreadable
        (.about "Failed to parse JSON response" [("url", url)])
        (some (.foreign "error decoding response body" none)))
  else
    let text := HttpReply.withoutMark (body.getD "")
    Journaled.emit .warn target ("Request failed: " ++ text)
      [("url", .shown url), ("status", .shown status.render)]
    throw (← TransportError.http status url text none none)

/-- The document that a reply holds, or the error that it means. -/
def settle (url : String) : HttpReply → Trip Json
  | .lost => do
    throw (← TransportError.network
      (.about ("failed to send request to " ++ url) [("url", url)])
      (some (.foreign ("error sending request for url (" ++ url ++ ")") none)))
  | .response status body => settleBody url status (some (HttpReply.text status body))
  | .broken status => settleBody url status none

/-- Posts a document and gives the document that comes back. -/
def post (client : HttpClient) (body : Json) : Attempt Exchange TransportError Json := do
  let reply ← deliver client.url body client.policy.maxRetries 0
  Attempt.ofJournaled (settle client.url.render reply)

/-- Sends one request. -/
def call (client : HttpClient) (request : Request) : Attempt Exchange TransportError Json :=
  Attempt.within ⟨"call",
    [("method", .quoted request.method), ("url", .shown client.url.render)]⟩ do
    let id ← Exchange.takeId
    let response ← client.post (Exchange.envelope id request)
    Attempt.ofJournaled (Response.decode request.method response)

/-! ## Matching responses to requests -/

/-- The id of a response, if it is one that a request can have. -/
def responseId? (response : Json) : Option UInt64 :=
  (response.member? "id").bind Json.unsigned?

/-- Responses by id. -/
abbrev Table := List (UInt64 × Json)

namespace Table

/-- Enters a response; one that was entered under the same id is replaced. -/
def enter (id : UInt64) (response : Json) : Table → Table
  | [] => [(id, response)]
  | (id', response') :: rest =>
    if id = id' then (id, response) :: rest else (id', response') :: enter id response rest

/-- The table of the given responses.  Those without a usable id are left out. -/
def ofResponses (responses : List Json) : Table :=
  responses.foldl
    (fun table response =>
      match responseId? response with
      | some id => table.enter id response
      | none => table)
    []

/-- Takes the response with the given id out of the table. -/
def take (id : UInt64) : Table → Option Json × Table
  | [] => (none, [])
  | (id', response) :: rest =>
    if id = id' then (some response, rest)
    else
      let (found, rest) := take id rest
      (found, (id', response) :: rest)

end Table

/-- The last of the given responses that has the given id. -/
def lastResponse? (id : UInt64) (responses : List Json) : Option Json :=
  responses.reverse.find? fun response => responseId? response = some id

/-- The result of a request, given what was found for it. -/
def resultOf (id : UInt64) (request : Request) : Option Json → Trip Json
  | some response => Response.decode request.method response
  | none => do
    throw (← TransportError.unreadable
      (.ofMethod request.method ("missing response for request " ++ Numeral.decimal id.toNat))
      none)

/-- The results of all requests in their order, each response used once. -/
def resultsFrom : Table → List UInt64 → List Request →
    Journaled (List (Except TransportError Json))
  | table, id :: ids, request :: requests => do
    let (found, rest) := table.take id
    return (← (resultOf id request found).run) :: (← resultsFrom rest ids requests)
  | _, _, _ => return []

/-- The results of all requests in their order, each from the last response with its id. -/
def positionalResults (responses : List Json) :
    List UInt64 → List Request → Journaled (List (Except TransportError Json))
  | id :: ids, request :: requests => do
    let result ← (resultOf id request (lastResponse? id responses)).run
    return result :: (← positionalResults responses ids requests)
  | _, _ => return []

/-- Sends several requests in one post; none at all are not sent. -/
def batch (client : HttpClient) (requests : List Request) :
    Attempt Exchange TransportError (List (Except TransportError Json)) :=
  Attempt.within ⟨"batch_call",
    [("url", .shown client.url.render),
     ("batch_size", .shown (Numeral.decimal requests.length))]⟩ do
    if requests.isEmpty then return []
    let ids ← Exchange.takeIds requests
    match ← client.post (.array (List.zipWith Exchange.envelope ids requests)) with
    | .array responses => return ← resultsFrom (.ofResponses responses) ids requests
    | _ =>
      throw (← TransportError.unreadable
        (.about "batch response is not an array" [("url", client.url.render)]) none)

/-- The client as a way to the node. -/
def transport (client : HttpClient) : Transport Exchange where
  url := client.url.render
  call := client.call
  batch := client.batch

end HttpClient

end ChainIdentity
