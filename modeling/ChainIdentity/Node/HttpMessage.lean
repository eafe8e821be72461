import ChainIdentity.Node.Exchange

/-!
# HTTP on the wire

How a post is written to a connection, and how the reply is read once the other end has closed
it.  A reply has a status line, header lines, an empty line and a body.  The body is either cut
into chunks, each behind its length, or it is everything up to the end.

The head decides whether there is a response at all.  Without a complete head the connection was
lost (`reply_eq_lost_iff`).  Behind one the response stands with its status whatever becomes of the
body: where announced bytes are missing, or the chunks are not put together as they should be, the
body cannot be read.
-/

namespace ChainIdentity.HttpMessage

open Text

/-- A post as it is written to a connection that serves nothing else afterwards. -/
def ofPost (host : String) (post : Post) : String :=
  let body := post.body.compact
  String.intercalate "\r\n"
    ["POST " ++ post.target ++ " HTTP/1.1",
     "host: " ++ host,
     "accept: */*",
     "content-type: application/json",
     "content-length: " ++ Numeral.decimal body.utf8ByteSize,
     "connection: close",
     "",
     body]

/-- The bytes as characters, each of its own number. -/
def characters (bytes : List UInt8) : List Char :=
  bytes.map fun byte => Char.ofNat byte.toNat

/-- A line that ends with carriage return and newline, and what follows it. -/
def splitLine : List UInt8 → Option (List UInt8 × List UInt8)
  | 13 :: 10 :: rest => some ([], rest)
  | byte :: rest => (splitLine rest).map fun (line, after) => (byte :: line, after)
  | [] => none

/-- What follows a line is shorter than what it was taken from. -/
theorem length_of_splitLine {bytes line rest : List UInt8}
    (h : splitLine bytes = some (line, rest)) : rest.length < bytes.length := by
  fun_induction splitLine bytes generalizing line with
  | case1 =>
    simp only [Option.some.injEq, Prod.mk.injEq] at h
    simp only [h.2, List.length_cons]
    omega
  | case2 byte tail _ ih =>
    obtain ⟨⟨line', after⟩, hl, heq⟩ := Option.map_eq_some_iff.1 h
    simp only [Prod.mk.injEq] at heq
    have := ih (heq.2 ▸ hl)
    simp only [List.length_cons]
    omega
  | case3 => simp at h

/-- The header lines up to the empty one, by their names in small letters, and what follows. -/
def readHeaders (bytes : List UInt8) : Option (List (String × String) × List UInt8) :=
  match h : splitLine bytes with
  | none => none
  | some ([], rest) => some ([], rest)
  | some (line, rest) =>
    have := length_of_splitLine h
    let text := characters line
    let header := ((String.ofList (text.takeWhile (· != ':'))).toLower,
      String.ofList (trim ((text.dropWhile (· != ':')).drop 1)))
    (readHeaders rest).map fun (headers, after) => (header :: headers, after)
termination_by bytes.length

/-- The status that a status line reports. -/
def readStatus (line : List UInt8) : Option HttpStatus :=
  match (characters line).dropWhile (· != ' ') with
  | ' ' :: rest => (Numeral.value? 10 (rest.takeWhile (· != ' '))).map fun code => ⟨code⟩
  | _ => none

/-- Puts the chunks of a body together, up to the empty one and the header lines behind it. -/
def readChunks (bytes : List UInt8) : Option (List UInt8) :=
  match h : splitLine bytes with
  | none => none
  | some (line, rest) =>
    have := length_of_splitLine h
    let digits := trim ((characters line).takeWhile (· != ';'))
    match Numeral.value? 16 digits with
    | none => none
    | some 0 => (readHeaders rest).map fun _ => []
    | some size =>
      match hrest : rest.drop size with
      | 13 :: 10 :: after =>
        have := (congrArg List.length hrest).symm.trans List.length_drop
        (readChunks after).map (rest.take size ++ ·)
      | _ => none
termination_by bytes.length
decreasing_by
  simp only [List.length_cons] at this
  omega

/-- The body that follows the headers, if all of it is there. -/
def readBody (headers : List (String × String)) (bytes : List UInt8) : Option (List UInt8) :=
  if headers.lookup "transfer-encoding" == some "chunked" then readChunks bytes
  else
    match (headers.lookup "content-length").bind fun text => Numeral.value? 10 text.toList with
    | some length => if bytes.length < length then none else some (bytes.take length)
    | none => some bytes

/-! ## Text -/

/-- A character that is being read: how many bytes are still to come, the bounds of the next one,
and the bits so far. -/
structure Pending where
  /-- The bytes to come. -/
  count : Nat
  /-- The least next byte. -/
  low : UInt8
  /-- The greatest next byte. -/
  high : UInt8
  /-- The bits of the bytes that were read. -/
  bits : Nat

/-- What a byte begins: a character of its own, or one of several bytes. -/
def lead (byte : UInt8) : Option Char ⊕ Pending :=
  let low := (byte % 0x40).toNat
  if byte < 0x80 then .inl (some (Char.ofNat byte.toNat))
  else if byte < 0xC2 then .inl none
  else if byte < 0xE0 then .inr ⟨1, 0x80, 0xBF, low % 0x20⟩
  else if byte = 0xE0 then .inr ⟨2, 0xA0, 0xBF, 0⟩
  else if byte = 0xED then .inr ⟨2, 0x80, 0x9F, 0xD⟩
  else if byte < 0xF0 then .inr ⟨2, 0x80, 0xBF, low % 0x10⟩
  else if byte = 0xF0 then .inr ⟨3, 0x90, 0xBF, 0⟩
  else if byte < 0xF4 then .inr ⟨3, 0x80, 0xBF, low % 0x10⟩
  else if byte = 0xF4 then .inr ⟨3, 0x80, 0x8F, 4⟩
  else .inl none

/-- The mark that stands for bytes that are no character. -/
def replacement : Char := '\ufffd'

/-- The characters of the bytes as UTF-8, with a mark for every run of bytes that begins a
character and does not go on as one. -/
def decodeMarked : Option Pending → List UInt8 → List Char
  | none, [] => []
  | some _, [] => [replacement]
  | none, byte :: rest =>
    match lead byte with
    | .inl c => c.getD replacement :: decodeMarked none rest
    | .inr pending => decodeMarked (some pending) rest
  | some pending, byte :: rest =>
    if pending.low ≤ byte ∧ byte ≤ pending.high then
      let bits := pending.bits * 0x40 + (byte % 0x40).toNat
      if pending.count = 1 then Char.ofNat bits :: decodeMarked none rest
      else decodeMarked (some ⟨pending.count - 1, 0x80, 0xBF, bits⟩) rest
    else
      match lead byte with
      | .inl c => replacement :: c.getD replacement :: decodeMarked none rest
      | .inr pending => replacement :: decodeMarked (some pending) rest

/-! ## Replies -/

/-- The status of a response, its headers, and what follows them. -/
def readHead (bytes : List UInt8) :
    Option (HttpStatus × List (String × String) × List UInt8) := do
  let (line, rest) ← splitLine bytes
  let status ← readStatus line
  let (headers, rest) ← readHeaders rest
  return (status, headers, rest)

/-- The response with a status and the bytes of a body, if they can be told.  No document is read
from bytes that are no text, while the text of a refusal shows marks for them. -/
def ofBody (status : HttpStatus) : Option (List UInt8) → HttpReply
  | none => .broken status
  | some bytes =>
    match String.fromUTF8? (ByteArray.mk bytes.toArray) with
    | some text => .response status text
    | none =>
      if status.isSuccess then .broken status
      else .response status (String.ofList (decodeMarked none bytes))

/-- The reply that the bytes of a connection are. -/
def reply (bytes : List UInt8) : HttpReply :=
  match readHead bytes with
  | none => .lost
  | some (status, headers, rest) =>
    ofBody status (if status.isBodiless then some [] else readBody headers rest)

/-- A response is either read as a whole, or it is known that its body cannot be read. -/
theorem ofBody_cases (status : HttpStatus) (body : Option (List UInt8)) :
    (∃ text, ofBody status body = .response status text) ∨ ofBody status body = .broken status := by
  unfold ofBody
  split
  · exact .inr rfl
  · split
    · exact .inl ⟨_, rfl⟩
    · split
      · exact .inr rfl
      · exact .inl ⟨_, rfl⟩

/-- The connection was lost exactly if no complete head of a response arrived. -/
theorem reply_eq_lost_iff (bytes : List UInt8) : reply bytes = .lost ↔ readHead bytes = none := by
  unfold reply
  cases readHead bytes with
  | none => exact iff_of_true rfl rfl
  | some head =>
    obtain ⟨status, headers, rest⟩ := head
    refine iff_of_false ?_ (by simp)
    rcases ofBody_cases status (if status.isBodiless then some [] else readBody headers rest)
      with ⟨text, same⟩ | same
    · simp [same]
    · simp [same]

/-- Where announced bytes of a body are missing, the response cannot be read, whatever its
status. -/
theorem reply_of_short {bytes rest : List UInt8} {status : HttpStatus}
    {headers : List (String × String)} {announced : String} {length : Nat}
    (head : readHead bytes = some (status, headers, rest))
    (mayHaveBody : status.isBodiless = false)
    (counted : headers.lookup "transfer-encoding" ≠ some "chunked")
    (announces : headers.lookup "content-length" = some announced)
    (read : Numeral.value? 10 announced.toList = some length) (short : rest.length < length) :
    reply bytes = .broken status := by
  have unread : readBody headers rest = none := by
    simp [readBody, counted, announces, read, short]
  simp [reply, head, mayHaveBody, unread, ofBody]

end ChainIdentity.HttpMessage
