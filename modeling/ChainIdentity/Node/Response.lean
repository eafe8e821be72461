import ChainIdentity.BlockId
import ChainIdentity.Fault.Transport
import ChainIdentity.Json.Printer
import ChainIdentity.Quantity

/-!
# What a node answers

Three readings of a node's answer, each a plain decision: `Response.result` separates the result
from a reported error, `BlockId.ofNode` takes the identifier out of a block, and
`Quantity.ofNode` reads a hexadecimal quantity.  Every way in which a reading can fail is a
constructor of its fault type, and the fault's note becomes an error of the transport.
-/

namespace ChainIdentity

open Text

/-- The query for a block. -/
def blockMethod : String := "eth_getBlockByNumber"

/-- The query for the chain id. -/
def chainIdMethod : String := "eth_chainId"

/-- A note about a method. -/
def Note.ofMethod (method message : String) : Note :=
  .about message [("method", method)]

/-! ## Results and reported errors -/

/-- Why an answer holds no result. -/
inductive ResponseFault where
  /-- The node reports an error. -/
  | reported (code : Int64) (message : String)
  /-- There is neither an error nor a result. -/
  | noResult
deriving DecidableEq, Repr

namespace Response

/-- The error that an answer reports: a member of that name which is not null. -/
def error? (response : Json) : Option Json :=
  (response.member? "error").filter (!·.isNull)

/-- The code of a reported error; zero where there is none in range. -/
def code (error : Json) : Int64 :=
  ((error.member? "code").bind Json.signed?).getD 0

/-- The message of a reported error. -/
def message (error : Json) : String :=
  ((error.member? "message").bind Json.text?).getD "unknown error"

/-- The result that an answer holds.  An error takes precedence over it. -/
def result (response : Json) : Except ResponseFault Json :=
  match error? response with
  | some error => .error (.reported (code error) (message error))
  | none =>
    match response.member? "result" with
    | some value => .ok value
    | none => .error .noResult

/-- An answer that holds the given result. -/
def ofResult (id : UInt64) (value : Json) : Json :=
  .ofMembers [("jsonrpc", .text "2.0"), ("id", .integer id.toNat), ("result", value)]

end Response

/-- The error for an answer to a method without a result. -/
def ResponseFault.toError (method : String) : ResponseFault → Journaled TransportError
  | reported code message => TransportError.rpc code (.ofMethod method message)
  | noResult => TransportError.unreadable (.ofMethod method "missing 'result' field") none

/-- A computation that may fail with an error of the transport. -/
abbrev Trip (α : Type) := ExceptT TransportError Journaled α

/-- The result that an answer to a method holds. -/
def Response.decode (method : String) (response : Json) : Trip Json := do
  match result response with
  | .ok value => return value
  | .error fault => throw (← fault.toError method)

/-! ## Blocks -/

/-- Why an answer holds no block identifier. -/
inductive BlockFault where
  /-- The answer is null. -/
  | noBlock
  /-- There is no text that is the hash. -/
  | noHash
  /-- The hash cannot be read. -/
  | badHash (text : String) (error : HashError)
  /-- There is no text that is the number. -/
  | noNumber
  /-- The number cannot be read. -/
  | badNumber (text : String)
deriving DecidableEq, Repr

/-- The wording of a block fault. -/
def BlockFault.message : BlockFault → String
  | noBlock => "node returned no block"
  | noHash => "block has no hash"
  | badHash text error => "invalid block hash " ++ text ++ ": " ++ error.message
  | noNumber => "block has no number"
  | badNumber text => "invalid block number " ++ text

/-- The number of a block: hexadecimal digits behind a marker, in the signed 64-bit range. -/
def readBlockNumber (text : String) : Option Int64 :=
  match text.toList with
  | '0' :: 'x' :: digits =>
    match Numeral.readSigned 16 0x7FFFFFFFFFFFFFFF digits with
    | .ok n => some (Int64.ofInt n)
    | .error _ => none
  | _ => none

/-- The identifier of the block that an answer holds. -/
def BlockId.ofNode (block : Json) : Except BlockFault BlockId := do
  if block.isNull then throw .noBlock
  let hashText ← match (block.member? "hash").bind Json.text? with
    | some text => pure text
    | none => throw .noHash
  let hash ← match BlockHash.read hashText with
    | .ok hash => pure hash
    | .error error => throw (.badHash hashText error)
  let numberText ← match (block.member? "number").bind Json.text? with
    | some text => pure text
    | none => throw .noNumber
  match readBlockNumber numberText with
  | some index => return ⟨index, hash⟩
  | none => throw (.badNumber numberText)

/-- The identifier of the block that the answer to the query for one holds. -/
def BlockId.parse (block : Json) : Trip BlockId := do
  match BlockId.ofNode block with
  | .ok id => return id
  | .error fault => throw (← TransportError.unreadable (.ofMethod blockMethod fault.message) none)

/-! ## Quantities -/

/-- Why an answer holds no quantity. -/
inductive QuantityFault where
  /-- The answer is no text. -/
  | noText (value : Json)
  /-- The text does not start with the marker of hexadecimal digits. -/
  | noMarker (text : String)
  /-- The digits cannot be read. -/
  | badDigits (text : String) (error : QuantityError)
deriving Repr

/-- The wording of a quantity fault. -/
def QuantityFault.message : QuantityFault → String
  | noText value => "expected a hex quantity, got " ++ value.compact
  | noMarker text => "quantity " ++ text ++ " is not 0x-prefixed"
  | badDigits text error => "invalid quantity " ++ text ++ ": " ++ error.message

/-- The quantity that an answer holds. -/
def Quantity.ofNode (value : Json) : Except QuantityFault Quantity :=
  match value with
  | .text text =>
    match text.toList with
    | '0' :: 'x' :: digits =>
      match Quantity.ofDigits 16 digits with
      | .ok q => .ok q
      | .error error => .error (.badDigits text error)
    | _ => .error (.noMarker text)
  | other => .error (.noText other)

/-- The quantity that the answer to a method holds. -/
def Quantity.parse (method : String) (value : Json) : Trip Quantity := do
  match Quantity.ofNode value with
  | .ok q => return q
  | .error fault => throw (← TransportError.unreadable (.ofMethod method fault.message) none)

end ChainIdentity
