import ChainIdentity.Json.Decode

/-!
# Operations and their outcomes

Every balance change is reported as one of eleven kinds of operation with one of two outcomes.
A kind is known by its wire tag, a fixed upper-case word; tags are matched exactly, and a text
that is no tag is never taken for the nearest one.

The order of the constructors is the order in which the kinds are advertised.
-/

namespace ChainIdentity

/-- A kind of operation. -/
inductive Operation where
  /-- Block reward of the miner. -/
  | minerReward
  /-- Reward of the miner of an included uncle. -/
  | uncleReward
  /-- Transaction fee paid by the sender. -/
  | fee
  /-- Plain call. -/
  | call
  /-- Deployment of a contract. -/
  | create
  /-- Deployment at a predetermined address. -/
  | create2
  /-- Removal of a contract by itself. -/
  | selfDestruct
  /-- Call that runs foreign code on the caller's storage. -/
  | callCode
  /-- Call that also keeps the caller's sender and value. -/
  | delegateCall
  /-- Call that may not change anything. -/
  | staticCall
  /-- Removal of the funds left on a removed contract; never reported by a node itself. -/
  | destruct
deriving DecidableEq, Repr

namespace Operation

/-- How an operation affects balances. -/
inductive Family where
  /-- Calls that may move value. -/
  | call
  /-- Deployments. -/
  | create
  /-- Rewards of miners. -/
  | reward
  /-- Fees. -/
  | fee
  /-- Removals of contracts. -/
  | selfDestruct
  /-- Clearing of left-over funds. -/
  | destruct
deriving DecidableEq, Repr

/-- All kinds in advertised order. -/
def all : List Operation :=
  [minerReward, uncleReward, fee, call, create, create2, selfDestruct, callCode, delegateCall,
    staticCall, destruct]

/-- The wire tag. -/
def tag : Operation → String
  | minerReward => "MINER_REWARD"
  | uncleReward => "UNCLE_REWARD"
  | fee => "FEE"
  | call => "CALL"
  | create => "CREATE"
  | create2 => "CREATE2"
  | selfDestruct => "SELFDESTRUCT"
  | callCode => "CALLCODE"
  | delegateCall => "DELEGATECALL"
  | staticCall => "STATICCALL"
  | destruct => "DESTRUCT"

/-- An operation is shown as its wire tag. -/
instance : ToString Operation := ⟨tag⟩

/-- The tags in advertised order. -/
def tags : List String :=
  all.map tag

/-- The kind with the given tag. -/
def ofTag? : String → Option Operation
  | "MINER_REWARD" => some minerReward
  | "UNCLE_REWARD" => some uncleReward
  | "FEE" => some fee
  | "CALL" => some call
  | "CREATE" => some create
  | "CREATE2" => some create2
  | "SELFDESTRUCT" => some selfDestruct
  | "CALLCODE" => some callCode
  | "DELEGATECALL" => some delegateCall
  | "STATICCALL" => some staticCall
  | "DESTRUCT" => some destruct
  | _ => none

/-- The place in the advertised order. -/
def position : Operation → Nat
  | minerReward => 0
  | uncleReward => 1
  | fee => 2
  | call => 3
  | create => 4
  | create2 => 5
  | selfDestruct => 6
  | callCode => 7
  | delegateCall => 8
  | staticCall => 9
  | destruct => 10

/-- Comparison by the advertised order. -/
def order (a b : Operation) : Ordering :=
  compare a.position b.position

/-- The family of a kind. -/
def family : Operation → Family
  | minerReward | uncleReward => .reward
  | fee => .fee
  | call | callCode | delegateCall | staticCall => .call
  | create | create2 => .create
  | selfDestruct => .selfDestruct
  | destruct => .destruct

/-- Whether the kind is a call. -/
def isCall (operation : Operation) : Bool :=
  operation.family == .call

/-- Whether the kind is a deployment. -/
def isCreate (operation : Operation) : Bool :=
  operation.family == .create

/-- Whether a text is the tag of a call. -/
def isCallTag (text : String) : Bool :=
  (ofTag? text).any isCall

/-- Whether a text is the tag of a deployment. -/
def isCreateTag (text : String) : Bool :=
  (ofTag? text).any isCreate

/-- The wording for a text that is no tag. -/
def unrecognized (text : String) : String :=
  "unrecognized operation type: " ++ text

/-- The document of a kind. -/
def toJson (operation : Operation) : Json :=
  .text operation.tag

/-- Reads a kind from a document. -/
def decode (json : Json) : Except DecodeError Operation := do
  let text ← Decoder.text json
  match ofTag? text with
  | some operation => return operation
  | none => throw (.refused (unrecognized text))

end Operation

/-- Whether an operation took effect. -/
inductive Outcome where
  /-- It did. -/
  | success
  /-- It did not. -/
  | failure
deriving DecidableEq, Repr

/-- An outcome as advertised: its label, and whether it counts as successful. -/
structure OperationStatus where
  /-- The label. -/
  status : String
  /-- Whether operations with this label took effect. -/
  successful : Bool
deriving DecidableEq, Repr

namespace Outcome

/-- Both outcomes, success first. -/
def all : List Outcome := [success, failure]

/-- The label of an outcome. -/
def label : Outcome → String
  | success => "SUCCESS"
  | failure => "FAILURE"

/-- Whether the outcome is a success. -/
def isSuccess : Outcome → Bool
  | success => true
  | failure => false

/-- The outcome with exactly the given label. -/
def ofLabel? : String → Option Outcome
  | "SUCCESS" => some success
  | "FAILURE" => some failure
  | _ => none

/-- The advertised form. -/
def status (outcome : Outcome) : OperationStatus :=
  ⟨outcome.label, outcome.isSuccess⟩

end Outcome

namespace OperationStatus

/-- The advertised statuses, success first. -/
def all : List OperationStatus :=
  Outcome.all.map Outcome.status

/-- The record of a status. -/
def write (build : Json.Builder) (s : OperationStatus) : Json :=
  build [("status", .text s.status), ("successful", .bool s.successful)]

/-- The document of a status. -/
def toJson : OperationStatus → Json := write .ofMembers

/-- Reads a status from a document. -/
def decode : Decoder OperationStatus :=
  Decoder.record "OperationStatus" 2 <|
    .also (.also (.always mk) (.field 0 "status" Decoder.text))
      (.field 1 "successful" Decoder.bool)

end OperationStatus

end ChainIdentity
