import ChainIdentity.Json.Basic
import ChainIdentity.Decimal.Shortest
import ChainIdentity.Text.Quoted

/-!
# Values from documents

A decoder turns a document into a value of a model or says why it cannot.  The plain decoders
are for texts, truth values, bounded integers and sequences; `record` reads a record with named
fields.

A record may be written as an object or as a sequence of its fields in their order.  Members
of an object that belong to no field are ignored, further elements of a sequence are not.  Of
several faults one is reported: in an object the unreadable member with the least name, and
only if every member can be read the first field without one; in a sequence the first bad or
absent element.  `FieldFault.before` is that order, and fields are combined by it rather than by
the order in which they happen to be read.
-/

namespace ChainIdentity

open Text Decimal

/-- Why a document is no value of a model. -/
inductive DecodeError where
  /-- A value of another kind than the expected one. -/
  | kind (found : Json) (expected : String)
  /-- An integer outside its range. -/
  | range (found : Int) (expected : String)
  /-- A text of the right kind that means nothing. -/
  | content (found : String) (expected : String)
  /-- An object that does not have exactly one member where one names a choice. -/
  | choice
  /-- Too few or too many elements. -/
  | length (found : Nat) (expected : String)
  /-- A field without a member. -/
  | missing (field : String)
  /-- A name that is none of the known ones. -/
  | unknown (found : String) (known : List String)
  /-- Any other reason, given in full. -/
  | refused (reason : String)
deriving Repr

namespace DecodeError

/-- How a document is referred to in a message. -/
def describe : Json → String
  | .null => "null"
  | .bool true => "boolean `true`"
  | .bool false => "boolean `false`"
  | .integer value => "integer `" ++ Numeral.signedDecimal value ++ "`"
  | .real value => "floating point `" ++ String.ofList value.render ++ "`"
  | .text value => "string " ++ quoteText value
  | .array _ => "sequence"
  | .object _ => "map"

/-- The wording of a decoding error. -/
def message : DecodeError → String
  | kind found expected => "invalid type: " ++ describe found ++ ", expected " ++ expected
  | range found expected =>
    "invalid value: integer `" ++ Numeral.signedDecimal found ++ "`, expected " ++ expected
  | content found expected =>
    "invalid value: string " ++ quoteText found ++ ", expected " ++ expected
  | choice => "invalid value: map, expected map with a single key"
  | length found expected =>
    "invalid length " ++ Numeral.decimal found ++ ", expected " ++ expected
  | missing field => "missing field `" ++ field ++ "`"
  | unknown found known =>
    "unknown variant `" ++ found ++ "`, expected one of "
      ++ String.intercalate ", " (known.map fun name => "`" ++ name ++ "`")
  | refused reason => reason

end DecodeError

/-- Reads a value from a document. -/
abbrev Decoder (α : Type) := Json → Except DecodeError α

namespace Decoder

/-- A text. -/
def text : Decoder String
  | .text value => .ok value
  | other => .error (.kind other "a string")

/-- A truth value. -/
def bool : Decoder Bool
  | .bool value => .ok value
  | other => .error (.kind other "a boolean")

/-- An integer between two bounds, both allowed. -/
def integer (low high : Int) (expected : String) : Decoder Int
  | .integer value =>
    if low ≤ value ∧ value ≤ high then .ok value else .error (.range value expected)
  | other => .error (.kind other expected)

/-- An unsigned integer of eight bits. -/
def uint8 (json : Json) : Except DecodeError UInt8 :=
  (integer 0 255 "u8" json).map fun n => UInt8.ofNat n.toNat

/-- An unsigned integer of 64 bits. -/
def uint64 (json : Json) : Except DecodeError UInt64 :=
  (integer 0 0xFFFFFFFFFFFFFFFF "u64" json).map fun n => UInt64.ofNat n.toNat

/-- A signed integer of 64 bits. -/
def int64 (json : Json) : Except DecodeError Int64 :=
  (integer (-0x8000000000000000) 0x7FFFFFFFFFFFFFFF "i64" json).map Int64.ofInt

/-- All elements of a list, the first bad one deciding. -/
def each {α : Type} (element : Decoder α) : List Json → Except DecodeError (List α)
  | [] => .ok []
  | json :: rest => do
    let value ← element json
    let values ← each element rest
    return value :: values

/-- A sequence of values. -/
def sequence {α : Type} (element : Decoder α) : Decoder (List α)
  | .array elements => each element elements
  | other => .error (.kind other "a sequence")

end Decoder

/-! ## Records -/

/-- What the fields of a record are read from. -/
inductive Layout where
  /-- Members of an object. -/
  | named (members : List (String × Json))
  /-- Elements of a sequence. -/
  | listed (elements : List Json)

/-- What is wrong with one field of a record. -/
inductive FieldFault where
  /-- Its member cannot be read. -/
  | badMember (name : String) (error : DecodeError)
  /-- There is no member of its name. -/
  | noMember (position : Nat) (name : String)
  /-- Its element cannot be read. -/
  | badElement (position : Nat) (error : DecodeError)
  /-- The sequence ends before it. -/
  | noElement (position : Nat)

namespace FieldFault

/-- Where the fault stands in the order of reporting: bad members by name, then absent members
by position; elements by position. -/
def rank : FieldFault → Nat × String × Nat
  | badMember name _ => (0, name, 0)
  | noMember position _ => (1, "", position)
  | badElement position _ => (0, "", position)
  | noElement position => (0, "", position)

/-- Whether a fault is reported in preference to another one. -/
def before (a b : FieldFault) : Bool :=
  let (phase, name, position) := a.rank
  let (phase', name', position') := b.rank
  if phase ≠ phase' then phase < phase'
  else if name ≠ name' then name < name'
  else position < position'

/-- The decoding error of a faulty field of a record with the given name and size. -/
def error (record : String) (size : Nat) : FieldFault → DecodeError
  | badMember _ error => error
  | noMember _ name => .missing name
  | badElement _ error => error
  | noElement position =>
    .length position ("struct " ++ record ++ " with " ++ Numeral.decimal size
      ++ (if size = 1 then " element" else " elements"))

end FieldFault

/-- Reads some fields of a record. -/
abbrev FieldReader (α : Type) := Layout → Except FieldFault α

namespace FieldReader

/-- Reads the field that has the given name in an object and the given position in a
sequence. -/
def field {α : Type} (position : Nat) (name : String) (decode : Decoder α) : FieldReader α
  | .named members =>
    match Ordered.lookup name members with
    | none => .error (.noMember position name)
    | some json =>
      match decode json with
      | .ok value => .ok value
      | .error error => .error (.badMember name error)
  | .listed elements =>
    match elements[position]? with
    | none => .error (.noElement position)
    | some json =>
      match decode json with
      | .ok value => .ok value
      | .error error => .error (.badElement position error)

/-- No field at all. -/
def always {α : Type} (value : α) : FieldReader α :=
  fun _ => .ok value

/-- Reads two groups of fields; of two faults the earlier one is kept. -/
def also {α β : Type} (f : FieldReader (α → β)) (x : FieldReader α) : FieldReader β :=
  fun layout =>
    match f layout, x layout with
    | .ok build, .ok value => .ok (build value)
    | .error fault, .ok _ => .error fault
    | .ok _, .error fault => .error fault
    | .error fault, .error fault' => .error (if fault'.before fault then fault' else fault)

end FieldReader

/-- Reads a record of the given name and number of fields. -/
def Decoder.record {α : Type} (name : String) (size : Nat) (fields : FieldReader α) : Decoder α
  | .object members => (fields (.named members)).mapError (·.error name size)
  | .array elements =>
    match fields (.listed elements) with
    | .error fault => .error (fault.error name size)
    | .ok value =>
      if elements.length ≤ size then .ok value
      else .error (.length elements.length "fewer elements in array")
  | other => .error (.kind other ("struct " ++ name))

end ChainIdentity
