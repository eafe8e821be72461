import ChainIdentity.Decimal.Binary64
import ChainIdentity.Ordered

/-!
# Documents

A document is a tree of the six usual kinds of value.  Integers and fractional numbers are
kept apart, because whether a number was written as an integer decides where it may be used;
the reader produces integers only between `-2 ^ 63` and `2 ^ 64 - 1`.

The members of an object are a keyed list in key order (`ChainIdentity.Ordered`): every reader
and builder here enters members one by one, so an object has one representation and the last
of several members of one name is the one that counts.  `WellFormed` says this of a whole
document.
-/

namespace ChainIdentity

open Decimal

/-- A document. -/
inductive Json where
  /-- The null value. -/
  | null
  /-- A truth value. -/
  | bool (value : Bool)
  /-- A number written without fraction and exponent. -/
  | integer (value : Int)
  /-- Any other number. -/
  | real (value : Binary64)
  /-- A text. -/
  | text (value : String)
  /-- A sequence of documents. -/
  | array (elements : List Json)
  /-- Named documents in key order. -/
  | object (members : List (String × Json))
deriving Repr

namespace Json

instance : Inhabited Json := ⟨.null⟩

/-- How the members of a record are put together.  Documents that are compared or sent have
them in key order (`ofMembers`); a listing for a reader keeps the order of the fields
(`Json.object` itself). -/
abbrev Builder := List (String × Json) → Json

/-- An object with the given members; the last of several of one name stays. -/
def ofMembers : Builder := fun members =>
  .object (Ordered.ofList members)

/-- Whether the document is the null value. -/
def isNull : Json → Bool
  | .null => true
  | _ => false

/-- The member of an object with the given name; other documents have none. -/
def member? (name : String) : Json → Option Json
  | .object members => Ordered.lookup name members
  | _ => none

/-- The text that the document is. -/
def text? : Json → Option String
  | .text value => some value
  | _ => none

/-- The integer that the document is, if it lies in the signed 64-bit range. -/
def signed? : Json → Option Int64
  | .integer value =>
    if -0x8000000000000000 ≤ value ∧ value < 0x8000000000000000 then some (Int64.ofInt value)
    else none
  | _ => none

/-- The natural number that the document is, if it has at most 64 bits. -/
def unsigned? : Json → Option UInt64
  | .integer value =>
    if 0 ≤ value ∧ value < 0x10000000000000000 then some (UInt64.ofNat value.toNat) else none
  | _ => none

mutual

/-- The members of every object are in key order. -/
def WellFormed : Json → Prop
  | .array elements => allWellFormed elements
  | .object members => Ordered.Sorted members ∧ membersWellFormed members
  | _ => True

/-- `WellFormed` for all elements. -/
def allWellFormed : List Json → Prop
  | [] => True
  | element :: rest => WellFormed element ∧ allWellFormed rest

/-- `WellFormed` for all members. -/
def membersWellFormed : List (String × Json) → Prop
  | [] => True
  | (_, value) :: rest => WellFormed value ∧ membersWellFormed rest

end

end Json

end ChainIdentity
