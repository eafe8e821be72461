import ChainIdentity.Json.Decode

/-!
# Quantities

Chain ids and similar numbers are words of 256 bits.  In text they are read digit by digit from
the left, and the first thing wrong is what is reported: a letter that is no digit of the
radix, another character, or the digit with which the value leaves the range.  Underscores
between digits mean nothing, and no digit at all is zero.

`render` writes the shortest hexadecimal form and `decode` reads it back, next to the other
ways to write such a number in a document.
-/

namespace ChainIdentity

open Text

/-- A number of 256 bits. -/
abbrev Quantity := BitVec 256

/-- Why a text is no quantity. -/
inductive QuantityError where
  /-- A digit of some radix, but not of this one. -/
  | digitRange (digit radix : Nat)
  /-- A character that is no digit of any radix. -/
  | badDigit (character : Char)
  /-- The value does not fit 256 bits. -/
  | tooLarge
deriving DecidableEq, Repr

/-- The wording of a quantity error. -/
def QuantityError.message : QuantityError → String
  | .digitRange digit radix =>
    "digit " ++ Numeral.decimal digit ++ " is out of range for base " ++ Numeral.decimal radix
  | .badDigit character => "invalid digit: " ++ String.singleton character
  | .tooLarge => "the value is too large to fit the target type"

namespace Quantity

/-- Reads digits on from the value read so far. -/
def foldDigits (radix : Nat) : Nat → List Char → Except QuantityError Nat
  | read, [] => .ok read
  | read, c :: rest =>
    match Digit.value? c with
    | none => if c = '_' then foldDigits radix read rest else .error (.badDigit c)
    | some d =>
      if radix ≤ d then .error (.digitRange d radix)
      else if read * radix + d < Nat.pow 2 256 then foldDigits radix (read * radix + d) rest
      else .error .tooLarge

/-- Reads a quantity in the given radix. -/
def ofDigits (radix : Nat) (cs : List Char) : Except QuantityError Quantity :=
  (foldDigits radix 0 cs).map (BitVec.ofNat 256)

/-- Reads a quantity whose first two characters may name its radix; it is decimal otherwise. -/
def read (s : String) : Except QuantityError Quantity :=
  match s.toList with
  | '0' :: 'x' :: digits => ofDigits 16 digits
  | '0' :: 'X' :: digits => ofDigits 16 digits
  | '0' :: 'o' :: digits => ofDigits 8 digits
  | '0' :: 'O' :: digits => ofDigits 8 digits
  | '0' :: 'b' :: digits => ofDigits 2 digits
  | '0' :: 'B' :: digits => ofDigits 2 digits
  | digits => ofDigits 10 digits

/-- The decimal text. -/
def decimal (q : Quantity) : String :=
  Numeral.decimal q.toNat

/-- The shortest hexadecimal text, with its marker. -/
def render (q : Quantity) : String :=
  String.ofList ('0' :: 'x' :: Numeral.write 16 q.toNat)

/-- The document of a quantity. -/
def toJson (q : Quantity) : Json :=
  .text q.render

/-- What a document that stands for a quantity should have been. -/
def expectation : String := "a 32 byte hex string"

/-- Reads a quantity from a text or from a natural number. -/
def decode : Decoder Quantity
  | .text value =>
    match read value with
    | .ok q => .ok q
    | .error _ => .error (.content value expectation)
  | .integer value =>
    if 0 ≤ value then .ok (BitVec.ofNat 256 value.toNat)
    else .error (.kind (.integer value) expectation)
  | other => .error (.kind other expectation)

end Quantity

end ChainIdentity
