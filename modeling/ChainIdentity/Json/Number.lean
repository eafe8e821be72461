import ChainIdentity.Json.Basic
import ChainIdentity.Text.Digit

/-!
# Reading numbers

A number starts with a digit or a minus sign and has no leading zeros.  Its digits are
collected in a significand of at most 64 bits; digits that no longer fit are dropped, those in
front of the point still counting for the exponent.  Without point, exponent and overflow the
number is an integer.

The one exception is a negative number whose magnitude does not fit the signed 64-bit range,
minus zero included: it is a fractional number.
-/

namespace ChainIdentity.Json.Number

open ChainIdentity.Decimal ChainIdentity.Text

/-- The largest significand. -/
def significandLimit : Nat := 0xFFFFFFFFFFFFFFFF

/-- The largest absolute value of a written exponent. -/
def exponentLimit : Int := 0x7FFFFFFF

/-- The smallest exponent. -/
def exponentFloor : Int := -0x80000000

/-- Digits read into a bounded number. -/
structure Run where
  /-- The digits that fitted, as a number. -/
  value : Nat
  /-- How many digits fitted. -/
  count : Nat
  /-- Whether the next character is a digit that does not fit. -/
  full : Bool
  /-- What follows. -/
  rest : List Char

/-- Reads decimal digits as long as the number stays at or below `limit`. -/
def run (limit value count : Nat) : List Char → Run
  | [] => ⟨value, count, false, []⟩
  | c :: rest =>
    match Digit.below? 10 c with
    | none => ⟨value, count, false, c :: rest⟩
    | some d =>
      if value * 10 + d ≤ limit then run limit (value * 10 + d) (count + 1) rest
      else ⟨value, count, true, c :: rest⟩

/-- Whether a character is a decimal digit. -/
def isDigit (c : Char) : Bool :=
  '0' ≤ c && c ≤ '9'

/-- The fractional number of a significand and an exponent, with what follows it. -/
def fraction (negative : Bool) (significand : Nat) (exponent : Int) (rest : List Char) :
    Option (Json × List Char) := do
  let value ← Binary64.ofDecimal negative significand exponent
  return (.real value, rest)

/-- Reads the exponent after its mark and finishes the number.  An exponent outside the
signed 32-bit range makes the number zero when it is negative or there is nothing to scale. -/
def afterMark (negative : Bool) (significand : Nat) (exponent : Int) (cs : List Char) :
    Option (Json × List Char) :=
  let (below, digits) : Bool × List Char :=
    match cs with
    | '+' :: rest => (false, rest)
    | '-' :: rest => (true, rest)
    | _ => (false, cs)
  let read := run exponentLimit.toNat 0 0 digits
  if read.count = 0 then none
  else if read.full then
    if significand ≠ 0 ∧ !below then none
    else some (.real (Binary64.zero negative), read.rest.dropWhile isDigit)
  else
    let written : Int := if below then -read.value else read.value
    let total := max exponentFloor (min exponentLimit (exponent + written))
    fraction negative significand total read.rest

/-- Reads an exponent if there is one and finishes the number. -/
def afterDigits (negative : Bool) (significand : Nat) (exponent : Int) (cs : List Char) :
    Option (Json × List Char) :=
  match cs with
  | 'e' :: rest => afterMark negative significand exponent rest
  | 'E' :: rest => afterMark negative significand exponent rest
  | _ => fraction negative significand exponent cs

/-- Reads the digits after the point; there has to be one. -/
def afterPoint (negative : Bool) (significand : Nat) (exponent : Int) (cs : List Char) :
    Option (Json × List Char) :=
  let read := run significandLimit significand 0 cs
  if read.full then
    afterDigits negative read.value (exponent - read.count) (read.rest.dropWhile isDigit)
  else if read.count = 0 then none
  else afterDigits negative read.value (exponent - read.count) read.rest

/-- The number whose integer part fitted. -/
def afterInteger (negative : Bool) (significand : Nat) (cs : List Char) :
    Option (Json × List Char) :=
  match cs with
  | '.' :: rest => afterPoint negative significand 0 rest
  | 'e' :: rest => afterMark negative significand 0 rest
  | 'E' :: rest => afterMark negative significand 0 rest
  | _ =>
    if !negative then some (.integer significand, cs)
    else if 0 < significand ∧ significand ≤ 0x8000000000000000 then
      some (.integer (-significand), cs)
    else some (.real (Binary64.ofNat true significand), cs)

/-- The number whose integer part has digits that did not fit. -/
def afterLongInteger (negative : Bool) (significand : Nat) (cs : List Char) :
    Option (Json × List Char) :=
  let dropped := (cs.takeWhile isDigit).length
  match cs.dropWhile isDigit with
  | '.' :: rest => afterPoint negative significand dropped rest
  | rest => afterDigits negative significand dropped rest

/-- Reads an unsigned number and gives it the sign that was read before. -/
def readUnsigned (negative : Bool) (cs : List Char) : Option (Json × List Char) :=
  match cs with
  | '0' :: rest =>
    if (rest.head?.map isDigit).getD false then none else afterInteger negative 0 rest
  | _ =>
    let read := run significandLimit 0 0 cs
    if read.count = 0 then none
    else if read.full then afterLongInteger negative read.value read.rest
    else afterInteger negative read.value read.rest

/-- Reads a number from the front of the text. -/
def read : List Char → Option (Json × List Char)
  | '-' :: rest => readUnsigned true rest
  | cs => readUnsigned false cs

end ChainIdentity.Json.Number
