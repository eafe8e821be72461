import ChainIdentity.Text.Digit

/-!
# Numerals

Numerals are lists of characters: the readers of this library all work on lists, and so do the
laws about them.  `write` gives the numeral without leading zeros; `value?` reads any
non-empty run of digits at its exact value.

Numbers that come from the outside (a port, a size limit, a block number) are read into a
range.  The reader goes from left to right and stops at the first thing that is wrong, so a
character that is no digit is reported even when the digits before it are already too large
only if it stands before the digit that leaves the range.

A plus sign in front is accepted; a minus sign only by the signed reader.
-/

namespace ChainIdentity.Text

/-- What can be wrong with a numeral that has to fit a range. -/
inductive NumeralError where
  /-- There is no character at all. -/
  | empty
  /-- A character is no digit of the radix, or a sign stands alone. -/
  | invalidDigit
  /-- The digits leave the range. -/
  | tooLarge
deriving DecidableEq, Repr

/-- The wording of a numeral error. -/
def NumeralError.message : NumeralError → String
  | .empty => "cannot parse integer from empty string"
  | .invalidDigit => "invalid digit found in string"
  | .tooLarge => "number too large to fit in target type"

namespace Numeral

/-! ## Exact numerals -/

/-- The digits of `n`, least significant first; a radix below two is read as two, which keeps
the recursion total without a hypothesis. -/
def reversedDigits (radix n : Nat) : List Nat :=
  if h : n = 0 then []
  else
    have : n / (max radix 2) < n := Nat.div_lt_self (by omega) (by omega)
    n % (max radix 2) :: reversedDigits radix (n / (max radix 2))
termination_by n

/-- The numeral of `n` without leading zeros; zero is the single digit `0`. -/
def write (radix n : Nat) : List Char :=
  if n = 0 then ['0'] else (reversedDigits radix n).reverse.map Digit.ofNat

/-- The numeral of `n` as text. -/
def text (radix n : Nat) : String :=
  String.ofList (write radix n)

/-- The decimal text of a natural number. -/
def decimal (n : Nat) : String :=
  text 10 n

/-- The decimal text of an integer: a minus sign in front of a negative one, no plus sign. -/
def signedDecimal (n : Int) : String :=
  match n with
  | .ofNat k => decimal k
  | .negSucc k => "-" ++ decimal (k + 1)

/-- Reads digits on from the value read so far. -/
def foldDigits? (radix : Nat) : Nat → List Char → Option Nat
  | read, [] => some read
  | read, c :: rest =>
    match Digit.below? radix c with
    | some d => foldDigits? radix (read * radix + d) rest
    | none => none

/-- The value of a non-empty run of digits. -/
def value? (radix : Nat) : List Char → Option Nat
  | [] => none
  | cs => foldDigits? radix 0 cs

/-- The text of `n` padded with zeros on the left to at least `width` digits. -/
def padded (radix width n : Nat) : List Char :=
  let digits := write radix n
  List.replicate (width - digits.length) '0' ++ digits

/-! ## Numerals within a range -/

/-- Reads digits on from the value read so far, keeping every intermediate value at most
`limit`. -/
def foldBounded (radix limit : Nat) : Nat → List Char → Except NumeralError Nat
  | read, [] => .ok read
  | read, c :: rest =>
    match Digit.below? radix c with
    | none => .error .invalidDigit
    | some d =>
      let next := read * radix + d
      if next ≤ limit then foldBounded radix limit next rest else .error .tooLarge

/-- The digits of a numeral after its sign; at least one is needed. -/
def readDigits (radix limit : Nat) : List Char → Except NumeralError Nat
  | [] => .error .invalidDigit
  | cs => foldBounded radix limit 0 cs

/-- Reads an unsigned numeral of at most `limit`; one plus sign may stand in front. -/
def readUnsigned (radix limit : Nat) : List Char → Except NumeralError Nat
  | [] => .error .empty
  | '+' :: rest => readDigits radix limit rest
  | cs => readDigits radix limit cs

/-- Reads a numeral between `-(limit + 1)` and `limit`; one sign may stand in front. -/
def readSigned (radix limit : Nat) : List Char → Except NumeralError Int
  | [] => .error .empty
  | '+' :: rest => (readDigits radix limit rest).map Int.ofNat
  | '-' :: rest => (readDigits radix (limit + 1) rest).map fun n => - Int.ofNat n
  | cs => (readDigits radix limit cs).map Int.ofNat

end Numeral

end ChainIdentity.Text
