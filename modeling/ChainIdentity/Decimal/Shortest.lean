import ChainIdentity.Decimal.Binary64
import ChainIdentity.Text.Numeral

/-!
# The shortest decimal that reads back

A binary64 value is written with the fewest significant digits that still identify it, and
among numerals of that length with the one nearest to the value.  The search is exact: the
numerals that round to the value are those in an interval around it, whose ends belong to it
when the significand is even, and for each digit count only the two neighbours of the value on
that decimal grid can lie nearest.

`render` fixes the notation: positional between `10 ^ -5` and `10 ^ 16`, always with a point,
otherwise one digit, a fraction if there is one, and the exponent.
-/

namespace ChainIdentity.Decimal

open ChainIdentity.Text

/-- A positive decimal `digits * 10 ^ exponent`. -/
structure Numeral10 where
  /-- The significant digits as a number. -/
  digits : Nat
  /-- The power of ten of the last digit. -/
  exponent : Int
deriving DecidableEq, Repr

/-- The number of decimal digits; none for zero. -/
def digitCount (n : Nat) : Nat :=
  (Numeral.reversedDigits 10 n).length

/-- The number `p` with `10 ^ (p - 1) ≤ numerator / denominator < 10 ^ p`. -/
def pointPosition (numerator denominator : Nat) : Int :=
  if denominator ≤ numerator then digitCount (numerator / denominator)
  else
    let ceiling := (denominator + numerator - 1) / numerator
    1 - (digitCount (ceiling - 1) : Int)

/-- The interval of the quotients that round to a value, over one denominator. -/
structure Interval where
  /-- Lower end. -/
  low : Nat
  /-- The value itself. -/
  value : Nat
  /-- Upper end. -/
  high : Nat
  /-- What all three are divided by. -/
  denominator : Nat
  /-- Whether the ends round to the value too. -/
  closed : Bool

/-- The interval around a positive value.  Below a power of two the neighbouring value is only
half as far away. -/
def Magnitude.interval (x : Magnitude) : Interval :=
  let unit := Nat.pow 2 x.exponent.toNat
  let halfGapBelow := if x.significand = Nat.pow 2 52 ∧ x.exponent > -1074 then unit else 2 * unit
  { low := 4 * x.significand * unit - halfGapBelow
    value := 4 * x.significand * unit
    high := 4 * x.significand * unit + 2 * unit
    denominator := 4 * Nat.pow 2 (-x.exponent).toNat
    closed := x.significand % 2 = 0 }

/-- Whether the decimal `digits * 10 ^ exponent` lies in the interval. -/
def Interval.holds (i : Interval) (digits : Nat) (exponent : Int) : Bool :=
  let point := digits * Nat.pow 10 exponent.toNat * i.denominator
  let shift := Nat.pow 10 (-exponent).toNat
  if i.closed then i.low * shift ≤ point && point ≤ i.high * shift
  else i.low * shift < point && point < i.high * shift

/-- The member of the interval with at most `count` digits that is nearest to its value, if
there is one; of two equally near ones the even one. -/
def Interval.nearest? (i : Interval) (count : Nat) : Option Numeral10 :=
  let exponent := pointPosition i.value i.denominator - count
  let scaledValue := i.value * Nat.pow 10 (-exponent).toNat
  let scaledUnit := i.denominator * Nat.pow 10 exponent.toNat
  let below := scaledValue / scaledUnit
  let twice := 2 * (scaledValue % scaledUnit)
  let lowerFits := i.holds below exponent
  let upperFits := i.holds (below + 1) exponent
  let preferLower := twice < scaledUnit || (twice == scaledUnit && below % 2 == 0)
  if lowerFits && (preferLower || !upperFits) then some ⟨below, exponent⟩
  else if upperFits then some ⟨below + 1, exponent⟩
  else none

/-- The first hit from `count` digits on; seventeen digits always suffice, and the bound on
the number of attempts only makes the search total. -/
def Interval.shortestFrom (i : Interval) : Nat → Nat → Numeral10
  | 0, count => ⟨i.value / i.denominator, count⟩
  | attempts + 1, count =>
    match i.nearest? count with
    | some numeral => numeral
    | none => i.shortestFrom attempts (count + 1)

/-- The numeral without zeros at its end. -/
def Numeral10.trimmed (n : Numeral10) : Numeral10 :=
  let digits := Numeral.reversedDigits 10 n.digits
  let zeros := (digits.takeWhile (· == 0)).length
  ⟨n.digits / Nat.pow 10 zeros, n.exponent + zeros⟩

/-- The shortest numeral of a positive value. -/
def Magnitude.shortest (x : Magnitude) : Numeral10 :=
  (x.interval.shortestFrom 17 1).trimmed

/-- The notation of a positive numeral. -/
def Numeral10.render (n : Numeral10) : List Char :=
  let digits := Numeral.write 10 n.digits
  let count := digits.length
  let position := (count : Int) + n.exponent
  if 0 ≤ n.exponent ∧ position ≤ 16 then
    digits ++ List.replicate n.exponent.toNat '0' ++ ['.', '0']
  else if 0 < position ∧ position ≤ 16 then
    digits.take position.toNat ++ '.' :: digits.drop position.toNat
  else if -5 < position ∧ position ≤ 0 then
    ['0', '.'] ++ List.replicate (-position).toNat '0' ++ digits
  else
    let mantissa :=
      match digits with
      | first :: second :: rest => first :: '.' :: second :: rest
      | _ => digits
    mantissa ++ 'e' :: (Numeral.signedDecimal (position - 1)).toList

/-- The text of a value. -/
def Binary64.render (x : Binary64) : List Char :=
  let sign := if x.negative then ['-'] else []
  if x.magnitude.significand = 0 then sign ++ ['0', '.', '0']
  else sign ++ x.magnitude.shortest.render

end ChainIdentity.Decimal
