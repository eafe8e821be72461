import ChainIdentity.Text.Digit

/-!
# Binary floating-point numbers in exact arithmetic

A number with a fraction or an exponent in a document is kept as an IEEE binary64 value.  The
value is its bit pattern, so equality is decidable and nothing depends on floating-point
hardware; every operation rounds an exact quotient of natural numbers to the nearest
representable value, a tie going to the even significand.

`ofDecimal` is the reading rule of the document format: the significand is rounded first and
then multiplied or divided by a rounded power of ten, so the result can differ from the nearest
value of the decimal numeral in the last place.
-/

namespace ChainIdentity.Decimal

/-- A binary64 value, given by its bit pattern. -/
structure Binary64 where
  /-- The sign, the exponent and the significand, from the highest bit down. -/
  bits : UInt64
deriving DecidableEq, Repr

/-- A non-negative finite value `significand * 2 ^ exponent`. -/
structure Magnitude where
  /-- Less than `2 ^ 53`. -/
  significand : Nat
  /-- At least `-1074`. -/
  exponent : Int
deriving DecidableEq, Repr

namespace Magnitude

/-- The number zero. -/
def zero : Magnitude := ⟨0, -1074⟩

/-- The value as a quotient of natural numbers. -/
def ratio (x : Magnitude) : Nat × Nat :=
  (x.significand * Nat.pow 2 x.exponent.toNat, Nat.pow 2 (-x.exponent).toNat)

/-- The quotient rounded to the nearest natural number, a tie going to the even one. -/
def roundQuotient (numerator denominator : Nat) : Nat :=
  let whole := numerator / denominator
  let twice := 2 * (numerator % denominator)
  if twice < denominator then whole
  else if twice = denominator ∧ whole % 2 = 0 then whole
  else whole + 1

/-- The quotient `numerator / denominator / 2 ^ exponent` as a quotient of natural numbers. -/
def scaled (numerator denominator : Nat) (exponent : Int) : Nat × Nat :=
  (numerator * Nat.pow 2 (-exponent).toNat, denominator * Nat.pow 2 exponent.toNat)

/-- The representable value nearest to a quotient; `none` when it is too large. -/
def ofRatio (numerator denominator : Nat) : Option Magnitude :=
  if numerator = 0 then some zero
  else
    let guess : Int := max ((numerator.log2 : Int) - (denominator.log2 : Int) - 52) (-1074)
    let first := scaled numerator denominator guess
    let exponent :=
      if first.1 / first.2 < Nat.pow 2 52 then max (guess - 1) (-1074) else guess
    let quotient := scaled numerator denominator exponent
    let rounded := roundQuotient quotient.1 quotient.2
    let result : Magnitude :=
      if rounded < Nat.pow 2 53 then ⟨rounded, exponent⟩ else ⟨rounded / 2, exponent + 1⟩
    if result.exponent ≤ 971 then some result else none

/-- The rounded product. -/
def mul (x y : Magnitude) : Option Magnitude :=
  ofRatio (x.ratio.1 * y.ratio.1) (x.ratio.2 * y.ratio.2)

/-- The rounded quotient; the divisor is a power of ten here, never zero. -/
def div (x y : Magnitude) : Option Magnitude :=
  ofRatio (x.ratio.1 * y.ratio.2) (x.ratio.2 * y.ratio.1)

/-- The value with the given decimal exponent applied to an already rounded significand.
Exponents beyond 308 have no representable power of ten: a positive one overflows, a negative
one is taken off in steps of 308 until the value is zero or the rest fits. -/
def scaleByTen (x : Magnitude) (exponent : Int) : Option Magnitude :=
  if _near : exponent.natAbs ≤ 308 then do
    let power ← ofRatio (Nat.pow 10 exponent.natAbs) 1
    if 0 ≤ exponent then mul x power else div x power
  else if x.significand = 0 then some x
  else if _positive : 0 ≤ exponent then none
  else do
    let power ← ofRatio (Nat.pow 10 308) 1
    let next ← div x power
    scaleByTen next (exponent + 308)
termination_by exponent.natAbs
decreasing_by omega

end Magnitude

namespace Binary64

/-- The bit pattern of a signed magnitude. -/
def ofMagnitude (negative : Bool) (x : Magnitude) : Binary64 :=
  let sign : Nat := if negative then Nat.pow 2 63 else 0
  let body : Nat :=
    if x.significand < Nat.pow 2 52 then x.significand
    else (x.exponent + 1075).toNat * Nat.pow 2 52 + (x.significand - Nat.pow 2 52)
  ⟨UInt64.ofNat (sign + body)⟩

/-- Whether the sign bit is set. -/
def negative (x : Binary64) : Bool :=
  Nat.pow 2 63 ≤ x.bits.toNat

/-- The value without its sign. -/
def magnitude (x : Binary64) : Magnitude :=
  let body : Nat := x.bits.toNat % Nat.pow 2 63
  let exponent : Nat := body / Nat.pow 2 52
  let fraction : Nat := body % Nat.pow 2 52
  if exponent = 0 then ⟨fraction, -1074⟩ else ⟨fraction + Nat.pow 2 52, (exponent : Int) - 1075⟩

/-- Zero with a sign. -/
def zero (negative : Bool) : Binary64 :=
  ofMagnitude negative Magnitude.zero

/-- The value nearest to a natural number with a sign; every number the format hands in is
below `2 ^ 64` and so in range. -/
def ofNat (negative : Bool) (n : Nat) : Binary64 :=
  ofMagnitude negative ((Magnitude.ofRatio n 1).getD Magnitude.zero)

/-- The value read from a significand and a decimal exponent; `none` when it is too large. -/
def ofDecimal (negative : Bool) (significand : Nat) (exponent : Int) : Option Binary64 := do
  let x ← Magnitude.ofRatio significand 1
  return ofMagnitude negative (← x.scaleByTen exponent)

end Binary64

end ChainIdentity.Decimal
