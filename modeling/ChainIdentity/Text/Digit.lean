/-!
# Digits

A digit is worth nothing before its radix is known, so the one table here gives every ASCII
digit and letter the value it would have in radix 36 and leaves the comparison with the radix
to the reader.
-/

namespace ChainIdentity.Text.Digit

/-- The value of an ASCII digit or letter, letters of both cases counting on from ten. -/
def value? (c : Char) : Option Nat :=
  if '0' ≤ c ∧ c ≤ '9' then some (c.toNat - '0'.toNat)
  else if 'a' ≤ c ∧ c ≤ 'z' then some (c.toNat - 'a'.toNat + 10)
  else if 'A' ≤ c ∧ c ≤ 'Z' then some (c.toNat - 'A'.toNat + 10)
  else none

/-- The value of a character that is a digit of the given radix. -/
def below? (radix : Nat) (c : Char) : Option Nat :=
  (value? c).filter (· < radix)

/-- The digit of a value below 36; letters are lower case. -/
def ofNat (d : Nat) : Char :=
  if d < 10 then Char.ofNat ('0'.toNat + d) else Char.ofNat ('a'.toNat + (d - 10))

end ChainIdentity.Text.Digit
