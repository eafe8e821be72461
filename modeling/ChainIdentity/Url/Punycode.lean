import ChainIdentity.Text.Digit

/-!
# Labels outside ASCII

A label of a domain name with characters outside ASCII is written in ASCII: first its ASCII
characters, then, after a hyphen, the positions and values of the others in increasing order of
value, as differences in a mixed-radix notation whose digits adapt to the sizes met so far.

`encode` writes the notation and `decode?` reads it.  Both end without fuel: the encoder uses
up the characters that are left to place, the decoder its input.
-/

namespace ChainIdentity.Url.Punycode

open ChainIdentity.Text

/-- The digit of a value below 36: letters first, then numerals. -/
def digit (d : Nat) : Char :=
  if d < 26 then Char.ofNat ('a'.toNat + d) else Char.ofNat ('0'.toNat + (d - 26))

/-- The value of a digit. -/
def digitValue? (c : Char) : Option Nat :=
  (Digit.value? c).map fun d => if d < 10 then d + 26 else d - 10

/-- The greatest digit that ends a number at a place: between 1 and 26. -/
def threshold (place bias : Nat) : Nat :=
  if place ≤ bias then 1 else min 26 (place - bias)

/-- At every place some digit ends a number. -/
theorem threshold_pos (place bias : Nat) : 1 ≤ threshold place bias := by
  unfold threshold
  split <;> omega

/-- Divides a difference down to the size at which the bias is read off. -/
def shrink (delta place : Nat) : Nat :=
  if h : 455 < delta then
    have : delta / 35 < delta := Nat.div_lt_self (by omega) (by omega)
    shrink (delta / 35) (place + 36)
  else place + 36 * delta / (delta + 38)
termination_by delta

/-- The bias after a difference, given how many characters are placed then. -/
def adapt (delta count : Nat) (first : Bool) : Nat :=
  let delta := if first then delta / 700 else delta / 2
  shrink (delta + delta / count) 0

/-- The digits of a difference. -/
def differenceDigits (bias place delta : Nat) : List Char :=
  let t := threshold place bias
  if h : delta < t then [digit delta]
  else
    have : (delta - t) / (36 - t) < delta := by
      have h1 : 1 ≤ t := threshold_pos place bias
      have h2 : (delta - t) / (36 - t) ≤ delta - t := Nat.div_le_self _ _
      omega
    digit (t + (delta - t) % (36 - t)) ::
      differenceDigits bias (place + 36) ((delta - t) / (36 - t))
termination_by delta

/-- Where the encoder stands. -/
structure Progress where
  /-- The digits written so far, in reverse. -/
  reversed : List Char
  /-- The difference since the last placed character. -/
  delta : Nat
  /-- The bias. -/
  bias : Nat
  /-- How many characters are placed. -/
  placed : Nat

/-- Goes once through the label and places the occurrences of one value. -/
def place (basic value : Nat) (progress : Progress) : List Char → Progress
  | [] => progress
  | c :: rest =>
    let next : Progress :=
      if c.toNat < value then { progress with delta := progress.delta + 1 }
      else if c.toNat = value then
        { reversed := (differenceDigits progress.bias 36 progress.delta).reverse
            ++ progress.reversed
          delta := 0
          bias := adapt progress.delta (progress.placed + 1) (progress.placed == basic)
          placed := progress.placed + 1 }
      else progress
    place basic value next rest

/-- Places all values, which are given in increasing order. -/
def placeAll (label : List Char) (basic : Nat) : Nat → Progress → List Nat → Progress
  | _, progress, [] => progress
  | reached, progress, value :: rest =>
    let start :=
      { progress with delta := progress.delta + (value - reached) * (progress.placed + 1) }
    let done := place basic value start label
    placeAll label basic (value + 1) { done with delta := done.delta + 1 } rest

/-- Enters a value into an increasing list. -/
def enter (value : Nat) : List Nat → List Nat
  | [] => [value]
  | v :: rest =>
    if value < v then value :: v :: rest
    else if value = v then v :: rest
    else v :: enter value rest

/-- The notation of a label. -/
def encode (label : List Char) : List Char :=
  let basic := label.filter (·.toNat < 0x80)
  let values := (label.filter fun c => 0x80 ≤ c.toNat).foldl (fun vs c => enter c.toNat vs) []
  let start : Progress := ⟨[], 0, 72, basic.length⟩
  let done := placeAll label basic.length 0x80 start values
  basic ++ (if basic.isEmpty then [] else ['-']) ++ done.reversed.reverse

/-- Reads one difference: its value, and what follows. -/
def readDifference (bias place weight read : Nat) : List Char → Option (Nat × List Char)
  | [] => none
  | c :: rest =>
    match digitValue? c with
    | none => none
    | some d =>
      let read := read + d * weight
      let t := threshold place bias
      if d < t then some (read, rest)
      else if 0x100000000 ≤ read then none
      else readDifference bias (place + 36) (weight * (36 - t)) read rest

/-- Reads the differences and places their characters; the fuel is the length of the input. -/
def readAll : Nat → Nat → Nat → Nat → List Char → List Char → Option (List Char)
  | _, _, _, _, label, [] => some label
  | 0, _, _, _, _, _ :: _ => none
  | fuel + 1, value, index, bias, label, digits =>
    match readDifference bias 36 1 0 digits with
    | none => none
    | some (delta, rest) =>
      let count := label.length + 1
      let index' := index + delta
      let value' := value + index' / count
      let at' := index' % count
      let bias' := adapt delta count (index == 0 && value == 0x80)
      if 0x110000 ≤ value' || (0xD800 ≤ value' && value' < 0xE000) then none
      else readAll fuel value' (at' + 1) bias'
        (label.take at' ++ Char.ofNat value' :: label.drop at') rest

/-- The label of a notation. -/
def decode? (cs : List Char) : Option (List Char) :=
  let after := (cs.reverse.takeWhile (· != '-')).reverse
  let basic := cs.take (cs.length - after.length - 1)
  if basic.any (0x80 ≤ ·.toNat) then none
  else readAll after.length 0x80 0 72 basic after

end ChainIdentity.Url.Punycode
