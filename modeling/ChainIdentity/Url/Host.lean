import ChainIdentity.Text.Numeral
import ChainIdentity.Url.Domain
import ChainIdentity.Url.Percent

/-!
# Hosts

A host is a name, an address of 32 bits or an address of 128 bits.  Under the schemes with a
known structure a name whose last part is a number is an address of 32 bits or nothing; its
parts may be written in three radices, and a missing part is filled by the last one.  Under
other schemes a name is kept as it is written.
-/

namespace ChainIdentity

/-- Why a text is no address. -/
inductive UrlError where
  /-- There is no scheme in front. -/
  | noScheme
  /-- The host is missing. -/
  | emptyHost
  /-- The port is no number below `2 ^ 16`. -/
  | invalidPort
  /-- The host ends in a number but is no address of 32 bits. -/
  | invalidIpv4
  /-- The host starts with a bracket but is no address of 128 bits. -/
  | invalidIpv6
  /-- The host has a character that no host has. -/
  | invalidCharacter
  /-- The host is no domain name. -/
  | invalidName
deriving DecidableEq, Repr

/-- The wording of an address error. -/
def UrlError.message : UrlError → String
  | .noScheme => "relative URL without a base"
  | .emptyHost => "empty host"
  | .invalidPort => "invalid port number"
  | .invalidIpv4 => "invalid IPv4 address"
  | .invalidIpv6 => "invalid IPv6 address"
  | .invalidCharacter => "invalid domain character"
  | .invalidName => "invalid international domain name"

end ChainIdentity

namespace ChainIdentity.Url

open ChainIdentity.Text

/-- A host. -/
inductive Host where
  /-- A name, never empty. -/
  | name (text : String)
  /-- An address of 32 bits. -/
  | ipv4 (address : Nat)
  /-- An address of 128 bits as eight groups of sixteen. -/
  | ipv6 (groups : List Nat)
deriving DecidableEq, Repr

/-! ## Addresses of 32 bits -/

namespace Ipv4

/-- A part of an address: an absent number, a number of any size, or none at all. -/
def readPart (cs : List Char) : Option Nat :=
  match cs with
  | [] => none
  | '0' :: 'x' :: digits => readIn 16 digits
  | '0' :: 'X' :: digits => readIn 16 digits
  | '0' :: d :: digits => readIn 8 (d :: digits)
  | digits => readIn 10 digits
where
  /-- The digits after the mark of the radix; none at all is zero. -/
  readIn (radix : Nat) (digits : List Char) : Option Nat :=
    Numeral.foldDigits? radix 0 digits

/-- The parts of a name without the empty one after a dot at its end. -/
def parts (cs : List Char) : List (List Char) :=
  let all := Text.parts '.' cs
  match all.reverse with
  | [] :: before :: rest => (before :: rest).reverse
  | _ => all

/-- Whether the last part of a name is a number. -/
def endsInNumber (cs : List Char) : Bool :=
  match (parts cs).reverse with
  | [] => false
  | last :: _ => (!last.isEmpty && last.all fun c => '0' ≤ c && c ≤ '9') || (readPart last).isSome

/-- The value of the numbers in front of the last one. -/
def combine : Nat → List Nat → Nat
  | _, [] => 0
  | weight, n :: rest => n * weight + combine (weight / 256) rest

/-- Reads an address. -/
def read (cs : List Char) : Option Nat := do
  let numbers ← (parts cs).mapM readPart
  if 4 < numbers.length then none
  else
    match numbers.reverse with
    | [] => none
    | last :: front =>
      if Nat.pow 256 (4 - front.length) ≤ last || front.any (255 < ·) then none
      else some (last + combine (Nat.pow 256 3) front.reverse)

/-- The text of an address. -/
def render (address : Nat) : String :=
  String.intercalate "."
    ([Nat.pow 256 3, Nat.pow 256 2, 256, 1].map
      fun weight => Numeral.decimal (address / weight % 256))

end Ipv4

/-! ## Addresses of 128 bits -/

namespace Ipv6

/-- Up to four hexadecimal digits at the front: how many, their value, and what follows. -/
def readGroup : Nat → Nat → Nat → List Char → Nat × Nat × List Char
  | 0, count, read, cs => (count, read, cs)
  | _, count, read, [] => (count, read, [])
  | room + 1, count, read, c :: rest =>
    match Digit.below? 16 c with
    | some d => readGroup room (count + 1) (read * 16 + d) rest
    | none => (count, read, c :: rest)

/-- A decimal number below 256 without leading zeros at the front. -/
def readByte (cs : List Char) : Option (Nat × List Char) :=
  let digits := cs.takeWhile fun c => '0' ≤ c && c ≤ '9'
  match digits with
  | [] => none
  | '0' :: _ :: _ => none
  | _ =>
    if 3 < digits.length then none
    else do
      let n ← Numeral.value? 10 digits
      if n ≤ 255 then some (n, cs.drop digits.length) else none

/-- The last two groups, written as an address of 32 bits. -/
def readTail (cs : List Char) : Option (List Nat) := do
  let (a, rest) ← readByte cs
  let rest ← afterDot rest
  let (b, rest) ← readByte rest
  let rest ← afterDot rest
  let (c, rest) ← readByte rest
  let rest ← afterDot rest
  let (d, rest) ← readByte rest
  if rest.isEmpty then some [a * 256 + b, c * 256 + d] else none
where
  /-- What follows a dot. -/
  afterDot : List Char → Option (List Char)
    | '.' :: rest => some rest
    | _ => none

/-- The groups read so far, and how many of them stand in front of the gap. -/
structure Groups where
  /-- The groups in order; the gap itself counts as one. -/
  values : List Nat
  /-- How many groups there are up to and including the gap. -/
  gap : Option Nat

/-- Reads groups up to the end. -/
def readGroups : Nat → Groups → List Char → Option Groups
  | _, groups, [] => some groups
  | 0, _, _ :: _ => none
  | fuel + 1, groups, c :: cs =>
    if groups.values.length = 8 then none
    else if c = ':' then
      if groups.gap.isSome then none
      else readGroups fuel ⟨groups.values ++ [0], some (groups.values.length + 1)⟩ cs
    else
      let (count, value, rest) := readGroup 4 0 0 (c :: cs)
      match rest with
      | [] => some { groups with values := groups.values ++ [value] }
      | ':' :: [] => none
      | ':' :: rest => readGroups fuel { groups with values := groups.values ++ [value] } rest
      | '.' :: _ =>
        if count = 0 || 6 < groups.values.length then none
        else (readTail (c :: cs)).map fun tail => { groups with values := groups.values ++ tail }
      | _ => none

/-- The eight groups, the gap filled with zeros. -/
def fill (groups : Groups) : Option (List Nat) :=
  match groups.gap with
  | none => if groups.values.length = 8 then some groups.values else none
  | some gap =>
    if groups.values.length ≤ 8 then
      some (groups.values.take gap ++ List.replicate (8 - groups.values.length) 0
        ++ groups.values.drop gap)
    else none

/-- Reads an address. -/
def read (cs : List Char) : Option (List Nat) :=
  match cs with
  | [] => none
  | [_] => none
  | ':' :: ':' :: rest => (readGroups rest.length ⟨[0], some 1⟩ rest).bind fill
  | ':' :: _ => none
  | _ => (readGroups cs.length ⟨[], none⟩ cs).bind fill

/-- The length of the run of zeros at the front. -/
def zeros (groups : List Nat) : Nat :=
  (groups.takeWhile (· == 0)).length

/-- The place and length of the longest run of at least two zeros, the first of equal ones. -/
def longestRun : Nat → List Nat → Nat × Nat
  | _, [] => (0, 1)
  | place, group :: rest =>
    let later := longestRun (place + 1) rest
    let here := zeros (group :: rest)
    if 2 ≤ here && later.2 ≤ here then (place, here) else later

/-- The groups in hexadecimal with colons between them. -/
def joined (groups : List Nat) : String :=
  String.intercalate ":" (groups.map (Numeral.text 16))

/-- The text of an address, in which the longest run of zeros is left out. -/
def render (groups : List Nat) : String :=
  let run := longestRun 0 groups
  if run.2 < 2 then joined groups
  else joined (groups.take run.1) ++ "::" ++ joined (groups.drop (run.1 + run.2))

end Ipv6

namespace Host

/-- The text of a host. -/
def render : Host → String
  | name text => text
  | ipv4 address => Ipv4.render address
  | ipv6 groups => "[" ++ Ipv6.render groups ++ "]"

/-- Reads an address between brackets. -/
def readBracketed (cs : List Char) : Except UrlError Host :=
  match cs.reverse with
  | ']' :: inner =>
    match Ipv6.read inner.reverse with
    | some groups => .ok (ipv6 groups)
    | none => .error .invalidIpv6
  | _ => .error .invalidIpv6

/-- Reads a host under a scheme with a known structure. -/
def read (cs : List Char) : Except UrlError Host :=
  match cs with
  | '[' :: rest => readBracketed rest
  | _ =>
    match (decode? cs).bind Domain.toAscii? with
    | none => .error .invalidName
    | some [] => .error .emptyHost
    | some ascii =>
      if Ipv4.endsInNumber ascii then
        match Ipv4.read ascii with
        | some address => .ok (ipv4 address)
        | none => .error .invalidIpv4
      else .ok (name (String.ofList ascii))

/-- Whether a character may not stand in a host under any scheme. -/
def isForbidden (c : Char) : Bool :=
  ['\x00', '\t', '\n', '\r', ' ', '#', '/', ':', '<', '>', '?', '@', '[', '\\', ']', '^',
    '|'].contains c

/-- Reads a host under any other scheme; an empty one is no host. -/
def readVerbatim (cs : List Char) : Except UrlError (Option Host) :=
  match cs with
  | [] => .ok none
  | '[' :: rest => (readBracketed rest).map some
  | _ =>
    if cs.any isForbidden then .error .invalidCharacter
    else .ok (some (name (String.ofList (encode .verbatim cs))))

end Host

end ChainIdentity.Url
