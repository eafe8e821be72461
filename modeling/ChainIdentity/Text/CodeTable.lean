import ChainIdentity.Text.Numeral
import ChainIdentity.Text.Parts
import ChainIdentity.Text.Ranges

/-!
# Tables of code points

A large table is written as a text.  Its entries stand between blanks and line ends, in
increasing order, with all numbers in hexadecimal digits.  An entry names one code point (`AA`),
the code points of a closed range (`41-5A`), or every second one of a range (`100-12E/2`); behind
a colon it may give numbers for them (`BC:31+2044+34`).
-/

namespace ChainIdentity.Text

/-- An entry of a table. -/
structure CodeEntry where
  /-- The first code point. -/
  first : Nat
  /-- The last code point. -/
  last : Nat
  /-- The distance between two code points of the entry. -/
  step : Nat
  /-- The numbers given for them. -/
  values : List Nat
deriving DecidableEq, Repr

/-- A table. -/
abbrev CodeTable := Array CodeEntry

namespace CodeEntry

/-- The number that a text is; `other` where it is none. -/
def number (cs : List Char) (other : Nat) : Nat :=
  (Numeral.value? 16 cs).getD other

/-- Reads an entry. -/
def ofText (cs : List Char) : CodeEntry :=
  let (codes, values) := cut ':' cs
  let (range, step) := cut '/' codes
  let (first, last) := cut '-' range
  { first := number first 0
    last := number last (number first 0)
    step := number step 1
    values := if values.isEmpty then [] else (parts '+' values).map fun value => number value 0 }

/-- Whether an entry names a code point within its range. -/
def names (entry : CodeEntry) (n : Nat) : Bool :=
  (n - entry.first) % entry.step == 0

/-- The characters that an entry gives for a code point: those given for the first one, as far
on as the code point is behind it. -/
def image (entry : CodeEntry) (n : Nat) : List Char :=
  entry.values.map fun value => Char.ofNat (value + (n - entry.first))

end CodeEntry

namespace CodeTable

/-- Reads a table. -/
def ofText (text : String) : CodeTable :=
  let entries := (parts '\n' text.toList).flatMap (parts ' ')
  ((entries.filter (!·.isEmpty)).map CodeEntry.ofText).toArray

/-- The entry that names a character. -/
def entry? (table : CodeTable) (c : Char) : Option CodeEntry :=
  (search (fun entry : CodeEntry => sideOf c.toNat entry.first entry.last) table).filter
    (·.names c.toNat)

/-- Whether a table names a character. -/
def contains (table : CodeTable) (c : Char) : Bool :=
  (table.entry? c).isSome

/-- The number that a table gives for a character. -/
def value? (table : CodeTable) (c : Char) : Option Nat :=
  (table.entry? c).bind (·.values.head?)

/-- The characters that a table gives for a character. -/
def image? (table : CodeTable) (c : Char) : Option (List Char) :=
  (table.entry? c).map (·.image c.toNat)

end CodeTable

end ChainIdentity.Text
