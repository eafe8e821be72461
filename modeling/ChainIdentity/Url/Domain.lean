import ChainIdentity.Text.Direction
import ChainIdentity.Text.Joining
import ChainIdentity.Url.Domain.Mapping
import ChainIdentity.Url.Punycode

/-!
# Domain names

The name of a host is brought into its ASCII form (`toAscii?`).  The mapped name falls into
labels between dots.  A label that has characters outside ASCII is written in the notation of
`Punycode` behind a mark; a label that comes with the mark already has to be what the encoder
writes for a mapped label.  Every label has to be readable: it does not start with a mark on a
letter, its joiners fit, and where a name has letters written from right to left, every label
keeps to its direction.
-/

namespace ChainIdentity.Url.Domain

open Text

/-- Whether an ASCII character may not stand in a name. -/
def isForbidden (c : Char) : Bool :=
  c.toNat ≤ 0x20 || c.toNat == 0x7F
    || ['%', '#', '/', ':', '<', '>', '?', '@', '[', '\\', ']', '^', '|'].contains c

/-- A part of a name. -/
structure Label where
  /-- Its characters as they are shown. -/
  shown : List Char
  /-- Its ASCII form. -/
  ascii : List Char
deriving DecidableEq, Repr

namespace Label

/-- What follows the mark of labels that are written in ASCII. -/
def encoded? : List Char → Option (List Char)
  | 'x' :: 'n' :: '-' :: '-' :: rest => some rest
  | _ => none

/-- Whether a label with characters outside ASCII is readable. -/
def isReadable (shown : List Char) : Bool :=
  !shown.head?.any isMark && joinersFit [] shown

/-- Reads a mapped label. -/
def read? (cs : List Char) : Option Label :=
  match encoded? cs with
  | some written => do
    let shown ← Punycode.decode? written
    if shown.all isAscii || mapName? shown ≠ some shown || Punycode.encode shown ≠ written
        || !isReadable shown then none
    else some ⟨shown, cs⟩
  | none =>
    if cs.all isAscii then some ⟨cs, cs⟩
    else if isReadable cs then some ⟨cs, ['x', 'n', '-', '-'] ++ Punycode.encode cs⟩
    else none

end Label

/-- Whether labels can stand together in a name. -/
def areDirected (labels : List Label) : Bool :=
  if labels.any (·.shown.any Direction.isRightward) then labels.all (isDirected ·.shown) else true

/-- The ASCII form of a name. -/
def toAscii? (cs : List Char) : Option (List Char) := do
  let labels ← (parts '.' (← mapName? cs)).mapM Label.read?
  let ascii := ['.'].intercalate (labels.map (·.ascii))
  if areDirected labels && !ascii.any isForbidden then some ascii else none

end ChainIdentity.Url.Domain
