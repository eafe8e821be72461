import ChainIdentity.Json.Basic
import ChainIdentity.Decimal.Shortest

/-!
# Writing documents

Two layouts: `compact` puts everything on one line without blanks, `pretty` puts each element
and member on a line of its own, two spaces deeper than its container.  Empty containers have
nothing inside in either layout.
-/

namespace ChainIdentity.Json

open ChainIdentity.Text ChainIdentity.Decimal

/-- The form of a character inside a text: the quote and the backslash behind a backslash, the
usual short escapes, and any other control character below the space as four hexadecimal
digits. -/
def escaped (c : Char) : List Char :=
  if c = '"' then ['\\', '"']
  else if c = '\\' then ['\\', '\\']
  else if c = '\x08' then ['\\', 'b']
  else if c = '\x0c' then ['\\', 'f']
  else if c = '\n' then ['\\', 'n']
  else if c = '\r' then ['\\', 'r']
  else if c = '\t' then ['\\', 't']
  else if c.toNat < 0x20 then ['\\', 'u'] ++ Numeral.padded 16 4 c.toNat
  else [c]

/-- A text with its quotes. -/
def quoted (s : String) : String :=
  String.ofList ('"' :: s.toList.flatMap escaped ++ ['"'])

/-- Values that contain no other value. -/
def leaf : Json → String
  | .null => "null"
  | .bool true => "true"
  | .bool false => "false"
  | .integer value => Numeral.signedDecimal value
  | .real value => String.ofList value.render
  | .text value => quoted value
  | .array _ => "[]"
  | .object _ => "\x7b\x7d"

mutual

/-- The one-line form. -/
def compact : Json → String
  | .array elements => "[" ++ String.intercalate "," (compactElements elements) ++ "]"
  | .object members => "\x7b" ++ String.intercalate "," (compactMembers members) ++ "\x7d"
  | value => leaf value

/-- The one-line forms of the elements. -/
def compactElements : List Json → List String
  | [] => []
  | element :: rest => compact element :: compactElements rest

/-- The one-line forms of the members. -/
def compactMembers : List (String × Json) → List String
  | [] => []
  | (name, value) :: rest => (quoted name ++ ":" ++ compact value) :: compactMembers rest

end

/-- The start of a line at the given depth. -/
def newline (depth : Nat) : String :=
  "\n" ++ String.ofList (List.replicate (2 * depth) ' ')

mutual

/-- The form over several lines of a value whose container stands at the given depth. -/
def prettyAt (depth : Nat) : Json → String
  | .array (element :: rest) =>
    "[" ++ newline (depth + 1)
      ++ String.intercalate ("," ++ newline (depth + 1))
        (prettyElements (depth + 1) (element :: rest))
      ++ newline depth ++ "]"
  | .object (member :: rest) =>
    "\x7b" ++ newline (depth + 1)
      ++ String.intercalate ("," ++ newline (depth + 1))
        (prettyMembers (depth + 1) (member :: rest))
      ++ newline depth ++ "\x7d"
  | value => leaf value

/-- The forms of the elements, each without the line it stands on. -/
def prettyElements (depth : Nat) : List Json → List String
  | [] => []
  | element :: rest => prettyAt depth element :: prettyElements depth rest

/-- The forms of the members, each without the line it stands on. -/
def prettyMembers (depth : Nat) : List (String × Json) → List String
  | [] => []
  | (name, value) :: rest =>
    (quoted name ++ ": " ++ prettyAt depth value) :: prettyMembers depth rest

end

/-- The form over several lines. -/
def pretty (value : Json) : String :=
  prettyAt 0 value

end ChainIdentity.Json
