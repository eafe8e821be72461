import ChainIdentity.Json.Number

/-!
# Reading documents

`Json.parse?` reads a complete text: one value with blanks around it.  It accepts exactly the
common interchange grammar, with two limits of its own: at most 127 arrays and objects may be
nested in one another, and a text may not spell half of a surrogate pair.

The nesting allowance goes down at every opening bracket and the fuel at every character that
starts a value, so fuel of the length of the text is never used up.
-/

namespace ChainIdentity.Json.Parser

open ChainIdentity.Text

/-- The blanks between tokens. -/
def isSpace (c : Char) : Bool :=
  c == ' ' || c == '\n' || c == '\t' || c == '\r'

/-- The text after its leading blanks. -/
def skipSpace (cs : List Char) : List Char :=
  cs.dropWhile isSpace

/-- The value of the four hexadecimal digits at the front. -/
def fourDigits : List Char → Option (Nat × List Char)
  | a :: b :: c :: d :: rest => do
    let a ← Digit.below? 16 a
    let b ← Digit.below? 16 b
    let c ← Digit.below? 16 c
    let d ← Digit.below? 16 d
    return (((a * 16 + b) * 16 + c) * 16 + d, rest)
  | _ => none

/-- The character behind the escape for a code unit.  A high surrogate needs the escape of a
low one after it, and a low one may not stand alone. -/
def unitEscape (cs : List Char) : Option (Char × List Char) := do
  let (high, rest) ← fourDigits cs
  if 0xD800 ≤ high ∧ high < 0xDC00 then
    match rest with
    | '\\' :: 'u' :: rest =>
      let (low, rest) ← fourDigits rest
      if 0xDC00 ≤ low ∧ low < 0xE000 then
        return (Char.ofNat (0x10000 + (high - 0xD800) * 0x400 + (low - 0xDC00)), rest)
      else none
    | _ => none
  else if 0xDC00 ≤ high ∧ high < 0xE000 then none
  else return (Char.ofNat high, rest)

/-- The character behind a short escape. -/
def shortEscape? : Char → Option Char
  | '"' => some '"'
  | '\\' => some '\\'
  | '/' => some '/'
  | 'b' => some '\x08'
  | 'f' => some '\x0c'
  | 'n' => some '\n'
  | 'r' => some '\r'
  | 't' => some '\t'
  | _ => none

/-- Reads the rest of a text up to its closing quote.  `reversed` holds the characters read so
far; the fuel bounds their number. -/
def readText : Nat → List Char → List Char → Option (String × List Char)
  | 0, _, _ => none
  | fuel + 1, reversed, cs =>
    match cs with
    | [] => none
    | '"' :: rest => some (String.ofList reversed.reverse, rest)
    | '\\' :: 'u' :: rest =>
      match unitEscape rest with
      | some (c, rest) => readText fuel (c :: reversed) rest
      | none => none
    | '\\' :: c :: rest =>
      match shortEscape? c with
      | some c => readText fuel (c :: reversed) rest
      | none => none
    | c :: rest => if c.toNat < 0x20 then none else readText fuel (c :: reversed) rest

/-- What follows a fixed word at the front of the text. -/
def afterWord? : List Char → List Char → Option (List Char)
  | [], cs => some cs
  | w :: word, c :: cs => if w = c then afterWord? word cs else none
  | _ :: _, [] => none

mutual

/-- Reads a value, blanks in front of it allowed. -/
def readValue (fuel depth : Nat) (cs : List Char) : Option (Json × List Char) :=
  match fuel with
  | 0 => none
  | fuel + 1 =>
    match skipSpace cs with
    | [] => none
    | 'n' :: rest => (afterWord? ['u', 'l', 'l'] rest).map fun rest => (.null, rest)
    | 't' :: rest => (afterWord? ['r', 'u', 'e'] rest).map fun rest => (.bool true, rest)
    | 'f' :: rest => (afterWord? ['a', 'l', 's', 'e'] rest).map fun rest => (.bool false, rest)
    | '"' :: rest => (readText (rest.length + 1) [] rest).map fun (s, rest) => (.text s, rest)
    | '[' :: rest =>
      match depth with
      | 0 => none
      | depth + 1 =>
        match skipSpace rest with
        | ']' :: rest => some (.array [], rest)
        | rest => readElements fuel depth [] rest
    | '\x7b' :: rest =>
      match depth with
      | 0 => none
      | depth + 1 =>
        match skipSpace rest with
        | '\x7d' :: rest => some (.object [], rest)
        | rest => readMembers fuel depth [] rest
    | cs => Number.read cs

/-- Reads the elements of an array from the next one on, up to the closing bracket. -/
def readElements (fuel depth : Nat) (reversed : List Json) (cs : List Char) :
    Option (Json × List Char) :=
  match fuel with
  | 0 => none
  | fuel + 1 =>
    match readValue fuel depth cs with
    | none => none
    | some (element, rest) =>
      match skipSpace rest with
      | ',' :: rest => readElements fuel depth (element :: reversed) rest
      | ']' :: rest => some (.array (element :: reversed).reverse, rest)
      | _ => none

/-- Reads the members of an object from the next one on, up to the closing brace. -/
def readMembers (fuel depth : Nat) (entered : List (String × Json)) (cs : List Char) :
    Option (Json × List Char) :=
  match fuel with
  | 0 => none
  | fuel + 1 =>
    match skipSpace cs with
    | '"' :: rest =>
      match readText (rest.length + 1) [] rest with
      | none => none
      | some (name, rest) =>
        match skipSpace rest with
        | ':' :: rest =>
          match readValue fuel depth rest with
          | none => none
          | some (value, rest) =>
            let entered := Ordered.insert name value entered
            match skipSpace rest with
            | ',' :: rest => readMembers fuel depth entered rest
            | '\x7d' :: rest => some (.object entered, rest)
            | _ => none
        | _ => none
    | _ => none

end

/-- How many arrays and objects may be nested in one another. -/
def nestingLimit : Nat := 127

end ChainIdentity.Json.Parser

namespace ChainIdentity.Json

/-- The document that a text is. -/
def parse? (s : String) : Option Json :=
  let cs := s.toList
  match Parser.readValue (2 * cs.length + 2) Parser.nestingLimit cs with
  | some (value, rest) => if (Parser.skipSpace rest).isEmpty then some value else none
  | none => none

end ChainIdentity.Json
