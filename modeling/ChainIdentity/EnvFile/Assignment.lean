import ChainIdentity.Text.Alphanumeric
import ChainIdentity.Text.Blank
import ChainIdentity.Variables

/-!
# Assignments

A line of an environment file assigns a value to a variable, perhaps after the word `export`.
The value is read in one pass:

* text between single quotes stands for itself;
* elsewhere a dollar sign stands for the value of the variable that follows it, with or without
  braces, and a backslash spares one of few characters its meaning;
* a blank outside of quotes ends the value, and after it only a comment may follow.

A variable without braces ends at the first character that is neither letter nor number; that
character, even a quote, stands for itself.
-/

namespace ChainIdentity.EnvFile

open Text

/-- How far the reader of a value is. -/
inductive Reading where
  /-- Outside of quotes. -/
  | bare
  /-- Between double quotes. -/
  | weak
  /-- Between single quotes. -/
  | strong
  /-- After a backslash, inside double quotes or not. -/
  | escaped (inWeak : Bool)
  /-- In the name of a variable, inside double quotes or not. -/
  | name (inWeak : Bool) (read : List Char)
  /-- In the name of a variable in braces, inside double quotes or not. -/
  | braced (inWeak : Bool) (read : List Char)
  /-- After the value. -/
  | ended
deriving DecidableEq, Repr

namespace Reading

/-- Back inside double quotes or outside of quotes. -/
def back (inWeak : Bool) : Reading :=
  if inWeak then weak else bare

end Reading

/-- What a backslash and a character stand for. -/
def unescape? : Char → Option Char
  | '\\' => some '\\'
  | '\'' => some '\''
  | '"' => some '"'
  | '$' => some '$'
  | ' ' => some ' '
  | 'n' => some '\n'
  | _ => none

/-- The value of a variable as characters; a variable without one is empty. -/
def expansion (values : Variables) (name : List Char) : List Char :=
  ((values (String.ofList name)).getD "").toList

/-- The value that the characters spell, read on from the given point. -/
def readValue (values : Variables) : Reading → List Char → Option (List Char)
  | .bare, [] => some []
  | .weak, [] => none
  | .strong, [] => none
  | .escaped inWeak, [] => if inWeak then none else some []
  | .name inWeak read, [] => if inWeak then none else some (expansion values read)
  | .braced _ _, [] => none
  | .ended, [] => some []
  | .bare, c :: rest =>
    if c = '$' then readValue values (.name false []) rest
    else if c = '\'' then readValue values .strong rest
    else if c = '"' then readValue values .weak rest
    else if c = '\\' then readValue values (.escaped false) rest
    else if c = ' ' ∨ c = '\t' then readValue values .ended rest
    else (c :: ·) <$> readValue values .bare rest
  | .weak, c :: rest =>
    if c = '$' then readValue values (.name true []) rest
    else if c = '"' then readValue values .bare rest
    else if c = '\\' then readValue values (.escaped true) rest
    else (c :: ·) <$> readValue values .weak rest
  | .strong, c :: rest =>
    if c = '\'' then readValue values .bare rest
    else (c :: ·) <$> readValue values .strong rest
  | .escaped inWeak, c :: rest =>
    match unescape? c with
    | some meant => (meant :: ·) <$> readValue values (.back inWeak) rest
    | none => none
  | .name inWeak read, c :: rest =>
    if isAlphanumeric c then readValue values (.name inWeak (read ++ [c])) rest
    else if c = '\x7b' ∧ read = [] then readValue values (.braced inWeak []) rest
    else if c = '$' then
      (expansion values read ++ ·) <$> readValue values (.name inWeak []) rest
    else
      (expansion values read ++ c :: ·) <$> readValue values (.back inWeak) rest
  | .braced inWeak read, c :: rest =>
    if c = '\x7d' then
      (expansion values read ++ ·) <$> readValue values (.back inWeak) rest
    else readValue values (.braced inWeak (read ++ [c])) rest
  | .ended, c :: rest =>
    if c = ' ' ∨ c = '\t' then readValue values .ended rest
    else if c = '#' then some []
    else none

/-- Whether a name may start with a character. -/
def startsName (c : Char) : Bool :=
  ('a' ≤ c && c ≤ 'z') || ('A' ≤ c && c ≤ 'Z') || c == '_'

/-- Whether a name may go on with a character. -/
def continuesName (c : Char) : Bool :=
  startsName c || ('0' ≤ c && c ≤ '9') || c == '.'

/-- A name at the front, and what follows it and the blanks after it. -/
def readName : List Char → Option (List Char × List Char)
  | [] => none
  | c :: rest =>
    if startsName c then
      some ((c :: rest).takeWhile continuesName, trimStart ((c :: rest).dropWhile continuesName))
    else none

/-- What a line says. -/
inductive Entry where
  /-- Nothing. -/
  | nothing
  /-- A variable and its value. -/
  | assignment (name value : String)
  /-- Something that cannot be understood. -/
  | bad
deriving DecidableEq, Repr

namespace Entry

/-- Reads the value after the equals sign. -/
def ofValue (values : Variables) (name text : List Char) : Entry :=
  match trimStart text with
  | [] => assignment (String.ofList name) ""
  | c :: rest =>
    if c = '#' then assignment (String.ofList name) ""
    else
      match readValue values .bare (c :: rest) with
      | some value => assignment (String.ofList name) (String.ofList value)
      | none => bad

/-- Reads a line. -/
def ofLine (values : Variables) (line : List Char) : Entry :=
  let line := trim line
  if line.isEmpty || line.head? == some '#' then nothing
  else
    match readName line with
    | none => bad
    | some (name, '=' :: text) => ofValue values name text
    | some (word, rest) =>
      if word = "export".toList then
        match readName rest with
        | some (name, '=' :: text) => ofValue values name text
        | _ => bad
      else bad

end Entry

end ChainIdentity.EnvFile
