import ChainIdentity.Text.Blank

/-!
# Lines of an environment file

An environment file holds one assignment on a line, but a line that ends inside a quotation goes
on with the next one.  `logicalLines` puts such lines together.  It does not read assignments:
it only follows quotes and backslashes, which is a coarser view than that of the reader of
values, and the two need not agree about every line.

A comment that follows a blank is cut off here.  The place of the cut is counted in bytes from
the start of the line the comment stands on, also where that line continues another one; the
text is then cut too early, inside the quotation that made the lines one.
-/

namespace ChainIdentity.EnvFile

open Text

/-- How far a line is inside a quotation. -/
inductive Quoting where
  /-- Outside. -/
  | closed
  /-- Outside, right after a blank that did not follow another one. -/
  | blank
  /-- After a backslash outside. -/
  | escape
  /-- Between double quotes. -/
  | weak
  /-- After a backslash between double quotes. -/
  | weakEscape
  /-- Between single quotes. -/
  | strong
  /-- After a backslash between single quotes. -/
  | strongEscape
deriving DecidableEq, Repr

namespace Quoting

/-- What a quote or backslash outside of quotations leads to. -/
def opened : Char → Quoting
  | '\\' => escape
  | '"' => weak
  | '\'' => strong
  | _ => closed

/-- The step of one character. -/
def next : Quoting → Char → Quoting
  | closed, c => if isBlank c && c != '\n' && c != '\r' then blank else opened c
  | blank, c => opened c
  | escape, _ => closed
  | weak, c => if c = '\\' then weakEscape else if c = '"' then closed else weak
  | weakEscape, _ => weak
  | strong, c => if c = '\\' then strongEscape else if c = '\'' then closed else strong
  | strongEscape, _ => strong

end Quoting

/-- How a line ends. -/
inductive LineEnd where
  /-- At its last character. -/
  | at (quoting : Quoting)
  /-- In a comment that starts after the given number of bytes. -/
  | comment (offset : Nat)
deriving DecidableEq, Repr

/-- Follows a line from a number of bytes on. -/
def scan : Quoting → Nat → List Char → LineEnd
  | quoting, _, [] => .at quoting
  | quoting, offset, c :: rest =>
    if quoting = .blank ∧ c = '#' then .comment offset
    else scan (quoting.next c) (offset + c.utf8Size) rest

/-- The longest text at the front that has at most the given number of bytes. -/
def takeBytes : Nat → List Char → List Char
  | _, [] => []
  | count, c :: rest =>
    if c.utf8Size ≤ count then c :: takeBytes (count - c.utf8Size) rest else []

/-- The lines of a text, each with the newline that ends it. -/
def physicalLines (cs : List Char) : List (List Char) :=
  cs.foldr
    (fun c lines =>
      if c = '\n' then [c] :: lines
      else
        match lines with
        | [] => [[c]]
        | line :: rest => (c :: line) :: rest)
    []

/-- A line without the newline at its end, and without a carriage return before that. -/
def withoutNewline (line : List Char) : List Char :=
  match line.reverse with
  | '\n' :: '\r' :: rest => rest.reverse
  | '\n' :: rest => rest.reverse
  | _ => line

/-- Puts lines together.  The lines before the present one that belong to it are given, and how
far they are inside a quotation.  A quotation that is open at the end of the file makes no
line. -/
def join : Quoting → List Char → List (List Char) → List (Option (List Char))
  | .closed, _, [] => []
  | _, _, [] => [none]
  | quoting, before, line :: rest =>
    let text := before ++ line
    if (trimStart text).head? = some '#' then some [] :: join .closed [] rest
    else
      match scan quoting 0 line with
      | .comment offset => some (takeBytes offset text) :: join .closed [] rest
      | .at .closed => some (withoutNewline text) :: join .closed [] rest
      | .at quoting => join quoting text rest

/-- The lines of an environment file; `none` is a quotation that never ends. -/
def logicalLines (cs : List Char) : List (Option (List Char)) :=
  join .closed [] (physicalLines cs)

end ChainIdentity.EnvFile
