import ChainIdentity.Text.Numeral
import ChainIdentity.Text.Unprintable

/-!
# Quoted text in messages

Messages that repeat a piece of input show it between quotes with everything invisible spelled
out, so that two different inputs never look alike.  A backslash and the quote in use are
escaped by a backslash, the three usual blanks and the null character have short forms, and
every other unprintable character is written as its code point in braces.
-/

namespace ChainIdentity.Text

/-- The form of a character inside the given kind of quote. -/
def escapeChar (quote c : Char) : List Char :=
  if c = '\x00' then ['\\', '0']
  else if c = '\t' then ['\\', 't']
  else if c = '\r' then ['\\', 'r']
  else if c = '\n' then ['\\', 'n']
  else if c = '\\' ∨ c = quote then ['\\', c]
  else if isUnprintable c then ['\\', 'u', '\x7b'] ++ Numeral.write 16 c.toNat ++ ['\x7d']
  else [c]

/-- Text between double quotes; a single quote inside is left alone. -/
def quoteText (s : String) : String :=
  String.ofList ('"' :: s.toList.flatMap (escapeChar '"') ++ ['"'])

/-- One character between single quotes; a double quote inside is left alone. -/
def quoteChar (c : Char) : String :=
  String.ofList ('\'' :: escapeChar '\'' c ++ ['\''])

end ChainIdentity.Text
