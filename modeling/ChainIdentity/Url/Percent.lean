import ChainIdentity.Text.Digit

/-!
# Percent encoding

A character that may not stand in a part of an address is written as the bytes of its UTF-8
form, each as a percent sign and two upper-case hexadecimal digits.  Which characters those are
differs from part to part; characters outside ASCII and controls are always among them.
-/

namespace ChainIdentity.Url

open ChainIdentity.Text

/-- A part of an address with its own set of encoded characters. -/
inductive Part where
  /-- A host or path without structure. -/
  | verbatim
  /-- The part after the number sign. -/
  | fragment
  /-- The part after the question mark. -/
  | query
  /-- The same under a scheme with a known structure. -/
  | specialQuery
  /-- A segment of a path. -/
  | path
  /-- A user name or password. -/
  | userinfo
deriving DecidableEq, Repr

namespace Part

/-- The printable ASCII characters that are encoded in a part. -/
def encoded : Part → List Char
  | verbatim => []
  | fragment => [' ', '"', '<', '>', '\x60']
  | query => [' ', '"', '#', '<', '>']
  | specialQuery => [' ', '"', '#', '<', '>', '\'']
  | path => [' ', '"', '<', '>', '\x60', '#', '?', '\x7b', '\x7d']
  | userinfo =>
    [' ', '"', '<', '>', '\x60', '#', '?', '\x7b', '\x7d', '/', ':', ';', '=', '@', '[', '\\',
      ']', '^', '|']

end Part

/-- Whether a character is encoded in a part. -/
def isEncoded (part : Part) (c : Char) : Bool :=
  c.toNat < 0x20 || 0x7F ≤ c.toNat || part.encoded.contains c

/-- An upper-case hexadecimal digit. -/
def upperDigit (d : Nat) : Char :=
  (Digit.ofNat d).toUpper

/-- The encoding of one character. -/
def encodeChar (part : Part) (c : Char) : List Char :=
  if isEncoded part c then
    (String.utf8EncodeChar c).flatMap fun byte =>
      ['%', upperDigit (byte.toNat / 16), upperDigit (byte.toNat % 16)]
  else [c]

/-- The encoding of a text. -/
def encode (part : Part) (cs : List Char) : List Char :=
  cs.flatMap (encodeChar part)

/-- The bytes of a text, with every percent sign and two digits read as the byte they stand
for. -/
def decodeBytes : List Char → List UInt8
  | '%' :: a :: b :: rest =>
    match Digit.below? 16 a, Digit.below? 16 b with
    | some high, some low => UInt8.ofNat (high * 16 + low) :: decodeBytes rest
    | _, _ => 0x25 :: decodeBytes (a :: b :: rest)
  | c :: rest => String.utf8EncodeChar c ++ decodeBytes rest
  | [] => []

/-- The characters of a decoded text; `none` when the bytes are no UTF-8. -/
def decode? (cs : List Char) : Option (List Char) :=
  (String.fromUTF8? (ByteArray.mk (decodeBytes cs).toArray)).map String.toList

end ChainIdentity.Url
