import ChainIdentity.Json.Decode

/-!
# Block hashes

A block hash is a word of 256 bits.  Its text is `0x` and sixty-four lower-case hexadecimal
digits; the reader takes digits of either case and does without the `0x` as well.

A text is measured in bytes of its UTF-8 form, so a character outside ASCII counts for as many
digits as it has bytes, and a complaint about it names its first byte.
-/

namespace ChainIdentity

open Text

/-- The hash of a block. -/
structure BlockHash where
  /-- The 256 bits, read as a number. -/
  word : BitVec 256
deriving DecidableEq, Repr

/-- Why a text is no block hash. -/
inductive HashError where
  /-- The number of bytes is odd. -/
  | oddLength
  /-- The number of bytes is not sixty-four. -/
  | wrongLength
  /-- A byte is no hexadecimal digit; positions count from the first digit. -/
  | badDigit (byte : UInt8) (position : Nat)
deriving DecidableEq, Repr

/-- The wording of a hash error. -/
def HashError.message : HashError → String
  | .oddLength => "odd number of digits"
  | .wrongLength => "invalid string length"
  | .badDigit byte position =>
    "invalid character " ++ quoteChar (Char.ofNat byte.toNat) ++ " at position "
      ++ Numeral.decimal position

namespace BlockHash

/-- The text of a hash. -/
def render (hash : BlockHash) : String :=
  String.ofList ('0' :: 'x' :: Numeral.padded 16 64 hash.word.toNat)

/-- The text without the marker in front. -/
def withoutMarker : List Char → List Char
  | '0' :: 'x' :: digits => digits
  | digits => digits

/-- Reads hexadecimal bytes on from the value and the position reached. -/
def foldBytes : Nat → Nat → List UInt8 → Except HashError Nat
  | _, read, [] => .ok read
  | position, read, byte :: rest =>
    match Digit.below? 16 (Char.ofNat byte.toNat) with
    | some d => foldBytes (position + 1) (read * 16 + d) rest
    | none => .error (.badDigit byte position)

/-- Reads a hash. -/
def read (s : String) : Except HashError BlockHash :=
  let bytes := (withoutMarker s.toList).flatMap String.utf8EncodeChar
  if bytes.length % 2 = 1 then .error .oddLength
  else if bytes.length ≠ 64 then .error .wrongLength
  else (foldBytes 0 0 bytes).map fun n => ⟨BitVec.ofNat 256 n⟩

/-- Reads thirty-two bytes, the first bad or absent one deciding. -/
def readBytes : Nat → Nat → List Json → Except DecodeError (Nat × List Json)
  | 32, read, rest => .ok (read, rest)
  | count, _, [] => .error (.length count "exactly 32 bytes")
  | count, read, json :: rest => do
    let byte ← Decoder.uint8 json
    readBytes (count + 1) (read * 256 + byte.toNat) rest

/-- Reads a hash from a text or from a sequence of thirty-two bytes. -/
def decode : Decoder BlockHash
  | .text value =>
    match read value with
    | .ok hash => .ok hash
    | .error error => .error (.refused error.message)
  | .array elements => do
    let (word, rest) ← readBytes 0 0 elements
    match rest with
    | [] => return ⟨BitVec.ofNat 256 word⟩
    | extra :: further =>
      match Decoder.uint8 extra with
      | .ok _ => throw (.length 33 "exactly 32 bytes")
      | .error _ =>
        if further.isEmpty then return ⟨BitVec.ofNat 256 word⟩
        else throw (.length elements.length "fewer elements in array")
  | other =>
    .error (.kind other
      "32 bytes, represented as a hex string of length 64, an array of u8, or raw bytes")

/-- The document of a hash. -/
def toJson (hash : BlockHash) : Json :=
  .text hash.render

end BlockHash

end ChainIdentity
