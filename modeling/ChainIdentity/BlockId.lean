import ChainIdentity.BlockHash
import ChainIdentity.Text.Numeral

/-!
# Block identifiers

A block is identified by its index in the chain together with its hash.  The index is a signed
word of 64 bits, as clients exchange it.
-/

namespace ChainIdentity

open Text

/-- Hash and index of a block. -/
structure BlockId where
  /-- The index in the chain. -/
  index : Int64
  /-- The hash. -/
  hash : BlockHash
deriving DecidableEq, Repr

namespace BlockId

/-- The first block of a chain with the given hash. -/
def genesis (hash : BlockHash) : BlockId :=
  ⟨0, hash⟩

/-- The text `hash@index`. -/
def render (block : BlockId) : String :=
  block.hash.render ++ "@" ++ Numeral.signedDecimal block.index.toInt

/-- The record of an identifier. -/
def write (build : Json.Builder) (block : BlockId) : Json :=
  build [("index", .integer block.index.toInt), ("hash", block.hash.toJson)]

/-- The document of an identifier. -/
def toJson : BlockId → Json := write .ofMembers

/-- Reads an identifier from a document. -/
def decode : Decoder BlockId :=
  Decoder.record "BlockIdentifier" 2 <|
    .also (.also (.always mk) (.field 0 "index" Decoder.int64))
      (.field 1 "hash" BlockHash.decode)

end BlockId

end ChainIdentity
