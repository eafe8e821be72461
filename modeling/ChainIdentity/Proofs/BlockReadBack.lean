import ChainIdentity.Proofs.BlockText

/-!
# Blocks that are written are read back

A node writes a block's hash as its text and the block's number as hexadecimal digits behind the
marker; the digits of both may be in either case, and those of the number may have zeros in front.
`BlockId.Writes` says that a document has these two members, whatever others it may have.

`BlockId.parse_written` is the main statement: such a document is read as the hash and the number
that were written, as long as the number is one of a signed word of 64 bits, and is refused
otherwise.  So no number wraps around to another index.  Behind it are the two members by
themselves: `Writes.hash_read`, and `Writes.number_read`, which says of every index whether it is
the one that is read.
-/

namespace ChainIdentity.BlockId

open Text Numeral Digit

/-- The document has the hash and the number as a node writes them.  The letters may be in any case,
and there may be zeros in front of the number. -/
structure Writes (block : Json) (hash : BlockHash) (n : Nat) : Prop where
  /-- The hash is its text, but for the case of its digits. -/
  hash : ∃ text digits, block.member? "hash" = some (.text text) ∧
    text.toList = '0' :: 'x' :: digits ∧
      '0' :: 'x' :: digits.map Char.toLower = hash.render.toList
  /-- The number is its digits behind the marker. -/
  number : ∃ text zeros digits, block.member? "number" = some (.text text) ∧
    text.toList = '0' :: 'x' :: (List.replicate zeros '0' ++ digits) ∧
      digits.map Char.toLower = Numeral.write 16 n

/-! ## The two members -/

/-- The digits of a hash, in any case, are sixty-four and have its value. -/
theorem hexadecimal_of_padded {cs : List Char} {hash : BlockHash}
    (same : cs.map Char.toLower = padded 16 64 hash.word.toNat) :
    cs.length = 64 ∧ Hexadecimal cs hash.word.toNat := by
  obtain ⟨digits, written, length, small, value⟩ := BlockHash.padded_digits hash
  rw [written] at same
  have lengths := congrArg List.length same
  rw [List.length_map, List.length_map, length] at lengths
  have numeral := hexadecimal_of_toLower small same
  rw [value] at numeral
  exact ⟨lengths, numeral⟩

/-- The digits of a number, in any case and behind zeros, have its value. -/
theorem hexadecimal_of_zeros (zeros : Nat) {n : Nat} {cs : List Char}
    (same : cs.map Char.toLower = Numeral.write 16 n) :
    List.replicate zeros '0' ++ cs ≠ [] ∧ Hexadecimal (List.replicate zeros '0' ++ cs) n := by
  constructor
  · intro empty
    have none : cs = [] := (List.append_eq_nil_iff.mp empty).2
    rw [none] at same
    exact write_ne_nil (by decide) n same.symm
  · have lower : (List.replicate zeros '0' ++ cs).map Char.toLower
        = (List.replicate zeros 0 ++ digits 16 n).map Digit.ofNat := by
      rw [List.map_append, List.map_append, same, write_eq_map (by decide), List.map_replicate,
        List.map_replicate]
      rfl
    have small : ∀ d ∈ List.replicate zeros 0 ++ digits 16 n, d < 16 := by
      intro d among
      rcases List.mem_append.mp among with zero | digit
      · rw [(List.mem_replicate.mp zero).2]
        decide
      · exact lt_of_mem_digits (by decide) digit
    have numeral := hexadecimal_of_toLower small lower
    rwa [valueOn_replicate_append, valueOn_digits] at numeral

section

variable {block : Json} {hash : BlockHash} {n : Nat}

/-- The hash that was written is read. -/
theorem Writes.hash_read (writes : Writes block hash n) :
    ∃ text, block.member? "hash" = some (.text text) ∧ BlockHash.read text = .ok hash := by
  obtain ⟨text, digits, member, letters, same⟩ := writes.hash
  have digits_eq : digits.map Char.toLower = padded 16 64 hash.word.toNat := by
    unfold BlockHash.render at same
    rw [String.toList_ofList] at same
    exact (List.cons.inj (List.cons.inj same).2).2
  obtain ⟨length, numeral⟩ := hexadecimal_of_padded digits_eq
  exact ⟨text, member,
    BlockHash.read_eq_ok_iff.mpr ⟨['0', 'x'], by decide, digits, letters, length, numeral⟩⟩

/-- An index is read exactly if it is the number that was written. -/
theorem Writes.number_read (writes : Writes block hash n) :
    ∃ text, block.member? "number" = some (.text text) ∧
      ∀ index, readBlockNumber text = some index ↔ index.toInt = n := by
  obtain ⟨text, zeros, digits, member, letters, same⟩ := writes.number
  obtain ⟨present, numeral⟩ := hexadecimal_of_zeros zeros same
  refine ⟨text, member, fun index => ?_⟩
  rw [readBlockNumber_eq_some_iff]
  constructor
  · rintro ⟨sign, among, digits', n', letters', -, numeral', value⟩
    have tails : sign ++ digits' = [] ++ (List.replicate zeros '0' ++ digits) := by
      rw [letters] at letters'
      exact (List.cons.inj (List.cons.inj letters').2).2.symm
    -- A digit follows the marker, so what is read has no sign.
    have ends : ∀ sign ∈ signs, sign.getLast?.all (¬ IsHexadecimal ·) := by decide
    obtain rfl : sign = [] :=
      prefix_unique (ends sign among) rfl numeral'.digits numeral.digits tails
    obtain rfl : digits' = List.replicate zeros '0' ++ digits := tails
    have same_number : n' = n := numeral'.value.symm.trans numeral.value
    rw [value, same_number]
    rfl
  · intro value
    exact ⟨[], by decide, _, n, letters, present, numeral, value⟩

end

/-! ## The block -/

/-- A block of whose two texts the number cannot be read is refused for its number. -/
theorem ofNode_of_badNumber {block : Json} {hash : BlockHash} {hashText numberText : String}
    (hashMember : block.member? "hash" = some (.text hashText))
    (read : BlockHash.read hashText = .ok hash)
    (numberMember : block.member? "number" = some (.text numberText))
    (unread : readBlockNumber numberText = none) :
    ofNode block = .error (.badNumber numberText) := by
  have present : block.isNull = false := by
    cases block <;> first | rfl | cases hashMember
  unfold ofNode
  rw [present, if_neg Bool.false_ne_true, text_member_iff.mpr hashMember,
    text_member_iff.mpr numberMember]
  simp only [pure_bind]
  rw [read]
  simp only
  rw [unread]
  rfl

section

variable {block : Json} {hash : BlockHash} {n : Nat}

/-- A number that fits into an index is read, together with the hash. -/
theorem Writes.parse_of_lt (writes : Writes block hash n) (fits : n < Nat.pow 2 63)
    (journal : Journal) :
    ∃ id : BlockId, id.index.toInt = n ∧ id.hash = hash ∧
      parse block journal = (.ok id, journal) := by
  obtain ⟨hashText, hashMember, read⟩ := writes.hash_read
  obtain ⟨numberText, numberMember, reads⟩ := writes.number_read
  have index : (Int64.ofNat n).toInt = n := Int64.toInt_ofNat_of_lt fits
  have block_eq : ofNode block = .ok ⟨Int64.ofNat n, hash⟩ :=
    ofNode_eq_ok_iff.mpr
      ⟨⟨hashText, hashMember, read⟩, numberText, numberMember, (reads _).mpr index⟩
  exact ⟨⟨Int64.ofNat n, hash⟩, index, rfl, parse_of_ok block_eq journal⟩

/-- A number that does not fit into an index is refused, and the refusal quotes its text. -/
theorem Writes.parse_of_le (writes : Writes block hash n) (beyond : Nat.pow 2 63 ≤ n)
    (journal : Journal) :
    ∃ text error later, block.member? "number" = some (.text text) ∧
      parse block journal = (.error error, later) ∧ error.problem = .unreadable ∧
      error.context.note = .ofMethod blockMethod (BlockFault.badNumber text).message := by
  obtain ⟨hashText, hashMember, read⟩ := writes.hash_read
  obtain ⟨numberText, numberMember, reads⟩ := writes.number_read
  have unread : readBlockNumber numberText = none := by
    refine Option.eq_none_iff_forall_ne_some.mpr fun index some_index => ?_
    have value := (reads index).mp some_index
    have bound := index.toInt_lt
    have limit : Nat.pow 2 63 = 9223372036854775808 := by decide
    omega
  obtain ⟨error, later, parses, unreadable, note⟩ :=
    parse_of_error (ofNode_of_badNumber hashMember read numberMember unread) journal
  exact ⟨numberText, error, later, numberMember, parses, unreadable, note⟩

/-- A document that has the hash and the number as a node writes them is read as this hash and this
number if the number is less than `2 ^ 63`, and its number is refused otherwise.  No other hash and
no other index are ever read from it. -/
theorem parse_written (writes : Writes block hash n) (journal : Journal) :
    (n < Nat.pow 2 63 → ∃ id : BlockId, id.index.toInt = n ∧ id.hash = hash ∧
      parse block journal = (.ok id, journal)) ∧
    (Nat.pow 2 63 ≤ n → ∃ text error later, block.member? "number" = some (.text text) ∧
      parse block journal = (.error error, later) ∧ error.problem = .unreadable ∧
      error.context.note = .ofMethod blockMethod (BlockFault.badNumber text).message) ∧
    ∀ id, (parse block journal).1 = .ok id → id.index.toInt = n ∧ id.hash = hash := by
  refine ⟨fun fits => writes.parse_of_lt fits journal,
    fun beyond => writes.parse_of_le beyond journal, fun id parsed => ?_⟩
  rcases Nat.lt_or_ge n (Nat.pow 2 63) with fits | beyond
  · obtain ⟨id', index, hash', parses⟩ := writes.parse_of_lt fits journal
    rw [parses] at parsed
    obtain rfl := Except.ok.inj parsed
    exact ⟨index, hash'⟩
  · obtain ⟨_, error, later, _, parses, _⟩ := writes.parse_of_le beyond journal
    rw [parses] at parsed
    cases parsed

end

/-- A document of which a node wrote the hash and the number, the hash in capitals. -/
def capitalBlock (number : String) : Json :=
  .object
    [("hash", .text "0xD90508C51EFD64E75363CDF51114D9F2A90A79E6CD0F78F3C3038B47695C034A"),
     ("number", .text number),
     ("parentHash", .null)]

/-- The capitals of its hash do not keep it from being what a node writes, however many zeros lead
its number. -/
theorem capitalBlock_writes {number : String} {n : Nat} (zeros : Nat) (digits : List Char)
    (letters : number.toList = '0' :: 'x' :: (List.replicate zeros '0' ++ digits))
    (same : digits.map Char.toLower = Numeral.write 16 n) :
    Writes (capitalBlock number) Network.buffalo.genesisHash n := by
  have hash : '0' :: 'x' ::
      "D90508C51EFD64E75363CDF51114D9F2A90A79E6CD0F78F3C3038B47695C034A".toList.map Char.toLower
        = Network.buffalo.genesisHash.render.toList := by decide +kernel
  exact ⟨⟨_, _, rfl, by decide +kernel, hash⟩, number, zeros, digits, rfl, letters, same⟩

/-- The greatest index is read, and the number after it is refused. -/
theorem parse_written_boundary :
    (Writes (capitalBlock "0x00007fffFFFFffffFFFF") Network.buffalo.genesisHash (Nat.pow 2 63 - 1) ∧
      ∃ id : BlockId, id.index.toInt = 9223372036854775807 ∧
        id.hash = Network.buffalo.genesisHash ∧
        parse (capitalBlock "0x00007fffFFFFffffFFFF") .empty = (.ok id, .empty)) ∧
    Writes (capitalBlock "0x8000000000000000") Network.buffalo.genesisHash (Nat.pow 2 63) ∧
      ∃ error later, parse (capitalBlock "0x8000000000000000") .empty = (.error error, later) ∧
        error.problem = .unreadable := by
  have greatest := capitalBlock_writes 4 "7fffFFFFffffFFFF".toList
    (by decide +kernel : "0x00007fffFFFFffffFFFF".toList = _)
    (by decide +kernel : _ = Numeral.write 16 (Nat.pow 2 63 - 1))
  have next := capitalBlock_writes 0 "8000000000000000".toList
    (by decide +kernel : "0x8000000000000000".toList = _)
    (by decide +kernel : _ = Numeral.write 16 (Nat.pow 2 63))
  obtain ⟨id, index, hash, reads⟩ := (parse_written greatest .empty).1 (by decide)
  obtain ⟨_, error, later, _, refused, unreadable, _⟩ := (parse_written next .empty).2.1 le_rfl
  exact ⟨⟨greatest, id, index, hash, reads⟩, next, error, later, refused, unreadable⟩

end ChainIdentity.BlockId
