import ChainIdentity.Network.Descriptor
import ChainIdentity.Proofs.Hexadecimal
import ChainIdentity.Proofs.Raising

/-!
# Which blocks can be read

A node writes a block's hash as `0x` and sixty-four hexadecimal digits and its number as `0x` and
hexadecimal digits.  The reader takes these blocks, and it takes some more: the hash may do without
its marker, and between the marker of the number and its digits there may be a sign.
`BlockId.Spelled` says what a block spells behind a given marker and a given sign, and
`BlockId.parse_iff_spelled` that the blocks that can be read are those that spell something.  Of
these, exactly the ones whose hash has its marker and whose number has no sign are in the form of a
node.  `BlockId.parse_takes_sign` has one that is not.
-/

namespace ChainIdentity

open Text Numeral Digit

/-! ## The bytes of a numeral -/

namespace BlockHash

/-- An ASCII character is its only byte. -/
theorem utf8EncodeChar_ascii {c : Char} (ascii : c.toNat < 128) :
    ∃ byte, String.utf8EncodeChar c = [byte] ∧ Char.ofNat byte.toNat = c := by
  refine ⟨UInt8.ofNat c.toNat, if_pos (Nat.le_of_lt_succ ascii), ?_⟩
  rw [UInt8.toNat_ofNat', Nat.mod_eq_of_lt (by omega), Char.ofNat_toNat]

/-- Any other character starts with a byte outside ASCII. -/
theorem utf8EncodeChar_beyond {c : Char} (beyond : 128 ≤ c.toNat) :
    ∃ byte more, String.utf8EncodeChar c = byte :: more ∧ 128 ≤ byte.toNat := by
  have past : ¬ c.val.toNat ≤ 127 := Nat.not_le_of_lt beyond
  have kept (n : Nat) (low : 128 ≤ n) (high : n < 256) : 128 ≤ (UInt8.ofNat n).toNat := by
    rwa [UInt8.toNat_ofNat', Nat.mod_eq_of_lt high]
  unfold String.utf8EncodeChar
  simp only [if_neg past]
  split
  · exact ⟨_, _, rfl, kept _ (by omega) (by omega)⟩
  · split
    · exact ⟨_, _, rfl, kept _ (by omega) (by omega)⟩
    · exact ⟨_, _, rfl, kept _ (by omega) (by omega)⟩

/-- The first byte of a character decides whether it is a digit, and a digit is that byte. -/
theorem utf8EncodeChar_cases (c : Char) :
    ∃ byte more, String.utf8EncodeChar c = byte :: more ∧
      below? 16 (Char.ofNat byte.toNat) = below? 16 c ∧ (IsHexadecimal c → more = []) := by
  by_cases ascii : c.toNat < 128
  · obtain ⟨byte, encoded, same⟩ := utf8EncodeChar_ascii ascii
    exact ⟨byte, [], encoded, by rw [same], fun _ => rfl⟩
  · obtain ⟨byte, more, encoded, high⟩ := utf8EncodeChar_beyond (Nat.le_of_not_lt ascii)
    have none_high : ∀ n < 256, 128 ≤ n → below? 16 (Char.ofNat n) = none := by decide +kernel
    have other : ¬ IsHexadecimal c := fun digit => ascii digit.lt
    refine ⟨byte, more, encoded, ?_, fun digit => absurd digit other⟩
    rw [none_high byte.toNat byte.toNat_lt high, below?_sixteen, if_neg other]

/-- The reader of bytes takes the numerals. -/
theorem foldBytes_eq_ok_iff {position read n : Nat} {cs : List Char} :
    foldBytes position read (cs.flatMap String.utf8EncodeChar) = .ok n ↔ Continues read cs n := by
  induction cs generalizing position read with
  | nil =>
    rw [List.flatMap_nil, foldBytes, continues_nil_iff, Except.ok.injEq]
  | cons c rest ih =>
    obtain ⟨byte, more, encoded, same, single⟩ := utf8EncodeChar_cases c
    rw [List.flatMap_cons, encoded, List.cons_append, foldBytes, same, below?_sixteen,
      continues_cons_iff]
    by_cases digit : IsHexadecimal c
    · rw [if_pos digit, single digit, List.nil_append]
      simp only [ih, digit, true_and]
    · rw [if_neg digit]
      simp only [digit, reduceCtorEq, false_and]

/-- A numeral has a byte for each of its digits. -/
theorem length_bytes {cs : List Char} (digits : ∀ c ∈ cs, IsHexadecimal c) :
    (cs.flatMap String.utf8EncodeChar).length = cs.length := by
  induction cs with
  | nil => rfl
  | cons c rest ih =>
    have ⟨first, others⟩ := List.forall_mem_cons.mp digits
    obtain ⟨byte, more, encoded, _, single⟩ := utf8EncodeChar_cases c
    rw [List.flatMap_cons, encoded, single first, List.cons_append, List.nil_append,
      List.length_cons, ih others, List.length_cons]

/-! ## The text of a hash -/

/-- What may stand in front of the digits of a hash. -/
def markers : List (List Char) := [[], ['0', 'x']]

/-- A marker is taken off digits, and digits without one are left alone. -/
theorem withoutMarker_append {marker digits : List Char} (among : marker ∈ markers)
    (numeral : ∀ c ∈ digits, IsHexadecimal c) : withoutMarker (marker ++ digits) = digits := by
  simp only [markers, List.mem_cons, List.not_mem_nil, or_false] at among
  rcases among with rfl | rfl
  · rw [List.nil_append]
    unfold withoutMarker
    split
    · rename_i rest
      exact absurd (numeral 'x' (by simp)) (by decide)
    · rfl
  · rfl

/-- Every text is a marker with the rest behind it. -/
theorem withoutMarker_cases (cs : List Char) :
    ∃ marker ∈ markers, cs = marker ++ withoutMarker cs := by
  unfold withoutMarker
  split
  · exact ⟨['0', 'x'], by decide, rfl⟩
  · exact ⟨[], by decide, rfl⟩

/-- The bytes of a hash are measured before any of them is read, so what is asked of a text is two
things: the length of its bytes and that they are digits. -/
theorem read_measured {text : String} {hash : BlockHash} :
    read text = .ok hash ↔
      ((withoutMarker text.toList).flatMap String.utf8EncodeChar).length = 64 ∧
        ∃ n, Hexadecimal (withoutMarker text.toList) n ∧ ⟨BitVec.ofNat 256 n⟩ = hash := by
  unfold read
  simp only
  split
  · simp only [reduceCtorEq, false_iff, not_and]
    omega
  · split
    · rename_i wrong
      simp only [reduceCtorEq, wrong, false_and]
    · rename_i right
      rw [map_eq_ok_iff]
      simp only [foldBytes_eq_ok_iff, Decidable.not_not.mp right, true_and]

/-- The texts of a hash are its sixty-four digits, with or without the marker. -/
theorem read_eq_ok_iff {text : String} {hash : BlockHash} :
    read text = .ok hash ↔ ∃ marker ∈ markers, ∃ digits, text.toList = marker ++ digits ∧
      digits.length = 64 ∧ Hexadecimal digits hash.word.toNat := by
  rw [read_measured]
  constructor
  · rintro ⟨length, n, numeral, rfl⟩
    obtain ⟨marker, among, text_eq⟩ := withoutMarker_cases text.toList
    rw [length_bytes numeral.digits] at length
    refine ⟨marker, among, _, text_eq, length, ?_⟩
    have bound := numeral.lt
    rw [length] at bound
    rwa [BitVec.toNat_ofNat, Nat.mod_eq_of_lt bound]
  · rintro ⟨marker, among, digits, text_eq, length, numeral⟩
    rw [text_eq, withoutMarker_append among numeral.digits, length_bytes numeral.digits]
    refine ⟨length, _, numeral, ?_⟩
    rw [BitVec.ofNat_toNat, BitVec.setWidth_eq]

end BlockHash

/-! ## The text of a number -/

/-- The number of a block is what the reader of signed numbers makes of the text behind its
marker. -/
theorem readBlockNumber_marked {text : String} {index : Int64} :
    readBlockNumber text = some index ↔ ∃ rest, text.toList = '0' :: 'x' :: rest ∧
      readSigned 16 0x7FFFFFFFFFFFFFFF rest = .ok index.toInt := by
  unfold readBlockNumber
  split
  · rename_i rest text_eq
    have only (rest' : List Char) : text.toList = '0' :: 'x' :: rest' ↔ rest = rest' := by
      rw [text_eq]
      simp
    simp only [only, exists_eq_left']
    cases read : readSigned 16 0x7FFFFFFFFFFFFFFF rest with
    | error e => simp only [reduceCtorEq]
    | ok n =>
      -- The reader keeps the number within the range of the word, so nothing wraps.
      obtain ⟨_, _, _, _, _, _, _, _, low, high⟩ := readSigned_eq_ok_iff.mp read
      have kept : (Int64.ofInt n).toInt = n :=
        Int64.toInt_ofInt_of_le (by omega) (by omega)
      constructor
      · intro same
        rw [← Option.some.inj same, kept]
      · intro same
        obtain rfl := Except.ok.inj same
        exact congrArg some index.ofInt_toInt
  · rename_i unmarked
    simp only [reduceCtorEq, false_iff, not_exists, not_and]
    exact fun rest text_eq => absurd text_eq (unmarked rest)

/-- The texts of a block's number are the marker, no sign or one, and the digits. -/
theorem readBlockNumber_eq_some_iff {text : String} {index : Int64} :
    readBlockNumber text = some index ↔ ∃ sign ∈ signs, ∃ digits n,
      text.toList = '0' :: 'x' :: (sign ++ digits) ∧ digits ≠ [] ∧ Hexadecimal digits n ∧
        index.toInt = signed sign n := by
  rw [readBlockNumber_marked]
  constructor
  · rintro ⟨rest, text_eq, read⟩
    obtain ⟨sign, among, digits, n, rfl, present, numeral, value, _⟩ :=
      readSigned_eq_ok_iff.mp read
    exact ⟨sign, among, digits, n, text_eq, present, numeral, value⟩
  · rintro ⟨sign, among, digits, n, text_eq, present, numeral, value⟩
    refine ⟨_, text_eq, readSigned_eq_ok_iff.mpr
      ⟨sign, among, digits, n, rfl, present, numeral, value, ?_, ?_⟩⟩
    · have low := index.le_toInt
      omega
    · have high := index.toInt_lt
      omega

/-! ## The block -/

namespace BlockId

/-- The block spells the identifier, with `marker` in front of the digits of the hash and `sign` in
front of those of the number. -/
structure Spelled (marker sign : List Char) (block : Json) (id : BlockId) : Prop where
  /-- The hash is sixty-four digits behind its marker. -/
  hash : ∃ text digits, block.member? "hash" = some (.text text) ∧
    text.toList = marker ++ digits ∧ digits.length = 64 ∧ Hexadecimal digits id.hash.word.toNat
  /-- The number is one digit or more behind marker and sign. -/
  number : ∃ text digits n, block.member? "number" = some (.text text) ∧
    text.toList = '0' :: 'x' :: (sign ++ digits) ∧ digits ≠ [] ∧ Hexadecimal digits n ∧
      id.index.toInt = signed sign n

/-- The block spells the identifier as nodes do: hash and number are digits behind `0x`. -/
abbrev InNodeForm (block : Json) (id : BlockId) : Prop :=
  Spelled ['0', 'x'] [] block id

variable {marker marker' sign sign' : List Char} {block : Json} {id id' : BlockId}

/-- A block spells its hash behind one marker. -/
theorem Spelled.marker_unique (spelled : Spelled marker sign block id)
    (spelled' : Spelled marker' sign' block id') (among : marker ∈ BlockHash.markers)
    (among' : marker' ∈ BlockHash.markers) : marker = marker' := by
  have ends : ∀ marker ∈ BlockHash.markers, marker.getLast?.all (¬ IsHexadecimal ·) := by decide
  obtain ⟨text, digits, member, text_eq, _, numeral⟩ := spelled.hash
  obtain ⟨text', digits', member', text_eq', _, numeral'⟩ := spelled'.hash
  have same : text = text' := Json.text.inj (Option.some.inj (member.symm.trans member'))
  exact prefix_unique (ends marker among) (ends marker' among') numeral.digits numeral'.digits
    (by rw [← text_eq, same, text_eq'])

/-- A block spells its number behind one sign. -/
theorem Spelled.sign_unique (spelled : Spelled marker sign block id)
    (spelled' : Spelled marker' sign' block id') (among : sign ∈ signs)
    (among' : sign' ∈ signs) : sign = sign' := by
  have ends : ∀ sign ∈ signs, sign.getLast?.all (¬ IsHexadecimal ·) := by decide
  obtain ⟨text, digits, n, member, text_eq, _, numeral, _⟩ := spelled.number
  obtain ⟨text', digits', n', member', text_eq', _, numeral', _⟩ := spelled'.number
  have same : text = text' := Json.text.inj (Option.some.inj (member.symm.trans member'))
  have tails : sign ++ digits = sign' ++ digits' := by
    rw [same, text_eq'] at text_eq
    injection text_eq with _ text_eq
    injection text_eq with _ text_eq
    exact text_eq.symm
  exact prefix_unique (ends sign among) (ends sign' among') numeral.digits numeral'.digits tails

/-- A member can be read as a text exactly if it is one. -/
theorem text_member_iff {name text : String} :
    (block.member? name).bind Json.text? = some text ↔ block.member? name = some (.text text) := by
  cases block.member? name with
  | none => simp
  | some member => cases member <;> simp [Json.text?]

/-- A block that is read has a text for its hash and a text for its number, and both can be read. -/
theorem texts_of_ofNode (accepted : ofNode block = .ok id) :
    (∃ text, (block.member? "hash").bind Json.text? = some text ∧
        BlockHash.read text = .ok id.hash) ∧
      ∃ text, (block.member? "number").bind Json.text? = some text ∧
        readBlockNumber text = some id.index := by
  -- A guard that fails ends in an error, so behind each of them only its success is left.
  unfold ofNode at accepted
  cases present : block.isNull with
  | true =>
    rw [present] at accepted
    cases accepted
  | false =>
    rw [present, if_neg Bool.false_ne_true] at accepted
    cases hashMember : (block.member? "hash").bind Json.text? with
    | none =>
      rw [hashMember] at accepted
      cases accepted
    | some hashText =>
      rw [hashMember] at accepted
      simp only [pure_bind] at accepted
      cases hash : BlockHash.read hashText with
      | error e =>
        rw [hash] at accepted
        cases accepted
      | ok hash' =>
        rw [hash] at accepted
        simp only at accepted
        cases numberMember : (block.member? "number").bind Json.text? with
        | none =>
          rw [numberMember] at accepted
          cases accepted
        | some numberText =>
          rw [numberMember] at accepted
          simp only at accepted
          cases number : readBlockNumber numberText with
          | none =>
            rw [number] at accepted
            cases accepted
          | some index =>
            rw [number] at accepted
            cases accepted
            exact ⟨⟨hashText, rfl, hash⟩, numberText, rfl, number⟩

/-- A block whose two texts can be read is read. -/
theorem ofNode_of_texts {hashText numberText : String}
    (hashMember : (block.member? "hash").bind Json.text? = some hashText)
    (hash : BlockHash.read hashText = .ok id.hash)
    (numberMember : (block.member? "number").bind Json.text? = some numberText)
    (number : readBlockNumber numberText = some id.index) : ofNode block = .ok id := by
  have present : block.isNull = false := by
    cases block <;> first | rfl | cases hashMember
  unfold ofNode
  rw [present, if_neg Bool.false_ne_true, hashMember, numberMember]
  simp only [pure_bind]
  rw [hash]
  simp only
  rw [number]
  rfl

/-- A block is read by its two members. -/
theorem ofNode_eq_ok_iff :
    ofNode block = .ok id ↔
      (∃ text, block.member? "hash" = some (.text text) ∧ BlockHash.read text = .ok id.hash) ∧
        ∃ text, block.member? "number" = some (.text text) ∧
          readBlockNumber text = some id.index := by
  simp only [← text_member_iff]
  constructor
  · exact texts_of_ofNode
  · rintro ⟨⟨hashText, hashMember, hash⟩, numberText, numberMember, number⟩
    exact ofNode_of_texts hashMember hash numberMember number

/-- A block can be read exactly if it spells an identifier, and that is the identifier read.  It is
in the form of a node exactly if the marker is there and no sign is. -/
theorem parse_iff_spelled (block : Json) (id : BlockId) (journal : Journal) :
    (parse block journal).1 = .ok id ↔
      ∃ marker ∈ BlockHash.markers, ∃ sign ∈ signs, Spelled marker sign block id ∧
        (InNodeForm block id ↔ marker = ['0', 'x'] ∧ sign = []) := by
  rw [parse_eq_ok_iff, ofNode_eq_ok_iff]
  simp only [BlockHash.read_eq_ok_iff, readBlockNumber_eq_some_iff]
  constructor
  · rintro ⟨⟨hashText, hashMember, marker, marked, digits, hash⟩,
      numberText, numberMember, sign, among, digits', n, number⟩
    have spelled : Spelled marker sign block id :=
      ⟨⟨hashText, digits, hashMember, hash⟩, numberText, digits', n, numberMember, number⟩
    refine ⟨marker, marked, sign, among, spelled, ?_⟩
    constructor
    · intro plain
      exact ⟨spelled.marker_unique plain marked (by decide),
        spelled.sign_unique plain among (by decide)⟩
    · rintro ⟨rfl, rfl⟩
      exact spelled
  · rintro ⟨marker, marked, sign, among, ⟨⟨hashText, digits, hashMember, hash⟩,
      numberText, digits', n, numberMember, number⟩, _⟩
    exact ⟨⟨hashText, hashMember, marker, marked, digits, hash⟩,
      numberText, numberMember, sign, among, digits', n, number⟩

/-- A block with a minus sign in its number. -/
def signedBlock : Json :=
  .object [("hash", .text Network.buffalo.genesisHash.render), ("number", .text "0x-1")]

/-- Not every block that can be read is in the form of a node: a number behind a minus sign is read,
as a negative index. -/
theorem parse_takes_sign :
    ¬ ∀ (block : Json) (id : BlockId) (journal : Journal),
      (parse block journal).1 = .ok id → InNodeForm block id := by
  intro claim
  have read : ofNode signedBlock = .ok ⟨-1, Network.buffalo.genesisHash⟩ := by
    refine ofNode_eq_ok_iff.mpr ⟨⟨_, rfl, BlockHash.read_render _⟩, "0x-1", rfl, ?_⟩
    decide +kernel
  have plain := claim signedBlock _ .empty ((parse_eq_ok_iff .empty).mpr read)
  obtain ⟨text, digits, n, member, text_eq, _, numeral, _⟩ := plain.number
  obtain rfl : "0x-1" = text := Json.text.inj (Option.some.inj member)
  have tail : digits = ['-', '1'] := by
    rw [show "0x-1".toList = ['0', 'x', '-', '1'] by decide] at text_eq
    simpa using text_eq.symm
  have minus : IsHexadecimal '-' := numeral.digits '-' (by rw [tail]; exact List.mem_cons_self)
  exact absurd minus (by decide)

end BlockId

end ChainIdentity
