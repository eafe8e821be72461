import ChainIdentity.BlockHash
import ChainIdentity.Quantity
import Mathlib.Data.Nat.Digits.Lemmas

/-!
# Numerals read back

Three readers of this library take digits from the left: the one for numbers within a range, the one
for quantities and the one for the bytes of a hash.  They differ in the letters they take, in the
limit they keep and in what they complain about, and agree in what they do with a digit that is
fine.  `reads_digits` says what that amounts to over a whole numeral: a reader of this kind gets
through any digits whose value keeps the limit, and ends with that value.

What is written is the digits of a number, most significant first (`digits`, which is the reverse of
Mathlib's `Nat.digits`), so whatever is written is read back: `readUnsigned_write`,
`Quantity.ofDigits_write` and `BlockHash.read_render` are the three instances.
-/

namespace ChainIdentity

namespace Text

/-! ## Single digits -/

namespace Digit

/-- The value of a digit is the one it is written for. -/
theorem value?_ofNat : ∀ d < 36, value? (ofNat d) = some d := by decide

/-- The digit of a value below the radix is read as this value. -/
theorem below?_ofNat {radix d : Nat} (small : d < radix) (known : radix ≤ 36) :
    below? radix (ofNat d) = some d := by
  unfold below?
  rw [value?_ofNat d (small.trans_le known)]
  simp [small]

/-- A digit is no sign. -/
theorem ofNat_ne_plus : ∀ d < 36, ofNat d ≠ '+' := by decide

/-- A digit is one byte. -/
theorem utf8EncodeChar_ofNat :
    ∀ d < 36, String.utf8EncodeChar (ofNat d) = [UInt8.ofNat (ofNat d).toNat] := by decide

/-- The byte of a digit is the digit. -/
theorem ofNat_byte :
    ∀ d < 36, Char.ofNat (UInt8.ofNat (ofNat d).toNat).toNat = ofNat d := by decide

end Digit

namespace Numeral

/-! ## Digits and their value -/

/-- The value of digits behind those that make up the value read so far. -/
def valueOn (radix : Nat) : Nat → List Nat → Nat :=
  List.foldl fun read d => read * radix + d

/-- A further digit is added to the value so far, times the radix. -/
theorem valueOn_cons (radix read d : Nat) (rest : List Nat) :
    valueOn radix read (d :: rest) = valueOn radix (read * radix + d) rest := rfl

/-- Further digits make a value no smaller. -/
theorem le_valueOn {radix : Nat} (pos : 0 < radix) (digits : List Nat) (read : Nat) :
    read ≤ valueOn radix read digits := by
  induction digits generalizing read with
  | nil => exact Nat.le_refl read
  | cons d rest ih =>
    calc read ≤ read * radix := Nat.le_mul_of_pos_right read pos
      _ ≤ read * radix + d := Nat.le_add_right _ _
      _ ≤ valueOn radix read (d :: rest) := ih _

/-- Zeros in front do not count. -/
theorem valueOn_replicate_append (radix count : Nat) (digits : List Nat) :
    valueOn radix 0 (List.replicate count 0 ++ digits) = valueOn radix 0 digits := by
  induction count with
  | zero => rfl
  | succ count ih => rw [List.replicate_succ, List.cons_append, valueOn_cons, Nat.zero_mul, ih]

/-- Read from the left, a numeral has the value that Mathlib gives its reverse. -/
theorem valueOn_eq_ofDigits (radix : Nat) (digits : List Nat) :
    valueOn radix 0 digits = Nat.ofDigits radix digits.reverse := by
  unfold valueOn
  rw [Nat.ofDigits_eq_foldr, List.foldr_reverse]
  simp only [Nat.cast_id, Nat.add_comm, Nat.mul_comm]

/-- The digits of a number, the most significant one first. -/
def digits (radix n : Nat) : List Nat :=
  if n = 0 then [0] else (Nat.digits radix n).reverse

/-- Every number has a digit, zero included. -/
theorem digits_ne_nil (radix n : Nat) : digits radix n ≠ [] := by
  unfold digits
  split
  · exact List.cons_ne_nil _ _
  · rename_i positive
    simpa using Nat.digits_ne_nil_iff_ne_zero.mpr positive

/-- The digits of a number are less than the radix. -/
theorem lt_of_mem_digits {radix n d : Nat} (two : 2 ≤ radix) (among : d ∈ digits radix n) :
    d < radix := by
  unfold digits at among
  split at among
  · obtain rfl := List.mem_singleton.mp among
    omega
  · exact Nat.digits_lt_base two (List.mem_reverse.mp among)

/-- The digits of a number have its value. -/
theorem valueOn_digits (radix n : Nat) : valueOn radix 0 (digits radix n) = n := by
  unfold digits
  split
  · rename_i zero
    simp [valueOn, zero]
  · rw [valueOn_eq_ofDigits, List.reverse_reverse, Nat.ofDigits_digits]

/-- A number below a power of the radix has no more digits than the exponent says. -/
theorem length_digits_le {radix width n : Nat} (two : 2 ≤ radix) (one : 1 ≤ width)
    (fits : n < radix ^ width) : (digits radix n).length ≤ width := by
  unfold digits
  split
  · exact one
  · rw [List.length_reverse]
    exact (Nat.digits_length_le_iff two n).mpr fits

/-! ## What is written -/

/-- The digits that are worked out from the least significant one on are the library's. -/
theorem reversedDigits_eq {radix : Nat} (two : 2 ≤ radix) (n : Nat) :
    reversedDigits radix n = Nat.digits radix n := by
  induction n using Nat.strongRecOn with
  | ind n ih =>
    rw [reversedDigits]
    rcases Nat.eq_zero_or_pos n with rfl | positive
    · simp
    · simp only [Nat.max_eq_left two]
      rw [dif_neg positive.ne', Nat.digits_def' two positive,
        ih _ (Nat.div_lt_self positive two)]

/-- What is written of a number are its digits, most significant first. -/
theorem write_eq_map {radix : Nat} (two : 2 ≤ radix) (n : Nat) :
    write radix n = (digits radix n).map Digit.ofNat := by
  unfold write digits
  rw [reversedDigits_eq two]
  split <;> rfl

/-- Something is written of every number. -/
theorem write_ne_nil {radix : Nat} (two : 2 ≤ radix) (n : Nat) : write radix n ≠ [] := by
  rw [write_eq_map two]
  simpa using digits_ne_nil radix n

/-- A character that is no digit is in no numeral. -/
theorem notMem_write {radix : Nat} (two : 2 ≤ radix) {c : Char}
    (other : ∀ d < radix, Digit.ofNat d ≠ c) (n : Nat) : c ∉ write radix n := by
  rw [write_eq_map two, List.mem_map]
  rintro ⟨d, among, same⟩
  exact other d (lt_of_mem_digits two among) same

/-- A padded numeral is a numeral with zeros in front of its digits. -/
theorem padded_eq_map {radix : Nat} (two : 2 ≤ radix) (width n : Nat) :
    padded radix width n
      = (List.replicate (width - (digits radix n).length) 0 ++ digits radix n).map
          Digit.ofNat := by
  unfold padded
  rw [write_eq_map two, List.map_append, List.map_replicate]
  simp only [List.length_map]
  rfl

/-! ## What is read -/

/-- A reader that takes a digit on to its value, as long as the value keeps the limit, takes a whole
numeral on to its value.  `place` is whatever else the reader keeps track of. -/
theorem reads_digits {ι β ε : Type} (reader : ι → Nat → List β → Except ε Nat) {letter : Nat → β}
    {radix : Nat} (limit : Nat) (pos : 0 < radix)
    (done : ∀ place read, reader place read [] = .ok read)
    (step : ∀ place read d rest, d < radix → read * radix + d ≤ limit → ∃ place',
      reader place read (letter d :: rest) = reader place' (read * radix + d) rest)
    {digits : List Nat} (small : ∀ d ∈ digits, d < radix) (place : ι) (read : Nat)
    (fits : valueOn radix read digits ≤ limit) :
    reader place read (digits.map letter) = .ok (valueOn radix read digits) := by
  induction digits generalizing place read with
  | nil => exact done place read
  | cons d rest ih =>
    -- The values on the way keep the limit because the last one does.
    have bounded : read * radix + d ≤ limit := (le_valueOn pos rest _).trans fits
    obtain ⟨place', stepped⟩ :=
      step place read d (rest.map letter) (small d List.mem_cons_self) bounded
    rw [List.map_cons, stepped]
    exact ih (fun d' among => small d' (List.mem_cons_of_mem d among)) place' _ fits

/-- A reader with a limit takes digits whose value keeps it, and nothing else. -/
theorem foldBounded_eq_ok_iff_below {radix limit read n : Nat} {cs : List Char} (pos : 0 < radix)
    (fits : read ≤ limit) :
    foldBounded radix limit read cs = .ok n ↔
      (∀ c ∈ cs, (Digit.below? radix c).isSome) ∧
        valueOn radix read (cs.map fun c => (Digit.below? radix c).getD 0) = n ∧ n ≤ limit := by
  induction cs generalizing read with
  | nil =>
    simp only [foldBounded, Except.ok.injEq, List.not_mem_nil, false_implies, implies_true,
      List.map_nil, true_and]
    show read = n ↔ read = n ∧ n ≤ limit
    rw [iff_self_and]
    rintro rfl
    exact fits
  | cons c rest ih =>
    rw [foldBounded, List.forall_mem_cons, List.map_cons, valueOn_cons]
    cases digit : Digit.below? radix c with
    | none =>
      simp only [Option.isSome_none, Bool.false_eq_true, false_and, reduceCtorEq]
    | some d =>
      simp only [Option.isSome_some, Option.getD_some, true_and]
      by_cases inside : read * radix + d ≤ limit
      · rw [if_pos inside, ih inside]
      · -- Further digits do not bring the value back within the limit.
        simp only [if_neg inside, reduceCtorEq, false_iff, not_and]
        rintro - rfl within
        exact inside ((le_valueOn pos _ _).trans within)

/-- Digits within a range are read to their value. -/
theorem foldBounded_map {radix limit : Nat} (pos : 0 < radix) (known : radix ≤ 36)
    {digits : List Nat} (small : ∀ d ∈ digits, d < radix)
    (fits : valueOn radix 0 digits ≤ limit) :
    foldBounded radix limit 0 (digits.map Digit.ofNat) = .ok (valueOn radix 0 digits) := by
  refine reads_digits (fun _ : Unit => foldBounded radix limit) limit pos ?_ ?_ small () 0 fits
  · intro _ read
    rfl
  · intro _ read d rest digit bounded
    refine ⟨(), ?_⟩
    rw [foldBounded, Digit.below?_ofNat digit known]
    exact if_pos bounded

/-- A number within a range is read back from its numeral. -/
theorem readUnsigned_write {radix limit n : Nat} (two : 2 ≤ radix) (known : radix ≤ 36)
    (fits : n ≤ limit) : readUnsigned radix limit (write radix n) = .ok n := by
  have small : ∀ d ∈ digits radix n, d < radix := fun d among => lt_of_mem_digits two among
  have folded : foldBounded radix limit 0 (write radix n) = .ok n := by
    have bounded : valueOn radix 0 (digits radix n) ≤ limit := by rwa [valueOn_digits]
    rw [write_eq_map two, foldBounded_map (by omega) known small bounded, valueOn_digits]
  rcases written : write radix n with _ | ⟨c, rest⟩
  · exact absurd written (write_ne_nil two n)
  · have unsigned : c ≠ '+' := by
      rintro rfl
      have absent : '+' ∉ write radix n :=
        notMem_write two (fun d digit => Digit.ofNat_ne_plus d (digit.trans_le known)) n
      rw [written] at absent
      exact absent List.mem_cons_self
    rw [written] at folded
    unfold readUnsigned
    split
    · contradiction
    · rename_i same
      exact absurd (List.cons.inj same).1 unsigned
    · exact folded

end Numeral

end Text

open Text

/-! ## Quantities -/

namespace Quantity

/-- A quantity is read back from its digits in any radix. -/
theorem ofDigits_write {radix : Nat} (two : 2 ≤ radix) (known : radix ≤ 36) (q : Quantity) :
    ofDigits radix (Numeral.write radix q.toNat) = .ok q := by
  have small : ∀ d ∈ Numeral.digits radix q.toNat, d < radix :=
    fun d among => Numeral.lt_of_mem_digits two among
  have fits : Numeral.valueOn radix 0 (Numeral.digits radix q.toNat) ≤ Nat.pow 2 256 - 1 := by
    rw [Numeral.valueOn_digits]
    exact Nat.le_sub_one_of_lt q.isLt
  have folded : foldDigits radix 0 ((Numeral.digits radix q.toNat).map Digit.ofNat)
      = .ok (Numeral.valueOn radix 0 (Numeral.digits radix q.toNat)) := by
    refine Numeral.reads_digits (fun _ : Unit => foldDigits radix) _ (by omega) ?_ ?_ small () 0
      fits
    · intro _ read
      rfl
    · intro _ read d rest digit bounded
      have inside : read * radix + d < Nat.pow 2 256 := by
        have positive : 0 < Nat.pow 2 256 := Nat.pow_pos (by decide)
        omega
      refine ⟨(), ?_⟩
      show foldDigits radix read (Digit.ofNat d :: rest) = _
      rw [foldDigits, Digit.value?_ofNat d (digit.trans_le known)]
      show (if radix ≤ d then _ else if read * radix + d < Nat.pow 2 256 then _ else _) = _
      rw [if_neg (by omega), if_pos inside]
  unfold ofDigits
  rw [Numeral.write_eq_map two, folded, Numeral.valueOn_digits]
  show Except.ok (BitVec.ofNat 256 q.toNat) = _
  rw [BitVec.ofNat_toNat, BitVec.setWidth_eq]

/-- A quantity is read back from its text. -/
theorem read_render (q : Quantity) : read q.render = .ok q := by
  unfold read render
  rw [String.toList_ofList]
  exact ofDigits_write (by decide) (by decide) q

end Quantity

/-! ## Hashes -/

namespace BlockHash

/-- The bytes of digits are the bytes of the characters. -/
theorem flatMap_utf8EncodeChar {digits : List Nat} (small : ∀ d ∈ digits, d < 36) :
    (digits.map Digit.ofNat).flatMap String.utf8EncodeChar
      = digits.map fun d => UInt8.ofNat (Digit.ofNat d).toNat := by
  induction digits with
  | nil => rfl
  | cons d rest ih =>
    rw [List.map_cons, List.flatMap_cons,
      Digit.utf8EncodeChar_ofNat d (small d List.mem_cons_self),
      ih fun d' among => small d' (List.mem_cons_of_mem d among)]
    rfl

/-- The sixty-four digits of a hash. -/
theorem padded_digits (hash : BlockHash) :
    ∃ digits : List Nat, Numeral.padded 16 64 hash.word.toNat = digits.map Digit.ofNat ∧
      digits.length = 64 ∧ (∀ d ∈ digits, d < 16) ∧
      Numeral.valueOn 16 0 digits = hash.word.toNat := by
  have short : (Numeral.digits 16 hash.word.toNat).length ≤ 64 :=
    Numeral.length_digits_le (by decide) (by decide) hash.word.isLt
  refine ⟨_, Numeral.padded_eq_map (by decide) 64 hash.word.toNat, ?_, ?_, ?_⟩
  · rw [List.length_append, List.length_replicate]
    omega
  · intro d among
    rcases List.mem_append.mp among with padding | digit
    · rw [(List.mem_replicate.mp padding).2]
      decide
    · exact Numeral.lt_of_mem_digits (by decide) digit
  · rw [Numeral.valueOn_replicate_append, Numeral.valueOn_digits]

/-- A hash is read back from its text. -/
theorem read_render (hash : BlockHash) : read hash.render = .ok hash := by
  obtain ⟨digits, written, length, small, value⟩ := padded_digits hash
  have folded : foldBytes 0 0 (digits.map fun d => UInt8.ofNat (Digit.ofNat d).toNat)
      = .ok (Numeral.valueOn 16 0 digits) := by
    refine Numeral.reads_digits foldBytes hash.word.toNat (by decide) ?_ ?_ small 0 0 value.le
    · intro place read
      rfl
    · intro place read d rest digit _
      refine ⟨place + 1, ?_⟩
      rw [foldBytes, Digit.ofNat_byte d (by omega), Digit.below?_ofNat digit (by decide)]
  unfold read render
  rw [String.toList_ofList, withoutMarker, written,
    flatMap_utf8EncodeChar fun d among => (small d among).trans (by decide)]
  simp only [List.length_map, length, folded, value]
  show Except.ok (⟨BitVec.ofNat 256 hash.word.toNat⟩ : BlockHash) = _
  rw [BitVec.ofNat_toNat, BitVec.setWidth_eq]

end BlockHash

end ChainIdentity
