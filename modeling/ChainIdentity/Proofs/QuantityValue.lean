import ChainIdentity.Network.Descriptor
import ChainIdentity.Proofs.QuantityText

/-!
# Quantities at their exact value

The reader of quantities goes from the left and stops with the digit that leaves the range of 256
bits.  So the value of a numeral is never reduced to what fits: digits to come only add to a value
(`Continues.le`), and one that has left the range does not come back.  `foldDigits_of_continues` is
that for a run of digits of any length, behind any value within the range.

`parse_positional` is the main statement: a text of hexadecimal digits behind the marker is read as
its positional value if there is a quantity of that value, and is too large otherwise.  The text
that stands for a chain id in a document is one of these, and is read back.
-/

namespace ChainIdentity.Quantity

open Text Numeral Digit

/-- The positional value of hexadecimal digits, of which the last one counts the ones. -/
def positional (digits : List Char) : Nat :=
  Nat.ofDigits 16 (digits.map worth).reverse

/-- The text of digits behind the marker. -/
def marked (digits : List Char) : String :=
  String.ofList ('0' :: 'x' :: digits)

/-- Digits are a numeral of their positional value. -/
theorem hexadecimal_positional {digits : List Char} (numeral : ∀ c ∈ digits, IsHexadecimal c) :
    Hexadecimal digits (positional digits) :=
  ⟨numeral, valueOn_eq_ofDigits 16 (digits.map worth)⟩

/-- The value of a numeral is the positional one. -/
theorem positional_eq {digits : List Char} {n : Nat} (numeral : Hexadecimal digits n) :
    positional digits = n := by
  rw [← numeral.value]
  exact (valueOn_eq_ofDigits 16 (digits.map worth)).symm

/-! ## Any number of digits -/

/-- Digits are read on to their value if it is within the range, and leave the range otherwise,
wherever that happens. -/
theorem foldDigits_of_continues {read n : Nat} {cs : List Char} (continued : Continues read cs n)
    (fits : read < Nat.pow 2 256) :
    foldDigits 16 read cs = if n < Nat.pow 2 256 then .ok n else .error .tooLarge := by
  induction cs generalizing read with
  | nil =>
    obtain rfl := continues_nil_iff.mp continued
    rw [foldDigits, if_pos fits]
  | cons c rest ih =>
    obtain ⟨digit, further⟩ := continues_cons_iff.mp continued
    rw [foldDigits, digit.value?]
    simp only [if_neg (Nat.not_le_of_lt digit.worth_lt)]
    by_cases inside : read * 16 + worth c < Nat.pow 2 256
    · rw [if_pos inside]
      exact ih further inside
    · -- What the reader stops at is no more than the value of all digits.
      have beyond : ¬ n < Nat.pow 2 256 := fun within => inside (further.le.trans_lt within)
      rw [if_neg inside, if_neg beyond]

/-- Digits are read as the quantity of their value, if there is one. -/
theorem ofDigits_of_numeral {digits : List Char} {n : Nat} (numeral : Hexadecimal digits n) :
    ofDigits 16 digits =
      if n < Nat.pow 2 256 then .ok (BitVec.ofNat 256 n) else .error .tooLarge := by
  unfold ofDigits
  rw [foldDigits_of_continues numeral (Nat.pow_pos (by decide))]
  split <;> rfl

/-- Behind the marker, what digits are read as is what becomes of the text. -/
theorem ofNode_marked (digits : List Char) :
    ofNode (.text (marked digits))
      = (ofDigits 16 digits).mapError (.badDigits (marked digits)) := by
  have letters : (marked digits).toList = '0' :: 'x' :: digits := String.toList_ofList
  unfold ofNode
  simp only [letters]
  cases ofDigits 16 digits with
  | ok q => rfl
  | error error => rfl

variable {digits : List Char}

/-- Digits of a value within the range are read. -/
theorem parse_of_lt (numeral : ∀ c ∈ digits, IsHexadecimal c)
    (fits : positional digits < Nat.pow 2 256) (method : String) (journal : Journal) :
    ∃ q : Quantity, q.toNat = positional digits ∧
      parse method (.text (marked digits)) journal = (.ok q, journal) := by
  refine ⟨BitVec.ofNat 256 (positional digits), ?_, parse_of_ok ?_ method journal⟩
  · rw [BitVec.toNat_ofNat]
    exact Nat.mod_eq_of_lt fits
  · rw [ofNode_marked, ofDigits_of_numeral (hexadecimal_positional numeral), if_pos fits]
    rfl

/-- Digits of a value beyond the range are not, and that is what is said of them. -/
theorem parse_of_le (numeral : ∀ c ∈ digits, IsHexadecimal c)
    (beyond : Nat.pow 2 256 ≤ positional digits) (method : String) (journal : Journal) :
    ∃ error later, parse method (.text (marked digits)) journal = (.error error, later) ∧
      error.problem = .unreadable ∧
      error.context.note
        = .ofMethod method (QuantityFault.badDigits (marked digits) .tooLarge).message := by
  refine parse_of_error ?_ method journal
  rw [ofNode_marked, ofDigits_of_numeral (hexadecimal_positional numeral),
    if_neg (Nat.not_lt_of_le beyond)]
  rfl

/-- Hexadecimal digits behind the marker, of whatever number, are read as their positional value if
that is less than `2 ^ 256`, and are no quantity otherwise.  The text for a chain id in the document
of a chain configuration is read as this chain id. -/
theorem parse_positional (method : String) (journal : Journal) :
    (∀ digits : List Char, (∀ c ∈ digits, IsHexadecimal c) →
      (positional digits < Nat.pow 2 256 →
        ∃ q : Quantity, q.toNat = positional digits ∧
          parse method (.text (marked digits)) journal = (.ok q, journal)) ∧
      (Nat.pow 2 256 ≤ positional digits →
        ∃ error later, parse method (.text (marked digits)) journal = (.error error, later) ∧
          error.problem = .unreadable ∧
          error.context.note
            = .ofMethod method (QuantityFault.badDigits (marked digits) .tooLarge).message)) ∧
    ∀ config : ChainConfig, ∃ document, config.toJson.member? "chain_id" = some document ∧
      parse method document journal = (.ok config.chainId, journal) := by
  constructor
  · intro digits numeral
    exact ⟨fun fits => parse_of_lt numeral fits method journal,
      fun beyond => parse_of_le numeral beyond method journal⟩
  · intro config
    have written := hexadecimal_write config.chainId.toNat
    have value : positional (write 16 config.chainId.toNat) = config.chainId.toNat :=
      positional_eq written
    have fits : positional (write 16 config.chainId.toNat) < Nat.pow 2 256 := by
      rw [value]
      exact config.chainId.isLt
    obtain ⟨q, same, reads⟩ := parse_of_lt written.digits fits method journal
    obtain rfl : q = config.chainId := BitVec.eq_of_toNat_eq (same.trans value)
    exact ⟨.text config.chainId.render, rfl, reads⟩

/-- The digits of the greatest quantity, with zeros in front and in both cases. -/
def greatestDigits : List Char :=
  List.replicate 3 '0' ++ List.replicate 32 'F' ++ List.replicate 32 'f'

/-- The digits of the number after it. -/
def nextDigits : List Char :=
  '1' :: List.replicate 64 '0'

/-- The greatest quantity is read, and the number after it is not. -/
theorem parse_positional_boundary :
    ((∀ c ∈ greatestDigits, IsHexadecimal c) ∧
      ∃ q : Quantity, q.toNat = Nat.pow 2 256 - 1 ∧
        parse chainIdMethod (.text (marked greatestDigits)) .empty = (.ok q, .empty)) ∧
    (∀ c ∈ nextDigits, IsHexadecimal c) ∧
      ∃ error later,
        parse chainIdMethod (.text (marked nextDigits)) .empty = (.error error, later) ∧
          error.problem = .unreadable := by
  have greatest : Hexadecimal greatestDigits (Nat.pow 2 256 - 1) := by decide +kernel
  have next : Hexadecimal nextDigits (Nat.pow 2 256) := by decide +kernel
  obtain ⟨q, value, reads⟩ := ((parse_positional chainIdMethod .empty).1 _ greatest.digits).1 (by
    rw [positional_eq greatest]
    decide)
  obtain ⟨error, later, reads', unreadable, -⟩ :=
    ((parse_positional chainIdMethod .empty).1 _ next.digits).2 (positional_eq next).ge
  exact ⟨⟨greatest.digits, q, value.trans (positional_eq greatest), reads⟩,
    next.digits, error, later, reads', unreadable⟩

end ChainIdentity.Quantity
