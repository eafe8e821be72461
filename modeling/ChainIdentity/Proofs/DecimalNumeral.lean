import ChainIdentity.Proofs.Numeral

/-!
# Decimal numerals

What a run of characters means as a decimal numeral, said without any reader: `Numeral.Decimal`
relates decimal digits to the number that they make up.  The reader of unsigned numbers is measured
by it in `readUnsigned_ten_eq_ok_iff`: it takes exactly the numerals within its limit, behind a plus
sign or without one.
-/

namespace ChainIdentity.Text

/-- The value of a decimal digit. -/
def Digit.decimalWorth (c : Char) : Nat := c.toNat - '0'.toNat

/-- The table of digits has the decimal ones with their values. -/
theorem Digit.below?_ten (c : Char) :
    Digit.below? 10 c = if c.isDigit then some (decimalWorth c) else none := by
  have decimal_iff : c.isDigit = true ↔ '0' ≤ c ∧ c ≤ '9' := by
    unfold Char.isDigit
    rw [Bool.and_eq_true, decide_eq_true_iff, decide_eq_true_iff]
    rfl
  unfold Digit.below? Digit.value?
  by_cases decimal : '0' ≤ c ∧ c ≤ '9'
  · have digit : c.isDigit = true := decimal_iff.mpr decimal
    have small : c.toNat - '0'.toNat < 10 := by
      have high : c.toNat ≤ '9'.toNat := decimal.2
      have nine : '9'.toNat = 57 := rfl
      have zero : '0'.toNat = 48 := rfl
      omega
    rw [if_pos decimal, if_pos digit, Option.filter_some, if_pos (by simpa using small)]
    rfl
  · have other : ¬ c.isDigit = true := fun digit => decimal (decimal_iff.mp digit)
    rw [if_neg decimal, if_neg other]
    -- Letters have values from ten on.
    split
    · simp
    · split
      · simp
      · rfl

namespace Numeral

/-- The characters are decimal digits of the value `n`. -/
structure Decimal (cs : List Char) (n : Nat) : Prop where
  /-- Every character is a digit. -/
  digits : ∀ c ∈ cs, c.isDigit = true
  /-- The value is the positional one, the last digit counting the ones. -/
  value : Nat.ofDigits 10 (cs.map Digit.decimalWorth).reverse = n

/-- Digits are read to their value if it is within the limit, and there has to be one. -/
theorem readDigits_ten_eq_ok_iff {limit n : Nat} {cs : List Char} :
    readDigits 10 limit cs = .ok n ↔ cs ≠ [] ∧ Decimal cs n ∧ n ≤ limit := by
  have known (c : Char) : (Digit.below? 10 c).isSome ↔ c.isDigit = true := by
    rw [Digit.below?_ten]
    split <;> simp_all
  cases cs with
  | nil => simp [readDigits]
  | cons c rest =>
    have worths (digits : ∀ d ∈ c :: rest, d.isDigit = true) :
        (c :: rest).map (fun d => (Digit.below? 10 d).getD 0)
          = (c :: rest).map Digit.decimalWorth := by
      refine List.map_congr_left fun d among => ?_
      rw [Digit.below?_ten, if_pos (digits d among), Option.getD_some]
    rw [readDigits, foldBounded_eq_ok_iff_below (by decide) (Nat.zero_le limit)]
    · simp only [known]
      constructor
      · rintro ⟨digits, value, within⟩
        rw [worths digits, valueOn_eq_ofDigits] at value
        exact ⟨List.cons_ne_nil c rest, ⟨digits, value⟩, within⟩
      · rintro ⟨-, decimal, within⟩
        refine ⟨decimal.digits, ?_, within⟩
        rw [worths decimal.digits, valueOn_eq_ofDigits]
        exact decimal.value
    · exact List.cons_ne_nil c rest

/-- A plus sign may stand in front of the digits. -/
theorem readUnsigned_ten_eq_ok_iff {limit n : Nat} {cs : List Char} :
    readUnsigned 10 limit cs = .ok n ↔
      ∃ digits, (cs = digits ∨ cs = '+' :: digits) ∧ digits ≠ [] ∧ Decimal digits n ∧
        n ≤ limit := by
  unfold readUnsigned
  split
  · constructor
    · intro contra
      cases contra
    · rintro ⟨digits, same | same, present, -⟩
      · exact absurd same.symm present
      · cases same
  · rename_i rest
    rw [readDigits_ten_eq_ok_iff]
    constructor
    · intro reads
      exact ⟨rest, .inr rfl, reads⟩
    · rintro ⟨digits, rfl | same, present, decimal, within⟩
      · exact absurd (decimal.digits '+' List.mem_cons_self) (by decide)
      · rw [(List.cons.inj same).2]
        exact ⟨present, decimal, within⟩
  · rename_i unsigned
    rw [readDigits_ten_eq_ok_iff]
    constructor
    · intro reads
      exact ⟨cs, .inl rfl, reads⟩
    · rintro ⟨digits, rfl | same, reads⟩
      · exact reads
      · exact absurd same (unsigned digits)

end Numeral

end ChainIdentity.Text
