import ChainIdentity.Proofs.Hexadecimal
import ChainIdentity.Proofs.Raising

/-!
# Which quantities can be read

A node writes a quantity as `0x` and hexadecimal digits.  The reader takes these texts, and it takes
some more: underscores among the digits mean nothing, and no digit at all is zero.
`Quantity.Denotes` says what a text stands for with that allowed, and `Quantity.parse_iff_denotes`
that the texts that can be read are those that stand for something, which of them are in the form of
a node, and which of them stand for the same quantity.
-/

namespace ChainIdentity.Quantity

open Text Numeral Digit

/-! ## Digits with separators -/

/-- The characters without the underscores, which separate digits and mean nothing. -/
def withoutSeparators (cs : List Char) : List Char :=
  cs.filter (· ≠ '_')

/-- The reader of quantities takes the numerals of 256 bits, separators left out. -/
theorem foldDigits_eq_ok_iff {read n : Nat} {cs : List Char} (fits : read < Nat.pow 2 256) :
    foldDigits 16 read cs = .ok n ↔
      Continues read (withoutSeparators cs) n ∧ n < Nat.pow 2 256 := by
  induction cs generalizing read with
  | nil =>
    rw [foldDigits, withoutSeparators, List.filter_nil, continues_nil_iff, Except.ok.injEq,
      iff_self_and]
    rintro rfl
    exact fits
  | cons c rest ih =>
    by_cases separator : c = '_'
    · subst separator
      exact ih fits
    have kept : withoutSeparators (c :: rest) = c :: withoutSeparators rest :=
      List.filter_cons_of_pos (by simpa using separator)
    rw [kept, continues_cons_iff, foldDigits]
    by_cases digit : IsHexadecimal c
    · simp only [digit.value?, if_neg (Nat.not_le_of_lt digit.worth_lt), digit, true_and]
      by_cases inside : read * 16 + worth c < Nat.pow 2 256
      · rw [if_pos inside, ih inside]
      · simp only [if_neg inside, reduceCtorEq, false_iff, not_and]
        intro continued within
        exact inside (continued.le.trans_lt within)
    · -- Any other character is a digit of a larger radix or none at all.
      simp only [digit, false_and, iff_false]
      cases known : Digit.value? c with
      | none =>
        simp only [if_neg separator, reduceCtorEq, not_false_eq_true]
      | some d =>
        simp only [if_pos (sixteen_le digit known), reduceCtorEq, not_false_eq_true]

/-! ## The text -/

/-- The text stands for the quantity: behind its marker there are the digits of the quantity, with
separators anywhere among them. -/
def Denotes (text : String) (q : Quantity) : Prop :=
  ∃ rest, text.toList = '0' :: 'x' :: rest ∧ Hexadecimal (withoutSeparators rest) q.toNat

/-- The text stands for the quantity as nodes write it: one digit or more behind the marker, and
nothing else. -/
def InNodeForm (text : String) (q : Quantity) : Prop :=
  ∃ digits, text.toList = '0' :: 'x' :: digits ∧ digits ≠ [] ∧ Hexadecimal digits q.toNat

/-- What counts of a text: its digits without separators, in lower case and without zeros in
front. -/
def counted (text : String) : List Char :=
  significant (withoutSeparators (text.toList.drop 2))

/-- Digits are read as a quantity if they are those of one. -/
theorem ofDigits_eq_ok_iff {cs : List Char} {q : Quantity} :
    ofDigits 16 cs = .ok q ↔ Hexadecimal (withoutSeparators cs) q.toNat := by
  unfold ofDigits
  rw [map_eq_ok_iff]
  simp only [foldDigits_eq_ok_iff (Nat.pow_pos (by decide : 0 < 2))]
  constructor
  · rintro ⟨n, ⟨numeral, within⟩, rfl⟩
    rwa [BitVec.toNat_ofNat, Nat.mod_eq_of_lt within]
  · intro numeral
    refine ⟨q.toNat, ⟨numeral, q.isLt⟩, ?_⟩
    rw [BitVec.ofNat_toNat, BitVec.setWidth_eq]

/-- A value is read as a quantity if it is a text that stands for one. -/
theorem ofNode_eq_ok_iff {value : Json} {q : Quantity} :
    ofNode value = .ok q ↔ ∃ text, value = .text text ∧ Denotes text q := by
  unfold ofNode
  split
  · rename_i text
    simp only [Json.text.injEq, exists_eq_left']
    split
    · rename_i rest text_eq
      have denotes : Denotes text q ↔ ofDigits 16 rest = .ok q := by
        unfold Denotes
        rw [ofDigits_eq_ok_iff, text_eq]
        simp
      rw [denotes]
      cases ofDigits 16 rest with
      | ok q' => simp only [Except.ok.injEq]
      | error error => simp only [reduceCtorEq]
    · rename_i unmarked
      simp only [reduceCtorEq, false_iff]
      rintro ⟨rest, text_eq, _⟩
      exact unmarked rest text_eq
  · rename_i other
    simp only [reduceCtorEq, false_iff]
    rintro ⟨text, text_eq, _⟩
    exact other text text_eq

variable {text text' : String} {q q' : Quantity}

/-- Without separators and not empty, a text is in the form of a node. -/
theorem Denotes.inNodeForm_iff (denotes : Denotes text q) :
    InNodeForm text q ↔ text ≠ "0x" ∧ '_' ∉ text.toList := by
  obtain ⟨rest, text_eq, numeral⟩ := denotes
  constructor
  · rintro ⟨digits, text_eq', present, plain⟩
    refine ⟨?_, ?_⟩
    · rintro rfl
      exact present (by simpa using text_eq'.symm)
    · rw [text_eq']
      intro among
      have within : '_' ∈ digits := by simpa using among
      exact absurd (plain.digits '_' within) (by decide)
  · rintro ⟨more, clean⟩
    have present : rest ≠ [] := by
      rintro rfl
      exact more (String.toList_injective text_eq)
    have same : withoutSeparators rest = rest := by
      refine List.filter_eq_self.mpr fun c among => decide_eq_true ?_
      rintro rfl
      exact clean (text_eq ▸ List.mem_cons_of_mem _ (List.mem_cons_of_mem _ among))
    rw [same] at numeral
    exact ⟨rest, text_eq, present, numeral⟩

/-- Texts stand for the same quantity if they agree in what counts of them. -/
theorem Denotes.eq_iff_counted (denotes : Denotes text q) (denotes' : Denotes text' q') :
    q = q' ↔ counted text = counted text' := by
  obtain ⟨rest, text_eq, numeral⟩ := denotes
  obtain ⟨rest', text_eq', numeral'⟩ := denotes'
  unfold counted
  rw [text_eq, text_eq', List.drop_succ_cons, List.drop_succ_cons, List.drop_zero,
    List.drop_succ_cons, List.drop_succ_cons, List.drop_zero,
    ← numeral.eq_iff_significant numeral', BitVec.toNat_inj]

/-- A value can be read exactly if it is a text that stands for a quantity, and that is the quantity
read.  The text is in the form of a node exactly if there is something behind its marker and no
underscore, and the texts for the same quantity are those that agree in what counts of them. -/
theorem parse_iff_denotes (method : String) (value : Json) (q : Quantity) (journal : Journal) :
    (parse method value journal).1 = .ok q ↔
      ∃ text, value = .text text ∧ Denotes text q ∧
        (InNodeForm text q ↔ text ≠ "0x" ∧ '_' ∉ text.toList) ∧
        ∀ text' q', Denotes text' q' → (q = q' ↔ counted text = counted text') := by
  rw [parse_eq_ok_iff, ofNode_eq_ok_iff]
  constructor
  · rintro ⟨text, value_eq, denotes⟩
    exact ⟨text, value_eq, denotes, denotes.inNodeForm_iff, fun text' q' denotes' =>
      denotes.eq_iff_counted denotes'⟩
  · rintro ⟨text, value_eq, denotes, _⟩
    exact ⟨text, value_eq, denotes⟩

/-- Not every text that can be read is in the form of a node: underscores among the digits are read
over. -/
theorem parse_takes_separator :
    ¬ ∀ (method : String) (value : Json) (q : Quantity) (journal : Journal),
      (parse method value journal).1 = .ok q → ∃ text, value = .text text ∧ InNodeForm text q := by
  intro claim
  have denotes : Denotes "0x4_5b" 1115 :=
    ⟨['4', '_', '5', 'b'], by decide, by decide⟩
  have read : ofNode (.text "0x4_5b") = .ok 1115 := ofNode_eq_ok_iff.mpr ⟨_, rfl, denotes⟩
  obtain ⟨text, same, plain⟩ :=
    claim chainIdMethod _ 1115 .empty ((parse_eq_ok_iff chainIdMethod .empty).mpr read)
  cases same
  exact absurd (denotes.inNodeForm_iff.mp plain).2 (by decide)

end ChainIdentity.Quantity
