import ChainIdentity.Proofs.Numeral

/-!
# Hexadecimal numerals

What a run of characters means as a hexadecimal numeral is said here without any reader: a
character is a digit if its lower-case form is one of the sixteen of `Digit.hexadecimal`, where its
place is its value, and `Hexadecimal` relates the characters to the number that their values make
up.  The readers of the library are then measured by that relation.  `readSigned_eq_ok_iff` does so
for the reader of signed numbers: it takes exactly the numerals within the range, behind no sign or
one.

A numeral may be written in either case and with zeros in front, and in no other way:
`Hexadecimal.eq_iff_significant` says that numerals of equal value agree in what is left of them
once the letters are in lower case and the zeros in front are dropped.
-/

namespace ChainIdentity

/-- What is accepted of a result that is taken further is what was accepted before. -/
theorem map_eq_ok_iff {ε α β : Type} {f : α → β} {result : Except ε α} {b : β} :
    result.map f = .ok b ↔ ∃ a, result = .ok a ∧ f a = b := by
  cases result with
  | ok a =>
    constructor
    · intro same
      exact ⟨a, rfl, Except.ok.inj same⟩
    · rintro ⟨a', same, rfl⟩
      rw [Except.ok.inj same]
      rfl
  | error e =>
    constructor
    · intro contra
      cases contra
    · rintro ⟨_, contra, _⟩
      cases contra

namespace Text

/-! ## Digits -/

namespace Digit

/-- The hexadecimal digits in the order of their values. -/
def hexadecimal : List Char := "0123456789abcdef".toList

/-- The character is a hexadecimal digit, in either case. -/
def IsHexadecimal (c : Char) : Prop := c.toLower ∈ hexadecimal

instance (c : Char) : Decidable (IsHexadecimal c) :=
  inferInstanceAs (Decidable (c.toLower ∈ hexadecimal))

/-- The value of a hexadecimal digit. -/
def worth (c : Char) : Nat := hexadecimal.idxOf c.toLower

/-- A hexadecimal digit is worth less than sixteen. -/
theorem IsHexadecimal.worth_lt {c : Char} (digit : IsHexadecimal c) : worth c < 16 :=
  List.idxOf_lt_length_of_mem digit

/-- The hexadecimal digits are the ones that are written for the values below sixteen. -/
theorem hexadecimal_eq : hexadecimal = (List.range 16).map ofNat := by decide

/-- In lower case, a hexadecimal digit is the one that is written for its value. -/
theorem IsHexadecimal.exists_ofNat {c : Char} (digit : IsHexadecimal c) :
    ∃ d < 16, ofNat d = c.toLower := by
  have written : c.toLower ∈ (List.range 16).map ofNat := hexadecimal_eq ▸ digit
  obtain ⟨d, small, same⟩ := List.mem_map.mp written
  exact ⟨d, List.mem_range.mp small, same⟩

/-- The digit of a value is the lower-case form of every digit of that value. -/
theorem IsHexadecimal.ofNat_worth {c : Char} (digit : IsHexadecimal c) :
    ofNat (worth c) = c.toLower := by
  have known : ∀ d < 16, ofNat (hexadecimal.idxOf (ofNat d)) = ofNat d := by decide
  obtain ⟨d, small, same⟩ := digit.exists_ofNat
  unfold worth
  rw [← same]
  exact known d small

/-- The digit that is written for a value has this value. -/
theorem worth_ofNat : ∀ d < 16, worth (ofNat d) = d := by decide

/-- A digit is an ASCII character. -/
theorem IsHexadecimal.lt {c : Char} (digit : IsHexadecimal c) : c.toNat < 128 := by
  have known : ∀ d < 16, (ofNat d).toNat < 128 := by decide
  by_cases upper : c.val ≥ 'A'.val ∧ c.val ≤ 'Z'.val
  · have top : c.toNat ≤ 90 := upper.2
    omega
  · obtain ⟨d, small, same⟩ := digit.exists_ofNat
    have unchanged : c.toLower = c := dif_neg upper
    rw [← unchanged, ← same]
    exact known d small

/-- The table of digits ends with ASCII. -/
theorem value?_eq_none_of_le {c : Char} (beyond : 128 ≤ c.toNat) : value? c = none := by
  have past (top : Char) (small : top.toNat < 128) : ¬ c ≤ top := by
    intro least
    have least : c.toNat ≤ top.toNat := least
    omega
  unfold value?
  rw [if_neg fun among => past '9' (by decide) among.2,
    if_neg fun among => past 'z' (by decide) among.2,
    if_neg fun among => past 'Z' (by decide) among.2]

/-- The table of digits knows the hexadecimal ones, with their values. -/
theorem below?_sixteen (c : Char) :
    below? 16 c = if IsHexadecimal c then some (worth c) else none := by
  by_cases ascii : c.toNat < 128
  · have table : ∀ n < 128, below? 16 (Char.ofNat n)
        = if IsHexadecimal (Char.ofNat n) then some (worth (Char.ofNat n)) else none := by
      decide +kernel
    have row := table c.toNat ascii
    rwa [Char.ofNat_toNat] at row
  · rw [if_neg fun digit => ascii digit.lt]
    unfold below?
    rw [value?_eq_none_of_le (Nat.le_of_not_lt ascii)]
    rfl

/-- The table of digits has the value of a hexadecimal one. -/
theorem IsHexadecimal.value? {c : Char} (digit : IsHexadecimal c) :
    Digit.value? c = some (worth c) := by
  have found := below?_sixteen c
  rw [if_pos digit] at found
  exact (Option.filter_eq_some_iff.mp found).1

/-- The table of digits has no other character with a value below sixteen. -/
theorem sixteen_le {c : Char} (other : ¬ IsHexadecimal c) {d : Nat}
    (known : Digit.value? c = some d) : 16 ≤ d := by
  have absent := below?_sixteen c
  rw [if_neg other] at absent
  by_contra below
  have found : below? 16 c = some d :=
    Option.filter_eq_some_iff.mpr ⟨known, decide_eq_true (Nat.lt_of_not_le below)⟩
  rw [absent] at found
  cases found

end Digit

/-! ## Numerals -/

namespace Numeral

open Digit

/-- The characters are hexadecimal digits, and behind digits of the value `read` they make up a
numeral of the value `n`. -/
structure Continues (read : Nat) (cs : List Char) (n : Nat) : Prop where
  /-- Every character is a digit. -/
  digits : ∀ c ∈ cs, IsHexadecimal c
  /-- The value is the one of all digits. -/
  value : valueOn 16 read (cs.map worth) = n

/-- The characters are hexadecimal digits, in either case, of the value `n`. -/
abbrev Hexadecimal (cs : List Char) (n : Nat) : Prop := Continues 0 cs n

instance (read : Nat) (cs : List Char) (n : Nat) : Decidable (Continues read cs n) :=
  decidable_of_iff (cs.all (IsHexadecimal ·) = true ∧ valueOn 16 read (cs.map worth) = n)
    ⟨fun holds => ⟨by simpa using holds.1, holds.2⟩,
      fun continued => ⟨by simpa using continued.digits, continued.value⟩⟩

/-- Without further digits the value stays as it is. -/
theorem continues_nil_iff {read n : Nat} : Continues read [] n ↔ read = n := by
  constructor
  · intro continued
    exact continued.value
  · intro same
    exact ⟨fun c among => absurd among List.not_mem_nil, same⟩

/-- A further digit is added to sixteen times the value so far. -/
theorem continues_cons_iff {read n : Nat} {c : Char} {rest : List Char} :
    Continues read (c :: rest) n ↔
      IsHexadecimal c ∧ Continues (read * 16 + worth c) rest n := by
  constructor
  · intro continued
    have ⟨first, others⟩ := List.forall_mem_cons.mp continued.digits
    exact ⟨first, others, continued.value⟩
  · rintro ⟨first, others, value⟩
    exact ⟨List.forall_mem_cons.mpr ⟨first, others⟩, value⟩

/-- Digits to come only add to the value. -/
theorem Continues.le {read n : Nat} {cs : List Char} (continued : Continues read cs n) :
    read ≤ n := by
  rw [← continued.value]
  exact le_valueOn (by decide) _ read

/-- The values of hexadecimal digits are less than sixteen. -/
theorem Continues.worths_lt {read n : Nat} {cs : List Char} (continued : Continues read cs n) :
    ∀ d ∈ cs.map worth, d < 16 := by
  intro d among
  obtain ⟨c, written, rfl⟩ := List.mem_map.mp among
  exact (continued.digits c written).worth_lt

/-- A numeral is less than the power of the radix for its length. -/
theorem Hexadecimal.lt {cs : List Char} {n : Nat} (numeral : Hexadecimal cs n) :
    n < Nat.pow 16 cs.length := by
  rw [← numeral.value, valueOn_eq_ofDigits]
  have bound := Nat.ofDigits_lt_base_pow_length (b := 16) (l := (cs.map worth).reverse)
    (by decide) fun d among => numeral.worths_lt d (List.mem_reverse.mp among)
  rwa [List.length_reverse, List.length_map] at bound

/-- Behind prefixes that do not end in a digit, two numerals start at the same place. -/
theorem prefix_unique {front front' digits digits' : List Char}
    (ends : front.getLast?.all (¬ IsHexadecimal ·))
    (ends' : front'.getLast?.all (¬ IsHexadecimal ·))
    (numeral : ∀ c ∈ digits, IsHexadecimal c) (numeral' : ∀ c ∈ digits', IsHexadecimal c)
    (same : front ++ digits = front' ++ digits') : front = front' := by
  -- The longer prefix would end in a digit of the other numeral.
  have longer {short long between rest : List Char} (split : long = short ++ between)
      (last : long.getLast?.all (¬ IsHexadecimal ·))
      (numeral : ∀ c ∈ between ++ rest, IsHexadecimal c) : short = long := by
    rcases List.eq_nil_or_concat between with rfl | ⟨start, c, rfl⟩
    · rw [split, List.append_nil]
    · have final : long.getLast? = some c := by simp [split]
      rw [final, Option.all_some, decide_eq_true_iff] at last
      exact absurd (numeral c (by simp)) last
  rcases List.append_eq_append_iff.mp same with ⟨between, split, rfl⟩ | ⟨between, split, rfl⟩
  · exact longer split ends' numeral
  · exact (longer split ends numeral').symm

/-! ## The digits that count -/

/-- What is left of a numeral with its letters in lower case and no zeros in front. -/
def significant (cs : List Char) : List Char :=
  (cs.map Char.toLower).dropWhile (· == '0')

/-- Without the zeros in front, the values are the digits of the number. -/
theorem dropWhile_zeros {radix : Nat} (two : 2 ≤ radix) {digits : List Nat}
    (small : ∀ d ∈ digits, d < radix) :
    digits.dropWhile (· == 0) = (Nat.digits radix (valueOn radix 0 digits)).reverse := by
  induction digits with
  | nil => simp [valueOn]
  | cons d rest ih =>
    rcases Nat.eq_zero_or_pos d with rfl | positive
    · rw [List.dropWhile_cons_of_pos (by rfl), valueOn_cons, Nat.zero_mul]
      exact ih fun d' among => small d' (List.mem_cons_of_mem 0 among)
    · have leading : (d :: rest).dropWhile (· == 0) = d :: rest :=
        List.dropWhile_cons_of_neg (by simpa using positive.ne')
      have written : Nat.digits radix (Nat.ofDigits radix (d :: rest).reverse)
          = (d :: rest).reverse := by
        refine Nat.digits_ofDigits radix two _ ?_ ?_
        · exact fun d' among => small d' (List.mem_reverse.mp among)
        · intro _
          simpa using positive.ne'
      rw [leading, valueOn_eq_ofDigits, written, List.reverse_reverse]

/-- Dropping the zeros in front is dropping the digits that are written as zeros. -/
theorem dropWhile_map_ofNat {digits : List Nat} (small : ∀ d ∈ digits, d < 16) :
    (digits.map Digit.ofNat).dropWhile (· == '0')
      = (digits.dropWhile (· == 0)).map Digit.ofNat := by
  have zero : ∀ d < 16, (Digit.ofNat d == '0') = (d == 0) := by decide
  induction digits with
  | nil => rfl
  | cons d rest ih =>
    have ⟨first, others⟩ := List.forall_mem_cons.mp small
    rw [List.map_cons, List.dropWhile_cons, List.dropWhile_cons, zero d first]
    split
    · exact ih others
    · rfl

/-- Digits that were written have the values that they were written for. -/
theorem map_worth_ofNat {digits : List Nat} (small : ∀ d ∈ digits, d < 16) :
    (digits.map Digit.ofNat).map worth = digits := by
  rw [List.map_map]
  conv_rhs => rw [← List.map_id digits]
  exact List.map_congr_left fun d among => worth_ofNat d (small d among)

/-- The digits that count are those that the number is written with. -/
theorem Hexadecimal.significant_eq {cs : List Char} {n : Nat} (numeral : Hexadecimal cs n) :
    significant cs = (Nat.digits 16 n).reverse.map Digit.ofNat := by
  have lower : cs.map Char.toLower = (cs.map worth).map Digit.ofNat := by
    rw [List.map_map]
    exact List.map_congr_left fun c among => (numeral.digits c among).ofNat_worth.symm
  unfold significant
  rw [lower, dropWhile_map_ofNat numeral.worths_lt,
    dropWhile_zeros (by decide) numeral.worths_lt, numeral.value]

/-- Numerals are of one value exactly if they agree in the digits that count. -/
theorem Hexadecimal.eq_iff_significant {cs ds : List Char} {n m : Nat} (one : Hexadecimal cs n)
    (other : Hexadecimal ds m) : n = m ↔ significant cs = significant ds := by
  rw [one.significant_eq, other.significant_eq]
  constructor
  · rintro rfl
    rfl
  · intro same
    have read (k : Nat) :
        ((Nat.digits 16 k).reverse.map Digit.ofNat).map worth = (Nat.digits 16 k).reverse := by
      refine map_worth_ofNat fun d among => ?_
      exact Nat.digits_lt_base (by decide) (List.mem_reverse.mp among)
    have digits : (Nat.digits 16 n).reverse = (Nat.digits 16 m).reverse := by
      rw [← read n, same, read m]
    exact Nat.digits.injective 16 (List.reverse_injective digits)

/-! ## Digits that are written, in any case -/

/-- Characters that were written for digits, in whatever case, are a numeral of their value. -/
theorem hexadecimal_of_toLower {cs : List Char} {values : List Nat}
    (small : ∀ d ∈ values, d < 16) (same : cs.map Char.toLower = values.map Digit.ofNat) :
    Hexadecimal cs (valueOn 16 0 values) := by
  have digits : ∀ c ∈ cs, IsHexadecimal c := by
    intro c among
    have lower : c.toLower ∈ values.map Digit.ofNat := same ▸ List.mem_map_of_mem among
    obtain ⟨d, written, letter⟩ := List.mem_map.mp lower
    have listed : Digit.ofNat d ∈ (List.range 16).map Digit.ofNat :=
      List.mem_map_of_mem (List.mem_range.mpr (small d written))
    rw [letter, ← hexadecimal_eq] at listed
    exact listed
  have worths : (cs.map worth).map Digit.ofNat = values.map Digit.ofNat := by
    rw [← same, List.map_map]
    exact List.map_congr_left fun c among => (digits c among).ofNat_worth
  have values_eq : cs.map worth = values := by
    have small' : ∀ d ∈ cs.map worth, d < 16 := by
      intro d among
      obtain ⟨c, written, rfl⟩ := List.mem_map.mp among
      exact (digits c written).worth_lt
    rw [← map_worth_ofNat small', worths, map_worth_ofNat small]
  exact ⟨digits, congrArg (valueOn 16 0) values_eq⟩

/-- A number is written as a numeral of its value. -/
theorem hexadecimal_write (n : Nat) : Hexadecimal (write 16 n) n := by
  have lower : ∀ d < 16, (Digit.ofNat d).toLower = Digit.ofNat d := by decide
  have small : ∀ d ∈ digits 16 n, d < 16 := fun d among => lt_of_mem_digits (by decide) among
  have numeral : Hexadecimal (write 16 n) (valueOn 16 0 (digits 16 n)) := by
    refine hexadecimal_of_toLower small ?_
    rw [write_eq_map (by decide), List.map_map]
    exact List.map_congr_left fun d among => lower d (small d among)
  rwa [valueOn_digits] at numeral

/-! ## Signed numerals within a range -/

/-- Hexadecimal digits are the characters that the table has as digits of this radix. -/
theorem continues_iff_below {read n : Nat} {cs : List Char} :
    Continues read cs n ↔
      (∀ c ∈ cs, (below? 16 c).isSome) ∧
        valueOn 16 read (cs.map fun c => (below? 16 c).getD 0) = n := by
  have known (c : Char) : (below? 16 c).isSome ↔ IsHexadecimal c := by
    rw [below?_sixteen]
    split <;> simp_all
  have worths (digits : ∀ c ∈ cs, IsHexadecimal c) :
      cs.map (fun c => (below? 16 c).getD 0) = cs.map worth := by
    refine List.map_congr_left fun c among => ?_
    rw [below?_sixteen, if_pos (digits c among), Option.getD_some]
  simp only [known]
  constructor
  · intro continued
    exact ⟨continued.digits, by rw [worths continued.digits, continued.value]⟩
  · rintro ⟨digits, value⟩
    exact ⟨digits, by rw [← worths digits, value]⟩

/-- A reader with a limit takes the numerals that keep it. -/
theorem foldBounded_eq_ok_iff {limit read n : Nat} {cs : List Char} (fits : read ≤ limit) :
    foldBounded 16 limit read cs = .ok n ↔ Continues read cs n ∧ n ≤ limit := by
  rw [Numeral.foldBounded_eq_ok_iff_below (by decide) fits, continues_iff_below, and_assoc]

/-- The reader of digits takes the numerals that are not empty and keep the limit. -/
theorem readDigits_eq_ok_iff {limit n : Nat} {cs : List Char} :
    readDigits 16 limit cs = .ok n ↔ cs ≠ [] ∧ Hexadecimal cs n ∧ n ≤ limit := by
  cases cs with
  | nil => simp [readDigits]
  | cons c rest =>
    rw [readDigits, foldBounded_eq_ok_iff (Nat.zero_le limit)]
    · simp
    · exact List.cons_ne_nil c rest

/-- What may stand in front of a signed numeral. -/
def signs : List (List Char) := [[], ['+'], ['-']]

/-- The number that a sign makes of a value. -/
def signed (sign : List Char) (n : Nat) : Int :=
  if sign = ['-'] then -n else n

/-- The largest value that may stand behind a sign. -/
def largest (limit : Nat) (sign : List Char) : Nat :=
  if sign = ['-'] then limit + 1 else limit

/-- A value may stand behind a sign exactly if the signed number lies within the bounds. -/
theorem le_largest_iff {limit n : Nat} {sign : List Char} :
    n ≤ largest limit sign ↔
      -(limit + 1 : Int) ≤ signed sign n ∧ signed sign n ≤ (limit : Int) := by
  unfold largest signed
  split <;> omega

/-- Whatever is read that is not empty is read as digits behind a sign. -/
theorem readSigned_cases (limit : Nat) (cs : List Char) :
    cs = [] ∨ ∃ sign ∈ signs, ∃ digits, cs = sign ++ digits ∧
      readSigned 16 limit cs = (readDigits 16 (largest limit sign) digits).map (signed sign) := by
  unfold readSigned
  split
  · exact .inl rfl
  · rename_i rest
    exact .inr ⟨['+'], by decide, rest, rfl, rfl⟩
  · rename_i rest
    exact .inr ⟨['-'], by decide, rest, rfl, rfl⟩
  · exact .inr ⟨[], by decide, cs, rfl, rfl⟩

/-- A numeral behind a sign is read as that. -/
theorem readSigned_append {limit n : Nat} {sign digits : List Char} (among : sign ∈ signs)
    (present : digits ≠ []) (numeral : Hexadecimal digits n) :
    readSigned 16 limit (sign ++ digits)
      = (readDigits 16 (largest limit sign) digits).map (signed sign) := by
  simp only [signs, List.mem_cons, List.not_mem_nil, or_false] at among
  rcases among with rfl | rfl | rfl
  · -- Behind no sign, the first character is a digit and is not taken for a sign.
    have digit : ∀ c ∈ digits.head?, IsHexadecimal c := fun c first =>
      numeral.digits c (List.mem_of_mem_head? first)
    rw [List.nil_append]
    unfold readSigned
    split
    · contradiction
    · exact absurd (digit '+' rfl) (by decide)
    · exact absurd (digit '-' rfl) (by decide)
    · rfl
  · rfl
  · rfl

/-- The reader of signed numbers takes the numerals whose number is in the range. -/
theorem readSigned_eq_ok_iff {limit : Nat} {cs : List Char} {index : Int} :
    readSigned 16 limit cs = .ok index ↔
      ∃ sign ∈ signs, ∃ digits n, cs = sign ++ digits ∧ digits ≠ [] ∧ Hexadecimal digits n ∧
        index = signed sign n ∧ -(limit + 1 : Int) ≤ index ∧ index ≤ limit := by
  constructor
  · intro accepted
    rcases readSigned_cases limit cs with rfl | ⟨sign, among, digits, rfl, reads⟩
    · cases accepted
    · rw [reads] at accepted
      obtain ⟨n, read, rfl⟩ := map_eq_ok_iff.mp accepted
      obtain ⟨present, numeral, within⟩ := readDigits_eq_ok_iff.mp read
      exact ⟨sign, among, digits, n, rfl, present, numeral, rfl, le_largest_iff.mp within⟩
  · rintro ⟨sign, among, digits, n, rfl, present, numeral, rfl, range⟩
    have within := le_largest_iff.mpr range
    rw [readSigned_append among present numeral]
    exact map_eq_ok_iff.mpr ⟨n, readDigits_eq_ok_iff.mpr ⟨present, numeral, within⟩, rfl⟩

end Numeral

end Text

end ChainIdentity
