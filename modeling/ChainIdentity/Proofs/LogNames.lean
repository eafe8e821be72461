import ChainIdentity.Logging.Rotation
import ChainIdentity.Proofs.Numeral
import ChainIdentity.Text.Parts

/-!
# The names of log files

A log file is named for its base path, its day and its place.  Base path and day may be any texts,
with dots, dashes and digits in them, but for one base path the name tells day and place
(`path_eq_iff`): the place stands behind the last dot in front of the ending, because a numeral has
no dot, and the day is what is left between the base path and this dot.

The name is longer than the base path (`length_lt_length_path`), so no log file is written over a
file that has the base path for a name.  `path_apart` is the main statement, with places of 32 bits.
-/

namespace ChainIdentity

/-! ## What stands behind the last separator -/

namespace Text

variable {separator : Char}

/-- The parts of a text are those that the library splits it into. -/
theorem parts_eq_splitOnP (separator : Char) (cs : List Char) :
    parts separator cs = cs.splitOnP (· == separator) := by
  induction cs with
  | nil => rfl
  | cons c rest ih =>
    obtain ⟨part, others, split⟩ := List.exists_cons_of_ne_nil (parts_ne_nil separator rest)
    rw [List.splitOnP_cons_eq_if_modifyHead, ← ih, parts, split]
    simp only [beq_iff_eq, List.modifyHead_cons]

/-- A text without the separator is one part. -/
theorem parts_of_notMem {cs : List Char} (lacks : separator ∉ cs) : parts separator cs = [cs] := by
  rw [parts_eq_splitOnP, List.splitOnP_eq_singleton]
  rintro c among
  rw [beq_eq_false_iff_ne]
  rintro rfl
  exact lacks among

/-- At a separator the parts of the front end and those of the rest begin. -/
theorem parts_append_separator (front rest : List Char) :
    parts separator (front ++ separator :: rest)
      = parts separator front ++ parts separator rest := by
  simp only [parts_eq_splitOnP]
  exact List.splitOnP_append_cons front rest (beq_self_eq_true separator)

/-- There is one way only to cut a text at its last separator. -/
theorem append_separator_inj {front front' tail tail' : List Char}
    (last : separator ∉ tail) (last' : separator ∉ tail') :
    front ++ separator :: tail = front' ++ separator :: tail' ↔ front = front' ∧ tail = tail' := by
  constructor
  · intro same
    -- The fronts may hold separators too, so the last parts are compared first.
    have split := congrArg (parts separator) same
    rw [parts_append_separator, parts_append_separator, parts_of_notMem last,
      parts_of_notMem last'] at split
    obtain rfl : tail = tail' := (List.append_singleton_inj.mp split).2
    exact ⟨List.append_cancel_right same, rfl⟩
  · rintro ⟨rfl, rfl⟩
    rfl

end Text

namespace Rotation

open Text

variable {base date date' : String} {index index' : ℕ}

/-! ## Day and place -/

/-- Different numbers have different numerals. -/
theorem write_injective : Function.Injective (Numeral.write 10) := by
  intro i j same
  have read (n : ℕ) (within : n ≤ max i j) :
      Numeral.readUnsigned 10 (max i j) (Numeral.write 10 n) = .ok n :=
    Numeral.readUnsigned_write (by decide) (by decide) within
  have reads := read i (le_max_left i j)
  rw [same, read j (le_max_right i j)] at reads
  exact (Except.ok.inj reads).symm

/-- No numeral has a dot in it. -/
theorem dot_notMem_write (index : ℕ) : '.' ∉ Numeral.write 10 index :=
  Numeral.notMem_write (by decide) (by decide) index

/-- What stands behind the date in the name of a log file. -/
def suffix (index : ℕ) : List Char :=
  '.' :: Numeral.write 10 index ++ ending

/-- What stands behind the date can be told from what stands in front of it, whatever that is. -/
theorem append_suffix_inj {front front' : List Char} :
    front ++ suffix index = front' ++ suffix index' ↔ front = front' ∧ index = index' := by
  unfold suffix
  rw [← List.append_assoc, ← List.append_assoc, List.append_left_inj,
    append_separator_inj (dot_notMem_write index) (dot_notMem_write index'),
    write_injective.eq_iff]

/-- The name of a log file is the base path without its ending, then a hyphen and the date, then
what stands behind the date. -/
theorem toList_path (base date : String) (index : ℕ) :
    (path base date index).toList
      = withoutEnding base.toList ++ '-' :: date.toList ++ suffix index := by
  simp only [path, suffix, String.toList_ofList, List.append_assoc, List.cons_append]

/-- Of one base path, files of different days or places have different names. -/
theorem path_eq_iff :
    path base date index = path base date' index' ↔ date = date' ∧ index = index' := by
  rw [← String.toList_inj, toList_path, toList_path, append_suffix_inj, List.append_right_inj,
    List.cons_inj_right, String.toList_inj]

/-- Different places of a day have different files. -/
theorem path_injective (base date : String) : Function.Injective (path base date) :=
  fun _ _ same => (path_eq_iff.mp same).2

/-! ## The base path -/

/-- A base path loses its ending at most. -/
theorem length_le_length_withoutEnding (cs : List Char) :
    cs.length ≤ (withoutEnding cs).length + ending.length := by
  have four : ending.length = 4 := rfl
  unfold withoutEnding
  split
  · rw [List.length_take]
    omega
  · omega

/-- A log file has a longer name than its base path, for its own ending makes up for the one that
the base path may lose. -/
theorem length_lt_length_path : base.length < (path base date index).length := by
  have lost := length_le_length_withoutEnding base.toList
  rw [← String.length_toList, ← String.length_toList, toList_path]
  simp only [suffix, List.length_append, List.length_cons]
  omega

/-- No log file has the name of its base path. -/
theorem path_ne_base : path base date index ≠ base := by
  intro same
  have longer : base.length < (path base date index).length := length_lt_length_path
  rw [same] at longer
  exact Nat.lt_irrefl _ longer

/-- Of one base path, log files have the same name only if they are of the same day and place, and
none of them has the name of the base path. -/
theorem path_apart (base : String) :
    (∀ (date date' : String) (index index' : UInt32),
      path base date index.toNat = path base date' index'.toNat ↔
        date = date' ∧ index = index') ∧
    ∀ (date : String) (index : UInt32), path base date index.toNat ≠ base := by
  constructor
  · intro date date' index index'
    rw [path_eq_iff, UInt32.toNat_inj]
  · intro date index
    exact path_ne_base

/-- Files of different base paths may share a name, since a dash may be part of the date. -/
example : path "app-core" "1" 2 = path "app" "core-1" 2 := by decide +kernel

end Rotation

end ChainIdentity
