import ChainIdentity.Proofs.LogNames
import Mathlib.Data.Finset.Card
import Mathlib.Order.Interval.Finset.Nat

/-!
# The first file that is not full

The files that are tried stand in a fixed order (`place`): the one that the search starts with, and
from the second place on those of the day.  Different places have different names
(`path_injective`), so only so many of them can be there, and one of the first places is free
(`exists_chosen`).  `Chosen` says which place the search is to come to: it is not full, and all
places in front of it are.

The search of this library counts its steps down.  `search_of_chosen` says that it comes to the
chosen place whenever it has steps enough, so the count never shows.  `Settles` is the search
without one: it goes on for as long as it takes, with an index of 32 bits that must not run over.

`search_first_usable` is the main statement on a finite store of files.
-/

namespace ChainIdentity.Rotation

/-! ## The files that are tried -/

/-- The file at a place of the search: the one it starts with, and from the second place on those of
the day. -/
def place (start base date : String) (index : ℕ) : String :=
  if index ≤ 1 then start else path base date index

/-- From the second place on the files are those of the day. -/
theorem place_succ (start base date : String) {index : ℕ} (pos : 1 ≤ index) :
    place start base date (index + 1) = path base date (index + 1) :=
  if_neg (by omega)

/-- A search that starts with the first file of the day leaves none of them out. -/
theorem place_of_first (base date : String) {index : ℕ} (pos : 1 ≤ index) :
    place (path base date 1) base date index = path base date index := by
  unfold place
  split
  · rw [show index = 1 by omega]
  · rfl

/-! ## Full files -/

section

variable {size? : String → Option ℕ} {maxSize : ℕ}

/-- The file is there and larger than the limit. -/
def Full (size? : String → Option ℕ) (maxSize : ℕ) (file : String) : Prop :=
  ∃ size, size? file = some size ∧ maxSize < size

/-- A file is passed over exactly if it is full. -/
theorem isUsable_eq_false_iff {file : String} :
    isUsable size? maxSize file = false ↔ Full size? maxSize file := by
  unfold isUsable Full
  cases size? file with
  | none => simp
  | some size => simp

/-- A file is taken exactly if it is not full, be it there or not. -/
theorem isUsable_eq_true_iff {file : String} :
    isUsable size? maxSize file = true ↔ ¬ Full size? maxSize file := by
  rw [← isUsable_eq_false_iff, Bool.not_eq_false]

/-- The search is to come to this place: it is not full, and all places in front of it are. -/
structure Chosen (size? : String → Option ℕ) (maxSize : ℕ) (start base date : String)
    (index : ℕ) : Prop where
  /-- Places count from one. -/
  pos : 1 ≤ index
  /-- The file may be written. -/
  usable : ¬ Full size? maxSize (place start base date index)
  /-- The files in front of it are full. -/
  passed : ∀ i, 1 ≤ i → i < index → Full size? maxSize (place start base date i)

variable {start base date : String} {index : ℕ}

/-- There is one place at most to come to. -/
theorem Chosen.unique {index' : ℕ} (chosen : Chosen size? maxSize start base date index)
    (chosen' : Chosen size? maxSize start base date index') : index = index' := by
  rcases Nat.lt_trichotomy index index' with before | same | behind
  · exact absurd (chosen'.passed index chosen.pos before) chosen.usable
  · exact same
  · exact absurd (chosen.passed index' chosen'.pos behind) chosen'.usable

/-! ## The search -/

/-- From any place in front of the chosen one, a search with steps enough comes to it. -/
theorem search_of_passed (chosen : Chosen size? maxSize start base date index)
    {steps i : ℕ} (pos : 1 ≤ i) (before : i ≤ index) (enough : index - i ≤ steps) :
    search size? maxSize base date steps i (place start base date i)
      = place start base date index := by
  induction steps generalizing i with
  | zero =>
    rw [search, show i = index by omega]
  | succ steps ih =>
    rw [search]
    rcases Nat.eq_or_lt_of_le before with rfl | further
    · rw [isUsable_eq_true_iff.mpr chosen.usable, if_pos rfl]
    · rw [isUsable_eq_false_iff.mpr (chosen.passed i pos further), if_neg Bool.false_ne_true,
        ← place_succ start base date pos]
      exact ih (by omega) further (by omega)

/-- From the first place on, a search with steps enough comes to the chosen one. -/
theorem search_of_chosen (chosen : Chosen size? maxSize start base date index) {steps : ℕ}
    (enough : index ≤ steps + 1) :
    search size? maxSize base date steps 1 start = place start base date index :=
  search_of_passed chosen le_rfl chosen.pos (by omega)

/-- A search that starts with the first file of the day comes to the one of the day at the chosen
place. -/
theorem search_first_of_chosen (chosen : Chosen size? maxSize (path base date 1) base date index)
    {steps : ℕ} (enough : index ≤ steps + 1) :
    search size? maxSize base date steps 1 (path base date 1) = path base date index := by
  rw [search_of_chosen chosen enough, place_of_first base date chosen.pos]

/-- The search without a count of steps.  It stands at a file, with the index of the file in 32
bits, and ends with a file after finitely many steps and without running over. -/
inductive Settles (size? : String → Option ℕ) (maxSize : ℕ) (base date : String) :
    UInt32 → String → String → Prop
  /-- The file may be written. -/
  | here {i : UInt32} {file : String} (usable : ¬ Full size? maxSize file) :
      Settles size? maxSize base date i file file
  /-- The file is full, and the search goes on with the next one of the day. -/
  | onward {i : UInt32} {file last : String} (full : Full size? maxSize file)
      (room : i.toNat + 1 < UInt32.size)
      (further : Settles size? maxSize base date (i + 1) (path base date (i + 1).toNat) last) :
      Settles size? maxSize base date i file last

/-- The search can end with one file only. -/
theorem Settles.unique {i : UInt32} {file last last' : String}
    (settles : Settles size? maxSize base date i file last)
    (settles' : Settles size? maxSize base date i file last') : last = last' := by
  induction settles with
  | here usable =>
    cases settles' with
    | here => rfl
    | onward full => exact absurd full usable
  | onward full room further ih =>
    cases settles' with
    | here usable => exact absurd full usable
    | onward _ _ further' => exact ih further'

/-- From any place in front of the chosen one, the search comes to it, if its index has 32 bits. -/
theorem settles_of_passed (chosen : Chosen size? maxSize start base date index)
    (fits : index < UInt32.size) {i : UInt32} (pos : 1 ≤ i.toNat) (before : i.toNat ≤ index) :
    Settles size? maxSize base date i (place start base date i.toNat)
      (place start base date index) := by
  obtain ⟨left, distance⟩ := Nat.exists_eq_add_of_le before
  induction left generalizing i with
  | zero =>
    rw [show i.toNat = index by omega]
    exact .here chosen.usable
  | succ left ih =>
    have room : i.toNat + 1 < UInt32.size := by omega
    have next : (i + 1).toNat = i.toNat + 1 := by
      rw [UInt32.toNat_add]
      exact Nat.mod_eq_of_lt room
    refine .onward (chosen.passed i.toNat pos (by omega)) room ?_
    rw [next, ← place_succ start base date pos, ← next]
    exact ih (by omega) (by omega) (by omega)

/-- Of the places of a day, no more than this many have a file. -/
def HoldsAtMost (size? : String → Option ℕ) (base date : String) (count : ℕ) : Prop :=
  ∀ indices : Finset ℕ, (∀ i ∈ indices, size? (path base date i) ≠ none) → indices.card ≤ count

/-- One of the first places is the one that the search is to come to. -/
theorem exists_chosen {count : ℕ} (few : HoldsAtMost size? base date count) (maxSize : ℕ)
    (start : String) :
    ∃ index, index ≤ count + 2 ∧ Chosen size? maxSize start base date index := by
  -- Not all places from the second one to the last can have a file.
  obtain ⟨free, low, high, absent⟩ :
      ∃ free, 2 ≤ free ∧ free ≤ count + 2 ∧ size? (path base date free) = none := by
    by_contra taken
    push Not at taken
    have all := few (Finset.Icc 2 (count + 2)) fun i among =>
      taken i (Finset.mem_Icc.mp among).1 (Finset.mem_Icc.mp among).2
    rw [Nat.card_Icc] at all
    omega
  have usable : ¬ Full size? maxSize (place start base date free) := by
    rintro ⟨size, there, -⟩
    rw [place, if_neg (by omega), absent] at there
    cases there
  have reached : ∃ i, 1 ≤ i ∧ ¬ Full size? maxSize (place start base date i) :=
    ⟨free, by omega, usable⟩
  classical
  refine ⟨Nat.find reached, (Nat.find_min' reached ⟨by omega, usable⟩).trans high,
    (Nat.find_spec reached).1, (Nat.find_spec reached).2, fun i pos before => ?_⟩
  by_contra notFull
  exact Nat.find_min reached before ⟨pos, notFull⟩

end

/-! ## Stores -/

/-- Finitely many files with their sizes. -/
structure Store where
  /-- The files that there are. -/
  files : Finset String
  /-- Their sizes. -/
  size : String → ℕ

namespace Store

variable (store : Store)

/-- The size of a file, if there is one. -/
def size? (file : String) : Option ℕ :=
  if file ∈ store.files then some (store.size file) else none

/-- A file has a size exactly if it is there. -/
theorem size?_ne_none_iff {file : String} : store.size? file ≠ none ↔ file ∈ store.files := by
  unfold size?
  split <;> simp_all

/-- A file of the store is full if it is larger than the limit. -/
theorem full_iff {maxSize : ℕ} {file : String} :
    Full store.size? maxSize file ↔ file ∈ store.files ∧ maxSize < store.size file := by
  unfold Full size?
  split <;> simp_all

/-- A file that is not there is not full, and neither is one within the limit. -/
theorem not_full_iff {maxSize : ℕ} {file : String} :
    ¬ Full store.size? maxSize file ↔ file ∉ store.files ∨ store.size file ≤ maxSize := by
  rw [full_iff, not_and_or, not_lt]

/-- No more places have a file than there are files. -/
theorem holdsAtMost (base date : String) :
    HoldsAtMost store.size? base date store.files.card := by
  intro indices there
  rw [← Finset.card_image_of_injective indices (path_injective base date)]
  refine Finset.card_le_card fun file among => ?_
  obtain ⟨i, listed, rfl⟩ := Finset.mem_image.mp among
  exact store.size?_ne_none_iff.mp (there i listed)

/-- A list of the files is at least as long as there are files. -/
theorem card_le_length {list : List (String × ℕ)}
    (lists : ∀ file, list.lookup file = store.size? file) : store.files.card ≤ list.length := by
  have keys : store.files ⊆ (list.map Prod.fst).toFinset := by
    intro file among
    rw [← store.size?_ne_none_iff, ← lists] at among
    rw [List.mem_toFinset]
    by_contra missing
    refine among (List.lookup_eq_none_iff.mpr fun entry listed => ?_)
    rw [bne_iff_ne]
    rintro rfl
    exact missing (List.mem_map_of_mem listed)
  calc store.files.card ≤ (list.map Prod.fst).toFinset.card := Finset.card_le_card keys
    _ ≤ (list.map Prod.fst).length := List.toFinset_card_le _
    _ = list.length := List.length_map _

end Store

/-- In a store of fewer than `2 ^ 32 - 2` files a search always ends, and its index does not run
over.  It ends with the first of its files that is absent or not larger than the limit; all files in
front of it are there and larger.  A search that starts with the first file of the day leaves out
none of the files of the day. -/
theorem search_first_usable (store : Store) (few : store.files.card < 2 ^ 32 - 2)
    (start base date : String) (maxSize : ℕ) :
    ∃ index : UInt32, 1 ≤ index ∧
      (∀ last, Settles store.size? maxSize base date 1 start last ↔
        last = place start base date index.toNat) ∧
      (∀ steps, store.files.card < steps →
        search store.size? maxSize base date steps 1 start
          = place start base date index.toNat) ∧
      (∀ list : List (String × ℕ), (∀ file, list.lookup file = store.size? file) →
        choose list start base date maxSize = place start base date index.toNat) ∧
      (place start base date index.toNat ∉ store.files ∨
        store.size (place start base date index.toNat) ≤ maxSize) ∧
      (∀ i : UInt32, 1 ≤ i → i < index → place start base date i.toNat ∈ store.files ∧
        maxSize < store.size (place start base date i.toNat)) ∧
      (start = path base date 1 →
        ∀ i : UInt32, 1 ≤ i → place start base date i.toNat = path base date i.toNat) := by
  obtain ⟨index, near, chosen⟩ := exists_chosen (store.holdsAtMost base date) maxSize start
  have fits : index < UInt32.size := by
    have size : UInt32.size = 2 ^ 32 := rfl
    omega
  obtain ⟨k, rfl⟩ : ∃ k : UInt32, k.toNat = index :=
    ⟨.ofNat index, UInt32.toNat_ofNat_of_lt' fits⟩
  refine ⟨k, UInt32.le_iff_toNat_le.mpr chosen.pos, ?settles, ?search, ?choose, ?usable, ?passed,
    ?first⟩
  case settles =>
    have settles : Settles store.size? maxSize base date 1 start (place start base date k.toNat) :=
      settles_of_passed chosen fits le_rfl chosen.pos
    intro last
    constructor
    · exact fun settles' => settles'.unique settles
    · rintro rfl
      exact settles
  case search => exact fun steps enough => search_of_chosen chosen (by omega)
  case choose =>
    intro list lists
    have long := store.card_le_length lists
    rw [choose, funext lists]
    exact search_of_chosen chosen (by omega)
  case usable => exact store.not_full_iff.mp chosen.usable
  case passed =>
    intro i pos before
    exact store.full_iff.mp (chosen.passed i.toNat (UInt32.le_iff_toNat_le.mp pos)
      (UInt32.lt_iff_toNat_lt.mp before))
  case first =>
    rintro rfl i pos
    exact place_of_first base date (UInt32.le_iff_toNat_le.mp pos)

/-- Two files of a day, one a good deal larger than fifty and the other by one. -/
def twoFull : Store where
  files := {"logs/app-2023-01-01.1.log", "logs/app-2023-01-01.2.log"}
  size file := if file = "logs/app-2023-01-01.1.log" then 100 else 51

/-- Behind two full files of a day the third one is written. -/
theorem search_first_usable_third :
    twoFull.files.card < 2 ^ 32 - 2 ∧
    Settles twoFull.size? 50 "logs/app.log" "2023-01-01" 1 "logs/app-2023-01-01.1.log"
      "logs/app-2023-01-01.3.log" ∧
    search twoFull.size? 50 "logs/app.log" "2023-01-01" 3 1 "logs/app-2023-01-01.1.log"
      = "logs/app-2023-01-01.3.log" ∧
    ("logs/app-2023-01-01.3.log" ∉ twoFull.files ∨
      twoFull.size "logs/app-2023-01-01.3.log" ≤ 50) := by
  have few : twoFull.files.card < 2 ^ 32 - 2 := by decide +kernel
  have third : search twoFull.size? 50 "logs/app.log" "2023-01-01" 3 1
      "logs/app-2023-01-01.1.log" = "logs/app-2023-01-01.3.log" := by decide +kernel
  obtain ⟨index, -, settles, searches, -, usable, -⟩ :=
    search_first_usable twoFull few "logs/app-2023-01-01.1.log" "logs/app.log" "2023-01-01" 50
  have here := searches 3 (by decide +kernel)
  rw [third] at here
  rw [← here] at settles usable
  exact ⟨few, (settles _).mpr rfl, third, usable⟩

end ChainIdentity.Rotation
