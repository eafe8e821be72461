import ChainIdentity.Proofs.Rolling

/-!
# Files of a day are left in order

Over a day log files are made and grow, and what is once full stays so.  A search therefore never
comes back to a file in front of the one that an earlier search came to, and the same goes for a
lower limit in place of larger files.  Both say that more files are full, which is all that
`Chosen.le_of_full` asks for: whatever is full for the one search is so for the other.

`roll_never_back` is the main statement, on searches that start with the first file of a day.
-/

namespace ChainIdentity.Rotation

variable {size? size?' : String → Option ℕ} {maxSize maxSize' : ℕ} {start base date : String}

/-- Where more files are full, the search comes to no earlier place. -/
theorem Chosen.le_of_full {index index' : ℕ} (chosen : Chosen size? maxSize start base date index)
    (chosen' : Chosen size?' maxSize' start base date index')
    (full : ∀ file, Full size? maxSize file → Full size?' maxSize' file) : index ≤ index' := by
  by_contra back
  exact chosen'.usable (full _ (chosen.passed index' chosen'.pos (not_le.mp back)))

/-- A higher limit makes no file full. -/
theorem Full.mono {file : String} (limit : maxSize ≤ maxSize') (full : Full size? maxSize' file) :
    Full size? maxSize file := by
  obtain ⟨size, there, larger⟩ := full
  exact ⟨size, there, limit.trans_lt larger⟩

namespace Store

/-- Every file of the one store is in the other, with at least the same size: files were made or
grew, and none was taken away or cut. -/
def GrowsTo (store later : Store) : Prop :=
  ∀ file ∈ store.files, file ∈ later.files ∧ store.size file ≤ later.size file

/-- Growing makes no full file usable. -/
theorem GrowsTo.full {store later : Store} (grows : store.GrowsTo later) {file : String}
    (full : Full store.size? maxSize file) : Full later.size? maxSize file := by
  rw [full_iff] at full ⊢
  obtain ⟨there, larger⟩ := grows file full.1
  exact ⟨there, full.2.trans_le larger⟩

/-- The file that a search comes to which starts with the first one of a day. -/
def roll (store : Store) (base date : String) (maxSize : ℕ) : String :=
  search store.size? maxSize base date (store.files.card + 1) 1 (path base date 1)

/-- The search comes to the file at the chosen place and to no other one. -/
theorem roll_eq_iff {store : Store} {index : ℕ} :
    store.roll base date maxSize = path base date index ↔
      Chosen store.size? maxSize (path base date 1) base date index := by
  obtain ⟨first, near, chosen⟩ :=
    exists_chosen (store.holdsAtMost base date) maxSize (path base date 1)
  have rolls : store.roll base date maxSize = path base date first :=
    search_first_of_chosen chosen near
  constructor
  · intro same
    rwa [← path_injective base date (rolls.symm.trans same)]
  · intro chosen'
    rw [chosen'.unique chosen, rolls]

/-- The search comes to a file of the day, and its place has an index of 32 bits. -/
theorem exists_roll_eq {store : Store} (few : store.files.card < 2 ^ 32 - 2) (base date : String)
    (maxSize : ℕ) :
    ∃ index : UInt32, store.roll base date maxSize = path base date index.toNat := by
  obtain ⟨index, near, chosen⟩ :=
    exists_chosen (store.holdsAtMost base date) maxSize (path base date 1)
  have fits : index < 2 ^ 32 := by omega
  refine ⟨.ofNat index, ?_⟩
  rw [UInt32.toNat_ofNat_of_lt' fits]
  exact roll_eq_iff.mpr chosen

end Store

/-- A search that starts with the first file of a day comes to a file of the day, and never to one
in front of that to which it came before the files grew and further ones were made.  Nor does a
higher limit bring it further on. -/
theorem roll_never_back {store later : Store} (few : store.files.card < 2 ^ 32 - 2)
    (fewLater : later.files.card < 2 ^ 32 - 2) (grows : store.GrowsTo later)
    (base date : String) (maxSize : ℕ) :
    (∃ i j : UInt32, store.roll base date maxSize = path base date i.toNat ∧
      later.roll base date maxSize = path base date j.toNat) ∧
    (∀ i j : UInt32, store.roll base date maxSize = path base date i.toNat →
      later.roll base date maxSize = path base date j.toNat → i ≤ j) ∧
    ∀ higher, maxSize ≤ higher →
      (∃ j : UInt32, store.roll base date higher = path base date j.toNat) ∧
      ∀ i j : UInt32, store.roll base date maxSize = path base date i.toNat →
        store.roll base date higher = path base date j.toNat → j ≤ i := by
  refine ⟨?ends, ?grown, fun higher limit => ⟨store.exists_roll_eq few base date higher, ?raised⟩⟩
  case ends =>
    obtain ⟨i, rolls⟩ := store.exists_roll_eq few base date maxSize
    obtain ⟨j, rollsLater⟩ := later.exists_roll_eq fewLater base date maxSize
    exact ⟨i, j, rolls, rollsLater⟩
  case grown =>
    intro i j rolls rollsLater
    exact UInt32.le_iff_toNat_le.mpr ((Store.roll_eq_iff.mp rolls).le_of_full
      (Store.roll_eq_iff.mp rollsLater) fun _ => grows.full)
  case raised =>
    intro i j rolls rollsHigher
    exact UInt32.le_iff_toNat_le.mpr ((Store.roll_eq_iff.mp rollsHigher).le_of_full
      (Store.roll_eq_iff.mp rolls) fun _ => Full.mono limit)

/-- A day with one file that is not full yet. -/
def morning : Store where
  files := {"logs/app-2023-01-01.1.log"}
  size _ := 40

/-- The same day, when the file has become full and a second one was made. -/
def evening : Store where
  files := {"logs/app-2023-01-01.1.log", "logs/app-2023-01-01.2.log"}
  size file := if file = "logs/app-2023-01-01.1.log" then 60 else 10

/-- The search goes on to the second file over the day, and a lower limit moves it there at once. -/
theorem roll_never_back_day :
    (morning.files.card < 2 ^ 32 - 2 ∧ evening.files.card < 2 ^ 32 - 2 ∧
      morning.GrowsTo evening) ∧
    (morning.roll "logs/app.log" "2023-01-01" 50 = path "logs/app.log" "2023-01-01" 1 ∧
      evening.roll "logs/app.log" "2023-01-01" 50 = path "logs/app.log" "2023-01-01" 2 ∧
      (1 : UInt32) ≤ 2) ∧
    morning.roll "logs/app.log" "2023-01-01" 30 = path "logs/app.log" "2023-01-01" 2 ∧
      ∃ j : UInt32,
        morning.roll "logs/app.log" "2023-01-01" 50 = path "logs/app.log" "2023-01-01" j.toNat ∧
        j ≤ 2 := by
  have few : morning.files.card < 2 ^ 32 - 2 := by decide +kernel
  have fewLater : evening.files.card < 2 ^ 32 - 2 := by decide +kernel
  have grows : morning.GrowsTo evening := by
    unfold Store.GrowsTo
    decide +kernel
  have first : morning.roll "logs/app.log" "2023-01-01" 50
      = path "logs/app.log" "2023-01-01" (1 : UInt32).toNat := by decide +kernel
  have second : evening.roll "logs/app.log" "2023-01-01" 50
      = path "logs/app.log" "2023-01-01" (2 : UInt32).toNat := by decide +kernel
  have lower : morning.roll "logs/app.log" "2023-01-01" 30
      = path "logs/app.log" "2023-01-01" (2 : UInt32).toNat := by decide +kernel
  have grown := (roll_never_back few fewLater grows "logs/app.log" "2023-01-01" 50).2.1
  have raised := (roll_never_back few fewLater grows "logs/app.log" "2023-01-01" 30).2.2 50
    (by decide)
  obtain ⟨j, rolls⟩ := raised.1
  exact ⟨⟨few, fewLater, grows⟩, ⟨first, second, grown 1 2 first second⟩, lower, j, rolls,
    raised.2 2 j lower rolls⟩

end ChainIdentity.Rotation
