/-!
# Keyed lists in key order

Objects, metadata and variable sets are lists of named values whose names increase strictly by
code point.  Each name then occurs once and every rendering of such a list is canonical, which
is what lets messages and documents be compared as text.

`insert` keeps the order and `lookup_insert` says what it does to the values: the inserted
name gets the new value and no other name notices.
-/

namespace ChainIdentity.Ordered

variable {α : Type}

/-- The names increase strictly. -/
def Sorted (entries : List (String × α)) : Prop :=
  entries.Pairwise fun a b => a.1 < b.1

instance (entries : List (String × α)) : Decidable (Sorted entries) :=
  inferInstanceAs (Decidable (entries.Pairwise fun a b => a.1 < b.1))

/-- Sets the value of a name. -/
def insert (key : String) (value : α) : List (String × α) → List (String × α)
  | [] => [(key, value)]
  | (k, v) :: rest =>
    if key < k then (key, value) :: (k, v) :: rest
    else if key = k then (key, value) :: rest
    else (k, v) :: insert key value rest

/-- The value of a name. -/
def lookup (key : String) : List (String × α) → Option α
  | [] => none
  | (k, v) :: rest => if key = k then some v else lookup key rest

/-- Enters named values one after the other, so the last value of a name stays. -/
def ofList (entries : List (String × α)) : List (String × α) :=
  entries.foldl (fun entered entry => insert entry.1 entry.2 entered) []

/-- Names that are neither before nor equal come after. -/
theorem lt_of_not_lt_of_ne {a b : String} (h : ¬ a < b) (hne : a ≠ b) : b < a := by
  by_cases hba : b < a
  · exact hba
  · exact absurd (String.le_antisymm (String.not_lt.1 hba) (String.not_lt.1 h)) hne

/-- A name of the list after an insertion was there before or is the inserted one. -/
theorem mem_keys_insert {key k : String} {value : α} {entries : List (String × α)}
    (h : k ∈ (insert key value entries).map (·.1)) : k = key ∨ k ∈ entries.map (·.1) := by
  induction entries with
  | nil => simpa [insert] using h
  | cons entry rest ih =>
    obtain ⟨k', v'⟩ := entry
    unfold insert at h
    split at h
    · simpa using h
    · split at h
      · rename_i heq
        subst heq
        simp only [List.map_cons, List.mem_cons] at h ⊢
        rcases h with h | h
        · exact .inl h
        · exact .inr (.inr h)
      · simp only [List.map_cons, List.mem_cons] at h ⊢
        rcases h with h | h
        · exact .inr (.inl h)
        · rcases ih h with h | h
          · exact .inl h
          · exact .inr (.inr h)

/-- Insertion keeps the names in order. -/
theorem sorted_insert {key : String} {value : α} {entries : List (String × α)}
    (h : Sorted entries) : Sorted (insert key value entries) := by
  induction entries with
  | nil => simp [insert, Sorted]
  | cons entry rest ih =>
    obtain ⟨k, v⟩ := entry
    obtain ⟨hk, hrest⟩ := List.pairwise_cons.1 h
    unfold insert
    split
    · rename_i hlt
      refine List.pairwise_cons.2 ⟨?_, h⟩
      intro e he
      rcases List.mem_cons.1 he with rfl | he
      · exact hlt
      · exact String.lt_trans hlt (hk e he)
    · rename_i hnlt
      split
      · rename_i heq
        subst heq
        exact List.pairwise_cons.2 ⟨hk, hrest⟩
      · rename_i hne
        refine List.pairwise_cons.2 ⟨?_, ih hrest⟩
        intro e he
        rcases mem_keys_insert (List.mem_map_of_mem (f := (·.1)) he) with heq | hmem
        · show k < e.1
          rw [heq]
          exact lt_of_not_lt_of_ne hnlt hne
        · obtain ⟨e', he', hkey⟩ := List.mem_map.1 hmem
          have := hk e' he'
          show k < e.1
          rw [← hkey]
          exact this

/-- What an insertion does to the values. -/
theorem lookup_insert {key k : String} {value : α} {entries : List (String × α)} :
    lookup k (insert key value entries) = if k = key then some value else lookup k entries := by
  induction entries with
  | nil => simp [insert, lookup]
  | cons entry rest ih =>
    obtain ⟨k', v'⟩ := entry
    unfold insert
    split
    · simp [lookup]
    · split
      · rename_i heq
        subst heq
        by_cases h : k = key <;> simp [lookup, h]
      · rename_i hne
        by_cases h : k = key
        · subst h
          simp [lookup, ih, hne]
        · simp only [lookup, ih, if_neg h]

end ChainIdentity.Ordered
