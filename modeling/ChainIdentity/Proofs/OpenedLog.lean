import ChainIdentity.Logging.Setup
import ChainIdentity.Proofs.Rolling

/-!
# The log file that is opened

A tree has one file or directory at a location, but many paths lead to it.  The paths of the log
files of a day lead to different locations all the same, because the index is in the last name of
the path and the location ends with that name (`follow_ends`).  So no more of them lead to something
than the tree has locations, and the steps that are allowed for the search are enough.

`openFile_chosen` is the main statement: what is opened is the first file of the day that is not
full.
-/

namespace ChainIdentity

open Text

/-! ## The last part of a text -/

namespace Text

/-- What is put behind a text goes into its last part, if it has no separator. -/
theorem parts_append (separator : Char) (front : List Char) :
    ∃ init tail, ∀ rest, separator ∉ rest →
      parts separator (front ++ rest) = init ++ [tail ++ rest] := by
  by_cases occurs : separator ∈ front
  · -- The parts up to the last separator stay as they are.
    obtain ⟨tail, init, reversed, lacks⟩ :=
      List.eq_append_cons_of_mem (List.mem_reverse.mpr occurs)
    obtain rfl : front = init.reverse ++ separator :: tail.reverse := by
      rw [← List.reverse_inj, reversed]
      simp
    refine ⟨parts separator init.reverse, tail.reverse, fun rest free => ?_⟩
    have behind : separator ∉ tail.reverse ++ rest := by simp [lacks, free]
    rw [List.append_assoc, List.cons_append, parts_append_separator, parts_of_notMem behind]
  · exact ⟨[], front, fun rest free => parts_of_notMem (by simp [occurs, free])⟩

end Text

/-! ## The last name of a path -/

namespace Rotation

/-- What stands behind the date is longer than the name of any parent directory. -/
theorem lt_length_suffix (index : ℕ) : 2 < (suffix index).length := by
  have ends : ending.length = 4 := rfl
  simp only [suffix, List.cons_append, List.length_cons, List.length_append]
  omega

/-- What stands behind the date belongs to the last name of a path. -/
theorem slash_notMem_suffix (index : ℕ) : '/' ∉ suffix index := by
  have numeral : '/' ∉ Numeral.write 10 index :=
    Numeral.notMem_write (by decide) (by decide) index
  have ends : '/' ∉ ending := by decide
  simp [suffix, numeral, ends]

/-- The last names of the paths of a day are told apart by what stands behind the date. -/
theorem names_path (base date : String) :
    ∃ tail, ∀ index, (FilePath.ofText (path base date index)).names.getLast?
      = some (String.ofList (tail ++ suffix index)) := by
  obtain ⟨init, tail, split⟩ := parts_append '/' (withoutEnding base.toList ++ '-' :: date.toList)
  refine ⟨tail, fun index => ?_⟩
  have named : ¬ ((tail ++ suffix index).isEmpty || tail ++ suffix index == ['.']) = true := by
    have long := lt_length_suffix index
    rw [Bool.or_eq_true, List.isEmpty_iff, beq_iff_eq]
    rintro (nothing | dot)
    · have none := congrArg List.length nothing
      rw [List.length_append, List.length_nil] at none
      omega
    · have one := congrArg List.length dot
      rw [List.length_append, List.length_singleton] at one
      omega
  rw [FilePath.ofText, toList_path, split _ (slash_notMem_suffix index), List.filterMap_append]
  simp only [List.filterMap_cons, if_neg named, List.filterMap_nil, List.getLast?_concat]

end Rotation

/-! ## The end of a location -/

namespace FileTree

variable {α : Type} {tree : FileTree α}

/-- A location that names lead to ends with the last of them, unless this leads up. -/
theorem follow_ends {names : List String} {location found : Location} {name : String}
    (reached : tree.follow location names = .ok (.inside found))
    (last : names.getLast? = some name) (plain : name ≠ "..") : found.getLast? = some name := by
  induction names generalizing location with
  | nil => cases last
  | cons next rest ih =>
    rw [follow] at reached
    split at reached
    · cases reached
    · split at reached
      · rename_i up
        split at reached
        · cases reached
        · cases rest with
          | nil => exact absurd ((Option.some.inj last).symm.trans up) plain
          | cons further rest => exact ih reached last
      · split at reached
        · cases reached
        · split at reached
          · cases reached
          · cases rest with
            | nil =>
              cases reached
              rw [List.getLast?_concat]
              exact last
            | cons further rest => exact ih reached last

/-- What a path leads to is in the tree, at a location that ends with the last name of the path. -/
theorem mem_of_size?_ne_none {sizeOf : α → ℕ} {path : FilePath} {name : String}
    (there : tree.size? sizeOf path ≠ none) (last : path.names.getLast? = some name)
    (plain : name ≠ "..") : some name ∈ tree.nodes.map fun node => node.1.getLast? := by
  unfold size? at there
  split at there
  · rename_i location resolved
    have reached : tree.follow [] path.names = .ok (.inside location) := by
      unfold resolve at resolved
      split at resolved
      · cases resolved
      · exact resolved
    have ends := follow_ends reached last plain
    have inner : location.isEmpty = false := by
      cases location with
      | nil => cases ends
      | cons first rest => rfl
    have found : (tree.nodes.find? fun node => node.1 == location).isSome := by
      cases search : tree.nodes.find? fun node => node.1 == location with
      | some node => rfl
      | none => simp [find?, inner, search] at there
    obtain ⟨node, search⟩ := Option.isSome_iff_exists.mp found
    have same : node.1 = location := by simpa using List.find?_some search
    exact List.mem_map.mpr ⟨node, List.mem_of_find?_eq_some search, by rw [same, ends]⟩
  · exact absurd rfl there

/-- No more places of a day lead to something than the tree has locations. -/
theorem holdsAtMost (tree : FileTree α) (sizeOf : α → ℕ) (base date : String) :
    Rotation.HoldsAtMost (fun file => tree.size? sizeOf (.ofText file)) base date
      tree.nodes.length := by
  intro indices there
  obtain ⟨tail, names⟩ := Rotation.names_path base date
  let name (index : ℕ) : Option String := some (String.ofList (tail ++ Rotation.suffix index))
  have injective : Function.Injective name := by
    intro i j same
    exact (Rotation.append_suffix_inj.mp (String.ofList_injective (Option.some.inj same))).2
  have listed : indices.image name ⊆ (tree.nodes.map fun node => node.1.getLast?).toFinset := by
    intro ended among
    obtain ⟨i, chosen, rfl⟩ := Finset.mem_image.mp among
    refine List.mem_toFinset.mpr (mem_of_size?_ne_none (there i chosen) (names i) fun up => ?_)
    have two := congrArg (fun name => name.toList.length) up
    have long := Rotation.lt_length_suffix i
    simp only [String.toList_ofList, List.length_append] at two
    have short : "..".toList.length = 2 := rfl
    omega
  calc indices.card = (indices.image name).card := (Finset.card_image_of_injective _ injective).symm
    _ ≤ (tree.nodes.map fun node => node.1.getLast?).toFinset.card := Finset.card_le_card listed
    _ ≤ (tree.nodes.map fun node => node.1.getLast?).length := List.toFinset_card_le _
    _ = tree.nodes.length := List.length_map _

end FileTree

/-! ## The file that is opened -/

namespace Logging

open Rotation

variable {α : Type} (sizeOf : α → ℕ) (first : α) (settings : LogSettings) (date : String)

/-- The path of the log files without day and place. -/
def basePath : String :=
  directoryText settings.directory ++ fileName

/-- Once the directory is made, the file that the search comes to is opened. -/
theorem openFile_eq (tree : FileTree α) :
    openFile tree sizeOf first settings date
      = (tree.makeAll (FilePath.ofText (path (basePath settings) date 1)).parent).map fun made =>
          let file := search (fun file => made.size? sizeOf (.ofText file)) settings.maxSize
            (basePath settings) date (made.nodes.length + 2) 1 (path (basePath settings) date 1)
          let opened := made.openAppend (FilePath.ofText file) first
          (opened.1, ⟨file, opened.2⟩) := by
  simp only [openFile, basePath, bind, Except.bind, Except.map, pure, Except.pure]

/-- Where the directory can be made, a log file is opened, and it is the first one of its day that
is not full. -/
theorem openFile_chosen {tree made : FileTree α}
    (makes : tree.makeAll (FilePath.ofText (path (basePath settings) date 1)).parent = .ok made) :
    ∃ index later location,
      openFile tree sizeOf first settings date
        = .ok (later, ⟨path (basePath settings) date index, location⟩) ∧
      Chosen (fun file => made.size? sizeOf (.ofText file)) settings.maxSize
        (path (basePath settings) date 1) (basePath settings) date index := by
  obtain ⟨index, near, chosen⟩ := exists_chosen (made.holdsAtMost sizeOf (basePath settings) date)
    settings.maxSize (path (basePath settings) date 1)
  let opened := made.openAppend (FilePath.ofText (path (basePath settings) date index)) first
  refine ⟨index, opened.1, opened.2, ?_, chosen⟩
  have found := search_first_of_chosen chosen (near.trans (Nat.le_succ _))
  rw [openFile_eq, makes]
  simp only [Except.map, found, opened]

end Logging

end ChainIdentity
