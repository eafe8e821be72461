/-!
# Parts of a text

A text falls into parts between the occurrences of a separator (`parts`).  There is always one: a
text without the separator is its own only part, and so is the empty text.
-/

namespace ChainIdentity.Text

/-- The parts of a text between separators; a text without any is one part. -/
def parts (separator : Char) : List Char → List (List Char)
  | [] => [[]]
  | c :: rest =>
    if c = separator then [] :: parts separator rest
    else
      match parts separator rest with
      | [] => [[c]]
      | part :: others => (c :: part) :: others

/-- There is at least one part. -/
theorem parts_ne_nil (separator : Char) (cs : List Char) : parts separator cs ≠ [] := by
  cases cs with
  | nil => simp [parts]
  | cons c rest =>
    simp only [parts]
    split
    · simp
    · split <;> simp

/-- What stands in front of the first occurrence of a mark, and what stands behind it. -/
def cut (mark : Char) (cs : List Char) : List Char × List Char :=
  (cs.takeWhile (· != mark), (cs.dropWhile (· != mark)).drop 1)

end ChainIdentity.Text
