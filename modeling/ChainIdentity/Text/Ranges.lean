/-!
# Tables of ranges

What is known of code points is kept in tables whose entries are in increasing order and do not
overlap.  A search by halves (`searchFrom`) finds the only entry that can concern a given one;
`inRanges` is the case of a set, given as closed ranges.
-/

namespace ChainIdentity.Text

/-- Searches the elements with an index from `low` on, below `low + size`, for the one on which
`side` is equality; elsewhere `side` says on which side of the element to go on. -/
def searchFrom {α : Type} (side : α → Ordering) (elements : Array α) (low size : Nat) : Option α :=
  if h : size = 0 then none
  else
    let middle := low + size / 2
    match elements[middle]? with
    | none => none
    | some element =>
      match side element with
      | .lt =>
        have : size / 2 < size := Nat.div_lt_self (by omega) (by omega)
        searchFrom side elements low (size / 2)
      | .gt =>
        have : size - size / 2 - 1 < size := by omega
        searchFrom side elements (middle + 1) (size - size / 2 - 1)
      | .eq => some element
termination_by size

/-- Searches all elements. -/
def search {α : Type} (side : α → Ordering) (elements : Array α) : Option α :=
  searchFrom side elements 0 elements.size

/-- The side of a closed range on which a number lies. -/
def sideOf (n first last : Nat) : Ordering :=
  if n < first then .lt else if last < n then .gt else .eq

/-- Whether one of the ranges holds `n`. -/
def inRanges (ranges : Array (Nat × Nat)) (n : Nat) : Bool :=
  (search (fun (first, last) => sideOf n first last) ranges).isSome

end ChainIdentity.Text
