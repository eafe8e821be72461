import ChainIdentity.Ordered

/-!
# Metadata of errors

An error may carry named values that say what it is about.  The names are kept in order, so the
same names and values are always shown in the same way, however they were set.

`get?_set` says that setting a value is felt by its own name only.
-/

namespace ChainIdentity

/-- Named values in the order of their names. -/
structure Metadata where
  /-- The names with their values. -/
  entries : List (String × String)
  /-- The names increase strictly. -/
  sorted : Ordered.Sorted entries
deriving DecidableEq

namespace Metadata

/-- No values at all. -/
def empty : Metadata := ⟨[], List.Pairwise.nil⟩

/-- The value of a name. -/
def get? (metadata : Metadata) (name : String) : Option String :=
  Ordered.lookup name metadata.entries

/-- Sets the value of a name. -/
def set (metadata : Metadata) (name value : String) : Metadata :=
  ⟨Ordered.insert name value metadata.entries, Ordered.sorted_insert metadata.sorted⟩

/-- The given values, the last of several of one name staying. -/
def ofList (entries : List (String × String)) : Metadata :=
  entries.foldl (fun metadata entry => metadata.set entry.1 entry.2) empty

/-- Setting a value is felt by its own name only. -/
theorem get?_set (metadata : Metadata) (name value name' : String) :
    (metadata.set name value).get? name' =
      if name' = name then some value else metadata.get? name' :=
  Ordered.lookup_insert

/-- The values as they follow a message: in brackets, or nothing where there are none. -/
def render (metadata : Metadata) : String :=
  if metadata.entries.isEmpty then ""
  else
    " [" ++ String.intercalate ", " (metadata.entries.map fun e => e.1 ++ "=" ++ e.2) ++ "]"

end Metadata

end ChainIdentity
