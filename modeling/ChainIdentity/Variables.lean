/-!
# Variables

The settings of the process are variables: names with texts.  A name may have no text, and an
empty text is not the same as none.
-/

namespace ChainIdentity

/-- The values of variables. -/
abbrev Variables := String → Option String

namespace Variables

/-- The same variables with one more value, unless the variable has one already. -/
def supply (values : Variables) (name value : String) : Variables :=
  fun other =>
    if other = name then some ((values name).getD value) else values other

/-- A variable that has a value keeps it, whatever is supplied. -/
theorem supply_of_some {values : Variables} {name old : String} (has : values name = some old)
    (other value : String) : values.supply other value name = some old := by
  unfold supply
  by_cases same : name = other
  · rw [if_pos same, ← same, has, Option.getD_some]
  · rw [if_neg same, has]

end Variables

end ChainIdentity
