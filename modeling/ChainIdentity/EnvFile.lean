import ChainIdentity.EnvFile.Assignment
import ChainIdentity.EnvFile.Lines

/-!
# Environment files

A file in the working directory may supply variables that have no value yet.  A variable that has
one, even an empty one, keeps it, so what is set from outside wins over the file and the first
assignment of the file over later ones.

The first line that cannot be understood ends the reading; what the lines before it say holds.
-/

namespace ChainIdentity.EnvFile

/-- The name of the file. -/
def fileName : String := ".env"

/-- Supplies what the lines say, up to the first bad one. -/
def supplyLines : Variables → List (Option (List Char)) → Variables
  | values, some line :: rest =>
    match Entry.ofLine values line with
    | .nothing => supplyLines values rest
    | .assignment name value => supplyLines (values.supply name value) rest
    | .bad => values
  | values, _ => values

/-- A text without the mark of its byte order at the front. -/
def withoutMark : List Char → List Char
  | '\ufeff' :: rest => rest
  | cs => cs

/-- The variables together with what the file supplies. -/
def load (values : Variables) (text : String) : Variables :=
  supplyLines values (logicalLines (withoutMark text.toList))

/-- The variables together with what the file supplies, if there is one. -/
def loadOptional (values : Variables) (text : Option String) : Variables :=
  match text with
  | some text => load values text
  | none => values

/-- A variable that has a value keeps it, whatever the lines say. -/
theorem supplyLines_of_some {name value : String} (lines : List (Option (List Char)))
    (values : Variables) (has : values name = some value) :
    supplyLines values lines name = some value := by
  induction lines generalizing values with
  | nil => exact has
  | cons line rest ih =>
    cases line with
    | none => exact has
    | some line =>
      rw [supplyLines]
      cases Entry.ofLine values line with
      | nothing => exact ih values has
      | assignment other given => exact ih _ (Variables.supply_of_some has other given)
      | bad => exact has

/-- What is set from outside wins over the file. -/
theorem loadOptional_of_some {name value : String} {values : Variables}
    (has : values name = some value) (text : Option String) :
    loadOptional values text name = some value := by
  cases text with
  | none => exact has
  | some text => exact supplyLines_of_some _ values has

end ChainIdentity.EnvFile
