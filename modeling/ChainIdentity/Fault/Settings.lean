import ChainIdentity.Fault.Context

/-!
# Errors of the settings

A setting is absent or makes no sense, or it cannot be read as what it has to be.  The error
names the variable in its metadata.  It is not written to the journal here: what loads the
settings at startup does that, once.
-/

namespace ChainIdentity

/-- What is wrong with a setting. -/
inductive SettingProblem where
  /-- It is absent, or names nothing that exists. -/
  | invalid
  /-- Its text cannot be read. -/
  | unparsable
deriving DecidableEq, Repr

/-- An error of a setting. -/
structure SettingError where
  /-- Its kind. -/
  problem : SettingProblem
  /-- What went wrong. -/
  context : Context
deriving DecidableEq

namespace SettingError

/-- Raises an error of the given kind. -/
def raise (problem : SettingProblem) (note : Note) (source : Option Cause) :
    Journaled SettingError := do
  return ⟨problem, ← Context.make note source⟩

/-- The text of the error. -/
def message (error : SettingError) : String :=
  match error.problem with
  | .invalid => "Validation error: " ++ error.context.message
  | .unparsable => "Parse error: " ++ error.context.message

/-- The trace id. -/
def trace (error : SettingError) : TraceId := error.context.trace

/-- The variable that the error is about. -/
def variableName? (error : SettingError) : Option String :=
  error.context.get? "variable"

/-- The error as a cause; it shows nothing behind it. -/
def toCause (error : SettingError) : Cause :=
  .last error.message (some error.trace)

end SettingError

end ChainIdentity
