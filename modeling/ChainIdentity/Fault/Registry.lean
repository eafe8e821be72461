import ChainIdentity.Fault.Context

/-!
# Errors of the registry

Four things can be wrong with what the registry is asked.  Only one of them is fatal: a node
that serves another chain than the configured one.  That one is written to the journal where it
arises; the others answer a single question, and whoever asked decides.
-/

namespace ChainIdentity

/-- What kind of question the registry refused. -/
inductive RegistryProblem where
  /-- The name is none of the networks. -/
  | unsupportedNetwork
  /-- The tag is none of the operations. -/
  | unrecognizedOperation
  /-- The node serves another chain. -/
  | genesisMismatch
  /-- The method is none of the permitted queries. -/
  | disallowedMethod
deriving DecidableEq, Repr

namespace RegistryProblem

/-- What messages of the kind start with. -/
def title : RegistryProblem → String
  | unsupportedNetwork => "Unsupported network"
  | unrecognizedOperation => "Unrecognized operation type"
  | genesisMismatch => "Genesis mismatch"
  | disallowedMethod => "Disallowed method"

end RegistryProblem

/-- An error of the registry. -/
structure RegistryError where
  /-- Its kind. -/
  problem : RegistryProblem
  /-- What went wrong. -/
  context : Context
deriving DecidableEq

namespace RegistryError

/-- Raises an error of the given kind; a mismatch is written to the journal. -/
def raise (problem : RegistryProblem) (note : Note) (source : Option Cause) :
    Journaled RegistryError := do
  match problem with
  | .genesisMismatch => return ⟨problem, ← Context.logged note source⟩
  | _ => return ⟨problem, ← Context.make note source⟩

/-- The text of the error. -/
def message (error : RegistryError) : String :=
  error.problem.title ++ ": " ++ error.context.message

/-- The trace id. -/
def trace (error : RegistryError) : TraceId := error.context.trace

/-- Whether the process must not go on serving. -/
def isFatal (error : RegistryError) : Bool :=
  error.problem == .genesisMismatch

/-- The error as a cause.  It shows nothing behind it: its text already tells the story. -/
def toCause (error : RegistryError) : Cause :=
  .last error.message (some error.trace)

end RegistryError

end ChainIdentity
