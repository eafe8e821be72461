import ChainIdentity.Fault.Startup
import ChainIdentity.Registry
import ChainIdentity.Node.Response

/-!
# What a raised error says

An error is raised with a kind and a note, and whatever else happens then, be it that a trace id
is taken over or handed out or that an event is written, kind and note of the error are those it
was raised with.  The lemmas here say so once for each way of raising an error, so that no later
proof has to look at trace ids or events in order to know what went wrong.
-/

namespace ChainIdentity

/-! ## Contexts -/

namespace Context

/-- A context says what it was made to say. -/
@[simp] theorem make_note (note : Note) (source : Option Cause) (journal : Journal) :
    (make note source journal).1.note = note := by
  unfold make
  cases source.bind Cause.inherited? with
  | some trace => rfl
  | none => rfl

/-- A context that is written says what it was made to say. -/
@[simp] theorem logged_note (note : Note) (source : Option Cause) (journal : Journal) :
    (logged note source journal).1.note = note :=
  make_note note source journal

/-- A context about one named value has it under this name, and nothing under any other. -/
theorem get?_of_about {context : Context} {message name value : String}
    (noted : context.note = .about message [(name, value)]) (name' : String) :
    context.get? name' = if name' = name then some value else none := by
  unfold get?
  rw [noted]
  exact Metadata.get?_set Metadata.empty name value name'

end Context

/-! ## Errors of the registry -/

namespace RegistryError

/-- An error of the registry is about the problem that it was raised for. -/
@[simp] theorem raise_problem (problem : RegistryProblem) (note : Note) (source : Option Cause)
    (journal : Journal) : (raise problem note source journal).1.problem = problem := by
  cases problem <;> rfl

/-- An error of the registry says what it was raised to say, written or not. -/
@[simp] theorem raise_note (problem : RegistryProblem) (note : Note) (source : Option Cause)
    (journal : Journal) : (raise problem note source journal).1.context.note = note := by
  cases problem with
  | genesisMismatch => exact Context.logged_note note source journal
  | unsupportedNetwork => exact Context.make_note note source journal
  | unrecognizedOperation => exact Context.make_note note source journal
  | disallowedMethod => exact Context.make_note note source journal

end RegistryError

namespace Refusal

/-- The error that a refusal becomes is about its problem. -/
@[simp] theorem toError_problem (refusal : Refusal) (journal : Journal) :
    (refusal.toError journal).1.problem = refusal.problem :=
  RegistryError.raise_problem _ _ _ _

/-- The error that a refusal becomes says what the refusal says. -/
@[simp] theorem toError_note (refusal : Refusal) (journal : Journal) :
    (refusal.toError journal).1.context.note = refusal.note :=
  RegistryError.raise_note _ _ _ _

end Refusal

/-- Where a decision is a refusal, the answer is the error that it becomes. -/
theorem Answer.ofExcept_error {α : Type} (refusal : Refusal) (journal : Journal) :
    ∃ error later, (ofExcept (.error refusal) : Answer α) journal = (.error error, later) ∧
      error.problem = refusal.problem ∧ error.context.note = refusal.note := by
  let raised := refusal.toError journal
  exact ⟨raised.1, raised.2, rfl, Refusal.toError_problem _ _, Refusal.toError_note _ _⟩

/-! ## Errors of the transport -/

namespace TransportError

/-- An error about something unreadable says what it was made to say. -/
@[simp] theorem unreadable_note (note : Note) (source : Option Cause) (journal : Journal) :
    (unreadable note source journal).1.context.note = note :=
  Context.logged_note note source journal

end TransportError

/-- An answer that holds a result is decoded as the result. -/
theorem Response.decode_of_ok {response value : Json} (holds : Response.result response = .ok value)
    (method : String) (journal : Journal) :
    Response.decode method response journal = (.ok value, journal) := by
  unfold Response.decode
  rw [holds]
  rfl

/-- An answer that holds no result is decoded as an error. -/
theorem Response.decode_of_error {response : Json} {fault : ResponseFault}
    (holds : Response.result response = .error fault) (method : String) (journal : Journal) :
    ∃ error later, Response.decode method response journal = (.error error, later) := by
  unfold Response.decode
  rw [holds]
  exact ⟨_, _, rfl⟩

/-- What is decoded successfully is the result that the answer holds. -/
theorem Response.decode_eq_ok_iff {response value : Json} (method : String) (journal : Journal) :
    (Response.decode method response journal).1 = .ok value ↔
      Response.result response = .ok value := by
  cases holds : Response.result response with
  | ok value' =>
    rw [Response.decode_of_ok holds]
    constructor
    · intro same
      rw [Except.ok.inj same]
    · intro same
      rw [Except.ok.inj same]
  | error fault =>
    obtain ⟨error, later, decodes⟩ := Response.decode_of_error holds method journal
    rw [decodes]
    constructor
    · intro contra
      cases contra
    · intro contra
      cases contra

/-- A block that can be read raises nothing. -/
theorem BlockId.parse_of_ok {block : Json} {id : BlockId} (read : BlockId.ofNode block = .ok id)
    (journal : Journal) : BlockId.parse block journal = (.ok id, journal) := by
  unfold BlockId.parse
  rw [read]
  rfl

/-- A block that cannot be read raises an error that says why. -/
theorem BlockId.parse_of_error {block : Json} {fault : BlockFault}
    (read : BlockId.ofNode block = .error fault) (journal : Journal) :
    ∃ error later, BlockId.parse block journal = (.error error, later) ∧
      error.problem = .unreadable ∧ error.context.note = .ofMethod blockMethod fault.message := by
  let raised := TransportError.unreadable (.ofMethod blockMethod fault.message) none journal
  refine ⟨raised.1, raised.2, ?_, rfl, TransportError.unreadable_note _ _ _⟩
  unfold BlockId.parse
  rw [read]
  rfl

/-- What parses as a block identifier is a block that can be read. -/
theorem BlockId.parse_eq_ok_iff {block : Json} {id : BlockId} (journal : Journal) :
    (BlockId.parse block journal).1 = .ok id ↔ BlockId.ofNode block = .ok id := by
  cases read : BlockId.ofNode block with
  | ok id' =>
    rw [BlockId.parse_of_ok read]
    simp only [Except.ok.injEq]
  | error fault =>
    obtain ⟨error, later, parsed, _⟩ := BlockId.parse_of_error read journal
    rw [parsed]
    simp only [reduceCtorEq]

/-- A quantity that can be read raises nothing. -/
theorem Quantity.parse_of_ok {value : Json} {quantity : Quantity}
    (read : Quantity.ofNode value = .ok quantity) (method : String) (journal : Journal) :
    Quantity.parse method value journal = (.ok quantity, journal) := by
  unfold Quantity.parse
  rw [read]
  rfl

/-- A quantity that cannot be read raises an error that says why. -/
theorem Quantity.parse_of_error {value : Json} {fault : QuantityFault}
    (read : Quantity.ofNode value = .error fault) (method : String) (journal : Journal) :
    ∃ error later, Quantity.parse method value journal = (.error error, later) ∧
      error.problem = .unreadable ∧ error.context.note = .ofMethod method fault.message := by
  let raised := TransportError.unreadable (.ofMethod method fault.message) none journal
  refine ⟨raised.1, raised.2, ?_, rfl, TransportError.unreadable_note _ _ _⟩
  unfold Quantity.parse
  rw [read]
  rfl

/-- What parses as a quantity is a quantity that can be read. -/
theorem Quantity.parse_eq_ok_iff {value : Json} {quantity : Quantity} (method : String)
    (journal : Journal) :
    (Quantity.parse method value journal).1 = .ok quantity ↔
      Quantity.ofNode value = .ok quantity := by
  cases read : Quantity.ofNode value with
  | ok quantity' =>
    rw [Quantity.parse_of_ok read]
    simp only [Except.ok.injEq]
  | error fault =>
    obtain ⟨error, later, parsed, _⟩ := Quantity.parse_of_error read method journal
    rw [parsed]
    simp only [reduceCtorEq]

end ChainIdentity
