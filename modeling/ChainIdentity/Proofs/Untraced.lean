import ChainIdentity.Proofs.Registry

/-!
# Errors apart from their trace ids

A trace id is handed out when an error is raised, so no two runs raise the same error twice, and
two runs can only be compared with the trace ids left out.  `untraced` puts one and the same id in
the place of every other; what is left is the kind of the error with all that belongs to it (a
status, a code), what it says, its metadata and the error behind it.

What is left does not depend on the journal in which the error was raised.  The lemmas say so of
each way to raise an error, and from there of each decision: reading a response, a block or a
quantity and asking the registry end in the same way, trace ids apart, whenever they are done.
-/

namespace ChainIdentity

/-! ## Errors -/

/-- The context with one and the same trace id in the place of every other. -/
def Context.untraced (context : Context) : Context :=
  { context with trace := ⟨0⟩ }

namespace Context

/-- Apart from its trace id, a context is what it was made to say and its source. -/
theorem make_untraced (note : Note) (source : Option Cause) (journal : Journal) :
    (make note source journal).1.untraced = ⟨note, ⟨0⟩, source⟩ := by
  unfold make
  cases source.bind Cause.inherited? with
  | some trace => rfl
  | none => rfl

/-- Apart from its trace id, a context that is written is what it was made to say and its source. -/
theorem logged_untraced (note : Note) (source : Option Cause) (journal : Journal) :
    (logged note source journal).1.untraced = ⟨note, ⟨0⟩, source⟩ :=
  make_untraced note source journal

end Context

/-- The error apart from its trace id. -/
def TransportError.untraced (error : TransportError) : TransportError :=
  { error with context := error.context.untraced }

/-- The error apart from its trace id. -/
def RegistryError.untraced (error : RegistryError) : RegistryError :=
  { error with context := error.context.untraced }

/-- The error apart from its trace id. -/
def ServiceError.untraced : ServiceError → ServiceError
  | registry error => .registry error.untraced
  | transport error => .transport error.untraced

/-- An error of the registry is left without its trace id as an error of a service, too. -/
theorem ServiceError.registry_untraced (error : RegistryError) :
    (registry error).untraced = .registry error.untraced := rfl

/-- An error of the transport is left without its trace id as an error of a service, too. -/
theorem ServiceError.transport_untraced (error : TransportError) :
    (transport error).untraced = .transport error.untraced := rfl

namespace TransportError

/-- Apart from its trace id, an error about something unreadable does not depend on when it
is made. -/
theorem unreadable_untraced (note : Note) (source : Option Cause) (journal : Journal) :
    (unreadable note source journal).1.untraced = ⟨.unreadable, note, ⟨0⟩, source⟩ :=
  congrArg (mk .unreadable) (Context.logged_untraced note source journal)

/-- Apart from its trace id, an error of the network does not depend on when it is made. -/
theorem network_untraced (note : Note) (source : Option Cause) (journal : Journal) :
    (network note source journal).1.untraced = ⟨.network, note, ⟨0⟩, source⟩ :=
  congrArg (mk .network) (Context.logged_untraced note source journal)

/-- Apart from its trace id, the error of a status does not depend on when it is made. -/
theorem http_untraced (status : HttpStatus) (url body : String) (metadata : Option Metadata)
    (source : Option Cause) (journal : Journal) :
    (http status url body metadata source journal).1.untraced
      = ⟨.http status url body, ⟨httpMessage status url, metadata⟩, ⟨0⟩, source⟩ :=
  congrArg (mk (.http status url body)) (Context.logged_untraced _ source journal)

/-- Apart from its trace id, an error that the node reports does not depend on when it is made. -/
theorem rpc_untraced (code : Int64) (note : Note) (journal : Journal) :
    (rpc code note journal).1.untraced = ⟨.rpc code, note, ⟨0⟩, none⟩ :=
  congrArg (mk (.rpc code)) (Context.logged_untraced note none journal)

end TransportError

/-- Apart from its trace id, an error of the registry does not depend on when it is raised. -/
theorem RegistryError.raise_untraced (problem : RegistryProblem) (note : Note)
    (source : Option Cause) (journal : Journal) :
    (raise problem note source journal).1.untraced = ⟨problem, note, ⟨0⟩, source⟩ := by
  cases problem with
  | genesisMismatch => exact congrArg (mk _) (Context.logged_untraced note source journal)
  | unsupportedNetwork => exact congrArg (mk _) (Context.make_untraced note source journal)
  | unrecognizedOperation => exact congrArg (mk _) (Context.make_untraced note source journal)
  | disallowedMethod => exact congrArg (mk _) (Context.make_untraced note source journal)

/-! ## Responses, blocks, quantities -/

/-- A fault of a response becomes the same error whenever it is found, trace ids apart. -/
theorem ResponseFault.toError_untraced (fault : ResponseFault) (method : String)
    (journal journal' : Journal) :
    (fault.toError method journal).1.untraced = (fault.toError method journal').1.untraced := by
  cases fault with
  | reported code message =>
    exact (TransportError.rpc_untraced _ _ journal).trans
      (TransportError.rpc_untraced _ _ journal').symm
  | noResult =>
    exact (TransportError.unreadable_untraced _ _ journal).trans
      (TransportError.unreadable_untraced _ _ journal').symm

/-- A response is decoded the same whenever it is, trace ids apart. -/
theorem Response.decode_untraced (method : String) (response : Json)
    (journal journal' : Journal) :
    (Response.decode method response journal).1.mapError TransportError.untraced
      = (Response.decode method response journal').1.mapError TransportError.untraced := by
  unfold Response.decode
  cases Response.result response with
  | ok value => rfl
  | error fault => exact congrArg Except.error (fault.toError_untraced method journal journal')

/-- A block is read the same whenever it is, trace ids apart. -/
theorem BlockId.parse_untraced (block : Json) (journal journal' : Journal) :
    (BlockId.parse block journal).1.mapError TransportError.untraced
      = (BlockId.parse block journal').1.mapError TransportError.untraced := by
  unfold BlockId.parse
  cases BlockId.ofNode block with
  | ok id => rfl
  | error fault =>
    have raised := TransportError.unreadable_untraced (.ofMethod blockMethod fault.message) none
    exact congrArg Except.error ((raised journal).trans (raised journal').symm)

/-- A quantity is read the same whenever it is, trace ids apart. -/
theorem Quantity.parse_untraced (method : String) (value : Json) (journal journal' : Journal) :
    (Quantity.parse method value journal).1.mapError TransportError.untraced
      = (Quantity.parse method value journal').1.mapError TransportError.untraced := by
  unfold Quantity.parse
  cases Quantity.ofNode value with
  | ok quantity => rfl
  | error fault =>
    have raised := TransportError.unreadable_untraced (.ofMethod method fault.message) none
    exact congrArg Except.error ((raised journal).trans (raised journal').symm)

/-! ## The registry -/

/-- The answer of a plain decision is the same whenever it is asked for. -/
theorem Answer.ofExcept_untraced {α : Type} (decision : Except Refusal α)
    (journal journal' : Journal) :
    (Answer.ofExcept decision journal).1.mapError RegistryError.untraced
      = (Answer.ofExcept decision journal').1.mapError RegistryError.untraced := by
  cases decision with
  | ok value => rfl
  | error refusal =>
    exact congrArg Except.error ((RegistryError.raise_untraced _ _ _ journal).trans
      (RegistryError.raise_untraced _ _ _ journal').symm)

end ChainIdentity
