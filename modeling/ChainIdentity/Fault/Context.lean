import ChainIdentity.Fault.Cause
import ChainIdentity.Fault.Metadata

/-!
# Error contexts

At the heart of every error of this library is a context: what went wrong, what it is about,
the trace id, and the cause.  The trace id is the one found on the way down the cause, and a
fresh one where there is none to take over.

Some errors are written to the journal where they arise (`Context.logged`); the others are made by
`Context.make`, which writes nothing.  A context that is made over one that was written before has
its trace id, so if it is written as well, there are two entries under this trace id.
-/

namespace ChainIdentity

/-- What an error says before it has a trace id. -/
structure Note where
  /-- What went wrong. -/
  message : String
  /-- What it is about; an error may have no metadata at all, which is not the same as empty
  metadata. -/
  metadata : Option Metadata
deriving DecidableEq

namespace Note

/-- A note without metadata. -/
def plain (message : String) : Note := ⟨message, none⟩

/-- A note about the given values. -/
def about (message : String) (entries : List (String × String)) : Note :=
  ⟨message, some (Metadata.ofList entries)⟩

/-- The message followed by the metadata. -/
def render (note : Note) : String :=
  match note.metadata with
  | none => note.message
  | some metadata => note.message ++ metadata.render

end Note

/-- What went wrong, under which trace id, and why. -/
structure Context where
  /-- What the error says. -/
  note : Note
  /-- The trace id. -/
  trace : TraceId
  /-- The error that caused it. -/
  source : Option Cause
deriving DecidableEq

namespace Context

/-- The text of the context. -/
def message (context : Context) : String :=
  context.note.render

/-- The value of a name in the metadata. -/
def get? (context : Context) (name : String) : Option String :=
  context.note.metadata.bind (·.get? name)

/-- Sets a value in the metadata, which is there afterwards. -/
def set (context : Context) (name value : String) : Context :=
  { context with
    note.metadata := some ((context.note.metadata.getD Metadata.empty).set name value) }

/-- A context under the trace id found in its source, or under a fresh one. -/
def make (note : Note) (source : Option Cause) : Journaled Context := do
  match source.bind Cause.inherited? with
  | some trace => return ⟨note, trace, source⟩
  | none => return ⟨note, ← Journaled.freshTrace, source⟩

/-- The part of the program that reports logged contexts. -/
def target : String := "corechain_registry::utils::logging::error"

/-- Writes a context to the journal. -/
def log (context : Context) : Journaled Unit :=
  Journaled.emit .error target "Error occurred"
    ([("message", .shown context.message), ("trace_id", .trace context.trace),
      ("timestamp", .moment)]
      ++ (context.source.map fun source => ("error.chain", FieldValue.shown source.chain)).toList)

/-- A context that is written to the journal as it arises. -/
def logged (note : Note) (source : Option Cause) : Journaled Context := do
  let context ← make note source
  log context
  return context

/-- The context as a cause: its own text and trace id, its source behind it. -/
def toCause (context : Context) : Cause :=
  .ofSource context.message (some context.trace) context.source

end Context

end ChainIdentity
