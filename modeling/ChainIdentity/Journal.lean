import ChainIdentity.Text.Numeral

/-!
# The journal

Everything that happens is written to a journal: events with a level, a text and named values.
The journal also hands out trace ids.  A trace id names one failure through all the errors it
is wrapped in; ids are counted, so a new one differs from all before it and two errors carry the
same id only because one took it over from the other.

An event remembers the spans it happened in, outermost first.  How an event looks on a line is
the business of `ChainIdentity.Logging`.
-/

namespace ChainIdentity

/-- How much an event matters. -/
inductive Level where
  | trace
  | debug
  | info
  | warn
  | error
deriving DecidableEq, Repr

namespace Level

/-- The levels from the least to the most important. -/
def rank : Level → Nat
  | trace => 0
  | debug => 1
  | info => 2
  | warn => 3
  | error => 4

/-- The name of a level as it is printed. -/
def name : Level → String
  | trace => "TRACE"
  | debug => "DEBUG"
  | info => "INFO"
  | warn => "WARN"
  | error => "ERROR"

/-- Whether events of this level are kept when `threshold` is the least level kept. -/
def passes (level threshold : Level) : Bool :=
  threshold.rank ≤ level.rank

end Level

/-- The name of one failure. -/
structure TraceId where
  /-- Its place among all ids handed out. -/
  number : Nat
deriving DecidableEq, Repr

/-- A value recorded with an event or a span. -/
inductive FieldValue where
  /-- Shown as it is. -/
  | shown (text : String)
  /-- Shown in quotes on a line. -/
  | quoted (text : String)
  /-- A trace id. -/
  | trace (id : TraceId)
  /-- The moment of the event. -/
  | moment
deriving DecidableEq, Repr

/-- A named value. -/
abbrev Field := String × FieldValue

/-- Something that takes a while and in which events happen. -/
structure Span where
  /-- What it is. -/
  name : String
  /-- What is recorded about it. -/
  fields : List Field
deriving DecidableEq, Repr

/-- Something that happened. -/
structure Event where
  /-- How much it matters. -/
  level : Level
  /-- The part of the program that reports it. -/
  target : String
  /-- What happened. -/
  message : String
  /-- What is recorded about it. -/
  fields : List Field
  /-- The spans it happened in, outermost first. -/
  spans : List Span
deriving DecidableEq, Repr

/-- The events so far, and what the next ones need. -/
structure Journal where
  /-- The number of the next trace id. -/
  nextTrace : Nat
  /-- The spans that are open, outermost first. -/
  spans : List Span
  /-- The events in order. -/
  events : List Event
deriving DecidableEq, Repr

namespace Journal

/-- A journal in which nothing has happened. -/
def empty : Journal := ⟨0, [], []⟩

/-- The events written after the first `count` ones. -/
def eventsSince (journal : Journal) (count : Nat) : List Event :=
  journal.events.drop count

end Journal

/-- A computation that writes to the journal. -/
abbrev Journaled := StateM Journal

namespace Journaled

/-- A trace id that was never handed out before. -/
def freshTrace : Journaled TraceId := fun journal =>
  (⟨journal.nextTrace⟩, { journal with nextTrace := journal.nextTrace + 1 })

/-- Writes an event. -/
def emit (level : Level) (target message : String) (fields : List Field) : Journaled Unit :=
  fun journal =>
    ((), { journal with
      events := journal.events ++ [⟨level, target, message, fields, journal.spans⟩] })

/-- Runs a computation inside a span; the spans that were open before are open again
afterwards. -/
def within {α : Type} (span : Span) (run : Journaled α) : Journaled α := fun journal =>
  let (result, later) := run { journal with spans := journal.spans ++ [span] }
  (result, { later with spans := journal.spans })

end Journaled

end ChainIdentity
