import Mathlib.Data.List.Nodup
import ChainIdentity.Node.Transport
import ChainIdentity.Proofs.Account
import ChainIdentity.Proofs.Inheritance

/-!
# What is reported

An error is reported by an event of the level of errors that has the error's trace id recorded.
`Makes` is the account of the contexts that were written as they arose, one after the other, and
each of them is one such event (`Makes.reportsSince_eq`).  What a context is made over was there
before: a trace id that is found in it was handed out.  So a context under a new trace id is the
first one under this trace id (`Makes.next_notMem`).

A trace id is reported twice where a context is made over one that was written before, since it
takes the trace id over and is written as well.  Whether that may happen is the parameter `anew` of
the account.  Where it may not, no trace id is reported twice (`Makes.nodup`).

How the errors of a round trip come about is up to the way to the node.
`Transport.MakesErrors` says that a way to the node fails with errors whose contexts were written
in the round trip, as every constructor of `TransportError` does
(`TransportError.Constructor.logs`).
-/

namespace ChainIdentity

/-- The trace ids that were reported after the first `count` events. -/
def Journal.reportsSince (journal : Journal) (count : Nat) : List TraceId :=
  (journal.eventsSince count).filterMap Event.reported?

/-- One event more is one report more, if it reports anything. -/
theorem Journal.reportsSince_of_event {journal later : Journal} {event : Event}
    (events : later.events = journal.events ++ [event]) :
    later.reportsSince journal.events.length = event.reported?.toList := by
  unfold reportsSince eventsSince
  rw [events, List.drop_left]
  cases reported : event.reported? with
  | none => simp [reported]
  | some trace => simp [reported]

/-! ## Contexts that are written -/

namespace Context

/-- Making a context writes no event. -/
theorem make_events (note : Note) (source : Option Cause) (journal : Journal) :
    (make note source journal).2.events = journal.events := by
  unfold make
  cases source.bind Cause.inherited? with
  | some trace => rfl
  | none => rfl

/-- Writing a context writes one event, which reports its trace id. -/
theorem logged_events (note : Note) (source : Option Cause) (journal : Journal) :
    ∃ event, (logged note source journal).2.events = journal.events ++ [event] ∧
      event.reported? = some (logged note source journal).1.trace := by
  obtain ⟨context, later, made⟩ : ∃ context later, make note source journal = (context, later) :=
    ⟨_, _, rfl⟩
  have same : later.events = journal.events := by
    rw [← make_events note source journal, made]
  have logs : logged note source journal = (context, (log context later).2) := by
    unfold logged
    rw [Journaled.bind_apply made]
    rfl
  rw [logs, ← same]
  exact ⟨_, rfl, by simp [Event.reported?, Ordered.lookup]⟩

end Context

/-- A trace id that is found in a source was handed out before: what an error is made over was
there before it.  This is all that is assumed of trace ids, and it says that a fresh one differs
from those that are around. -/
def HandedOut (source : Option Cause) (journal : Journal) : Prop :=
  ∀ trace, source.bind Cause.inherited? = some trace → trace.number < journal.nextTrace

/-- The trace id that is found in a source is not one of the given ones. -/
def Unreported (traces : List TraceId) (source : Option Cause) : Prop :=
  ∀ trace, source.bind Cause.inherited? = some trace → trace ∉ traces

/-- Where no trace id is found, none is that was not handed out. -/
theorem handedOut_of_traceless {source : Option Cause}
    (traceless : source.bind Cause.inherited? = none) (journal : Journal) :
    HandedOut source journal := by
  intro trace found
  rw [traceless] at found
  cases found

/-- Where no trace id is found, none is that was reported. -/
theorem unreported_of_traceless {source : Option Cause}
    (traceless : source.bind Cause.inherited? = none) (traces : List TraceId) :
    Unreported traces source := by
  intro trace found
  rw [traceless] at found
  cases found

/-! ## The account of what was written -/

/-- The contexts that were written since a journal, as they arose and one after the other. -/
inductive Makes (anew : Prop) (start : Journal) : List Context → Journal → Prop where
  /-- At first there is none. -/
  | nothing : Makes anew start [] start
  /-- Whatever passes quietly writes none. -/
  | aside {contexts : List Context} {journal later : Journal}
      (soFar : Makes anew start contexts journal) (quietly : journal.Quietly later) :
      Makes anew start contexts later
  /-- A context is made and written.  If all are made anew, it is not made over one of those that
  were written before it. -/
  | context {contexts : List Context} {journal : Journal} {source : Option Cause}
      (soFar : Makes anew start contexts journal) (note : Note)
      (handedOut : HandedOut source journal)
      (unreported : anew → Unreported (contexts.map Context.trace) source) :
      Makes anew start (contexts ++ [(Context.logged note source journal).1])
        (Context.logged note source journal).2

/-- The trace id that a context gets was handed out, if the one found in its source was. -/
theorem Context.Traced.handedOut {source : Option Cause} {journal later : Journal}
    {trace : TraceId} (traced : Context.Traced source journal later (some trace))
    (handedOut : HandedOut source journal) :
    journal.nextTrace ≤ later.nextTrace ∧ trace.number < later.nextTrace := by
  cases traced with
  | takenOver found next =>
    rw [next]
    exact ⟨Nat.le_refl _, handedOut trace found⟩
  | fresh missing next =>
    rw [next]
    exact ⟨Nat.le_succ _, Nat.lt_succ_self _⟩

namespace Makes

variable {anew : Prop} {start journal later : Journal} {contexts : List Context}

/-- What was written since a journal are the events since then that report, in their order. -/
theorem events (makes : Makes anew start contexts journal) :
    ∃ written, journal.events = start.events ++ written ∧
      written.filterMap Event.reported? = contexts.map Context.trace := by
  induction makes with
  | nothing => exact ⟨[], (List.append_nil _).symm, rfl⟩
  | aside soFar quietly ih =>
    obtain ⟨written, events, reports⟩ := ih
    obtain ⟨further, events', silent⟩ := quietly.events
    refine ⟨written ++ further, ?_, ?_⟩
    · rw [events', events, List.append_assoc]
    · rw [List.filterMap_append, reports, List.filterMap_eq_nil_iff.mpr silent, List.append_nil]
  | @context contexts journal source soFar note handedOut unreported ih =>
    obtain ⟨written, events, reports⟩ := ih
    obtain ⟨event, events', reported⟩ := Context.logged_events note source journal
    refine ⟨written ++ [event], ?_, ?_⟩
    · rw [events', events, List.append_assoc]
    · rw [List.filterMap_append, reports, List.map_append]
      simp [reported]

/-- Every context that was written is one report. -/
theorem reportsSince_eq (makes : Makes anew start contexts journal) :
    journal.reportsSince start.events.length = contexts.map Context.trace := by
  obtain ⟨written, events, reports⟩ := makes.events
  unfold Journal.reportsSince Journal.eventsSince
  rw [events, List.drop_left, reports]

/-- All trace ids that were reported were handed out. -/
theorem known (makes : Makes anew start contexts journal) :
    ∀ trace ∈ contexts.map Context.trace, trace.number < journal.nextTrace := by
  induction makes with
  | nothing =>
    intro trace among
    cases among
  | aside soFar quietly ih =>
    intro trace among
    exact Nat.lt_of_lt_of_le (ih trace among) quietly.traces
  | @context contexts journal source soFar note handedOut unreported ih =>
    obtain ⟨next, bound⟩ := (Context.logged_traced note source journal).handedOut handedOut
    intro trace among
    rw [List.map_append, List.map_singleton, List.mem_append, List.mem_singleton] at among
    rcases among with earlier | rfl
    · exact Nat.lt_of_lt_of_le (ih trace earlier) next
    · exact bound

/-- The next trace id was not reported. -/
theorem next_notMem (makes : Makes anew start contexts journal) :
    ⟨journal.nextTrace⟩ ∉ contexts.map Context.trace :=
  fun among => Nat.lt_irrefl _ (makes.known _ among)

/-- If all contexts are made anew, none has the trace id of another one. -/
theorem nodup (makes : Makes anew start contexts journal) (allAnew : anew) :
    (contexts.map Context.trace).Nodup := by
  induction makes with
  | nothing => exact List.nodup_nil
  | aside soFar quietly ih => exact ih
  | @context contexts journal source soFar note handedOut unreported ih =>
    have notMem : (Context.logged note source journal).1.trace ∉ contexts.map Context.trace := by
      have traced := Context.logged_traced note source journal
      generalize (Context.logged note source journal).1.trace = trace at traced
      cases traced with
      | takenOver found next => exact unreported allAnew trace found
      | fresh missing next => exact soFar.next_notMem
    rw [List.map_append, List.map_singleton]
    refine List.nodup_append.mpr ⟨ih, List.nodup_singleton _, ?_⟩
    intro earlier among other same equal
    rw [equal, List.mem_singleton.mp same] at among
    exact notMem among

/-- Where nothing was written at first, what was written is what was written afterwards. -/
theorem trans {between : Journal} (silent : Makes anew start [] between)
    (makes : Makes anew between contexts journal) : Makes anew start contexts journal := by
  induction makes with
  | nothing => exact silent
  | aside soFar quietly ih => exact ih.aside quietly
  | context soFar note handedOut unreported ih => exact ih.context note handedOut unreported

/-- A context that finds no trace id to take over has a new one, which is the last entry and the
only one under it. -/
theorem count_fresh (makes : Makes anew start contexts journal) (note : Note) :
    ((contexts ++ [(Context.logged note none journal).1]).map Context.trace).count
      (Context.logged note none journal).1.trace = 1 := by
  have trace : (Context.logged note none journal).1.trace = ⟨journal.nextTrace⟩ := rfl
  rw [List.map_append, List.map_singleton, trace, List.count_append,
    List.count_eq_zero_of_not_mem makes.next_notMem, List.count_singleton_self]

end Makes

/-! ## Errors of the transport -/

/-- The ways to make an error of the transport, and what it is made over.  An error that the node
reported is made over nothing. -/
inductive TransportError.Constructor : Option Cause → Journaled TransportError → Prop where
  | http (status : HttpStatus) (url body : String) (metadata : Option Metadata)
      (source : Option Cause) :
      Constructor source (TransportError.http status url body metadata source)
  | network (note : Note) (source : Option Cause) :
      Constructor source (TransportError.network note source)
  | unreadable (note : Note) (source : Option Cause) :
      Constructor source (TransportError.unreadable note source)
  | rpc (code : Int64) (note : Note) : Constructor none (TransportError.rpc code note)

/-- Every constructor writes the context of its error as it arises. -/
theorem TransportError.Constructor.logs {source : Option Cause} {make : Journaled TransportError}
    (constructor : TransportError.Constructor source make) :
    ∃ note, ∀ journal, (make journal).1.context = (Context.logged note source journal).1 ∧
      (make journal).2 = (Context.logged note source journal).2 := by
  cases constructor with
  | http status url body metadata =>
    exact ⟨⟨TransportError.httpMessage status url, metadata⟩, fun _ => ⟨rfl, rfl⟩⟩
  | network note => exact ⟨note, fun _ => ⟨rfl, rfl⟩⟩
  | unreadable note => exact ⟨note, fun _ => ⟨rfl, rfl⟩⟩
  | rpc code note => exact ⟨note, fun _ => ⟨rfl, rfl⟩⟩

/-- A constructor makes one more entry, the context of its error. -/
theorem Makes.error {anew : Prop} {start journal : Journal} {contexts : List Context}
    {source : Option Cause} {make : Journaled TransportError}
    (makes : Makes anew start contexts journal)
    (constructor : TransportError.Constructor source make) (handedOut : HandedOut source journal)
    (unreported : anew → Unreported (contexts.map Context.trace) source) :
    Makes anew start (contexts ++ [(make journal).1.context]) (make journal).2 := by
  obtain ⟨note, logs⟩ := constructor.logs
  obtain ⟨sameContext, sameLater⟩ := logs journal
  rw [sameContext, sameLater]
  exact makes.context note handedOut unreported

/-! ## Accounts -/

/-- The account of the contexts that were written since a journal. -/
def Account.made (anew : Prop) (start : Journal) : Account Context where
  Holds := Makes anew start
  aside := Makes.aside

/-- A way to the node makes its errors: the context of the error of a round trip, and those of the
errors among its results, are among the contexts that were written in it, as they are if every
error is made in the round trip by a constructor (`Makes.error`).  Others may have been written
beside them.  Over which errors the constructors are called is left open, unless all errors are
made anew. -/
structure Transport.MakesErrors {σ : Type} (way : Transport σ) (anew : Prop) : Prop where
  /-- The error of a single request. -/
  call : ∀ request state journal, ∃ contexts,
    Makes anew journal contexts (way.call request state journal).2 ∧
    ∀ error, (way.call request state journal).1.1 = .error error → error.context ∈ contexts
  /-- The error of several requests, or those among their results. -/
  batch : ∀ requests state journal, ∃ contexts,
    Makes anew journal contexts (way.batch requests state journal).2 ∧
    (∀ error, (way.batch requests state journal).1.1 = .error error →
      error.context ∈ contexts) ∧
    ∀ answers, (way.batch requests state journal).1.1 = .ok answers →
      ∀ error, .error error ∈ answers → error.context ∈ contexts

end ChainIdentity
