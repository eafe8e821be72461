import ChainIdentity.Fault.Layer

/-!
# How an error comes by its trace id

An error that is made over another one takes over the trace id that it finds there, or gets a fresh
one.  A trace id is found through at most three errors without one, and an error that drops what is
below finds nothing.

`Cause.Shows` says how far away the nearest trace id of a cause is, and `Cause.Hides` that a
trace id is not found in it at any distance.  `Context.Traced` are the two ways to come by a trace
id, and `apply_traced` says that they are the only ones for every layer but those of another
library.  So a layer either moves a trace id one step away (`apply_foreign`), takes it over
(`apply_takes`), or loses it (`apply_loses`), and a lost one does not come back (`apply_hides`).
-/

namespace ChainIdentity

/-! ## How far away a trace id is -/

namespace Cause

/-- An error that has a trace id shows it, whatever is behind it. -/
theorem traceWithin_of_trace? {cause : Cause} {trace : TraceId} (own : cause.trace? = some trace)
    (count : Nat) : cause.traceWithin (count + 1) = some trace := by
  cases cause with
  | last message trace' => exact own
  | before message trace' source =>
    obtain rfl : trace' = some trace := own
    rfl

/-- An error of another library shows what is behind it, one step further away. -/
theorem traceWithin_foreign (message : String) (source : Option Cause) (count : Nat) :
    (foreign message source).traceWithin (count + 1) = source.bind (traceWithin count) := by
  cases source with
  | none => rfl
  | some source => rfl

/-- The nearest trace id of a cause is the given one, and so many errors without one stand in
front of it. -/
def Shows (distance : Nat) (trace : TraceId) (cause : Cause) : Prop :=
  ∀ count, cause.traceWithin count = if distance < count then some trace else none

/-- An error that has a trace id shows it with nothing in front of it. -/
theorem shows_of_trace? {cause : Cause} {trace : TraceId} (own : cause.trace? = some trace) :
    cause.Shows 0 trace := by
  intro count
  cases count with
  | zero => rfl
  | succ count =>
    rw [traceWithin_of_trace? own, if_pos (Nat.succ_pos count)]

/-- An error of another library in front puts the trace id one step further away. -/
theorem Shows.foreign {distance : Nat} {trace : TraceId} {cause : Cause}
    (nearest : cause.Shows distance trace) (message : String) :
    (Cause.foreign message (some cause)).Shows (distance + 1) trace := by
  intro count
  cases count with
  | zero => rfl
  | succ count =>
    rw [traceWithin_foreign, Option.bind_some, nearest count]
    simp only [Nat.add_lt_add_iff_right]

/-- A trace id is taken over if and only if it is among the first four errors. -/
theorem Shows.inherited? {distance : Nat} {trace : TraceId} {cause : Cause}
    (nearest : cause.Shows distance trace) :
    cause.inherited? = if distance < searchDepth then some trace else none :=
  nearest searchDepth

/-- A trace id is not found in a cause, however far one looks. -/
def Hides (trace : TraceId) (cause : Cause) : Prop :=
  ∀ count, cause.traceWithin count ≠ some trace

/-- An error with a trace id of its own hides all others. -/
theorem hides_of_trace? {cause : Cause} {trace other : TraceId} (own : cause.trace? = some other)
    (different : other ≠ trace) : cause.Hides trace := by
  intro count found
  cases count with
  | zero => cases found
  | succ count =>
    rw [traceWithin_of_trace? own] at found
    exact different (Option.some.inj found)

/-- An error of another library has no trace id that its source does not have. -/
theorem hides_foreign {trace : TraceId} {source : Option Cause}
    (hides : ∀ cause, source = some cause → cause.Hides trace) (message : String) :
    (foreign message source).Hides trace := by
  intro count found
  cases count with
  | zero => cases found
  | succ count =>
    rw [traceWithin_foreign] at found
    obtain ⟨cause, same, found⟩ := Option.bind_eq_some_iff.mp found
    exact hides cause same count found

end Cause

/-- A failure shows its own trace id to the errors around it. -/
theorem Failure.toCause_trace? (failure : Failure) : failure.toCause.trace? = failure.trace? := by
  cases failure with
  | foreign message source => cases source <;> rfl
  | context context =>
    obtain ⟨note, trace, source⟩ := context
    cases source <;> rfl
  | registry error => rfl
  | transport error => rfl
  | setting error => rfl
  | verification error => cases error <;> rfl
  | query error => cases error <;> rfl
  | startup error => cases error <;> rfl

/-! ## What a layer does to the trace id below -/

/-- How an error that is made over a source comes by its trace id: it takes over the one that is
found in the source, and otherwise it gets the next one. -/
inductive Context.Traced (source : Option Cause) (journal later : Journal) :
    Option TraceId → Prop where
  /-- A trace id is found in the source. -/
  | takenOver {trace : TraceId} (found : source.bind Cause.inherited? = some trace)
      (next : later.nextTrace = journal.nextTrace) : Traced source journal later (some trace)
  /-- No trace id is found in the source. -/
  | fresh (missing : source.bind Cause.inherited? = none)
      (next : later.nextTrace = journal.nextTrace + 1) :
      Traced source journal later (some ⟨journal.nextTrace⟩)

/-- What else is done to the journal makes no difference. -/
theorem Context.Traced.of_next {source : Option Cause} {journal later later' : Journal}
    {trace? : Option TraceId} (traced : Traced source journal later trace?)
    (same : later'.nextTrace = later.nextTrace) : Traced source journal later' trace? := by
  cases traced with
  | takenOver found next => exact .takenOver found (same.trans next)
  | fresh missing next => exact .fresh missing (same.trans next)

/-- An error that is made over a source has a trace id in any case. -/
theorem Context.Traced.isSome {source : Option Cause} {journal later : Journal}
    {trace? : Option TraceId} (traced : Traced source journal later trace?) : trace?.isSome := by
  cases traced with
  | takenOver found next => rfl
  | fresh missing next => rfl

/-- A context comes by its trace id in one of the two ways. -/
theorem Context.make_traced (note : Note) (source : Option Cause) (journal : Journal) :
    Traced source journal (make note source journal).2
      (some (make note source journal).1.trace) := by
  unfold make
  cases found : source.bind Cause.inherited? with
  | some trace => exact .takenOver found rfl
  | none => exact .fresh found rfl

/-- A context that is written comes by its trace id as any other does. -/
theorem Context.logged_traced (note : Note) (source : Option Cause) (journal : Journal) :
    Traced source journal (logged note source journal).2
      (some (logged note source journal).1.trace) :=
  (make_traced note source journal).of_next rfl

/-- An error of the registry comes by its trace id as its context does, written or not. -/
theorem RegistryError.raise_traced (problem : RegistryProblem) (note : Note)
    (source : Option Cause) (journal : Journal) :
    Context.Traced source journal (raise problem note source journal).2
      (some (raise problem note source journal).1.trace) := by
  cases problem with
  | genesisMismatch => exact Context.logged_traced note source journal
  | unsupportedNetwork => exact Context.make_traced note source journal
  | unrecognizedOperation => exact Context.make_traced note source journal
  | disallowedMethod => exact Context.make_traced note source journal

namespace Layer

/-- Whether a layer is an error of another library, which has no trace id. -/
def isForeign : Layer → Bool
  | foreign _ => true
  | _ => false

/-- Whether a layer is an error that the node reported, which drops what is below. -/
def isRpc : Layer → Bool
  | rpc _ _ => true
  | _ => false

/-- What a layer sees of the failure below. -/
def source (layer : Layer) (below : Option Failure) : Option Cause :=
  if layer.isRpc then none else below.map Failure.toCause

/-- A conversion keeps the context of what it converts. -/
theorem convert?_context? {layer : Layer} {failure converted : Failure}
    (converts : layer.convert? failure = some converted) :
    converted.context? = failure.context? ∧ failure.context?.isSome := by
  cases layer <;> cases failure <;> cases converts
  -- Left are the conversions that exist; an error of verification is one of two others.
  case asStartup.verification error => cases error <;> exact ⟨rfl, rfl⟩
  all_goals exact ⟨rfl, rfl⟩

/-- A conversion keeps the trace id of what it converts, which is the one that an error around it
takes over. -/
theorem convert?_traced {layer : Layer} {below : Option Failure} {converted : Failure}
    (converts : below.bind layer.convert? = some converted) (journal : Journal) :
    Context.Traced (below.map Failure.toCause) journal journal converted.trace? := by
  obtain ⟨failure, rfl, converts⟩ := Option.bind_eq_some_iff.mp converts
  obtain ⟨same, has⟩ := convert?_context? converts
  obtain ⟨context, own⟩ := Option.isSome_iff_exists.mp has
  have trace : failure.trace? = some context.trace := congrArg (Option.map Context.trace) own
  have nearest := Cause.shows_of_trace? (failure.toCause_trace?.trans trace)
  have kept : converted.trace? = some context.trace :=
    congrArg (Option.map Context.trace) (same.trans own)
  rw [kept]
  refine .takenOver ?_ rfl
  rw [Option.map_some, Option.bind_some, nearest.inherited?, if_pos (by decide)]

/-- A layer that is no error of another library has a trace id, and it comes by it as its source
calls for. -/
theorem apply_traced {layer : Layer} (own : layer.isForeign = false) {below : Option Failure}
    {journal later : Journal} {failure : Failure}
    (applied : layer.apply below journal = (some failure, later)) :
    Context.Traced (layer.source below) journal later failure.trace? := by
  cases layer with
  | foreign message => cases own
  | context note =>
    cases applied
    exact Context.make_traced note _ journal
  | loggedContext note =>
    cases applied
    exact Context.logged_traced note _ journal
  | registry problem note =>
    cases applied
    exact RegistryError.raise_traced problem note _ journal
  | http status url body metadata =>
    cases applied
    exact Context.logged_traced ⟨TransportError.httpMessage status url, metadata⟩ _ journal
  | network note =>
    cases applied
    exact Context.logged_traced note _ journal
  | unreadable note =>
    cases applied
    exact Context.logged_traced note _ journal
  | rpc code note =>
    cases applied
    exact Context.logged_traced note none journal
  | setting problem note =>
    cases applied
    exact Context.make_traced note _ journal
  | initialization note =>
    cases applied
    exact Context.logged_traced note _ journal
  | asVerification =>
    obtain ⟨converts, rfl⟩ := Prod.mk.inj applied
    exact convert?_traced converts journal
  | asQuery =>
    obtain ⟨converts, rfl⟩ := Prod.mk.inj applied
    exact convert?_traced converts journal
  | asStartup =>
    obtain ⟨converts, rfl⟩ := Prod.mk.inj applied
    exact convert?_traced converts journal

/-- A layer of another library has no trace id, and what is below stays behind it. -/
theorem apply_foreign {layer : Layer} (fromLibrary : layer.isForeign = true)
    {below : Option Failure} {journal later : Journal} {failure : Failure}
    (applied : layer.apply below journal = (some failure, later)) :
    failure.trace? = none ∧ later = journal ∧
      ∃ message, failure.toCause = Cause.foreign message (below.map Failure.toCause) := by
  cases layer with
  | foreign message =>
    cases applied
    exact ⟨rfl, rfl, message, rfl⟩
  | _ => cases fromLibrary

/-! ## One layer -/

section

variable {layer : Layer} {below : Option Failure} {journal later : Journal} {failure : Failure}
  {trace : TraceId}

/-- A layer that keeps its source is made over the error below it. -/
theorem source_of_not_isRpc (keeps : layer.isRpc = false) (below : Option Failure) :
    layer.source below = below.map Failure.toCause := by
  unfold source
  rw [keeps]
  rfl

/-- An error of another library keeps its source. -/
theorem isRpc_of_isForeign (fromLibrary : layer.isForeign = true) : layer.isRpc = false := by
  cases layer with
  | foreign message => rfl
  | _ => cases fromLibrary

/-- Ids are handed out one after the other. -/
theorem nextTrace_le_of_apply (applied : layer.apply below journal = (some failure, later)) :
    journal.nextTrace ≤ later.nextTrace := by
  cases fromLibrary : layer.isForeign with
  | true =>
    obtain ⟨-, rfl, -⟩ := apply_foreign fromLibrary applied
    exact Nat.le_refl _
  | false =>
    have traced := apply_traced fromLibrary applied
    generalize failure.trace? = trace? at traced
    cases traced with
    | takenOver found next => omega
    | fresh missing next => omega

/-- An error that does not take a trace id over does not have it, nor does anything behind it
show it, unless it is the one that is handed out right now. -/
theorem apply_loses (own : layer.isForeign = false)
    (aside : trace.number < journal.nextTrace ∨ later.nextTrace ≤ trace.number)
    (lost : (layer.source below).bind Cause.inherited? ≠ some trace)
    (applied : layer.apply below journal = (some failure, later)) :
    failure.trace? ≠ some trace ∧ failure.toCause.Hides trace := by
  have traced := apply_traced own applied
  have shown := failure.toCause_trace?
  generalize failure.trace? = trace? at traced shown
  have different : ∀ other, trace? = some other → other ≠ trace := by
    rintro other rfl rfl
    cases traced with
    | takenOver found next => exact lost found
    | fresh missing next =>
      rcases aside with before | after
      · exact Nat.lt_irrefl _ before
      · rw [next] at after
        exact Nat.not_succ_le_self _ after
  obtain ⟨other, rfl⟩ := Option.isSome_iff_exists.mp traced.isSome
  exact ⟨fun same => different other rfl (Option.some.inj same),
    Cause.hides_of_trace? shown (different other rfl)⟩

/-- A trace id that is not found below a layer is not found above it either, unless it is the one
that is handed out right now. -/
theorem apply_hides (aside : trace.number < journal.nextTrace ∨ later.nextTrace ≤ trace.number)
    (hides : ∀ failure, below = some failure → failure.toCause.Hides trace)
    (applied : layer.apply below journal = (some failure, later)) :
    failure.trace? ≠ some trace ∧ failure.toCause.Hides trace := by
  have hides' : ∀ cause, below.map Failure.toCause = some cause → cause.Hides trace := by
    intro cause same
    obtain ⟨failure, belowEq, rfl⟩ := Option.map_eq_some_iff.mp same
    exact hides failure belowEq
  cases fromLibrary : layer.isForeign with
  | true =>
    obtain ⟨traceless, rfl, message, causeEq⟩ := apply_foreign fromLibrary applied
    rw [traceless, causeEq]
    exact ⟨nofun, Cause.hides_foreign hides' message⟩
  | false =>
    refine apply_loses fromLibrary aside ?_ applied
    intro found
    obtain ⟨cause, sourceEq, found⟩ := Option.bind_eq_some_iff.mp found
    unfold source at sourceEq
    split at sourceEq
    · cases sourceEq
    · exact hides' cause sourceEq _ found

/-- An error that takes a trace id over has it. -/
theorem apply_takes (own : layer.isForeign = false)
    (found : (layer.source below).bind Cause.inherited? = some trace)
    (applied : layer.apply below journal = (some failure, later)) :
    failure.trace? = some trace := by
  have traced := apply_traced own applied
  generalize failure.trace? = trace? at traced
  cases traced with
  | takenOver found' next => exact found'.symm.trans found
  | fresh missing next =>
    rw [missing] at found
    cases found

end

end Layer

end ChainIdentity
