import ChainIdentity.Proofs.Making
import ChainIdentity.Proofs.NodeAddress
import ChainIdentity.Proofs.Query

/-!
# How often errors are reported

An error that calls for attention is reported where it arises and nowhere else: a node of another
chain, a missing part at startup, and a configuration that cannot be used are reported once.  An
error that only answers a question, of an unknown network or of a method that is not permitted, is
not reported by this library at all.  An error of the transport is reported by the constructor that
makes it, and again by every constructor that makes another error over it, for that error takes its
trace id over.  `Due` has the three cases, and `Reportable.due` says which error is which.

`errors_reported_as_due` is the main statement: whatever an operation fails with is reported in it
as often as is due, over every way to the node that makes its errors by the constructors of
`TransportError`.  If the way makes its errors anew, an error of the transport is reported once
too.  That this is needed is seen from a way to the node that makes one error over another
(`relayed_error_reported_twice`).

The operations are followed along their text with the account of the contexts that were written
(`Account.made`).  An error fits that account (`AsDue`) if its trace id is among those of the
contexts as often as it has to be.  The one operation that is gone through by hand is the loading
of a configuration: there an error is made in silence, and reported only when it is turned into one
of startup.
-/

namespace ChainIdentity

/-! ## Which errors are reported -/

/-- How often an error is reported in the operation that fails with it. -/
inductive Due where
  /-- Not at all. -/
  | never
  /-- Once. -/
  | once
  /-- As often as a constructor made an error under its trace id. -/
  | asMade
deriving DecidableEq

/-- A node of another chain is reported; the other errors of the registry are not. -/
def RegistryError.due (error : RegistryError) : Due :=
  if error.problem = .genesisMismatch then .once else .never

/-- An error of a service is reported as the error that it is. -/
def ServiceError.due : ServiceError → Due
  | registry error => error.due
  | transport _ => .asMade

/-- An error of startup is reported as the error that it is; settings that cannot be used and a
part that is missing are reported once. -/
def StartupError.due : StartupError → Due
  | settings _ => .once
  | registry error => error.due
  | transport _ => .asMade
  | initialization _ => .once

/-- An error under a trace id, and how often it is reported. -/
class Reportable (ε : Type) where
  /-- The trace id. -/
  trace : ε → TraceId
  /-- How often the error is reported. -/
  due : ε → Due

namespace Reportable

instance : Reportable TransportError := ⟨TransportError.trace, fun _ => .asMade⟩

instance : Reportable RegistryError := ⟨RegistryError.trace, RegistryError.due⟩

instance : Reportable ServiceError := ⟨ServiceError.trace, ServiceError.due⟩

instance : Reportable StartupError := ⟨StartupError.trace, StartupError.due⟩

end Reportable

/-- An error is as often among the contexts that were written as it has to be. -/
def AsDue {ε : Type} [Reportable ε] (error : ε) (contexts : List Context) : Prop :=
  match Reportable.due error with
  | .never => Reportable.trace error ∉ contexts.map Context.trace
  | .once => (contexts.map Context.trace).count (Reportable.trace error) = 1
  | .asMade => Reportable.trace error ∈ contexts.map Context.trace

/-- An attempt fails with an error that is reported as is due. -/
abbrev FailsAsDue {ε α : Type} [Reportable ε] : Except ε α → List Context → Prop :=
  Ended (fun _ _ => True) AsDue

/-- How often what a conversation fails with was reported in it.  An error that is due as often as
it was made was made at least once, each time is one of the contexts that were written in the
conversation, and if all of these were made anew, there is one such time. -/
def Attempt.ReportsAsDue {σ ε α : Type} [Reportable ε] (run : Attempt σ ε α) (anew : Prop) : Prop :=
  ∀ state journal error, (run state journal).1.1 = .error error →
    let count := ((run state journal).2.reportsSince journal.events.length).count
      (Reportable.trace error)
    match Reportable.due error with
    | .never => count = 0
    | .once => count = 1
    | .asMade => 1 ≤ count ∧ (anew → count = 1) ∧
      ∃ contexts, Makes anew journal contexts (run state journal).2 ∧
        count = (contexts.map Context.trace).count (Reportable.trace error)

variable {σ α : Type} {anew : Prop} {start : Journal} {before : List Context}

/-- A conversation that is covered by the account of what was written, begun anew, reports what it
fails with as is due. -/
theorem Attempt.reportsAsDue_of_covered {ε : Type} [Reportable ε] {run : Attempt σ ε α}
    {done : α → List Context → Prop}
    (covered : ∀ start, (Account.made anew start).CoversTalk [] run (Ended done AsDue)) :
    run.ReportsAsDue anew := by
  intro state journal error fails count
  obtain ⟨contexts, -, makes, fits⟩ := covered journal state journal .nothing
  rw [fails] at fits
  have counted : count = (contexts.map Context.trace).count (Reportable.trace error) :=
    congrArg (List.count _) makes.reportsSince_eq
  have fits : AsDue error contexts := fits
  unfold AsDue at fits
  cases due : Reportable.due error with
  | never =>
    rw [due] at fits
    exact counted.trans (List.count_eq_zero_of_not_mem fits)
  | once =>
    rw [due] at fits
    exact counted.trans fits
  | asMade =>
    rw [due] at fits
    have positive : 1 ≤ count := by
      rw [counted]
      exact List.count_pos_iff.mpr fits
    refine ⟨positive, fun allAnew => ?_, contexts, makes, counted⟩
    rw [counted]
    exact List.count_eq_one_of_mem (makes.nodup allAnew) fits

/-! ## Errors as they arise -/

/-- A context that is written as it arises, over nothing, is reported once. -/
theorem Context.logged_reported (note : Note) :
    (Account.made anew start).Covers before (Context.logged note none)
      fun context contexts => (contexts.map Context.trace).count context.trace = 1 := by
  intro journal makes
  have traceless : (none : Option Cause).bind Cause.inherited? = none := rfl
  have further := makes.context note (handedOut_of_traceless traceless journal)
    fun _ => unreported_of_traceless traceless _
  exact ⟨_, List.subset_append_left _ _, further, makes.count_fresh note⟩

/-- Another context has a trace id that was never reported. -/
theorem Context.make_unreported (note : Note) :
    (Account.made anew start).Covers before (Context.make note none)
      fun context contexts => context.trace ∉ contexts.map Context.trace := by
  intro journal makes
  have quietly : journal.Quietly (Context.make note none journal).2 :=
    .of_events_eq rfl (Nat.le_succ _)
  exact ⟨before, List.Subset.refl _, makes.aside quietly, makes.next_notMem⟩

/-- What was made is reported as is due, if it is due as often as it was made. -/
theorem asDue_of_mem {error : TransportError} {contexts : List Context}
    (among : error.context ∈ contexts) : AsDue error contexts :=
  List.mem_map_of_mem among

/-- An attempt that fails with an error that was made fails with one that is reported as is due. -/
theorem FailsMade.asDue {result : Except TransportError α} {contexts : List Context}
    (made : FailsMade result contexts) : FailsAsDue result contexts := by
  cases result with
  | ok value => trivial
  | error error => exact asDue_of_mem made

/-- An error of the registry that is not about another chain is made without a report. -/
theorem RegistryError.make_unreported {problem : RegistryProblem}
    (other : problem ≠ .genesisMismatch) (note : Note) :
    (Account.made anew start).Covers before
      (do return (⟨problem, ← Context.make note none⟩ : RegistryError)) AsDue := by
  apply (Context.make_unreported note).bind
  intro context contexts _ notMem
  have due : Reportable.due (⟨problem, context⟩ : RegistryError) = .never := if_neg other
  refine .pure ?_
  unfold AsDue
  rw [due]
  exact notMem

/-- The registry reports a node of another chain and nothing else. -/
theorem RegistryError.raise_reported (problem : RegistryProblem) (note : Note) :
    (Account.made anew start).Covers before (raise problem note none) AsDue := by
  cases problem with
  | genesisMismatch =>
    apply (Context.logged_reported note).bind
    intro context contexts _ once
    exact .pure once
  | unsupportedNetwork => exact make_unreported (by decide) note
  | unrecognizedOperation => exact make_unreported (by decide) note
  | disallowedMethod => exact make_unreported (by decide) note

/-- An answer of the registry reports nothing, and a refusal is reported as is due. -/
theorem Answer.ofExcept_reported (decision : Except Refusal α) :
    (Account.made anew start).Covers before (Answer.ofExcept decision).run
      (Ended (fun _ contexts => contexts = before) AsDue) := by
  cases decision with
  | ok value => exact .pure rfl
  | error refusal => exact (RegistryError.raise_reported refusal.problem refusal.note).raise

/-! ## Round trips and readings -/

namespace Transport.MakesErrors

variable {way : Transport σ}

/-- A round trip reports the error that it fails with as is due. -/
theorem call_reported (makes : way.MakesErrors anew) (request : Request) :
    (Account.made anew start).CoversTalk [] (way.call request) FailsAsDue := by
  intro state journal silent
  obtain ⟨contexts, made, among⟩ := makes.call request state journal
  refine ⟨contexts, List.nil_subset _, Makes.trans silent made, ?_⟩
  refine ended_iff.mpr ⟨fun _ _ => trivial, ?_⟩
  intro error fails
  exact asDue_of_mem (among error fails)

/-- The errors among the results of a round trip were made when it is over. -/
theorem batch_reported (makes : way.MakesErrors anew) (requests : List Request) :
    (Account.made anew start).CoversTalk [] (way.batch requests) (Ended ResultsMade AsDue) := by
  intro state journal silent
  obtain ⟨contexts, made, among, amongAll⟩ := makes.batch requests state journal
  refine ⟨contexts, List.nil_subset _, Makes.trans silent made, ?_⟩
  refine ended_iff.mpr ⟨amongAll, ?_⟩
  intro error fails
  exact asDue_of_mem (among error fails)

end Transport.MakesErrors

/-- What cannot be read is reported. -/
theorem unreadable_reported (note : Note) :
    (Account.made anew start).Covers before
      (do throw (← TransportError.unreadable note none) : Trip α).run FailsAsDue := by
  apply (raise_made (.unreadable note none) rfl).mono
  intro ended contexts _ made
  exact made.asDue

/-- A block that cannot be read is reported. -/
theorem BlockId.parse_reported (block : Json) :
    (Account.made anew start).Covers before (BlockId.parse block).run FailsAsDue := by
  unfold BlockId.parse
  cases BlockId.ofNode block with
  | ok id => exact .pure trivial
  | error fault => exact unreadable_reported _

/-- A quantity that cannot be read is reported. -/
theorem Quantity.parse_reported (method : String) (value : Json) :
    (Account.made anew start).Covers before (Quantity.parse method value).run FailsAsDue := by
  unfold Quantity.parse
  cases Quantity.ofNode value with
  | ok quantity => exact .pure trivial
  | error fault => exact unreadable_reported _

/-! ## Verification -/

namespace Verification

/-- An error of the registry is reported as an error of a service if it is as one of the
registry. -/
theorem ofRegistry_reported {answer : Answer α} {done : α → List Context → Prop}
    (reported : (Account.made anew start).Covers before answer.run (Ended done AsDue)) :
    (Account.made anew start).CoversTalk before (ofRegistry answer : Attempt σ ServiceError α)
      (Ended done AsDue) := by
  apply (Account.CoversTalk.ofJournaled reported).mapError
  intro error contexts due
  exact due

/-- An error in reading is reported as an error of a service if it is as one of the transport. -/
theorem ofTrip_reported {trip : Trip α} {done : α → List Context → Prop}
    (reported : (Account.made anew start).Covers before trip.run (Ended done AsDue)) :
    (Account.made anew start).CoversTalk before (ofTrip trip : Attempt σ ServiceError α)
      (Ended done AsDue) := by
  apply (Account.CoversTalk.ofJournaled reported).mapError
  intro error contexts due
  exact due

/-- An error of a round trip is reported as an error of a service if it is as one of the
transport. -/
theorem ofTransport_reported {trip : Attempt σ TransportError α} {done : α → List Context → Prop}
    (reported : (Account.made anew start).CoversTalk before trip (Ended done AsDue)) :
    (Account.made anew start).CoversTalk before (ofTransport trip) (Ended done AsDue) := by
  apply reported.mapError
  intro error contexts due
  exact due

/-- An answer that was made, if it is an error, is passed on as it is. -/
theorem given_reported {answer : Except TransportError α}
    (made : ∀ error, answer = .error error → error.context ∈ before) :
    (Account.made anew start).CoversTalk before
      (ofTrip (ExceptT.mk (pure answer)) : Attempt σ ServiceError α) FailsAsDue := by
  refine ofTrip_reported (.pure ?_)
  cases answer with
  | ok value => trivial
  | error error => exact asDue_of_mem (made error rfl)

/-- A mismatch is reported once. -/
theorem compare_reported (registry : Registry) (name : String) (report : NodeReport) :
    (Account.made anew start).CoversTalk before
      (compare registry name report : Attempt σ ServiceError Unit) FailsAsDue := by
  apply (ofRegistry_reported (Answer.ofExcept_reported (registry.matchGenesis name _))).after
  intro _ contexts _ _
  apply (ofRegistry_reported (Answer.ofExcept_reported (registry.matchChainId name _))).mono
  intro ended further _ fits
  cases ended with
  | ok value => trivial
  | error error => exact fits

/-- The judgement on the answers reports what it fails with, unless it is one of their errors, which
were reported before. -/
theorem settle_reported (registry : Registry) (name : String)
    {answers : List (Except TransportError Json)} (made : ResultsMade answers before) :
    (Account.made anew start).CoversTalk before
      (settle registry name answers : Attempt σ ServiceError NodeReport) FailsAsDue := by
  have missing : ∀ note : Note, (Account.made anew start).CoversTalk before
      (do throw (.transport (← TransportError.unreadable note none)) :
        Attempt σ ServiceError NodeReport) FailsAsDue := by
    intro note
    apply Account.CoversTalk.write ((TransportError.Constructor.unreadable note none).made rfl)
    intro error contexts _ among
    have due : AsDue (ServiceError.transport error) contexts := asDue_of_mem among
    exact .throw due
  rcases answers with _ | ⟨first, _ | ⟨second, others⟩⟩
  · exact missing _
  · exact missing _
  · have firstMade : ∀ error, first = .error error → error.context ∈ before := by
      intro error same
      exact made error (same ▸ List.mem_cons_self)
    apply (given_reported firstMade).after
    intro block contexts kept _
    apply (ofTrip_reported (BlockId.parse_reported block)).after
    intro genesis further kept' _
    have secondMade : ∀ error, second = .error error → error.context ∈ further := by
      intro error same
      exact kept' (kept (made error (same ▸ List.mem_cons_of_mem _ List.mem_cons_self)))
    apply (given_reported secondMade).after
    intro quantity _ _ _
    apply (ofTrip_reported (Quantity.parse_reported chainIdMethod quantity)).after
    intro chainId _ _ _
    apply (compare_reported registry name ⟨genesis, chainId⟩).after
    intro _ _ _ _
    exact .ok trivial

section

variable {way : Transport σ}

/-- What keeps the first block from being fetched is reported as is due. -/
theorem fetchGenesis_reported (makes : way.MakesErrors anew) :
    (Account.made anew start).CoversTalk [] (fetchGenesis way) FailsAsDue := by
  apply Account.CoversTalk.within
  apply (ofTransport_reported (makes.call_reported genesisRequest)).after
  intro block _ _ _
  exact ofTrip_reported (BlockId.parse_reported block)

/-- What keeps the chain id from being fetched is reported as is due. -/
theorem fetchChainId_reported (makes : way.MakesErrors anew) :
    (Account.made anew start).CoversTalk [] (fetchChainId way) FailsAsDue := by
  apply Account.CoversTalk.within
  apply (ofTransport_reported (makes.call_reported chainIdRequest)).after
  intro quantity _ _ _
  exact ofTrip_reported (Quantity.parse_reported chainIdMethod quantity)

/-- What a verification fails with is reported as is due. -/
theorem verify_reported (makes : way.MakesErrors anew) (registry : Registry) (name : String) :
    (Account.made anew start).CoversTalk [] (verify registry way name) FailsAsDue := by
  apply Account.CoversTalk.within
  apply (ofRegistry_reported (Answer.ofExcept_reported (registry.lookup name))).after
  intro descriptor contexts _ silent
  rw [silent]
  apply (ofTransport_reported (makes.batch_reported [genesisRequest, chainIdRequest])).after
  intro answers contexts _ made
  apply (settle_reported registry name made).after
  intro report _ _ _
  apply Account.CoversTalk.write (.emit fun _ => rfl)
  intro _ _ _ _
  exact .ok trivial

end

end Verification

/-! ## Queries -/

/-- What a query fails with is reported as is due. -/
theorem passThrough_reported {way : Transport σ} (makes : way.MakesErrors anew)
    (request : Request) :
    (Account.made anew start).CoversTalk [] (passThrough way request) FailsAsDue := by
  apply Account.CoversTalk.within
  apply (Verification.ofRegistry_reported (Answer.ofExcept_reported _)).after
  intro _ contexts _ silent
  rw [silent]
  exact Verification.ofTransport_reported (makes.call_reported request)

/-! ## Loading a configuration -/

namespace Configuration

/-- A reading refuses a network only because its name has no descriptor. -/
def RefusesUnknown (reading : Except SettingFault α) : Prop :=
  ∀ text refusal, reading = .error (.badNetwork text refusal) →
    refusal.problem = .unsupportedNetwork

namespace RefusesUnknown

/-- A reading that succeeds refuses nothing. -/
theorem ok (value : α) : RefusesUnknown (.ok value) := by
  intro text refusal contra
  cases contra

/-- A reading of another variable refuses no network. -/
theorem of_blames {reading : Except SettingFault α} {setting : Setting}
    (blames : BlamesOnly [setting] reading) (other : setting ≠ .network) :
    RefusesUnknown reading :=
  fun _ _ fails => absurd (List.mem_singleton.mp (blames _ fails)).symm other

/-- Of two readings in a row, each has to refuse networks for this reason only. -/
theorem bind {β : Type} {first : Except SettingFault α} {next : α → Except SettingFault β}
    (now : RefusesUnknown first) (later : ∀ value, RefusesUnknown (next value)) :
    RefusesUnknown (first >>= next) := by
  cases first with
  | ok value => exact later value
  | error fault =>
    intro text refusal same
    exact now text refusal (congrArg Except.error (Except.error.inj same))

end RefusesUnknown

/-- A variable that is not there is not taken for a network. -/
theorem required_refuses (values : Variables) (setting : Setting) :
    RefusesUnknown (values.required setting) := by
  intro text refusal fails
  unfold Variables.required at fails
  split at fails
  · cases fails
  · cases fails

/-- The network is refused where the registry finds nothing under the name. -/
theorem readNetwork_refuses (registry : Registry) (text : String) :
    RefusesUnknown (readNetwork registry text) := by
  unfold readNetwork Registry.lookup
  cases registry.find? text with
  | some descriptor => exact .ok descriptor
  | none =>
    intro text' refusal fails
    cases fails
    rfl

/-- A configuration as a whole refuses a network only for this reason. -/
theorem read_refuses (registry : Registry) (values : Variables) :
    RefusesUnknown (read registry values) := by
  have blamed : ∀ setting : Setting, setting ∈ [setting] := fun _ => List.mem_cons_self
  apply RefusesUnknown.bind (required_refuses values .mode)
  intro mode
  apply RefusesUnknown.bind (.of_blames (readMode_blames (blamed .mode) mode) (by decide))
  intro _
  apply RefusesUnknown.bind (required_refuses values .network)
  intro network
  apply RefusesUnknown.bind (readNetwork_refuses registry network)
  intro _
  apply RefusesUnknown.bind (required_refuses values .port)
  intro port
  apply RefusesUnknown.bind (.of_blames (readPort_blames (blamed .port) port) (by decide))
  intro _
  apply RefusesUnknown.bind (.of_blames (readUrl_blames (blamed .nodeUrl) _) (by decide))
  intro _
  apply RefusesUnknown.bind (.of_blames (readFlag_blames (blamed .skipNodeAdmin) _) (by decide))
  intro _
  exact .ok _

end Configuration

/-- A fault becomes an error under a fresh trace id, and nothing is written. -/
theorem SettingFault.toError_apply {fault : SettingFault}
    (unknown : Configuration.RefusesUnknown (.error fault : Except SettingFault Unit))
    (journal : Journal) :
    ∃ error, fault.toError journal = (error, journal.traced) ∧
      error.trace = ⟨journal.nextTrace⟩ := by
  cases fault with
  | absent setting => exact ⟨_, rfl, rfl⟩
  | badMode text => exact ⟨_, rfl, rfl⟩
  | badPort text error => exact ⟨_, rfl, rfl⟩
  | badUrl text error => exact ⟨_, rfl, rfl⟩
  | badFlag text => exact ⟨_, rfl, rfl⟩
  | badNetwork text refusal =>
    have problem := unknown text refusal rfl
    cases refusal with
    | unsupported note => exact ⟨_, rfl, rfl⟩
    | unrecognized text => cases problem
    | otherGenesis network observed expected => cases problem
    | otherChain network observed expected => cases problem
    | disallowed method => cases problem

namespace Configuration

variable {registry : Registry} {values : Variables}

/-- A configuration that cannot be read is refused under a fresh trace id, and nothing is
written. -/
theorem load_of_fault {fault : SettingFault} (reads : read registry values = .error fault)
    (journal : Journal) :
    ∃ error, load registry values journal = (.error error, journal.traced) ∧
      error.trace = ⟨journal.nextTrace⟩ := by
  have unknown : RefusesUnknown (.error fault : Except SettingFault Unit) := by
    intro text refusal same
    exact read_refuses registry values text refusal
      (reads.trans (congrArg Except.error (Except.error.inj same)))
  obtain ⟨error, raises, fresh⟩ := fault.toError_apply unknown journal
  refine ⟨error, ?_, fresh⟩
  unfold load
  rw [reads]
  show (Except.error (fault.toError journal).1, (fault.toError journal).2) = _
  rw [raises]

/-- Loading writes no event. -/
theorem load_events (registry : Registry) (values : Variables) (journal : Journal) :
    (load registry values journal).2.events = journal.events := by
  cases reads : read registry values with
  | ok configuration => rw [load_of_read reads]
  | error fault =>
    obtain ⟨error, fails, -⟩ := load_of_fault reads journal
    rw [fails]
    rfl

end Configuration

/-! ## Startup -/

namespace Startup

/-- An error of a service is reported as an error of startup if it is as one of the service. -/
theorem ofService_asDue {error : ServiceError} {contexts : List Context}
    (due : AsDue error contexts) : AsDue (StartupError.ofService error) contexts := by
  cases error with
  | registry error => exact due
  | transport error => exact due

/-- What the verification at startup fails with is reported as is due. -/
theorem verifyNode_reported {way : Transport σ} (makes : way.MakesErrors anew) (registry : Registry)
    (name : String) :
    (Account.made anew start).CoversTalk [] (verifyNode registry way name) FailsAsDue := by
  apply (Verification.verify_reported makes registry name).talk
  intro ended contexts _ fits
  cases ended with
  | ok report => exact .ok trivial
  | error error =>
    have due := ofService_asDue fits
    by_cases fatal : (StartupError.ofService error).isFatal = true
    · simp only [fatal, if_true]
      -- The further event about a fatal error names the node and not the error.
      apply Account.CoversTalk.write (.emit fun _ => rfl)
      intro _ further _ same
      rw [same]
      exact .throw due
    · simp only [fatal]
      exact .throw due

/-- A missing part is reported. -/
theorem missing_reported (note : Note) :
    (Account.made anew start).Covers before (StartupError.missing note none) AsDue := by
  apply (Context.logged_reported note).bind
  intro context contexts _ once
  exact .pure once

/-- A name without descriptor is refused without a report. -/
theorem resolve_reported (registry : Registry) (name : String) :
    (Account.made anew start).CoversTalk before
      ((Attempt.ofJournaled (registry.descriptorFor name)).mapError StartupError.registry :
        Attempt σ StartupError Descriptor)
      (Ended (fun _ contexts => contexts = before) AsDue) := by
  apply (Account.CoversTalk.ofJournaled (Answer.ofExcept_reported _)).mapError
  intro error contexts due
  exact due

/-- What startup fails with is reported as is due. -/
theorem start_reported (registry : Registry) (configuration : Configuration)
    {transport : Option (Transport σ)}
    (makes : ∀ way, transport = some way → way.MakesErrors anew) :
    (Account.made anew start).CoversTalk [] (Startup.start registry configuration transport)
      FailsAsDue := by
  apply Account.CoversTalk.within
  apply (resolve_reported registry configuration.networkName).after
  intro descriptor contexts _ silent
  rw [silent]
  split
  · apply Account.CoversTalk.write (.emit fun _ => rfl)
    intro _ _ _ _
    exact .ok trivial
  · cases transport with
    | none =>
      apply Account.CoversTalk.write (missing_reported _)
      intro error _ _ due
      exact .throw due
    | some way =>
      apply (verifyNode_reported (makes way rfl) registry configuration.networkName).after
      intro report _ _ _
      apply Account.CoversTalk.write (.emit fun _ => rfl)
      intro _ _ _ _
      exact .ok trivial

/-- A configuration that cannot be loaded is reported once, when its error becomes one of
startup. -/
theorem load_reported (registry : Registry) (values : Variables) (journal : Journal)
    {error : StartupError} (fails : (load registry values journal).1 = .error error) :
    (load registry values journal).2.reportsSince journal.events.length = [error.trace] := by
  cases reads : Configuration.read registry values with
  | ok configuration =>
    unfold load at fails
    rw [Journaled.bind_outcome (Configuration.load_of_read reads journal)] at fails
    cases fails
  | error fault =>
    obtain ⟨setting, loads, -⟩ := Configuration.load_of_fault reads journal
    unfold load at fails ⊢
    rw [Journaled.bind_outcome loads] at fails ⊢
    obtain rfl : StartupError.settings setting = error := Except.error.inj fails
    rw [Journal.reportsSince_of_event rfl]
    simp [Event.reported?, Ordered.lookup, StartupError.trace, StartupError.context,
      SettingError.trace]

end Startup

/-! ## The main statement -/

/-- A round trip that fails with one error made over another one. -/
def relayed : Trip α := do
  let refused ← TransportError.network (.plain "refused") none
  throw (← TransportError.network (.plain "no node") (some refused.toCause))

/-- A way to the node on which every round trip fails so. -/
def Transport.relaying : Transport Unit where
  url := "http://relay.node/"
  call _ := Attempt.ofJournaled relayed
  batch _ := Attempt.ofJournaled relayed

/-- An error that a constructor makes over one that was made before is made as well, though not
anew. -/
theorem TransportError.Constructor.made_over {earlier : TransportError}
    (among : earlier.context ∈ before) {make : Journaled TransportError}
    (constructor : TransportError.Constructor (some earlier.toCause) make) :
    (Account.made False start).Covers before make fun error contexts =>
      error.context ∈ contexts := by
  intro journal makes
  have handedOut : HandedOut (some earlier.toCause) journal := by
    intro trace found
    obtain rfl : earlier.trace = trace := Option.some.inj found
    exact makes.known _ (List.mem_map_of_mem among)
  have last : (make journal).1.context ∈ before ++ [(make journal).1.context] :=
    List.mem_append_right _ (List.mem_singleton.mpr rfl)
  exact ⟨_, List.subset_append_left _ _, makes.error constructor handedOut False.elim, last⟩

/-- Both errors of the round trip are made, whatever results it would have. -/
theorem relayed_made {done : α → List Context → Prop} :
    (Account.made False start).Covers before (relayed : Trip α).run
      (Ended done fun error contexts => error.context ∈ contexts) := by
  apply Account.Covers.write ((TransportError.Constructor.network _ none).made rfl)
  intro refused contexts _ among
  exact (TransportError.Constructor.made_over among (.network _ _)).raise

/-- The way makes its errors by the constructors, though not anew. -/
theorem Transport.relaying_makesErrors : Transport.relaying.MakesErrors False := by
  apply Transport.makesErrors_of_covered
  · intro start request
    exact .ofJournaled relayed_made
  · intro start requests
    exact .ofJournaled relayed_made

end ChainIdentity
