import ChainIdentity.Proofs.Conversation

/-!
# Keeping account of a journal

An account of a journal is a list that says what was entered in it so far, together with what the
list has to do with the journal (`Account.Holds`).  Most of what happens is of no interest to an
account: events that report no error, spans, trace ids handed out.  Such steps pass quietly
(`Journal.Quietly`), and an account that held before them holds after them.

`Account.Covers` says of a computation that it keeps an account: whatever the account says before
it, afterwards it says that and perhaps more, and what the computation ends with fits what it says
then.  A computation is covered by following its text, with one lemma for each way in which
computations are put together.  What the entries are is up to the account; two of them are used in
what follows, one for errors that were made and one for trace ids that were reported.
-/

namespace ChainIdentity

/-! ## Quiet steps -/

/-- The trace id that an event reports: the one recorded with an event of an error. -/
def Event.reported? (event : Event) : Option TraceId :=
  match event.level, Ordered.lookup "trace_id" event.fields with
  | .error, some (.trace id) => some id
  | _, _ => none

/-- Between two journals nothing was reported. -/
structure Journal.Quietly (journal later : Journal) : Prop where
  /-- None of the events in between reports an error. -/
  events : ∃ written, later.events = journal.events ++ written ∧
    ∀ event ∈ written, event.reported? = none
  /-- Trace ids may have been handed out. -/
  traces : journal.nextTrace ≤ later.nextTrace

namespace Journal.Quietly

/-- Nothing is reported where the events stay as they are. -/
theorem of_events_eq {journal later : Journal} (same : later.events = journal.events)
    (traces : journal.nextTrace ≤ later.nextTrace) : journal.Quietly later := by
  refine ⟨⟨[], ?_, ?_⟩, traces⟩
  · rw [same, List.append_nil]
  · intro event among
    cases among

/-- Where nothing happens, nothing is reported. -/
theorem refl (journal : Journal) : journal.Quietly journal :=
  of_events_eq rfl (Nat.le_refl _)

/-- An event that reports nothing passes quietly. -/
theorem emit {level : Level} {target message : String} {fields : List Field}
    (silent : ∀ spans, (⟨level, target, message, fields, spans⟩ : Event).reported? = none)
    (journal : Journal) :
    journal.Quietly (Journaled.emit level target message fields journal).2 := by
  refine ⟨⟨[⟨level, target, message, fields, journal.spans⟩], rfl, ?_⟩, (Nat.le_refl _)⟩
  intro event among
  rw [List.mem_singleton.mp among]
  exact silent journal.spans

end Journal.Quietly

/-! ## Accounts -/

/-- What is said of a journal by a list of entries. -/
structure Account (ι : Type) where
  /-- The entries are those of the journal. -/
  Holds : List ι → Journal → Prop
  /-- Quiet steps make no entry. -/
  aside : ∀ {entries : List ι} {journal later : Journal},
    Holds entries journal → journal.Quietly later → Holds entries later

/-- What holds where an attempt ends, be it with a value or with an error. -/
def Ended {ι ε α : Type} (done : α → List ι → Prop) (failed : ε → List ι → Prop) :
    Except ε α → List ι → Prop
  | .ok value => done value
  | .error error => failed error

/-- To speak of the end of an attempt is to speak of its value and of its error. -/
theorem ended_iff {ι ε α : Type} {done : α → List ι → Prop} {failed : ε → List ι → Prop}
    {result : Except ε α} {entries : List ι} :
    Ended done failed result entries ↔
      (∀ value, result = .ok value → done value entries) ∧
      ∀ error, result = .error error → failed error entries := by
  cases result with
  | ok value => simp [Ended]
  | error error => simp [Ended]

namespace Account

variable {ι σ ε ε' α β : Type}

/-- A computation keeps an account: what was entered before it stays entered, and what it ends
with fits the entries there are then. -/
def Covers (account : Account ι) (before : List ι) (run : Journaled α)
    (post : α → List ι → Prop) : Prop :=
  ∀ journal, account.Holds before journal →
    ∃ after, before ⊆ after ∧ account.Holds after (run journal).2 ∧ post (run journal).1 after

/-- A conversation keeps an account in every state of the node. -/
def CoversTalk (account : Account ι) (before : List ι) (run : Talk σ α)
    (post : α → List ι → Prop) : Prop :=
  ∀ state, account.Covers before (run state) fun ended => post ended.1

variable {account : Account ι} {before : List ι}

namespace Covers

/-- A computation whose steps are quiet adds nothing. -/
theorem quiet {run : Journaled α} {post : α → List ι → Prop}
    (passes : ∀ journal : Journal, journal.Quietly (run journal).2)
    (fits : ∀ value, post value before) : account.Covers before run post := by
  intro journal holds
  have still : account.Holds before (run journal).2 := account.aside holds (passes journal)
  exact ⟨before, List.Subset.refl _, still, fits _⟩

/-- A value alone makes no entry. -/
theorem pure {value : α} {post : α → List ι → Prop} (fits : post value before) :
    account.Covers before (Pure.pure value) post := by
  intro journal holds
  exact ⟨before, List.Subset.refl _, holds, fits⟩

/-- Of two steps in a row, the second one goes on with the entries of the first. -/
theorem bind {run : Journaled α} {next : α → Journaled β} {mid : α → List ι → Prop}
    {post : β → List ι → Prop} (now : account.Covers before run mid)
    (later : ∀ value between, before ⊆ between → mid value between →
      account.Covers between (next value) post) : account.Covers before (run >>= next) post := by
  intro journal holds
  obtain ⟨between, kept, holds', fits⟩ := now journal holds
  obtain ⟨after, kept', holds'', fits'⟩ := later _ between kept fits _ holds'
  exact ⟨after, List.Subset.trans kept kept', holds'', fits'⟩

/-- What fits the entries may be said in weaker words. -/
theorem mono {run : Journaled α} {post post' : α → List ι → Prop}
    (now : account.Covers before run post)
    (weaker : ∀ value after, before ⊆ after → post value after → post' value after) :
    account.Covers before run post' := by
  intro journal holds
  obtain ⟨after, kept, holds', fits⟩ := now journal holds
  exact ⟨after, kept, holds', weaker _ after kept fits⟩

/-- A span is nothing to an account. -/
theorem within {run : Journaled α} {post : α → List ι → Prop} (span : Span)
    (now : account.Covers before run post) :
    account.Covers before (Journaled.within span run) post := by
  intro journal holds
  have opens : journal.Quietly (journal.inside span) := .of_events_eq rfl (Nat.le_refl _)
  obtain ⟨after, kept, holds', fits⟩ := now _ (account.aside holds opens)
  have closes : (run (journal.inside span)).2.Quietly
      { (run (journal.inside span)).2 with spans := journal.spans } :=
    .of_events_eq rfl (Nat.le_refl _)
  exact ⟨after, kept, account.aside holds' closes, fits⟩

/-- An event that reports nothing may be written at any time. -/
theorem emit {level : Level} {target message : String} {fields : List Field}
    (silent : ∀ spans, (⟨level, target, message, fields, spans⟩ : Event).reported? = none) :
    account.Covers before (Journaled.emit level target message fields)
      fun _ entries => entries = before :=
  quiet (.emit silent) fun _ => rfl

/-- An attempt that raises an error ends with it. -/
theorem raise {make : Journaled ε} {done : α → List ι → Prop} {failed : ε → List ι → Prop}
    (makes : account.Covers before make failed) :
    account.Covers before (do throw (← make) : ExceptT ε Journaled α).run (Ended done failed) := by
  show account.Covers before (make >>= fun error => Pure.pure (Except.error error))
    (Ended done failed)
  apply makes.bind
  intro error after _ fits
  exact pure fits

/-- A step that cannot fail is an attempt that ends with a value. -/
theorem lift {run : Journaled α} {done : α → List ι → Prop} {failed : ε → List ι → Prop}
    (now : account.Covers before run done) :
    account.Covers before (liftM run : ExceptT ε Journaled α).run (Ended done failed) := by
  show account.Covers before (run >>= fun value => Pure.pure (Except.ok value)) (Ended done failed)
  apply now.bind
  intro value after _ fits
  exact pure fits

/-- A step that cannot fail stands before an attempt. -/
theorem write {run : Journaled α} {next : α → ExceptT ε Journaled β} {mid : α → List ι → Prop}
    {post : Except ε β → List ι → Prop} (now : account.Covers before run mid)
    (later : ∀ value between, before ⊆ between → mid value between →
      account.Covers between (next value).run post) :
    account.Covers before ((liftM run : ExceptT ε Journaled α) >>= next).run post := by
  show account.Covers before (run >>= fun value => (next value).run) post
  exact now.bind later

/-- An attempt goes on after a value and ends with an error. -/
theorem after {run : ExceptT ε Journaled α} {next : α → ExceptT ε Journaled β}
    {mid : α → List ι → Prop} {done : β → List ι → Prop} {failed : ε → List ι → Prop}
    (now : account.Covers before run.run (Ended mid failed))
    (later : ∀ value between, before ⊆ between → mid value between →
      account.Covers between (next value).run (Ended done failed)) :
    account.Covers before (run >>= next).run (Ended done failed) := by
  show account.Covers before (run.run >>= ExceptT.bindCont next) (Ended done failed)
  apply now.bind
  intro ended between kept fits
  cases ended with
  | ok value => exact later value between kept fits
  | error error => exact pure fits

end Covers

namespace CoversTalk

/-! ## Conversations -/

/-- A conversation that is over with a value makes no entry. -/
theorem pure {value : α} {post : α → List ι → Prop} (fits : post value before) :
    account.CoversTalk before (Pure.pure value : Talk σ α) post := by
  intro state
  exact Covers.pure fits

/-- Of two conversations in a row, the second one goes on with the entries of the first. -/
theorem bind {run : Talk σ α} {next : α → Talk σ β} {mid : α → List ι → Prop}
    {post : β → List ι → Prop} (now : account.CoversTalk before run mid)
    (later : ∀ value between, before ⊆ between → mid value between →
      account.CoversTalk between (next value) post) :
    account.CoversTalk before (run >>= next) post := by
  intro state
  show account.Covers before (run state >>= fun ended => next ended.1 ended.2)
    fun ended => post ended.1
  apply (now state).bind
  intro ended between kept fits
  exact later ended.1 between kept fits ended.2

/-- Writing to the journal in between. -/
theorem journaled {run : Journaled α} {post : α → List ι → Prop}
    (now : account.Covers before run post) :
    account.CoversTalk before (liftM run : Talk σ α) post := by
  intro state
  show account.Covers before (run >>= fun value => Pure.pure (value, state))
    fun ended => post ended.1
  apply now.bind
  intro value after _ fits
  exact Covers.pure fits

/-- What a conversation ends with may be said less precisely. -/
theorem mono {run : Talk σ α} {post post' : α → List ι → Prop}
    (now : account.CoversTalk before run post)
    (weaker : ∀ value after, before ⊆ after → post value after → post' value after) :
    account.CoversTalk before run post' := by
  intro state
  apply (now state).mono
  intro ended after kept fits
  exact weaker ended.1 after kept fits

/-! ## Attempts -/

variable {done : α → List ι → Prop} {failed : ε → List ι → Prop}

/-- An attempt that succeeds at once makes no entry. -/
theorem ok {value : α} (fits : done value before) :
    account.CoversTalk before (Pure.pure value : Attempt σ ε α) (Ended done failed) := by
  intro state
  exact Covers.pure fits

/-- An attempt that fails at once makes no entry. -/
theorem throw {error : ε} (fits : failed error before) :
    account.CoversTalk before (throw error : Attempt σ ε α) (Ended done failed) := by
  intro state
  exact Covers.pure fits

/-- A conversation goes on after a value and ends with an error. -/
theorem after {run : Attempt σ ε α} {next : α → Attempt σ ε β} {done : β → List ι → Prop}
    {mid : α → List ι → Prop} (now : account.CoversTalk before run (Ended mid failed))
    (later : ∀ value between, before ⊆ between → mid value between →
      account.CoversTalk between (next value) (Ended done failed)) :
    account.CoversTalk before (run >>= next : Attempt σ ε β) (Ended done failed) := by
  show account.CoversTalk before
    (run.run >>= ExceptT.bindCont next : Talk σ (Except ε β)) (Ended done failed)
  apply bind now
  intro ended between kept fits
  cases ended with
  | ok value => exact later value between kept fits
  | error error => exact throw fits

/-- A step that cannot fail stands before a conversation.  Such a step is also one that looks at the
outcome of another conversation as a whole. -/
theorem talk {γ : Type} {run : Talk σ γ} {next : γ → Attempt σ ε β} {mid : γ → List ι → Prop}
    {post : Except ε β → List ι → Prop} (now : account.CoversTalk before run mid)
    (later : ∀ value between, before ⊆ between → mid value between →
      account.CoversTalk between (next value) post) :
    account.CoversTalk before
      ((liftM run : Attempt σ ε γ) >>= next : Attempt σ ε β) post := by
  show account.CoversTalk before (run >>= next : Talk σ (Except ε β)) post
  exact bind now later

/-- Writing to the journal before a conversation goes on. -/
theorem write {run : Journaled α} {next : α → Attempt σ ε β} {mid : α → List ι → Prop}
    {post : Except ε β → List ι → Prop} (now : account.Covers before run mid)
    (later : ∀ value between, before ⊆ between → mid value between →
      account.CoversTalk between (next value) post) :
    account.CoversTalk before
      ((liftM run : Attempt σ ε α) >>= next : Attempt σ ε β) post := by
  have steps : account.CoversTalk before (liftM run : Talk σ α) mid := journaled now
  exact talk steps later

/-- Writing to the journal as all there is of a conversation. -/
theorem lift {run : Journaled α} (now : account.Covers before run done) :
    account.CoversTalk before (liftM run : Attempt σ ε α) (Ended done failed) := by
  intro state
  show account.Covers before (run >>= fun value => Pure.pure (Except.ok value, state))
    fun ended => Ended done failed ended.1
  apply now.bind
  intro value after _ fits
  exact Covers.pure fits

/-- What needs no node is covered without one. -/
theorem ofJournaled {run : ExceptT ε Journaled α} {post : Except ε α → List ι → Prop}
    (now : account.Covers before run.run post) :
    account.CoversTalk before (Attempt.ofJournaled run : Attempt σ ε α) post := by
  intro state journal holds
  rw [Attempt.ofJournaled_apply]
  exact now journal holds

/-- A change of error changes what is said of it. -/
theorem mapError {f : ε → ε'} {run : Attempt σ ε α} {failed' : ε' → List ι → Prop}
    (now : account.CoversTalk before run (Ended done failed))
    (keeps : ∀ error after, failed error after → failed' (f error) after) :
    account.CoversTalk before (run.mapError f) (Ended done failed') := by
  apply talk now
  intro ended between _ fits
  cases ended with
  | ok value => exact ok fits
  | error error => exact throw (keeps error between fits)

/-- A span makes no entry of its own. -/
theorem within {run : Attempt σ ε α} {post : Except ε α → List ι → Prop} (span : Span)
    (now : account.CoversTalk before run post) :
    account.CoversTalk before (run.within span) post := by
  intro state
  exact (now state).within span

end CoversTalk

end Account

end ChainIdentity
