import ChainIdentity.Node.Transport

/-!
# How a conversation runs

A conversation is a function of the state of the node and of the journal.  Its steps are put
together by a bind that goes on after a value and stops at an error, and the lemmas here say
what each of the building blocks does when it is run: `bind_of_ok` and `bind_of_error` for two
steps in a row, `ofJournaled_apply` for a step without a node, `mapError_of_ok` and
`mapError_of_error` for a change of error, and `within_fst` for a span, which shows in the
journal and nowhere else.

Proofs about longer conversations follow the steps with these equations and never look into the
layers of which a conversation is made.
-/

namespace ChainIdentity

/-- The journal inside a span. -/
def Journal.inside (journal : Journal) (span : Span) : Journal :=
  { journal with spans := journal.spans ++ [span] }

/-- After a step the computation goes on with its value. -/
theorem Journaled.bind_apply {α β : Type} {run : Journaled α} {next : α → Journaled β}
    {journal journal' : Journal} {value : α} (ends : run journal = (value, journal')) :
    (run >>= next) journal = next value journal' := by
  show next (run journal).1 (run journal).2 = _
  rw [ends]

/-- A computation that writes to the journal may look at the outcome of another one as a whole,
a failure being a value then. -/
theorem Journaled.bind_outcome {ε ε' α β : Type} {run : ExceptT ε' Journaled α}
    {next : Except ε' α → ExceptT ε Journaled β} {journal journal' : Journal}
    {outcome : Except ε' α} (ends : run journal = (outcome, journal')) :
    ((liftM (run.run : Journaled (Except ε' α)) : ExceptT ε Journaled (Except ε' α)) >>= next)
        journal = next outcome journal' := by
  show next (run journal).1 (run journal).2 = _
  rw [ends]

namespace Talk

variable {σ α β : Type}

/-- After a step that cannot fail the conversation goes on with its value. -/
theorem bind_apply {run : Talk σ α} {next : α → Talk σ β} {state state' : σ}
    {journal journal' : Journal} {value : α}
    (ends : run state journal = ((value, state'), journal')) :
    (run >>= next) state journal = next value state' journal' := by
  show next (run state journal).1.1 (run state journal).1.2 (run state journal).2 = _
  rw [ends]

/-- The same for a step that needs no node. -/
theorem bind_journaled {run : Journaled α} {next : α → Talk σ β}
    {journal journal' : Journal} {value : α} (ends : run journal = (value, journal'))
    (state : σ) : ((liftM run : Talk σ α) >>= next) state journal = next value state journal' := by
  show next (run journal).1 state (run journal).2 = _
  rw [ends]

end Talk

namespace Attempt

variable {σ ε α β : Type}

/-! ## Steps -/

/-- A value alone changes neither the node nor the journal. -/
theorem pure_apply (value : α) (state : σ) (journal : Journal) :
    (pure value : Attempt σ ε α) state journal = ((.ok value, state), journal) := rfl

/-- After a step that ends with a value the conversation goes on with it. -/
theorem bind_of_ok {run : Attempt σ ε α} {next : α → Attempt σ ε β} {state state' : σ}
    {journal journal' : Journal} {value : α}
    (ends : run state journal = ((.ok value, state'), journal')) :
    (run >>= next) state journal = next value state' journal' := by
  show ExceptT.bindCont next (run state journal).1.1 (run state journal).1.2
    (run state journal).2 = _
  rw [ends]
  rfl

/-- After a step that fails nothing else happens. -/
theorem bind_of_error {run : Attempt σ ε α} {next : α → Attempt σ ε β} {state state' : σ}
    {journal journal' : Journal} {error : ε}
    (ends : run state journal = ((.error error, state'), journal')) :
    (run >>= next) state journal = ((.error error, state'), journal') := by
  show ExceptT.bindCont next (run state journal).1.1 (run state journal).1.2
    (run state journal).2 = _
  rw [ends]
  rfl

/-- What only writes to the journal always ends with a value and leaves the node alone. -/
theorem bind_journaled (run : Journaled α) (next : α → Attempt σ ε β) (state : σ)
    (journal : Journal) :
    ((liftM run : Attempt σ ε α) >>= next) state journal
      = next (run journal).1 state (run journal).2 := rfl

/-- What cannot fail always ends with a value. -/
theorem bind_talk {run : Talk σ α} {next : α → Attempt σ ε β} {state state' : σ}
    {journal journal' : Journal} {value : α}
    (ends : run state journal = ((value, state'), journal')) :
    ((liftM run : Attempt σ ε α) >>= next) state journal = next value state' journal' := by
  show next (run state journal).1.1 (run state journal).1.2 (run state journal).2 = _
  rw [ends]

/-- A conversation may look at the outcome of another one as a whole, a failure being a value
then. -/
theorem bind_outcome {ε' : Type} {run : Attempt σ ε' α} {next : Except ε' α → Attempt σ ε β}
    {state state' : σ} {journal journal' : Journal} {outcome : Except ε' α}
    (ends : run state journal = ((outcome, state'), journal')) :
    ((liftM (run.run : Talk σ (Except ε' α)) : Attempt σ ε (Except ε' α)) >>= next) state journal
      = next outcome state' journal' :=
  bind_talk ends

/-- The same for what needs no node. -/
theorem bind_answer {ε' : Type} {run : ExceptT ε' Journaled α}
    {next : Except ε' α → Attempt σ ε β} {journal journal' : Journal} {outcome : Except ε' α}
    (ends : run journal = (outcome, journal')) (state : σ) :
    ((liftM (run.run : Journaled (Except ε' α)) : Attempt σ ε (Except ε' α)) >>= next) state journal
      = next outcome state journal' := by
  show next (run journal).1 state (run journal).2 = _
  rw [ends]

/-! ## Steps without a node, changes of error, spans -/

/-- What only writes to the journal leaves the node as it is. -/
theorem ofJournaled_apply (run : ExceptT ε Journaled α) (state : σ) (journal : Journal) :
    (ofJournaled run : Attempt σ ε α) state journal
      = (((run journal).1, state), (run journal).2) := by
  rcases ends : run journal with ⟨outcome, later⟩
  unfold ofJournaled
  rw [bind_answer ends]
  cases outcome with
  | ok value => rfl
  | error error => rfl

/-- A change of error does not touch a success. -/
theorem mapError_of_ok {ε' : Type} {f : ε → ε'} {run : Attempt σ ε α} {state state' : σ}
    {journal journal' : Journal} {value : α}
    (ends : run state journal = ((.ok value, state'), journal')) :
    mapError f run state journal = ((.ok value, state'), journal') := by
  unfold mapError
  rw [bind_outcome ends]
  rfl

/-- A change of error is made where a conversation fails. -/
theorem mapError_of_error {ε' : Type} {f : ε → ε'} {run : Attempt σ ε α} {state state' : σ}
    {journal journal' : Journal} {error : ε}
    (ends : run state journal = ((.error error, state'), journal')) :
    mapError f run state journal = ((.error (f error), state'), journal') := by
  unfold mapError
  rw [bind_outcome ends]
  rfl

/-- A conversation inside a span, with the spans that were open before open again after it. -/
theorem within_apply (span : Span) (run : Attempt σ ε α) (state : σ) (journal : Journal) :
    within span run state journal
      = ((run state (journal.inside span)).1,
        { (run state (journal.inside span)).2 with spans := journal.spans }) := rfl

/-- A span shows in the journal only. -/
theorem within_fst (span : Span) (run : Attempt σ ε α) (state : σ) (journal : Journal) :
    (within span run state journal).1 = (run state (journal.inside span)).1 := rfl

end Attempt

end ChainIdentity
