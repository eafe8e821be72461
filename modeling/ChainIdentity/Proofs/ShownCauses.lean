import ChainIdentity.Proofs.CauseChain
import ChainIdentity.Proofs.ErrorStack

/-!
# Which errors of a stack are reached by following causes

An error that is put around another one takes it as the source of its context, and there it stays
(`apply_of_takesSource`).  What the errors around it are shown is another matter.  Errors of other
libraries and bare contexts show their source, and errors of the registry, of the transport, of a
setting and of a missing part show nothing.

`Linked` says how the errors of a stack hang together, one link for each layer, and `Hidden` that
between two errors there is one that shows nothing.  `stack_reached_iff` is the main statement:
whoever follows the causes from the outer error reaches the inner one exactly if it is not hidden.
-/

namespace ChainIdentity

/-- An error that is made over a source has this one for its source. -/
theorem Cause.ofSource_source? (message : String) (trace : Option TraceId)
    (source : Option Cause) : (ofSource message trace source).source? = source := by
  cases source <;> rfl

/-- The texts on the way down are the error's own one and then those of its source. -/
theorem Cause.messages_eq (cause : Cause) :
    cause.messages = cause.message :: cause.source?.elim [] messages := by
  cases cause <;> rfl

namespace Context

/-- A context keeps the source that it is made over. -/
theorem make_source (note : Note) (source : Option Cause) (journal : Journal) :
    (make note source journal).1.source = source := by
  unfold make
  cases source.bind Cause.inherited? with
  | some trace => rfl
  | none => rfl

/-- A context that is written keeps the source that it is made over. -/
theorem logged_source (note : Note) (source : Option Cause) (journal : Journal) :
    (logged note source journal).1.source = source :=
  make_source note source journal

end Context

/-- An error of the registry keeps the source that it is raised over. -/
theorem RegistryError.raise_source (problem : RegistryProblem) (note : Note)
    (source : Option Cause) (journal : Journal) :
    (raise problem note source journal).1.context.source = source := by
  cases problem with
  | genesisMismatch => exact Context.logged_source note source journal
  | unsupportedNetwork => exact Context.make_source note source journal
  | unrecognizedOperation => exact Context.make_source note source journal
  | disallowedMethod => exact Context.make_source note source journal

namespace Layer

/-! ## One layer -/

/-- Whether a layer takes the error below as its source. -/
def takesSource : Layer → Bool
  | foreign _ | context _ | loggedContext _ => true
  | registry _ _ | http _ _ _ _ | network _ | unreadable _ | setting _ _ | initialization _ => true
  | rpc _ _ | asVerification | asQuery | asStartup => false

/-- Whether the error that a layer makes shows its source. -/
def showsSource : Layer → Bool
  | foreign _ | context _ | loggedContext _ => true
  | _ => false

/-- A failure that a layer makes of the one below: the failure below is the source of its context,
and it is shown where the layer shows sources. -/
structure Wraps (layer : Layer) (below : Option Failure) (failure : Failure) : Prop where
  shown : failure.toCause.source?
    = if layer.showsSource then below.map Failure.toCause else none
  kept : ∀ context, failure.context? = some context →
    context.source = below.map Failure.toCause

/-- A layer that takes a source makes an error of any other one. -/
theorem apply_of_takesSource {layer : Layer} (takes : layer.takesSource = true)
    (below : Option Failure) (journal : Journal) :
    ∃ failure later, layer.apply below journal = (some failure, later) ∧
      layer.Wraps below failure := by
  have ofContext {context : Context} (same : context.source = below.map Failure.toCause) :
      ∀ context', some context = some context' → context'.source = below.map Failure.toCause := by
    rintro _ ⟨⟩
    exact same
  cases layer with
  | foreign message =>
    exact ⟨_, _, rfl, Cause.ofSource_source? .., nofun⟩
  | context note =>
    have kept := Context.make_source note (below.map Failure.toCause) journal
    exact ⟨_, _, rfl, (Cause.ofSource_source? ..).trans kept, ofContext kept⟩
  | loggedContext note =>
    have kept := Context.logged_source note (below.map Failure.toCause) journal
    exact ⟨_, _, rfl, (Cause.ofSource_source? ..).trans kept, ofContext kept⟩
  | registry problem note =>
    exact ⟨_, _, rfl, rfl, ofContext (RegistryError.raise_source problem note _ journal)⟩
  | http status url body metadata =>
    exact ⟨_, _, rfl, rfl, ofContext (Context.logged_source ⟨_, metadata⟩ _ journal)⟩
  | network note => exact ⟨_, _, rfl, rfl, ofContext (Context.logged_source note _ journal)⟩
  | unreadable note => exact ⟨_, _, rfl, rfl, ofContext (Context.logged_source note _ journal)⟩
  | setting problem note => exact ⟨_, _, rfl, rfl, ofContext (Context.make_source note _ journal)⟩
  | initialization note =>
    exact ⟨_, _, rfl, rfl, ofContext (Context.logged_source note _ journal)⟩
  | rpc | asVerification | asQuery | asStartup => cases takes

/-! ## Stacks -/

/-- Each failure is one that its layer makes of the failure in front of it. -/
inductive Linked : Option Failure → List Layer → List Failure → Prop
  | nil {below : Option Failure} : Linked below [] []
  | cons {below : Option Failure} {layer : Layer} {layers : List Layer} {failure : Failure}
      {failures : List Failure} (link : layer.Wraps below failure)
      (further : Linked (some failure) layers failures) :
      Linked below (layer :: layers) (failure :: failures)

section

variable {layers : List Layer} {below : Option Failure} {failures : List Failure}
  {inner outer : Failure} {layer : Layer} {i j steps : Nat}

/-- Where every layer takes its source, the errors of a stack hang together. -/
theorem stack_linked (takes : ∀ layer ∈ layers, layer.takesSource = true)
    (below : Option Failure) (journal : Journal) :
    Linked below layers (stack layers below journal).1 := by
  induction layers generalizing below journal with
  | nil => exact .nil
  | cons layer layers ih =>
    rw [List.forall_mem_cons] at takes
    obtain ⟨failure, later, applied, link⟩ := apply_of_takesSource takes.1 below journal
    rw [stack_cons applied]
    exact .cons link (ih takes.2 (some failure) later)

/-- Every layer has its error. -/
theorem Linked.length_eq (linked : Linked below layers failures) :
    failures.length = layers.length := by
  induction linked with
  | nil => rfl
  | cons _ _ ih => rw [List.length_cons, List.length_cons, ih]

/-- The first error is one that the first layer makes of what is below the stack. -/
theorem Linked.wraps_zero (linked : Linked below layers failures)
    (hasLayer : layers[0]? = some layer) (built : failures[0]? = some outer) :
    layer.Wraps below outer := by
  cases linked with
  | nil => cases built
  | cons link _ =>
    obtain rfl := Option.some.inj hasLayer
    obtain rfl := Option.some.inj built
    exact link

/-- Any other error is one that its layer makes of the error in front of it. -/
theorem Linked.wraps_succ (linked : Linked below layers failures)
    (hasLayer : layers[j + 1]? = some layer) (builtInner : failures[j]? = some inner)
    (built : failures[j + 1]? = some outer) : layer.Wraps (some inner) outer := by
  induction linked generalizing j with
  | nil => cases built
  | cons _ further ih =>
    cases j with
    | zero =>
      obtain rfl := Option.some.inj builtInner
      exact further.wraps_zero hasLayer built
    | succ j => exact ih hasLayer builtInner built

/-- An error that is not the innermost one has one below it, and a layer that made it of that. -/
theorem Linked.exists_below (linked : Linked below layers failures)
    (built : failures[j + 1]? = some outer) :
    ∃ inner layer, failures[j]? = some inner ∧ layers[j + 1]? = some layer := by
  have inside := (List.getElem?_eq_some_iff.mp built).1
  exact ⟨_, _, List.getElem?_eq_getElem (Nat.lt_of_succ_lt inside),
    List.getElem?_eq_getElem (linked.length_eq ▸ inside)⟩

/-! ## Following causes -/

/-- One of the layers above `i` up to `j` does not show its source. -/
def Hidden (layers : List Layer) (i j : Nat) : Prop :=
  ∃ k layer, i < k ∧ k ≤ j ∧ layers[k]? = some layer ∧ layer.showsSource = false

/-- No error is hidden from itself. -/
theorem not_hidden_self : ¬ Hidden layers j j := by
  rintro ⟨k, layer, above, upTo, -, -⟩
  omega

/-- One layer further out, an error is hidden if this layer hides it or it was hidden before. -/
theorem hidden_succ_iff (hasLayer : layers[j + 1]? = some layer) (upTo : i ≤ j) :
    Hidden layers i (j + 1) ↔ layer.showsSource = false ∨ Hidden layers i j := by
  constructor
  · rintro ⟨k, other, above, below, found, shows⟩
    rcases Nat.lt_or_eq_of_le below with below | rfl
    · exact .inr ⟨k, other, above, Nat.le_of_lt_succ below, found, shows⟩
    · obtain rfl := Option.some.inj (found.symm.trans hasLayer)
      exact .inl shows
  · rintro (shows | ⟨k, other, above, below, found, shows⟩)
    · exact ⟨j + 1, layer, Nat.lt_succ_of_le upTo, Nat.le_refl _, hasLayer, shows⟩
    · exact ⟨k, other, above, Nat.le_succ_of_le below, found, shows⟩

/-- From an error the walk goes on to the one below if that is shown. -/
theorem Linked.messages_succ (linked : Linked below layers failures)
    (hasLayer : layers[j + 1]? = some layer) (builtInner : failures[j]? = some inner)
    (built : failures[j + 1]? = some outer) :
    outer.toCause.messages
      = outer.message :: if layer.showsSource then inner.toCause.messages else [] := by
  have link := (linked.wraps_succ hasLayer builtInner built).shown
  rw [Cause.messages_eq, link]
  cases layer.showsSource <;> rfl

/-- Nothing is behind the innermost error. -/
theorem Linked.messages_zero (linked : Linked none layers failures)
    (built : failures[0]? = some outer) : outer.toCause.messages = [outer.message] := by
  have inside := (List.getElem?_eq_some_iff.mp built).1
  rw [linked.length_eq] at inside
  have link := (linked.wraps_zero (List.getElem?_eq_getElem inside) built).shown
  rw [Cause.messages_eq, link, Option.map_none, ite_self]
  rfl

/-- The walk from an error has come to an error below it after as many steps as there are layers in
between, unless it ended at one of them. -/
theorem Linked.reaches (linked : Linked none layers failures) (upTo : i ≤ j)
    (builtInner : failures[i]? = some inner) (built : failures[j]? = some outer) :
    (¬ Hidden layers i j → outer.toCause.messages[j - i]? = some inner.message) ∧
      (Hidden layers i j → outer.toCause.messages[j - i]? = none) := by
  induction j generalizing outer with
  | zero =>
    obtain rfl := Nat.le_zero.mp upTo
    obtain rfl := Option.some.inj (built.symm.trans builtInner)
    rw [linked.messages_zero built]
    exact ⟨fun _ => rfl, fun hidden => absurd hidden not_hidden_self⟩
  | succ j ih =>
    obtain ⟨middle, layer, builtMiddle, hasLayer⟩ := linked.exists_below built
    rw [linked.messages_succ hasLayer builtMiddle built]
    rcases Nat.lt_or_eq_of_le upTo with below | rfl
    · have upTo' : i ≤ j := Nat.le_of_lt_succ below
      rw [hidden_succ_iff hasLayer upTo', Nat.succ_sub upTo', List.getElem?_cons_succ]
      cases shows : layer.showsSource with
      | true => simpa using ih upTo' builtMiddle
      | false => simp
    · obtain rfl := Option.some.inj (built.symm.trans builtInner)
      rw [Nat.sub_self]
      exact ⟨fun _ => rfl, fun hidden => absurd hidden not_hidden_self⟩

/-- The walk has all errors of the stack exactly if the innermost one is not hidden. -/
theorem Linked.messages_eq_iff (linked : Linked none layers failures)
    (built : failures[j]? = some outer) :
    outer.toCause.messages = ((failures.take (j + 1)).map Failure.message).reverse ↔
      ¬ Hidden layers 0 j := by
  induction j generalizing outer with
  | zero =>
    have all : failures.take 1 = [outer] := by
      rw [List.take_add_one, List.take_zero, built, List.nil_append, Option.toList_some]
    rw [linked.messages_zero built, all]
    exact iff_of_true rfl not_hidden_self
  | succ j ih =>
    obtain ⟨inner, layer, builtInner, hasLayer⟩ := linked.exists_below built
    have all : failures.take (j + 2) = failures.take (j + 1) ++ [outer] := by
      rw [List.take_add_one, built, Option.toList_some]
    rw [linked.messages_succ hasLayer builtInner built, all, List.map_append, List.reverse_append,
      hidden_succ_iff hasLayer (Nat.zero_le j), not_or, ← ih builtInner, List.map_singleton,
      List.reverse_singleton, List.singleton_append, List.cons_inj_right]
    cases shows : layer.showsSource with
    | true => simp
    | false =>
      have inside := (List.getElem?_eq_some_iff.mp builtInner).1
      have nonempty : ((failures.take (j + 1)).map Failure.message).reverse ≠ [] := by
        rw [Ne, List.reverse_eq_nil_iff, List.map_eq_nil_iff, List.take_eq_nil_iff]
        rintro (contra | rfl)
        · cases contra
        · cases inside
      simpa using nonempty.symm

end

/-! ## The main statement -/

/-- How far the causes of an error in a stack can be followed.  The stack may be of any length, of
layers that each take the error below as their source.  Every error but those of other libraries
keeps the one below as the source of its context.  But the walk from the error at `j` comes to the
error at `i` below it, `j - i` steps away, exactly if every layer above `i` up to `j` shows its
source; otherwise it has ended by then.  So it comes to all of them exactly if it comes to the
innermost one. -/
theorem stack_reached_iff {layers : List Layer}
    (takes : ∀ layer ∈ layers, layer.takesSource = true) (journal : Journal) :
    (stack layers none journal).1.length = layers.length ∧
    ∀ j outer, (stack layers none journal).1[j]? = some outer →
      (∀ steps, outer.toCause.messages[steps]? = (outer.toCause.behind? steps).map Cause.message) ∧
      (∀ i inner, i ≤ j → (stack layers none journal).1[i]? = some inner →
        (¬ Hidden layers i j → outer.toCause.messages[j - i]? = some inner.message) ∧
        (Hidden layers i j → outer.toCause.messages[j - i]? = none)) ∧
      (outer.toCause.messages
          = (((stack layers none journal).1.take (j + 1)).map Failure.message).reverse ↔
        ¬ Hidden layers 0 j) ∧
      ∀ i inner context, j = i + 1 → (stack layers none journal).1[i]? = some inner →
        outer.context? = some context → context.source = some inner.toCause := by
  have linked := stack_linked takes none journal
  refine ⟨linked.length_eq, fun j outer built => ⟨outer.toCause.messages_getElem?, ?walk,
    linked.messages_eq_iff built, ?kept⟩⟩
  case walk => exact fun i inner upTo builtInner => linked.reaches upTo builtInner built
  case kept =>
    rintro i inner context rfl builtInner own
    obtain ⟨inner', layer, builtInner', hasLayer⟩ := linked.exists_below built
    obtain rfl := Option.some.inj (builtInner.symm.trans builtInner')
    exact (linked.wraps_succ hasLayer builtInner built).kept context own

/-- A refused connection, an error of the transport for it, and a context around that. -/
def refusedStack : List Layer :=
  [foreign "refused", network (.plain "no node"), context (.plain "not started")]

/-- From the context the error of the transport is reached, and what this one was made over
is not. -/
theorem stack_reached_iff_refused :
    (∀ layer ∈ refusedStack, layer.takesSource = true) ∧
    ∃ outer, (stack refusedStack none .empty).1[2]? = some outer ∧
      outer.toCause.messages[1]? = some "Network error: no node" ∧
      outer.toCause.messages[2]? = none := by
  have takes : ∀ layer ∈ refusedStack, layer.takesSource = true := by decide
  obtain ⟨-, walks⟩ := stack_reached_iff takes .empty
  refine ⟨takes, _, rfl, ?_⟩
  obtain ⟨-, reaches, -, -⟩ := walks 2 _ rfl
  have shown : ¬ Hidden refusedStack 1 2 := by
    rw [hidden_succ_iff rfl (Nat.le_refl 1)]
    exact not_or.mpr ⟨by decide, not_hidden_self⟩
  have hidden : Hidden refusedStack 0 2 := ⟨1, _, by decide, by decide, rfl, rfl⟩
  exact ⟨(reaches 1 _ (by decide) rfl).1 shown, (reaches 0 _ (by decide) rfl).2 hidden⟩

/-- The refused connection is not among what the context shows. -/
theorem stack_loses_cause :
    (∀ layer ∈ refusedStack, layer.takesSource = true) ∧
    ∃ inner outer, (stack refusedStack none .empty).1[0]? = some inner ∧
      (stack refusedStack none .empty).1[2]? = some outer ∧
      inner.message = "refused" ∧ inner.message ∉ outer.toCause.messages := by
  refine ⟨by decide, _, _, rfl, rfl, rfl, ?_⟩
  decide +kernel

end Layer

end ChainIdentity
