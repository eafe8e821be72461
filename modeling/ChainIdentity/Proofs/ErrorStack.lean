import ChainIdentity.Proofs.Conversation
import ChainIdentity.Proofs.Inheritance

/-!
# Which errors of a stack share a trace id

Every layer of a stack of errors hands the trace id below on or loses it for good, since fresh ones
differ from all before (`stack_hides`).  `carries` follows a trace id through the layers above an
error, with the distance to it as its state, and `stack_carries` says that the errors above have
the trace id exactly as far as it is carried.

`stack_trace_eq_iff` reads this off the stack: two errors share their trace id unless a layer in
between drops its source or four errors without a trace id stand there in a row.
-/

namespace ChainIdentity

namespace Layer

/-! ## Stacks -/

/-- Whether a trace id that stands behind so many errors without one is still found above the
given layers, and every error among them that has a trace id has this one. -/
def carries : Nat → List Layer → Bool
  | distance, [] => distance < Cause.searchDepth
  | distance, layer :: rest =>
    if layer.isForeign then carries (distance + 1) rest
    else !layer.isRpc && distance < Cause.searchDepth && carries 0 rest

section

variable {layer : Layer} {rest layers : List Layer} {below : Option Failure}
  {journal later : Journal} {failure inner outer : Failure} {trace : TraceId}

/-- The layer at the bottom is built first, and the others stand on it. -/
theorem stack_cons (applied : layer.apply below journal = (some failure, later))
    (rest : List Layer) :
    (stack (layer :: rest) below journal).1 = failure :: (stack rest (some failure) later).1 := by
  rw [stack, Journaled.bind_apply applied]
  rfl

/-- Where a layer cannot be built, nothing is built above it either. -/
theorem stack_of_none (ends : layer.apply below journal = (none, later)) (rest : List Layer) :
    (stack (layer :: rest) below journal).1 = [] := by
  rw [stack, Journaled.bind_apply ends]
  rfl

/-- A lost trace id does not come back in any error of a stack. -/
theorem stack_hides (issued : trace.number < journal.nextTrace)
    (hides : ∀ failure, below = some failure → failure.toCause.Hides trace) :
    ∀ failure ∈ (stack layers below journal).1, failure.trace? ≠ some trace := by
  induction layers generalizing below journal with
  | nil => nofun
  | cons layer rest ih =>
    rcases applied : layer.apply below journal with ⟨made, later⟩
    cases made with
    | none =>
      rw [stack_of_none applied]
      nofun
    | some made =>
      obtain ⟨traceNe, hides'⟩ := apply_hides (.inl issued) hides applied
      have issued' : trace.number < later.nextTrace :=
        Nat.lt_of_lt_of_le issued (nextTrace_le_of_apply applied)
      rw [stack_cons applied]
      intro failure member
      rcases List.mem_cons.mp member with rfl | member
      · exact traceNe
      · refine ih issued' ?_ failure member
        rintro _ ⟨⟩
        exact hides'

/-- The trace id of an error above is the one that stands below, so many errors without one away,
if and only if it is carried on through all layers up to this error.  The induction is on the
layers: as long as the id is carried on the distance to it is known, and after that it is lost
for good. -/
theorem stack_carries {distance j : Nat} (nearest : inner.toCause.Shows distance trace)
    (issued : trace.number < journal.nextTrace) (hasLayer : layers[j]? = some layer)
    (own : layer.isForeign = false)
    (built : (stack layers (some inner) journal).1[j]? = some outer) :
    outer.trace? = some trace ↔ carries distance (layers.take (j + 1)) = true := by
  induction layers generalizing inner journal distance j with
  | nil => cases hasLayer
  | cons first rest ih =>
    rcases applied : first.apply (some inner) journal with ⟨made, later⟩
    cases made with
    | none =>
      rw [stack_of_none applied] at built
      cases built
    | some made =>
      rw [stack_cons applied] at built
      have issued' : trace.number < later.nextTrace :=
        Nat.lt_of_lt_of_le issued (nextTrace_le_of_apply applied)
      cases fromLibrary : first.isForeign with
      | true =>
        obtain ⟨-, -, message, causeEq⟩ := apply_foreign fromLibrary applied
        have nearest' : made.toCause.Shows (distance + 1) trace := by
          rw [causeEq]
          exact nearest.foreign message
        cases j with
        | zero =>
          obtain rfl := Option.some.inj hasLayer
          rw [own] at fromLibrary
          cases fromLibrary
        | succ j =>
          rw [ih nearest' issued' hasLayer built, List.take_succ_cons]
          simp only [carries, fromLibrary, if_true]
      | false =>
        rw [List.take_succ_cons]
        simp only [carries, fromLibrary, Bool.false_eq_true, if_false]
        by_cases taken : first.isRpc = false ∧ distance < Cause.searchDepth
        · have found : (first.source (some inner)).bind Cause.inherited? = some trace := by
            rw [source_of_not_isRpc taken.1, Option.map_some, Option.bind_some,
              nearest.inherited?, if_pos taken.2]
          have has := apply_takes fromLibrary found applied
          simp only [taken.1, taken.2, Bool.not_false, decide_true, Bool.true_and]
          cases j with
          | zero =>
            obtain rfl := Option.some.inj built
            simp only [has, List.take_zero, true_iff]
            rfl
          | succ j =>
            exact ih (Cause.shows_of_trace? (made.toCause_trace?.trans has)) issued' hasLayer built
        · have lost : (first.source (some inner)).bind Cause.inherited? ≠ some trace := by
            unfold source
            split
            · intro contra
              cases contra
            · rename_i keeps
              have far : ¬ distance < Cause.searchDepth :=
                fun near => taken ⟨by simpa using keeps, near⟩
              rw [Option.map_some, Option.bind_some, nearest.inherited?, if_neg far]
              intro contra
              cases contra
          obtain ⟨traceNe, hides⟩ := apply_loses fromLibrary (.inl issued) lost applied
          have blocked : (!first.isRpc && decide (distance < Cause.searchDepth)) = false := by
            simpa using taken
          rw [blocked, Bool.false_and]
          simp only [Bool.false_eq_true, iff_false]
          cases j with
          | zero =>
            obtain rfl := Option.some.inj built
            exact traceNe
          | succ j =>
            refine stack_hides issued' ?_ outer (List.mem_of_getElem? built)
            rintro _ ⟨⟩
            exact hides

/-- An error of a stack, with what is below the layers on it: the rest of the stack stands on this
error, its trace id was handed out, and no trace id that was not is found below. -/
theorem stack_reaches {i : Nat}
    (unissued : ∀ trace, journal.nextTrace ≤ trace.number →
      ∀ failure, below = some failure → failure.toCause.Hides trace)
    (hasLayer : layers[i]? = some layer) (own : layer.isForeign = false)
    (built : (stack layers below journal).1[i]? = some inner) :
    ∃ trace later, inner.trace? = some trace ∧ trace.number < later.nextTrace ∧
      (stack layers below journal).1.drop (i + 1)
        = (stack (layers.drop (i + 1)) (some inner) later).1 := by
  induction layers generalizing below journal i with
  | nil => cases hasLayer
  | cons first rest ih =>
    rcases applied : first.apply below journal with ⟨made, later⟩
    cases made with
    | none =>
      rw [stack_of_none applied] at built
      cases built
    | some made =>
      rw [stack_cons applied] at built ⊢
      have next := nextTrace_le_of_apply applied
      have unissued' : ∀ trace, later.nextTrace ≤ trace.number → made.trace? ≠ some trace ∧
          made.toCause.Hides trace := fun trace ahead =>
        apply_hides (.inr ahead) (unissued trace (Nat.le_trans next ahead)) applied
      cases i with
      | zero =>
        obtain rfl := Option.some.inj hasLayer
        obtain rfl := Option.some.inj built
        obtain ⟨trace, has⟩ := Option.isSome_iff_exists.mp (apply_traced own applied).isSome
        exact ⟨trace, later, has,
          Nat.lt_of_not_le fun ahead => (unissued' trace ahead).1 has, rfl⟩
      | succ i =>
        refine ih ?_ hasLayer built
        rintro trace ahead _ ⟨⟩
        exact (unissued' trace ahead).2

end

/-! ## When a trace id is carried on -/

/-- So many layers in a row, from the given one on, are errors of another library. -/
def ForeignRun (layers : List Layer) (first count : Nat) : Prop :=
  ∀ offset < count, ∃ layer, layers[first + offset]? = some layer ∧ layer.isForeign = true

section

variable {layer : Layer} {rest layers : List Layer} {first count : Nat}

/-- The front of a run is a run. -/
theorem ForeignRun.mono {fewer : Nat} (run : ForeignRun layers first count)
    (le : fewer ≤ count) : ForeignRun layers first fewer :=
  fun offset below => run offset (Nat.lt_of_lt_of_le below le)

/-- Where there are no layers, there is no run. -/
theorem foreignRun_nil : ForeignRun [] first count ↔ count = 0 := by
  constructor
  · intro run
    refine Nat.eq_zero_of_not_pos fun positive => ?_
    obtain ⟨layer, found, -⟩ := run 0 positive
    cases found
  · rintro rfl offset below
    cases below

/-- A run further up is one of the layers above the first. -/
theorem foreignRun_cons_succ :
    ForeignRun (layer :: rest) (first + 1) count ↔ ForeignRun rest first count := by
  unfold ForeignRun
  simp only [Nat.add_right_comm first 1, List.getElem?_cons_succ]

/-- An error of another library at the bottom makes a run longer by one. -/
theorem foreignRun_cons_of_foreign (fromLibrary : layer.isForeign = true) :
    ForeignRun (layer :: rest) 0 (count + 1) ↔ ForeignRun rest 0 count := by
  constructor
  · intro run offset below
    have found := run (offset + 1) (Nat.succ_lt_succ below)
    rwa [← Nat.add_assoc, List.getElem?_cons_succ] at found
  · intro run offset below
    cases offset with
    | zero => exact ⟨layer, rfl, fromLibrary⟩
    | succ offset =>
      rw [← Nat.add_assoc, List.getElem?_cons_succ]
      exact run offset (Nat.lt_of_succ_lt_succ below)

/-- No run starts at an error of this library. -/
theorem foreignRun_cons_of_own (own : layer.isForeign = false) :
    ForeignRun (layer :: rest) 0 count ↔ count = 0 := by
  constructor
  · intro run
    refine Nat.eq_zero_of_not_pos fun positive => ?_
    obtain ⟨layer', same, fromLibrary⟩ := run 0 positive
    obtain rfl : layer = layer' := Option.some.inj same
    rw [own] at fromLibrary
    cases fromLibrary
  · rintro rfl offset below
    cases below

/-- A run behind the first layer is one of the other layers. -/
theorem forall_not_foreignRun_cons :
    (∀ first, ¬ ForeignRun (layer :: rest) first count) ↔
      ¬ ForeignRun (layer :: rest) 0 count ∧ ∀ first, ¬ ForeignRun rest first count := by
  constructor
  · exact fun never => ⟨never 0, fun first run => never (first + 1) (foreignRun_cons_succ.mpr run)⟩
  · rintro ⟨now, later⟩ (_ | first) run
    · exact now run
    · exact later first (foreignRun_cons_succ.mp run)

/-- A trace id is carried on if and only if no layer drops its source and no four errors of
another library stand in a row, those in front of the first layer counted in. -/
theorem carries_iff (distance : Nat) (layers : List Layer) :
    carries distance layers = true ↔
      (∀ layer ∈ layers, layer.isRpc = false) ∧
      ¬ ForeignRun layers 0 (Cause.searchDepth - distance) ∧
      ∀ first, ¬ ForeignRun layers first Cause.searchDepth := by
  induction layers generalizing distance with
  | nil =>
    simp only [carries, foreignRun_nil, decide_eq_true_eq]
    refine ⟨fun near => ⟨nofun, by omega, fun _ => nofun⟩, fun all => ?_⟩
    have := all.2.1
    omega
  | cons layer rest ih =>
    rw [List.forall_mem_cons, forall_not_foreignRun_cons]
    cases fromLibrary : layer.isForeign with
    | true =>
      have keeps := isRpc_of_isForeign fromLibrary
      simp only [carries, fromLibrary, if_true, ih, keeps, true_and]
      rw [show Cause.searchDepth = 3 + 1 from rfl, foreignRun_cons_of_foreign fromLibrary]
      by_cases near : distance < 4
      · rw [show 3 + 1 - distance = (3 + 1 - (distance + 1)) + 1 by omega,
          foreignRun_cons_of_foreign fromLibrary]
        refine and_congr_right fun _ => and_congr_right fun now => ?_
        refine ⟨fun never => ⟨fun run => now (run.mono (by omega)), never⟩, fun all => all.2⟩
      · have far : 3 + 1 - (distance + 1) = 0 := by omega
        have far' : 3 + 1 - distance = 0 := by omega
        have empty : ∀ layers, ForeignRun layers 0 0 := fun layers offset below => nomatch below
        simp [far, far', empty]
    | false =>
      simp only [carries, fromLibrary, Bool.false_eq_true, if_false, Bool.and_eq_true,
        decide_eq_true_eq, Bool.not_eq_true', ih, foreignRun_cons_of_own fromLibrary]
      constructor
      · rintro ⟨⟨keeps, near⟩, rpc, -, never⟩
        exact ⟨⟨keeps, rpc⟩, by omega, by decide, never⟩
      · rintro ⟨⟨keeps, rpc⟩, near, -, never⟩
        exact ⟨⟨keeps, by omega⟩, rpc, never 0, never⟩

end

/-! ## Stacks that can be built -/

end Layer

/-- The types of errors. -/
inductive FailureKind where
  | foreign
  | context
  | registry
  | transport
  | setting
  | verification
  | query
  | startup
deriving DecidableEq, Repr

/-- The type of an error. -/
def Failure.kind : Failure → FailureKind
  | foreign _ _ => .foreign
  | context _ => .context
  | registry _ => .registry
  | transport _ => .transport
  | setting _ => .setting
  | verification _ => .verification
  | query _ => .query
  | startup _ => .startup

namespace Layer

/-- The type of the error that a layer makes of one of the given type, or of none.  Conversions
are there for a few types only; every other layer can be put around any error. -/
def kind? : Layer → Option FailureKind → Option FailureKind
  | foreign _, _ => some .foreign
  | context _, _ => some .context
  | loggedContext _, _ => some .context
  | registry _ _, _ => some .registry
  | http _ _ _ _, _ => some .transport
  | network _, _ => some .transport
  | unreadable _, _ => some .transport
  | rpc _ _, _ => some .transport
  | setting _ _, _ => some .setting
  | initialization _, _ => some .startup
  | asVerification, some .registry => some .verification
  | asVerification, some .transport => some .verification
  | asQuery, some .registry => some .query
  | asQuery, some .transport => some .query
  | asStartup, some .setting => some .startup
  | asStartup, some .registry => some .startup
  | asStartup, some .transport => some .startup
  | asStartup, some .verification => some .startup
  | _, _ => none

/-- Whether layers can be put around one another in the given order. -/
def wellTyped : Option FailureKind → List Layer → Bool
  | _, [] => true
  | below, layer :: rest =>
    match layer.kind? below with
    | none => false
    | some kind => wellTyped (some kind) rest

/-- A layer makes an error of its type, and none where there is no such conversion. -/
theorem apply_kind (layer : Layer) (below : Option Failure) (journal : Journal) :
    (layer.apply below journal).1.map Failure.kind = layer.kind? (below.map Failure.kind) := by
  cases layer with
  | asVerification =>
    cases below with
    | none => rfl
    | some failure => cases failure <;> rfl
  | asQuery =>
    cases below with
    | none => rfl
    | some failure => cases failure <;> rfl
  | asStartup =>
    cases below with
    | none => rfl
    | some failure => cases failure <;> rfl
  | _ => rfl

/-- Layers in an order in which they can be put around one another make one error each. -/
theorem stack_length {layers : List Layer} (below : Option Failure)
    (typed : wellTyped (below.map Failure.kind) layers = true) (journal : Journal) :
    (stack layers below journal).1.length = layers.length := by
  induction layers generalizing below journal with
  | nil => rfl
  | cons layer rest ih =>
    rcases applied : layer.apply below journal with ⟨made, later⟩
    have kindEq := apply_kind layer below journal
    rw [applied] at kindEq
    unfold wellTyped at typed
    rw [← kindEq] at typed
    cases made with
    | none => cases typed
    | some made =>
      rw [stack_cons applied, List.length_cons, ih (some made) typed, List.length_cons]

/-! ## The main statement -/

/-- One of the layers above `i` up to `j` drops its source. -/
def Severed (layers : List Layer) (i j : Nat) : Prop :=
  ∃ k layer, i < k ∧ k ≤ j ∧ layers[k]? = some layer ∧ layer.isRpc = true

/-- Four errors of another library stand in a row between `i` and `j`. -/
def Buried (layers : List Layer) (i j : Nat) : Prop :=
  ∃ first, i < first ∧ first + 3 < j ∧ ForeignRun layers first 4

/-- The layers above `i` up to `j`. -/
def between (layers : List Layer) (i j : Nat) : List Layer :=
  (layers.drop (i + 1)).take (j - i)

/-- The layers in between are counted from the one above `i`. -/
theorem between_getElem? (layers : List Layer) (i j n : Nat) :
    (between layers i j)[n]? = if n < j - i then layers[i + 1 + n]? else none := by
  unfold between
  rw [List.getElem?_take, List.getElem?_drop]

/-- That each of the layers in between keeps its source means that none severs the two. -/
theorem forall_between_iff {layers : List Layer} {i j : Nat} :
    (∀ layer ∈ between layers i j, layer.isRpc = false) ↔ ¬ Severed layers i j := by
  constructor
  · rintro keeps ⟨k, layer, above, upTo, found, drops⟩
    have member : layer ∈ between layers i j := by
      refine List.mem_of_getElem? (i := k - (i + 1)) ?_
      rw [between_getElem?, if_pos (by omega), show i + 1 + (k - (i + 1)) = k by omega]
      exact found
    rw [keeps layer member] at drops
    cases drops
  · intro whole layer member
    obtain ⟨n, found⟩ := List.mem_iff_getElem?.mp member
    rw [between_getElem?] at found
    split at found
    · exact Bool.eq_false_iff.mpr fun drops =>
        whole ⟨i + 1 + n, layer, by omega, by omega, found, drops⟩
    · cases found

/-- Where the outer error has a trace id, four errors of another library in a row end below it. -/
theorem exists_foreignRun_between_iff {layers : List Layer} {i j : Nat} {outer : Layer}
    (hasOuter : layers[j]? = some outer) (outerOwn : outer.isForeign = false) :
    (∃ first, ForeignRun (between layers i j) first 4) ↔ Buried layers i j := by
  constructor
  · rintro ⟨first, run⟩
    have inside : ∀ offset < 4, first + offset < j - i ∧
        ∃ layer, layers[i + 1 + first + offset]? = some layer ∧ layer.isForeign = true := by
      intro offset below
      obtain ⟨layer, found, fromLibrary⟩ := run offset below
      rw [between_getElem?] at found
      split at found
      · exact ⟨‹_›, layer, Nat.add_assoc (i + 1) first offset ▸ found, fromLibrary⟩
      · cases found
    obtain ⟨last, layer, found, fromLibrary⟩ := inside 3 (by decide)
    refine ⟨i + 1 + first, by omega, ?_, fun offset below => (inside offset below).2⟩
    -- The last of the four is not the outer error, which has a trace id.
    have notOuter : i + 1 + first + 3 ≠ j := by
      rintro rfl
      obtain rfl := Option.some.inj (found.symm.trans hasOuter)
      rw [outerOwn] at fromLibrary
      cases fromLibrary
    omega
  · rintro ⟨first, above, upTo, run⟩
    refine ⟨first - (i + 1), fun offset below => ?_⟩
    rw [between_getElem?, if_pos (by omega),
      show i + 1 + (first - (i + 1) + offset) = first + offset by omega]
    exact run offset below

/-- Where the outer error has a trace id, a trace id is carried on through the layers above the
inner one unless it is severed or buried between them. -/
theorem carries_between_iff {layers : List Layer} {i j : Nat} {outer : Layer}
    (hasOuter : layers[j]? = some outer) (outerOwn : outer.isForeign = false) :
    carries 0 (between layers i j) = true ↔ ¬ Severed layers i j ∧ ¬ Buried layers i j := by
  rw [carries_iff, forall_between_iff, ← exists_foreignRun_between_iff hasOuter outerOwn,
    not_exists]
  exact and_congr_right fun _ => ⟨fun never => never.2, fun never => ⟨never 0, never⟩⟩

/-- Two errors of a stack share their trace id if and only if no layer above the inner one, up to
the outer one, drops its source, and no four errors of another library stand in a row between
them.  The stack may be of any length and its layers in any order in which they can be put around
one another, and the journal may be any at the start. -/
theorem stack_trace_eq_iff {layers : List Layer} (typed : wellTyped none layers = true)
    (journal : Journal) {i j : Nat} (before : i < j) {inner outer : Layer}
    (hasInner : layers[i]? = some inner) (hasOuter : layers[j]? = some outer)
    (innerOwn : inner.isForeign = false) (outerOwn : outer.isForeign = false) :
    ∃ below above trace trace',
      (stack layers none journal).1[i]? = some below ∧ below.trace? = some trace ∧
      (stack layers none journal).1[j]? = some above ∧ above.trace? = some trace' ∧
      (trace = trace' ↔ ¬ Severed layers i j ∧ ¬ Buried layers i j) := by
  have lengthEq : (stack layers none journal).1.length = layers.length :=
    stack_length none typed journal
  have builds : ∀ {k : Nat} {layer : Layer}, layers[k]? = some layer →
      ∃ failure, (stack layers none journal).1[k]? = some failure := by
    intro k layer found
    have inside := (List.getElem?_eq_some_iff.mp found).1
    exact ⟨_, List.getElem?_eq_getElem (lengthEq ▸ inside)⟩
  obtain ⟨below, hasBelow⟩ := builds hasInner
  obtain ⟨above, hasAbove⟩ := builds hasOuter
  have noFailure : ∀ trace, journal.nextTrace ≤ trace.number →
      ∀ failure, (none : Option Failure) = some failure → failure.toCause.Hides trace :=
    fun _ _ _ contra => nomatch contra
  obtain ⟨trace, later, belowTrace, issued, rest⟩ :=
    stack_reaches noFailure hasInner innerOwn hasBelow
  obtain ⟨trace', -, aboveTrace, -, -⟩ :=
    stack_reaches noFailure hasOuter outerOwn hasAbove
  refine ⟨below, above, trace, trace', hasBelow, belowTrace, hasAbove, aboveTrace, ?_⟩
  -- The outer error is an error of the stack that stands on the inner one.
  have offset : i + 1 + (j - i - 1) = j := by omega
  have hasOuter' : (layers.drop (i + 1))[j - i - 1]? = some outer := by
    rw [List.getElem?_drop, offset]
    exact hasOuter
  have hasAbove' : (stack (layers.drop (i + 1)) (some below) later).1[j - i - 1]? = some above := by
    rw [← rest, List.getElem?_drop, offset]
    exact hasAbove
  have carried := stack_carries
    (Cause.shows_of_trace? (below.toCause_trace?.trans belowTrace)) issued hasOuter' outerOwn
    hasAbove'
  rw [show j - i - 1 + 1 = j - i by omega, aboveTrace] at carried
  rw [← carries_between_iff hasOuter outerOwn]
  unfold between
  rw [← carried, Option.some.injEq]
  exact eq_comm

/-- A refused query in three errors of another library, and an unreadable setting in four. -/
def mixedStack : List Layer :=
  [registry .disallowedMethod (.plain "refused"), asQuery, foreign "a", foreign "b", foreign "c",
   context (.plain "reported"), foreign "d", foreign "e", foreign "f", foreign "g",
   setting .unparsable (.plain "unreadable"), asStartup]

/-- Three errors of another library in a row let the trace id of the query through, and four bury
that of the report, so the setting gets a new one. -/
theorem stack_trace_eq_iff_mixed :
    wellTyped none mixedStack = true ∧
    (∃ below above trace, (stack mixedStack none .empty).1[0]? = some below ∧
      (stack mixedStack none .empty).1[5]? = some above ∧
      below.trace? = some trace ∧ above.trace? = some trace) ∧
    (∃ below above trace trace', (stack mixedStack none .empty).1[5]? = some below ∧
      (stack mixedStack none .empty).1[11]? = some above ∧
      below.trace? = some trace ∧ above.trace? = some trace' ∧ trace ≠ trace') := by
  have typed : wellTyped none mixedStack = true := by decide
  refine ⟨typed, ?_, ?_⟩
  · obtain ⟨below, above, trace, trace', hasBelow, belowTrace, hasAbove, aboveTrace, same⟩ :=
      stack_trace_eq_iff typed .empty (i := 0) (j := 5) (by decide) rfl rfl rfl rfl
    have carried : carries 0 (between mixedStack 0 5) = true := by decide
    rw [← same.mpr ((carries_between_iff rfl rfl).mp carried)] at aboveTrace
    exact ⟨below, above, trace, hasBelow, hasAbove, belowTrace, aboveTrace⟩
  · obtain ⟨below, above, trace, trace', hasBelow, belowTrace, hasAbove, aboveTrace, same⟩ :=
      stack_trace_eq_iff typed .empty (i := 5) (j := 11) (by decide) rfl rfl rfl rfl
    have notCarried : carries 0 (between mixedStack 5 11) ≠ true := by decide
    exact ⟨below, above, trace, trace', hasBelow, hasAbove, belowTrace, aboveTrace,
      fun equal => notCarried ((carries_between_iff rfl rfl).mpr (same.mp equal))⟩

end Layer

end ChainIdentity
