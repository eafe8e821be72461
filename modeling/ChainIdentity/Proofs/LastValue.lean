import ChainIdentity.Fault.Context
import Mathlib.Data.List.Nodup
import Mathlib.Order.Basic

/-!
# The last value of a name

The metadata of an error are set one name after the other, and a name may be set again.
`Context.setAll` is a run of such steps, and `SetLast` the last of them that has a name.

What is shown of an error depends on its message and on the values of the names alone.  `Displays`
says how, by the values and not by the list that holds them: in the order of the names, each name
once.  There is one such text (`Displays.unique`), so the order of the steps and the values that
were set over do not matter.

`setAll_last_wins` is the main statement: after any steps a name has the value that was set last,
and the text shows these values.
-/

namespace ChainIdentity

/-! ## Lists in the order of their names -/

namespace Ordered

variable {α : Type} {name : String} {value : α} {entries entries' : List (String × α)}

/-- In an ordered list, a name has a value exactly if the two are an entry. -/
theorem lookup_eq_some_iff_mem (sorted : Sorted entries) :
    lookup name entries = some value ↔ (name, value) ∈ entries := by
  induction entries with
  | nil => simp [lookup]
  | cons entry rest ih =>
    obtain ⟨first, own⟩ := entry
    obtain ⟨before, sorted⟩ := List.pairwise_cons.mp sorted
    rw [lookup, List.mem_cons, Prod.mk.injEq]
    by_cases same : name = first
    · -- The name does not come again, since it is in front of all others.
      have notBehind : (name, value) ∉ rest :=
        fun behind => String.lt_irrefl name (same ▸ before _ behind)
      rw [if_pos same, Option.some.injEq, eq_comm]
      simp only [same, true_and, same ▸ notBehind, or_false]
    · rw [if_neg same, ih sorted]
      simp only [same, false_and, false_or]

/-- Names in order stand once each. -/
theorem Sorted.nodup (sorted : Sorted entries) : entries.Nodup := by
  refine List.Pairwise.imp ?_ sorted
  rintro entry _ before rfl
  exact String.lt_irrefl entry.1 before

/-- The values of the names determine the list. -/
theorem eq_of_mem_iff (sorted : Sorted entries) (sorted' : Sorted entries')
    (same : ∀ entry, entry ∈ entries ↔ entry ∈ entries') : entries = entries' := by
  have perm : entries.Perm entries' :=
    (List.perm_ext_iff_of_nodup sorted.nodup sorted'.nodup).mpr same
  refine perm.eq_of_pairwise ?_ sorted sorted'
  intro entry entry' _ _ before behind
  exact absurd (String.lt_trans before behind) (String.lt_irrefl entry.1)

end Ordered

/-! ## What is shown -/

/-- The text of an error with the given message, of which the names have the given values. -/
inductive Displays (message : String) (value? : String → Option String) : String → Prop
  /-- Where no name has a value the message stands alone. -/
  | alone (nothing : ∀ name, value? name = none) : Displays message value? message
  /-- Otherwise the names with their values follow in brackets, each name once and the names in
  increasing order. -/
  | listed {entries : List (String × String)} (something : entries ≠ [])
      (increasing : (entries.map (·.1)).Pairwise (· < ·))
      (current : ∀ name value, (name, value) ∈ entries ↔ value? name = some value) :
      Displays message value?
        (message ++ (" [" ++ ", ".intercalate (entries.map fun e => e.1 ++ "=" ++ e.2) ++ "]"))

section

variable {message text text' : String} {value? : String → Option String}

/-- There is one text for the same message and the same values. -/
theorem Displays.unique (displays : Displays message value? text)
    (displays' : Displays message value? text') : text = text' := by
  have nothing_of_nil {entries : List (String × String)} (something : entries ≠ [])
      (current : ∀ name value, (name, value) ∈ entries ↔ value? name = some value) :
      ¬ ∀ name, value? name = none := by
    intro nothing
    obtain ⟨entry, among⟩ := List.exists_mem_of_ne_nil entries something
    have has := (current entry.1 entry.2).mp among
    rw [nothing] at has
    cases has
  cases displays with
  | alone nothing =>
    cases displays' with
    | alone => rfl
    | listed something _ current => exact absurd nothing (nothing_of_nil something current)
  | listed something increasing current =>
    cases displays' with
    | alone nothing => exact absurd nothing (nothing_of_nil something current)
    | listed _ increasing' current' =>
      rw [Ordered.eq_of_mem_iff (List.pairwise_map.mp increasing) (List.pairwise_map.mp increasing')
        fun entry => (current entry.1 entry.2).trans (current' entry.1 entry.2).symm]

/-- The message stands alone exactly if no name has a value. -/
theorem Displays.eq_message_iff (displays : Displays message value? text) :
    text = message ↔ ∀ name, value? name = none := by
  constructor
  · intro same
    cases displays with
    | alone nothing => exact nothing
    | listed =>
      have lengths := congrArg String.length same
      simp only [String.length_append] at lengths
      have bracket : "]".length = 1 := rfl
      omega
  · exact fun nothing => displays.unique (.alone nothing)

end

namespace Context

variable {name value : String} {steps : List (String × String)}

/-- The message of an error shows the values that its names have. -/
theorem message_displays (context : Context) :
    Displays context.note.message context.get? context.message := by
  obtain ⟨⟨message, metadata⟩, trace, source⟩ := context
  cases metadata with
  | none => exact .alone fun _ => rfl
  | some metadata =>
    show Displays message metadata.get? (message ++ metadata.render)
    obtain ⟨entries, sorted⟩ := metadata
    have current (name value : String) : (name, value) ∈ entries ↔
        (Metadata.mk entries sorted).get? name = some value :=
      (Ordered.lookup_eq_some_iff_mem sorted).symm
    unfold Metadata.render
    by_cases nothing : entries = []
    · rw [if_pos (List.isEmpty_iff.mpr nothing), String.append_empty]
      refine .alone fun name => Option.eq_none_iff_forall_ne_some.mpr fun value has => ?_
      rw [← current, nothing] at has
      cases has
    · rw [if_neg (mt List.isEmpty_iff.mp nothing)]
      exact .listed nothing (List.pairwise_map.mpr sorted) current

/-! ## Steps -/

/-- Setting a value is felt by its own name only. -/
theorem get?_set (context : Context) (name value name' : String) :
    (context.set name value).get? name'
      = if name' = name then some value else context.get? name' := by
  show ((context.note.metadata.getD Metadata.empty).set name value).get? name' = _
  rw [Metadata.get?_set]
  cases given : context.note.metadata with
  | none => rw [get?, given]; rfl
  | some metadata => rw [get?, given]; rfl

/-- Sets one value after the other. -/
def setAll (context : Context) (steps : List (String × String)) : Context :=
  steps.foldl (fun context step => context.set step.1 step.2) context

/-- The first step is taken first. -/
theorem setAll_cons (context : Context) (step : String × String) (steps : List (String × String)) :
    context.setAll (step :: steps) = (context.set step.1 step.2).setAll steps := rfl

/-- The last of the steps that has the name sets the value. -/
def SetLast (steps : List (String × String)) (name value : String) : Prop :=
  ∃ front rest, steps = front ++ (name, value) :: rest ∧ ∀ step ∈ rest, step.1 ≠ name

/-- A step in front sets the last value only if no later step has its name. -/
theorem setLast_cons_iff {step : String × String} :
    SetLast (step :: steps) name value ↔
      SetLast steps name value ∨ (step = (name, value) ∧ ∀ step ∈ steps, step.1 ≠ name) := by
  constructor
  · rintro ⟨_ | ⟨first, front⟩, rest, same, last⟩
    · obtain ⟨rfl, rfl⟩ := List.cons.inj same
      exact .inr ⟨rfl, last⟩
    · obtain ⟨rfl, rfl⟩ := List.cons.inj same
      exact .inl ⟨front, rest, rfl, last⟩
  · rintro (⟨front, rest, rfl, last⟩ | ⟨rfl, last⟩)
    · exact ⟨step :: front, rest, rfl, last⟩
    · exact ⟨[], steps, rfl, last⟩

/-- A name has the value that was set last, or the one it had if it was never set. -/
theorem get?_setAll_eq_some_iff (context : Context) :
    (context.setAll steps).get? name = some value ↔
      SetLast steps name value ∨
        ((∀ step ∈ steps, step.1 ≠ name) ∧ context.get? name = some value) := by
  induction steps generalizing context with
  | nil =>
    have never : ¬ SetLast [] name value := by
      rintro ⟨front, rest, same, -⟩
      cases List.append_ne_nil_of_right_ne_nil front (List.cons_ne_nil _ rest) same.symm
    simp only [never, List.not_mem_nil, false_implies, implies_true, true_and, false_or]
    rfl
  | cons step steps ih =>
    obtain ⟨key, given⟩ := step
    rw [setAll_cons, ih, setLast_cons_iff, get?_set, List.forall_mem_cons, Prod.mk.injEq]
    by_cases same : name = key
    · simp only [same, if_true, Option.some.injEq, true_and, ne_eq, not_true, false_and, or_false]
      rw [and_comm]
    · simp only [same, if_false, Ne.symm same, false_and, or_false, ne_eq, not_false_eq_true,
        true_and]

/-- A message is set with an error and does not change afterwards. -/
theorem setAll_message (context : Context) :
    (context.setAll steps).note.message = context.note.message := by
  induction steps generalizing context with
  | nil => rfl
  | cons step steps ih => exact ih (context.set step.1 step.2)

/-- No name has a value exactly if none had one and none was set. -/
theorem get?_setAll_eq_none_iff (context : Context) :
    (∀ name, (context.setAll steps).get? name = none) ↔
      steps = [] ∧ ∀ name, context.get? name = none := by
  constructor
  · intro nothing
    rcases List.eq_nil_or_concat steps with rfl | ⟨front, ⟨name, value⟩, rfl⟩
    · exact ⟨rfl, nothing⟩
    · rw [List.concat_eq_append] at nothing
      have last : SetLast (front ++ [(name, value)]) name value := ⟨front, [], rfl, nofun⟩
      have has := (get?_setAll_eq_some_iff context).mpr (.inl last)
      rw [nothing] at has
      cases has
  · rintro ⟨rfl, nothing⟩
    exact nothing

/-- What any steps do to an error.  Each name has the value that the last step with it set, or the
one it had if no step has it.  The text shows the message and these values, and the message alone
exactly if there never was any value.  Two errors with one message, and with the same values after
whatever steps, have the same text, and one more step is felt by no other name. -/
theorem setAll_last_wins (context : Context) (steps : List (String × String)) :
    (∀ name value, (context.setAll steps).get? name = some value ↔
      SetLast steps name value ∨
        ((∀ step ∈ steps, step.1 ≠ name) ∧ context.get? name = some value)) ∧
    Displays context.note.message (context.setAll steps).get? (context.setAll steps).message ∧
    ((context.setAll steps).message = context.note.message ↔
      steps = [] ∧ ∀ name, context.get? name = none) ∧
    (∀ (other : Context) (steps' : List (String × String)),
      other.note.message = context.note.message →
      (∀ name, (other.setAll steps').get? name = (context.setAll steps).get? name) →
      (other.setAll steps').message = (context.setAll steps).message) ∧
    ∀ name value name', name' ≠ name →
      ((context.setAll steps).set name value).get? name' = (context.setAll steps).get? name' := by
  have displays := (context.setAll steps).message_displays
  rw [setAll_message] at displays
  refine ⟨fun name value => get?_setAll_eq_some_iff context, displays, ?bare, ?alike, ?aside⟩
  case bare => rw [displays.eq_message_iff, get?_setAll_eq_none_iff]
  case alike =>
    intro other steps' message values
    have displays' := (other.setAll steps').message_displays
    rw [setAll_message, message, funext values] at displays'
    exact displays'.unique displays
  case aside =>
    intro name value name' different
    rw [get?_set, if_neg different]

/-- An error that starts with a value which is set over, and one that starts without metadata. -/
theorem setAll_last_wins_reordered :
    let given : Context := ⟨.about "halted" [("at", "0")], ⟨0⟩, none⟩
    let bare : Context := ⟨.plain "halted", ⟨1⟩, none⟩
    (bare.setAll [("at", "2"), ("by", "3")]).message
        = (given.setAll [("by", "1"), ("at", "2"), ("by", "3")]).message ∧
    (given.setAll [("by", "1"), ("at", "2"), ("by", "3")]).message = "halted [at=2, by=3]" := by
  intro given bare
  refine ⟨?_, by decide +kernel⟩
  obtain ⟨-, -, -, alike, -⟩ := setAll_last_wins given [("by", "1"), ("at", "2"), ("by", "3")]
  refine alike bare [("at", "2"), ("by", "3")] rfl fun name => ?_
  have bareNothing : bare.get? name = none := rfl
  have givenOnce : given.get? name = if name = "at" then some "0" else none := Metadata.get?_set ..
  simp only [setAll, List.foldl_cons, List.foldl_nil, get?_set, bareNothing, givenOnce]
  by_cases atName : name = "at" <;> by_cases byName : name = "by" <;> simp [atName, byName]

end Context

end ChainIdentity
