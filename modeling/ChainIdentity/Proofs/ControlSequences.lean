import ChainIdentity.Logging.Line
import ChainIdentity.Proofs.CauseChain

/-!
# What is left of a text without its control sequences

Control sequences do not overlap, because the escape character opens each of them and stands nowhere
else in one (`IsSequence.prefix_front`).  What `strip` takes out in one pass are therefore all
sequences of the text, and only these: `Cuts` says so without the pass, and `cuts_iff` that it is
what `strip` does.

One pass does not always leave a text without sequences.  Two fragments may stand on either side of
a sequence, and they form a new one when it is gone.  `Torn` says what such fragments look like in
the text, as a sequence with whole sequences in between its characters, and `holds_strip_iff` that
there is no other way for a sequence to be left.

`stripText_clean_iff` is the main statement: exactly the texts without a torn sequence are clean
afterwards.
-/

namespace ChainIdentity

namespace Text.Terminal

/-! ## Sequences -/

/-- A control sequence is the escape character, an opening bracket, digits and semicolons, and one
letter. -/
inductive IsSequence : List Char → Prop
  | of {parameters : List Char} {final : Char}
      (between : ∀ c ∈ parameters, ('0' ≤ c ∧ c ≤ '9') ∨ c = ';')
      (letter : ('a' ≤ final ∧ final ≤ 'z') ∨ ('A' ≤ final ∧ final ≤ 'Z')) :
      IsSequence ('\x1b' :: '[' :: (parameters ++ [final]))

/-- A control sequence stands somewhere among the characters. -/
def Holds (cs : List Char) : Prop :=
  ∃ sequence, IsSequence sequence ∧ sequence <:+: cs

/-- The parameters of a sequence are digits and semicolons. -/
theorem isParameter_iff (c : Char) :
    isParameter c = true ↔ ('0' ≤ c ∧ c ≤ '9') ∨ c = ';' := by
  unfold isParameter
  simp only [Bool.or_eq_true, Bool.and_eq_true, decide_eq_true_eq, beq_iff_eq]

/-- The last character of a sequence is a letter. -/
theorem isFinal_iff (c : Char) :
    isFinal c = true ↔ ('a' ≤ c ∧ c ≤ 'z') ∨ ('A' ≤ c ∧ c ≤ 'Z') := by
  unfold isFinal
  simp only [Bool.or_eq_true, Bool.and_eq_true, decide_eq_true_eq]

/-- A letter ends the digits and semicolons in front of it. -/
theorem isParameter_eq_false {c : Char} (letter : isFinal c = true) : isParameter c = false := by
  rw [isFinal_iff] at letter
  rw [Bool.eq_false_iff, Ne, isParameter_iff]
  simp only [Char.le_def, UInt32.le_iff_toNat_le, Char.ext_iff, ← UInt32.toNat_inj] at letter ⊢
  simp only [Char.reduceVal, UInt32.reduceToNat] at letter ⊢
  omega

section

variable {sequence cs front rest left : List Char} {c : Char}

/-- The escape character opens a sequence and stands nowhere else in it. -/
theorem IsSequence.exists_cons (isSequence : IsSequence sequence) :
    ∃ tail, sequence = '\x1b' :: tail ∧ '\x1b' ∉ tail := by
  cases isSequence with
  | @of parameters final between letter =>
    refine ⟨'[' :: (parameters ++ [final]), rfl, ?_⟩
    rw [List.mem_cons, List.mem_append, List.mem_singleton]
    rintro (same | among | rfl)
    · exact absurd same (by decide)
    · exact absurd (between _ among) (by decide)
    · exact absurd letter (by decide)

/-- A sequence has a last character behind the escape character. -/
theorem IsSequence.exists_body (isSequence : IsSequence sequence) :
    ∃ body final, sequence = '\x1b' :: (body ++ [final]) := by
  obtain ⟨-, -⟩ := isSequence
  exact ⟨'[' :: _, _, rfl⟩

/-- The scanner finds a sequence at the front, and what is behind it, exactly where there is one. -/
theorem afterSequence?_eq_some_iff :
    afterSequence? cs = some rest ↔ ∃ sequence, IsSequence sequence ∧ cs = sequence ++ rest := by
  constructor
  · intro found
    unfold afterSequence? at found
    split at found
    · rename_i tail
      have parts := List.takeWhile_append_dropWhile (p := isParameter) (l := tail)
      split at found
      · rename_i final after ends
        split at found
        · rename_i letter
          obtain rfl := Option.some.inj found
          have between : ∀ c ∈ tail.takeWhile isParameter, ('0' ≤ c ∧ c ≤ '9') ∨ c = ';' :=
            fun c among => (isParameter_iff c).mp (List.mem_takeWhile_imp among)
          refine ⟨_, .of between ((isFinal_iff final).mp letter), ?_⟩
          rw [List.cons_append, List.cons_append, List.append_assoc, List.singleton_append,
            ← ends, parts]
        · cases found
      · cases found
    · cases found
  · rintro ⟨_, ⟨between, letter⟩, rfl⟩
    rename_i parameters final
    have letter' := (isFinal_iff final).mpr letter
    have between' : ∀ c ∈ parameters, isParameter c = true :=
      fun c among => (isParameter_iff c).mpr (between c among)
    have ends : (parameters ++ final :: rest).dropWhile isParameter = final :: rest := by
      rw [List.dropWhile_append_of_pos between',
        List.dropWhile_cons_of_neg (by rw [isParameter_eq_false letter']; exact Bool.false_ne_true)]
    rw [List.cons_append, List.cons_append, List.append_assoc, List.singleton_append,
      afterSequence?, ends]
    exact if_pos letter'

/-- The scanner finds nothing exactly where no sequence leads up to the text. -/
theorem afterSequence?_eq_none_iff :
    afterSequence? cs = none ↔ ∀ sequence, IsSequence sequence → ¬ sequence <+: cs := by
  rw [Option.eq_none_iff_forall_ne_some]
  constructor
  · rintro none sequence isSequence ⟨rest, same⟩
    exact none rest (afterSequence?_eq_some_iff.mpr ⟨sequence, isSequence, same.symm⟩)
  · intro never rest found
    obtain ⟨sequence, isSequence, same⟩ := afterSequence?_eq_some_iff.mp found
    exact never sequence isSequence ⟨rest, same.symm⟩

/-- No sequence starts with a character other than the escape character. -/
theorem afterSequence?_of_ne (different : c ≠ '\x1b') : afterSequence? (c :: cs) = none := by
  rw [afterSequence?_eq_none_iff]
  intro sequence isSequence starts
  obtain ⟨tail, rfl, -⟩ := isSequence.exists_cons
  exact different (List.cons_prefix_cons.mp starts).1.symm

/-- What lacks a character does not start beyond it. -/
theorem prefix_front_of_notMem {inner : List Char} (lacks : c ∉ inner)
    (starts : inner <+: front ++ c :: rest) : inner <+: front := by
  rcases List.prefix_or_prefix_of_prefix starts (List.prefix_append front (c :: rest)) with
    within | ⟨further, rfl⟩
  · exact within
  · rw [List.prefix_append_right_inj] at starts
    rw [eq_nil_of_prefix_cons (mt (List.mem_append_right front) lacks) starts, List.append_nil]

/-- No sequence ends within another one. -/
theorem IsSequence.not_prefix_body {body : List Char} {final : Char}
    (isSequence : IsSequence ('\x1b' :: (body ++ [final]))) (isSequence' : IsSequence sequence) :
    ¬ sequence <+: '\x1b' :: body := by
  rintro ⟨further, same⟩
  have whole : afterSequence? ('\x1b' :: (body ++ [final])) = some [] :=
    afterSequence?_eq_some_iff.mpr ⟨_, isSequence, (List.append_nil _).symm⟩
  have part : afterSequence? ('\x1b' :: (body ++ [final])) = some (further ++ [final]) :=
    afterSequence?_eq_some_iff.mpr
      ⟨sequence, isSequence', by rw [← List.append_assoc, same, List.cons_append]⟩
  have nothing : further ++ [final] = [] := Option.some.inj (part.symm.trans whole)
  exact List.append_ne_nil_of_right_ne_nil further (List.cons_ne_nil final []) nothing

/-- No sequence reaches over an escape character behind its first. -/
theorem IsSequence.prefix_front (isSequence : IsSequence sequence)
    (starts : sequence <+: c :: (front ++ '\x1b' :: rest)) : sequence <+: c :: front := by
  obtain ⟨tail, rfl, lacks⟩ := isSequence.exists_cons
  obtain ⟨same, starts⟩ := List.cons_prefix_cons.mp starts
  exact List.cons_prefix_cons.mpr ⟨same, prefix_front_of_notMem lacks starts⟩

/-! ## One pass -/

/-- A sequence at the front is dropped. -/
theorem strip_sequence_append (isSequence : IsSequence sequence) (cs : List Char) :
    strip (sequence ++ cs) = strip cs := by
  have found : afterSequence? (sequence ++ cs) = some cs :=
    afterSequence?_eq_some_iff.mpr ⟨sequence, isSequence, rfl⟩
  obtain ⟨tail, rfl, -⟩ := isSequence.exists_cons
  rw [List.cons_append] at found ⊢
  rw [strip]
  split
  · rename_i after found'
    obtain rfl := Option.some.inj (found.symm.trans found')
    rfl
  · rename_i missing
    rw [missing] at found
    cases found

/-- A character that opens no sequence is kept. -/
theorem strip_cons (opensNone : afterSequence? (c :: cs) = none) :
    strip (c :: cs) = c :: strip cs := by
  rw [strip]
  split
  · rename_i after found
    rw [opensNone] at found
    cases found
  · rfl

/-- An escape character is where a text may be cut without tearing a sequence. -/
theorem strip_append_escape (front rest : List Char) :
    strip (front ++ '\x1b' :: rest) = strip front ++ strip ('\x1b' :: rest) := by
  induction front using strip.induct with
  | case1 => rw [List.nil_append, strip, List.nil_append]
  | case2 c front after opens _ ih =>
    obtain ⟨sequence, isSequence, same⟩ := afterSequence?_eq_some_iff.mp opens
    rw [same, List.append_assoc, strip_sequence_append isSequence,
      strip_sequence_append isSequence, ih]
  | case3 c front opensNone ih =>
    have opensNone' : afterSequence? (c :: (front ++ '\x1b' :: rest)) = none := by
      rw [afterSequence?_eq_none_iff] at opensNone ⊢
      exact fun sequence isSequence starts =>
        opensNone sequence isSequence (isSequence.prefix_front starts)
    rw [List.cons_append, strip_cons opensNone', strip_cons opensNone, ih, List.cons_append]

/-- A sequence is taken out wherever it stands, and nothing around it notices. -/
theorem strip_around (isSequence : IsSequence sequence) (front rest : List Char) :
    strip (front ++ sequence ++ rest) = strip front ++ strip rest := by
  rw [← strip_sequence_append isSequence rest]
  obtain ⟨tail, rfl, -⟩ := isSequence.exists_cons
  rw [List.append_assoc, List.cons_append, strip_append_escape]

/-- In front of the first escape character nothing is taken out. -/
theorem strip_append_of_notMem (lacks : '\x1b' ∉ front) (rest : List Char) :
    strip (front ++ rest) = front ++ strip rest := by
  induction front with
  | nil => rfl
  | cons c front ih =>
    rw [List.mem_cons, not_or] at lacks
    rw [List.cons_append, strip_cons (afterSequence?_of_ne (Ne.symm lacks.1)), ih lacks.2,
      List.cons_append]

/-! ## All sequences of a text -/

/-- A text consists of pieces without any sequence and of one sequence between each two of them, and
the pieces put together are what is left. -/
inductive Cuts : List Char → List Char → Prop
  /-- A text without a sequence is one piece. -/
  | piece {cs : List Char} (free : ¬ Holds cs) : Cuts cs cs
  /-- Behind the first piece there is a sequence, and the rest is cut in turn. -/
  | sequence {front sequence rest left : List Char} (free : ¬ Holds front)
      (isSequence : IsSequence sequence) (further : Cuts rest left) :
      Cuts (front ++ sequence ++ rest) (front ++ left)

/-- No sequence stands in the empty text. -/
theorem not_holds_nil : ¬ Holds [] := by
  rintro ⟨sequence, isSequence, within⟩
  obtain ⟨tail, rfl, -⟩ := isSequence.exists_cons
  cases List.infix_nil.mp within

/-- A text is free of sequences exactly if none starts at its first character or later. -/
theorem not_holds_cons_iff :
    ¬ Holds (c :: cs) ↔ afterSequence? (c :: cs) = none ∧ ¬ Holds cs := by
  unfold Holds
  rw [afterSequence?_eq_none_iff]
  simp only [List.infix_cons_iff, not_exists, not_and, not_or]
  exact forall₂_and

/-- A character that opens no sequence belongs to the first piece. -/
theorem Cuts.cons (opensNone : afterSequence? (c :: cs) = none) (cuts : Cuts cs left) :
    Cuts (c :: cs) (c :: left) := by
  cases cuts with
  | piece free => exact .piece (not_holds_cons_iff.mpr ⟨opensNone, free⟩)
  | @sequence front sequence rest left free isSequence further =>
    have opensNone' : afterSequence? (c :: front) = none := by
      rw [afterSequence?_eq_none_iff] at opensNone ⊢
      rw [List.append_assoc] at opensNone
      exact fun inner isInner starts =>
        opensNone inner isInner (starts.trans (List.prefix_append (c :: front) (sequence ++ rest)))
    have free' : ¬ Holds (c :: front) := not_holds_cons_iff.mpr ⟨opensNone', free⟩
    exact @Cuts.sequence (c :: front) sequence rest left free' isSequence further

/-- The pass cuts the text and puts the pieces together. -/
theorem strip_cuts (cs : List Char) : Cuts cs (strip cs) := by
  induction cs using strip.induct with
  | case1 =>
    rw [strip]
    exact .piece not_holds_nil
  | case2 c cs after opens _ ih =>
    obtain ⟨sequence, isSequence, same⟩ := afterSequence?_eq_some_iff.mp opens
    rw [same, strip_sequence_append isSequence]
    have cut := Cuts.sequence not_holds_nil isSequence ih
    exact cut
  | case3 c cs opensNone ih =>
    rw [strip_cons opensNone]
    exact ih.cons opensNone

/-- A text without a sequence is left as it is. -/
theorem strip_of_not_holds (free : ¬ Holds cs) : strip cs = cs := by
  induction cs with
  | nil => rw [strip]
  | cons c cs ih =>
    obtain ⟨opensNone, free⟩ := not_holds_cons_iff.mp free
    rw [strip_cons opensNone, ih free]

/-- There is one way to cut a text, and it is the one of the pass. -/
theorem cuts_iff : Cuts cs left ↔ left = strip cs := by
  constructor
  · intro cuts
    induction cuts with
    | piece free => exact (strip_of_not_holds free).symm
    | sequence free isSequence _ ih => rw [strip_around isSequence, strip_of_not_holds free, ih]
  · rintro rfl
    exact strip_cuts cs

/-! ## Texts with sequences put in -/

/-- The second text is the first one with whole sequences put in between its characters, or in front
of them or behind them. -/
inductive Padded : List Char → List Char → Prop
  | nil : Padded [] []
  /-- Here a sequence was put in. -/
  | sequence {sequence kept cs : List Char} (isSequence : IsSequence sequence)
      (further : Padded kept cs) : Padded kept (sequence ++ cs)
  /-- Here stands a character of the first text. -/
  | keep {kept cs : List Char} (c : Char) (further : Padded kept cs) :
      Padded (c :: kept) (c :: cs)

/-- Texts with sequences put in may be put one behind the other. -/
theorem Padded.append {kept kept' cs cs' : List Char} (padded : Padded kept cs)
    (padded' : Padded kept' cs') : Padded (kept ++ kept') (cs ++ cs') := by
  induction padded with
  | nil => exact padded'
  | sequence isSequence _ ih =>
    rw [List.append_assoc]
    exact .sequence isSequence ih
  | keep c _ ih => exact .keep c ih

/-- Where a character of the first text stands in the second one. -/
theorem Padded.exists_cons {kept : List Char} (padded : Padded (c :: kept) cs) :
    ∃ lead rest, cs = lead ++ c :: rest ∧ Padded [] lead ∧ Padded kept rest := by
  generalize same : c :: kept = whole at padded
  induction padded with
  | nil => cases same
  | @sequence sequence _ _ isSequence _ ih =>
    obtain ⟨lead, rest, rfl, lead', rest'⟩ := ih same
    exact ⟨sequence ++ lead, rest, (List.append_assoc ..).symm, .sequence isSequence lead', rest'⟩
  | @keep _ rest _ further =>
    obtain ⟨rfl, rfl⟩ := List.cons.inj same
    exact ⟨[], rest, rfl, .nil, further⟩

/-- Where the first text has two parts, so has the one with the sequences put in. -/
theorem Padded.exists_append {kept kept' : List Char} (padded : Padded (kept ++ kept') cs) :
    ∃ front rest, cs = front ++ rest ∧ Padded kept front ∧ Padded kept' rest := by
  induction kept generalizing cs with
  | nil => exact ⟨[], cs, rfl, .nil, padded⟩
  | cons c kept ih =>
    obtain ⟨lead, further, rfl, lead', further'⟩ := Padded.exists_cons padded
    obtain ⟨front, rest, rfl, front', rest'⟩ := ih further'
    exact ⟨lead ++ c :: front, rest, by rw [List.append_assoc, List.cons_append],
      lead'.append (.keep c front'), rest'⟩

/-- In front of the first sequence that was put in, a text is as it was. -/
theorem Padded.eq_or_torn {kept : List Char} (padded : Padded kept cs) :
    cs = kept ∨ ∃ front rest, front <+: kept ∧ cs = front ++ '\x1b' :: rest := by
  induction padded with
  | nil => exact .inl rfl
  | @sequence _ _ cs isSequence _ _ =>
    obtain ⟨tail, rfl, -⟩ := isSequence.exists_cons
    exact .inr ⟨[], tail ++ cs, List.nil_prefix, rfl⟩
  | keep c _ ih =>
    rcases ih with rfl | ⟨front, rest, starts, rfl⟩
    · exact .inl rfl
    · exact .inr ⟨c :: front, rest, List.cons_prefix_cons.mpr ⟨rfl, starts⟩, rfl⟩

/-- Every text is what is left of it, with the dropped sequences put in. -/
theorem strip_padded (cs : List Char) : Padded (strip cs) cs := by
  induction cs using strip.induct with
  | case1 =>
    rw [strip]
    exact .nil
  | case2 c cs after opens _ ih =>
    obtain ⟨sequence, isSequence, same⟩ := afterSequence?_eq_some_iff.mp opens
    rw [same, strip_sequence_append isSequence]
    exact .sequence isSequence ih
  | case3 c cs opensNone ih =>
    rw [strip_cons opensNone]
    exact .keep c ih

/-- Every sequence that was put in is taken out again, and perhaps more. -/
theorem Padded.length_strip_le {kept : List Char} (padded : Padded kept cs) :
    (strip cs).length ≤ kept.length := by
  induction padded with
  | nil => rw [strip]
  | sequence isSequence _ ih => rwa [strip_sequence_append isSequence]
  | @keep kept cs c _ ih =>
    cases opens : afterSequence? (c :: cs) with
    | none =>
      rw [strip_cons opens]
      exact Nat.succ_le_succ ih
    | some after =>
      -- The character opens a sequence, whose rest is kept while the character is not.
      obtain ⟨sequence, isSequence, same⟩ := afterSequence?_eq_some_iff.mp opens
      rw [same, strip_sequence_append isSequence, List.length_cons]
      obtain ⟨tail, rfl, lacks⟩ := isSequence.exists_cons
      rw [List.cons_append] at same
      rw [(List.cons.inj same).2, strip_append_of_notMem lacks, List.length_append] at ih
      omega

/-- A text without the escape character is found again in any text it is put into. -/
theorem Padded.strip_append {kept : List Char} (padded : Padded kept cs) (lacks : '\x1b' ∉ kept)
    (rest : List Char) : strip (cs ++ rest) = kept ++ strip rest := by
  induction padded with
  | nil => rfl
  | sequence isSequence _ ih =>
    rw [List.append_assoc, strip_sequence_append isSequence, ih lacks]
  | keep c _ ih =>
    rw [List.mem_cons, not_or] at lacks
    rw [List.cons_append, strip_cons (afterSequence?_of_ne (Ne.symm lacks.1)), ih lacks.2,
      List.cons_append]

/-- A text may have no sequence put in at all. -/
theorem Padded.refl (cs : List Char) : Padded cs cs := by
  induction cs with
  | nil => exact .nil
  | cons c cs ih => exact .keep c ih

/-- Exactly the texts without a sequence are left as they are. -/
theorem strip_eq_self_iff : strip cs = cs ↔ ¬ Holds cs := by
  constructor
  · rintro same ⟨sequence, isSequence, front, rest, rfl⟩
    rw [strip_around isSequence] at same
    have lengths := congrArg List.length same
    have front_le := (Padded.refl front).length_strip_le
    have rest_le := (Padded.refl rest).length_strip_le
    obtain ⟨tail, rfl, -⟩ := isSequence.exists_cons
    simp only [List.length_append, List.length_cons] at lengths
    omega
  · exact strip_of_not_holds

/-! ## Torn sequences -/

/-- A sequence with other sequences in between its characters. -/
inductive Torn : List Char → Prop
  | of {body padded : List Char} {final : Char}
      (isSequence : IsSequence ('\x1b' :: (body ++ [final]))) (within : Padded body padded)
      (torn : padded ≠ body) : Torn ('\x1b' :: (padded ++ [final]))

/-- A torn sequence still starts with the escape character. -/
theorem Torn.exists_cons {torn : List Char} (isTorn : Torn torn) :
    ∃ tail, torn = '\x1b' :: tail := by
  obtain ⟨-, -, -⟩ := isTorn
  exact ⟨_, rfl⟩

/-- A torn sequence is whole when what tears it is gone. -/
theorem Torn.strip_append {torn : List Char} (isTorn : Torn torn) (rest : List Char) :
    ∃ sequence, IsSequence sequence ∧ strip (torn ++ rest) = sequence ++ strip rest := by
  obtain ⟨isSequence, within, differs⟩ := isTorn
  rename_i body padded final
  refine ⟨_, isSequence, ?_⟩
  obtain ⟨tail, same, lacks⟩ := isSequence.exists_cons
  obtain ⟨-, rfl⟩ := List.cons.inj same
  rw [List.mem_append, List.mem_singleton, not_or] at lacks
  -- A sequence that starts here would end in front of the first one that was put in, and so within
  -- the torn one.
  have opensNone : afterSequence? ('\x1b' :: (padded ++ final :: rest)) = none := by
    rcases within.eq_or_torn with same | ⟨front, behind, starts, rfl⟩
    · exact absurd same differs
    · rw [afterSequence?_eq_none_iff, List.append_assoc, List.cons_append]
      intro sequence isSequence' opens
      have short : '\x1b' :: front <+: '\x1b' :: body := List.cons_prefix_cons.mpr ⟨rfl, starts⟩
      exact isSequence.not_prefix_body isSequence' ((isSequence'.prefix_front opens).trans short)
  rw [List.cons_append, List.append_assoc, List.singleton_append, strip_cons opensNone,
    within.strip_append lacks.1, strip_cons (afterSequence?_of_ne (Ne.symm lacks.2)),
    List.cons_append, List.append_assoc, List.singleton_append]

/-- A sequence is left exactly where one was torn.  From left to right the characters of the
sequence that is left are found again in the text, with sequences that were put in.  If there were
none it would have been taken out itself, and less would be left. -/
theorem holds_strip_iff : Holds (strip cs) ↔ ∃ torn, Torn torn ∧ torn <:+: cs := by
  constructor
  · rintro ⟨sequence, isSequence, before, after, same⟩
    obtain ⟨body, final, rfl⟩ := isSequence.exists_body
    have characters : before ++ '\x1b' :: (body ++ [final]) ++ after
        = before ++ '\x1b' :: (body ++ final :: after) := by
      simp only [List.append_assoc, List.cons_append, List.nil_append]
    have padded := strip_padded cs
    rw [← same, characters] at padded
    obtain ⟨front, _, rfl, front', padded⟩ := padded.exists_append
    obtain ⟨lead, _, rfl, lead', padded⟩ := padded.exists_cons
    obtain ⟨inner, _, rfl, inner', padded⟩ := padded.exists_append
    obtain ⟨last, rest, rfl, last', rest'⟩ := padded.exists_cons
    have within : Padded body (inner ++ last) := by
      rw [← List.append_nil body]
      exact inner'.append last'
    have regroup : front ++ (lead ++ '\x1b' :: (inner ++ (last ++ final :: rest)))
        = front ++ lead ++ '\x1b' :: (inner ++ last ++ [final]) ++ rest := by
      simp only [List.append_assoc, List.cons_append, List.nil_append]
    rw [regroup] at same ⊢
    refine ⟨_, .of isSequence within fun untorn => ?_, front ++ lead, rest, rfl⟩
    rw [untorn, strip_around isSequence] at same
    have lengths := congrArg List.length same
    have front_le := (front'.append lead').length_strip_le
    have rest_le := rest'.length_strip_le
    simp only [List.length_append, List.length_cons, List.length_nil] at lengths front_le
    omega
  · rintro ⟨torn, isTorn, front, rest, rfl⟩
    obtain ⟨sequence, isSequence, same⟩ := isTorn.strip_append rest
    refine ⟨sequence, isSequence, strip front, strip rest, ?_⟩
    obtain ⟨tail, rfl⟩ := isTorn.exists_cons
    rw [List.append_assoc, List.append_assoc, ← same, List.cons_append, strip_append_escape]

end

/-! ## Texts -/

/-- What the pass does to a text.  The text is cut at all of its sequences, in the only way there
is, and the pieces are what is left; so a text stays as it is exactly if it has no sequence.  A
sequence is left exactly if one stands torn in the text, and exactly then would a second pass take
out more. -/
theorem stripText_clean_iff (text : String) :
    (∀ left, Cuts text.toList left ↔ left = (stripText text).toList) ∧
    (stripText text = text ↔ ¬ Holds text.toList) ∧
    (Holds (stripText text).toList ↔ ∃ torn, Torn torn ∧ torn <:+: text.toList) ∧
    (stripText (stripText text) = stripText text ↔
      ¬ ∃ torn, Torn torn ∧ torn <:+: text.toList) := by
  have characters : (stripText text).toList = strip text.toList := String.toList_ofList
  have same_iff (text : String) : stripText text = text ↔ ¬ Holds text.toList := by
    rw [← String.toList_inj, stripText, String.toList_ofList, strip_eq_self_iff]
  refine ⟨fun left => ?_, same_iff text, ?_, ?_⟩
  · rw [characters, cuts_iff]
  · rw [characters, holds_strip_iff]
  · rw [same_iff (stripText text), characters, holds_strip_iff]

/-- A colour torn by another sequence is put together by taking that one out, and only a second pass
takes it out as well. -/
theorem stripText_joins_fragments :
    Holds (stripText "logs\x1b[\x1b[0m7m").toList ∧
    stripText "logs\x1b[\x1b[0m7m" = "logs\x1b[7m" ∧
    stripText "logs\x1b[7m" = "logs" := by
  have left : stripText "logs\x1b[\x1b[0m7m" = "logs\x1b[7m" := by decide +kernel
  have colour : IsSequence "\x1b[7m".toList :=
    @IsSequence.of ['7'] 'm' (List.forall_mem_singleton.mpr (by decide)) (by decide)
  refine ⟨⟨_, colour, ?_⟩, left, by decide +kernel⟩
  rw [left]
  exact ⟨"logs".toList, [], by decide⟩

end Text.Terminal

/-! ## Files -/

namespace Logging

/-- A record that goes to a file has a control sequence exactly if one stands torn in what is
recorded. -/
theorem record_holds_iff (stamp : Stamp) (event : Event) :
    Text.Terminal.Holds (record .plain stamp event).toList ↔
      ∃ torn, Text.Terminal.Torn torn ∧ torn <:+: (rawRecord .plain stamp event).toList := by
  rw [record, Text.Terminal.stripText, String.toList_ofList, Text.Terminal.holds_strip_iff]

end Logging

end ChainIdentity
