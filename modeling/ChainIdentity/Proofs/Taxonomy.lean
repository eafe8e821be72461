import ChainIdentity.Proofs.Raising

/-!
# The taxonomy of operations

An operation has a wire tag, and two tables say which: `tag` gives the tag of an operation, and
`ofTag?` the operation of a tag.  Each is the inverse of the other (`ofTag?_eq_some_iff`), and this
is the only place where the tables are gone through.  All that writes an operation shows its tag,
and all that reads a text looks the tag up, so they agree on every text.

`Agreement` lists the ways of writing and reading, and `Foreign` says what becomes of a text that
is no tag.  `readings_agree` is the main statement.
-/

namespace ChainIdentity

/-! ## Refused texts -/

/-- The answer is the error that carries the text as one that is no tag. -/
def Answer.Unrecognized {α : Type} (answer : Answer α) (text : String) : Prop :=
  ∀ journal, ∃ error later, answer journal = (.error error, later) ∧
    error.problem = .unrecognizedOperation ∧
    error.context.note = (Refusal.unrecognized text).note ∧
    error.context.get? "operation_type" = some text

/-- The refusal of a text as a tag is the error that carries the text. -/
theorem Answer.unrecognized_of_refused {α : Type} (text : String) :
    Unrecognized (ofExcept (.error (.unrecognized text)) : Answer α) text := by
  intro journal
  obtain ⟨error, later, ends, problem, note⟩ := ofExcept_error (.unrecognized text) journal
  refine ⟨error, later, ends, problem, note, ?_⟩
  rw [Context.get?_of_about note, if_pos rfl]

namespace Operation

variable {operation : Operation} {text : String}

/-! ## The two tables -/

/-- The tag of an operation leads back to it. -/
theorem ofTag?_tag (operation : Operation) : ofTag? operation.tag = some operation := by
  cases operation <;> rfl

/-- A text that leads to an operation is its tag. -/
theorem tag_of_ofTag? (found : ofTag? text = some operation) : operation.tag = text := by
  unfold ofTag? at found
  -- One case for each row of the table, and one for a text that is in none.
  split at found <;> cases found <;> rfl

/-- The table of operations is the inverse of the table of tags. -/
theorem ofTag?_eq_some_iff : ofTag? text = some operation ↔ operation.tag = text := by
  constructor
  · exact tag_of_ofTag?
  · rintro rfl
    exact operation.ofTag?_tag

/-- A text leads nowhere exactly if it is no tag. -/
theorem ofTag?_eq_none_iff :
    ofTag? text = none ↔ ∀ operation : Operation, operation.tag ≠ text := by
  simp only [Option.eq_none_iff_forall_ne_some, ne_eq, ofTag?_eq_some_iff]

/-- Different operations have different tags. -/
theorem tag_injective : Function.Injective tag := by
  intro a b same
  exact Option.some.inj ((ofTag?_eq_some_iff.mpr same).symm.trans b.ofTag?_tag)

/-! ## The advertised tags -/

/-- An operation stands in its own place in the list of all. -/
theorem all_getElem?_position (operation : Operation) :
    all[operation.position]? = some operation := by
  cases operation <;> rfl

/-- The tag stands in the place of the operation in the advertised order. -/
theorem tags_getElem?_position (operation : Operation) :
    tags[operation.position]? = some operation.tag := by
  rw [tags, List.getElem?_map, all_getElem?_position, Option.map_some]

/-- The advertised texts are the tags of operations. -/
theorem mem_tags_iff : text ∈ tags ↔ ∃ operation : Operation, operation.tag = text := by
  rw [tags, List.mem_map]
  constructor
  · rintro ⟨operation, -, own⟩
    exact ⟨operation, own⟩
  · rintro ⟨operation, own⟩
    exact ⟨operation, List.mem_of_getElem? operation.all_getElem?_position, own⟩

/-! ## Questions to the registry -/

/-- A tag is classified as its operation, and nothing is written. -/
theorem classify_of_some (found : ofTag? text = some operation) (journal : Journal) :
    classify text journal = (.ok operation, journal) := by
  unfold classify
  rw [found]
  rfl

/-- A text that leads nowhere is answered with the error that carries it. -/
theorem classify_of_none (missing : ofTag? text = none) : (classify text).Unrecognized text := by
  unfold classify
  rw [missing]
  exact Answer.unrecognized_of_refused text

/-- A text is classified as an operation exactly if it is its tag. -/
theorem classify_eq_ok_iff (journal : Journal) :
    (classify text journal).1 = .ok operation ↔ operation.tag = text := by
  rw [← ofTag?_eq_some_iff]
  cases found : ofTag? text with
  | some own =>
    rw [classify_of_some found, Except.ok.injEq, Option.some.injEq]
  | none =>
    obtain ⟨error, later, refuses, -⟩ := classify_of_none found journal
    simp only [refuses, reduceCtorEq]

/-! ## Documents -/

/-- A document that is a tag is decoded as its operation. -/
theorem decode_text_of_some (found : ofTag? text = some operation) :
    decode (.text text) = .ok operation := by
  unfold decode
  simp only [Decoder.text, bind, Except.bind, found]
  rfl

/-- A document that is another text is refused with this text. -/
theorem decode_text_of_none (missing : ofTag? text = none) :
    decode (.text text) = .error (.refused (unrecognized text)) := by
  unfold decode
  simp only [Decoder.text, bind, Except.bind, missing]
  rfl

/-- A text is decoded as an operation exactly if it is its tag. -/
theorem decode_text_eq_ok_iff : decode (.text text) = .ok operation ↔ operation.tag = text := by
  rw [← ofTag?_eq_some_iff]
  cases found : ofTag? text with
  | some own => rw [decode_text_of_some found, Except.ok.injEq, Option.some.injEq]
  | none => simp only [decode_text_of_none found, reduceCtorEq]

/-- A document of another kind is refused for its kind, and no text is. -/
theorem decode_eq_kind_iff {json : Json} :
    decode json = .error (.kind json "a string") ↔ ∀ value, json ≠ .text value := by
  constructor
  · rintro refuses value rfl
    cases found : ofTag? value with
    | some operation =>
      rw [decode_text_of_some found] at refuses
      cases refuses
    | none =>
      rw [decode_text_of_none found] at refuses
      cases refuses
  · intro other
    cases json with
    | text value => exact absurd rfl (other value)
    | _ => rfl

/-! ## Families -/

/-- A property of operations holds of a text if the text is the tag of one that has it. -/
theorem any_ofTag?_iff {holds : Operation → Bool} :
    (ofTag? text).any holds = true ↔
      ∃ operation : Operation, operation.tag = text ∧ holds operation = true := by
  simp only [Option.any_eq_true, ofTag?_eq_some_iff]

/-- The check for calls asks whether the text is the tag of an operation of this family. -/
theorem isCallTag_iff :
    isCallTag text = true ↔
      ∃ operation : Operation, operation.tag = text ∧ operation.family = .call := by
  simp only [isCallTag, any_ofTag?_iff, isCall, beq_iff_eq]

/-- The check for deployments asks whether the text is the tag of an operation of this family. -/
theorem isCreateTag_iff :
    isCreateTag text = true ↔
      ∃ operation : Operation, operation.tag = text ∧ operation.family = .create := by
  simp only [isCreateTag, any_ofTag?_iff, isCreate, beq_iff_eq]

/-- No tag is that of a call and of a deployment. -/
theorem not_isCallTag_and_isCreateTag :
    ¬ (isCallTag text = true ∧ isCreateTag text = true) := by
  rw [isCallTag_iff, isCreateTag_iff]
  rintro ⟨⟨operation, own, calls⟩, other, otherwise, creates⟩
  obtain rfl := tag_injective (own.trans otherwise.symm)
  cases calls.symm.trans creates

/-! ## The agreement -/

/-- All that writes the operation and all that reads the text agree on whether the text is its
tag. -/
structure Agreement (operation : Operation) (text : String) : Prop where
  /-- The operation is shown as its tag. -/
  shown : toString operation = text ↔ operation.tag = text
  /-- Its document is its tag. -/
  written : operation.toJson = .text text ↔ operation.tag = text
  /-- Its tag stands in its place among the advertised ones. -/
  advertised : tags[operation.position]? = some text ↔ operation.tag = text
  /-- A text is classified by its tag. -/
  classified : ∀ journal, (classify text journal).1 = .ok operation ↔ operation.tag = text
  /-- A text is parsed by its tag. -/
  parsed : ∀ journal, (parse text journal).1 = .ok operation ↔ operation.tag = text
  /-- A text is converted by its tag. -/
  converted : ∀ journal, (ofText text journal).1 = .ok operation ↔ operation.tag = text
  /-- The document of a text is decoded by its tag. -/
  decoded : decode (.text text) = .ok operation ↔ operation.tag = text

/-- The text is not advertised, and no reading takes it for an operation or for the tag of one. -/
structure Foreign (text : String) : Prop where
  /-- It is not among the advertised tags. -/
  unadvertised : text ∉ tags
  /-- It is not classified. -/
  classified : (classify text).Unrecognized text
  /-- It is not parsed. -/
  parsed : (parse text).Unrecognized text
  /-- It is not converted. -/
  converted : (ofText text).Unrecognized text
  /-- Its document is not decoded. -/
  decoded : decode (.text text) = .error (.refused (unrecognized text))
  /-- It is not the tag of a call. -/
  noCall : isCallTag text = false
  /-- It is not the tag of a deployment. -/
  noCreate : isCreateTag text = false

/-- All that writes operations and all that reads them agree, since all of it goes by the one
table. -/
theorem agreement (operation : Operation) (text : String) : Agreement operation text where
  shown := Iff.rfl
  written := by rw [toJson, Json.text.injEq]
  advertised := by rw [tags_getElem?_position, Option.some.injEq]
  classified := classify_eq_ok_iff
  parsed := classify_eq_ok_iff
  converted := classify_eq_ok_iff
  decoded := decode_text_eq_ok_iff

/-- The foreign texts are those that are no tags. -/
theorem foreign_iff : Foreign text ↔ ∀ operation : Operation, operation.tag ≠ text := by
  constructor
  · intro foreign operation own
    exact foreign.unadvertised (mem_tags_iff.mpr ⟨operation, own⟩)
  · intro other
    have missing := ofTag?_eq_none_iff.mpr other
    have refuses := classify_of_none missing
    exact {
      unadvertised := by
        rw [mem_tags_iff, not_exists]
        exact other
      classified := refuses
      parsed := refuses
      converted := refuses
      decoded := decode_text_of_none missing
      noCall := by rw [isCallTag, missing, Option.any_none]
      noCreate := by rw [isCreateTag, missing, Option.any_none] }

/-- Every reading of a text takes it for the operation whose tag it is, and refuses it if it is no
tag.  The tags of calls and of deployments are those of the operations of these families.  A
document that is no text is no operation. -/
theorem readings_agree (text : String) :
    (∀ operation : Operation, Agreement operation text) ∧
    (Foreign text ↔ ∀ operation : Operation, operation.tag ≠ text) ∧
    (isCallTag text = true ↔ ∃ operation : Operation,
      decode (.text text) = .ok operation ∧ operation.family = .call) ∧
    (isCreateTag text = true ↔ ∃ operation : Operation,
      decode (.text text) = .ok operation ∧ operation.family = .create) ∧
    ¬ (isCallTag text = true ∧ isCreateTag text = true) ∧
    ∀ json, decode json = .error (.kind json "a string") ↔ ∀ value, json ≠ .text value := by
  refine ⟨fun operation => agreement operation text, foreign_iff, ?calls, ?creates,
    not_isCallTag_and_isCreateTag, fun _ => decode_eq_kind_iff⟩
  case calls => simp only [isCallTag_iff, decode_text_eq_ok_iff]
  case creates => simp only [isCreateTag_iff, decode_text_eq_ok_iff]

end Operation

end ChainIdentity
