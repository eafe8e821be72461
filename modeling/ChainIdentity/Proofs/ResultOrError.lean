import ChainIdentity.Proofs.Raising

/-!
# A result or a reported error

What the node sends in answer to a request is a document of any shape.  It may report an error, it
may hold a result, both, or neither.  Which of these it does is said here without the reader:
`Json.HasMember` goes by the entries of an object, `Response.Reports` is a member `error` that is
not null, and `HasCode` and `HasMessage` say what an error shows of itself, with a stand-in for what
is missing or of another kind.

`decode_result_or_error` is the main statement.  A reported error comes first, whatever stands
beside it.  Where none is reported the result is passed on as it is, null included, and an answer
with neither is not readable.  Nothing but the two members is looked at.
-/

namespace ChainIdentity

/-! ## Members of documents -/

namespace Ordered

variable {α : Type}

/-- To look a name up is the library's look-up in a list of pairs. -/
theorem lookup_eq_lookup (name : String) (entries : List (String × α)) :
    lookup name entries = entries.lookup name := by
  induction entries with
  | nil => rfl
  | cons entry rest ih =>
    obtain ⟨key, value⟩ := entry
    rw [lookup, List.lookup_cons, ih]
    by_cases same : name = key
    · rw [if_pos same, beq_iff_eq.mpr same]
    · rw [if_neg same, beq_eq_false_iff_ne.mpr same]

/-- The value of a name is that of the first entry with it. -/
theorem lookup_eq_some_iff {name : String} {value : α} {entries : List (String × α)} :
    lookup name entries = some value ↔
      ∃ front rest, entries = front ++ (name, value) :: rest ∧ ∀ entry ∈ front, entry.1 ≠ name := by
  rw [lookup_eq_lookup, List.lookup_eq_some_iff]
  simp only [bne_iff_ne, ne_comm]

end Ordered

namespace Json

/-- The document is an object in which the name stands for the value: an entry says so, and none in
front of it has the name. -/
def HasMember (document : Json) (name : String) (value : Json) : Prop :=
  ∃ front rest, document = .object (front ++ (name, value) :: rest) ∧
    ∀ entry ∈ front, entry.1 ≠ name

/-- The member that is looked up is the one that the name stands for. -/
theorem member?_eq_some_iff {document value : Json} {name : String} :
    document.member? name = some value ↔ document.HasMember name value := by
  cases document with
  | object members =>
    show Ordered.lookup name members = some value ↔ _
    rw [Ordered.lookup_eq_some_iff]
    unfold HasMember
    simp only [Json.object.injEq]
  | null | bool | integer | real | text | array =>
    constructor
    · intro contra
      cases contra
    · rintro ⟨front, rest, contra, -⟩
      cases contra

/-- Nothing is looked up exactly if the name stands for nothing. -/
theorem member?_eq_none_iff {document : Json} {name : String} :
    document.member? name = none ↔ ∀ value, ¬ document.HasMember name value := by
  simp only [← member?_eq_some_iff, Option.eq_none_iff_forall_ne_some, ne_eq]

/-- Documents with the same member of a name show the same one. -/
theorem member?_congr {document document' : Json} {name : String}
    (same : ∀ value, document.HasMember name value ↔ document'.HasMember name value) :
    document.member? name = document'.member? name := by
  refine Option.ext fun value => ?_
  rw [member?_eq_some_iff, member?_eq_some_iff]
  exact same value

/-- A name stands for one value. -/
theorem HasMember.unique {document value value' : Json} {name : String}
    (member : document.HasMember name value) (member' : document.HasMember name value') :
    value = value' := by
  rw [← member?_eq_some_iff] at member member'
  exact Option.some.inj (member.symm.trans member')

/-- A document shows a text exactly if it is one. -/
theorem text?_eq_some_iff {document : Json} {text : String} :
    document.text? = some text ↔ document = .text text := by
  cases document with
  | text => simp [text?]
  | null | bool | integer | real | array | object => simp [text?]

/-- The integers of the signed 64-bit range are those that its numbers stand for. -/
theorem signed?_eq_some_iff {document : Json} {n : Int64} :
    document.signed? = some n ↔ document = .integer n.toInt := by
  cases document with
  | integer value =>
    rw [signed?, Json.integer.injEq]
    have low := n.le_toInt
    have high := n.toInt_lt
    by_cases inside : -0x8000000000000000 ≤ value ∧ value < 0x8000000000000000
    · rw [if_pos inside, Option.some.injEq]
      constructor
      · rintro rfl
        exact (Int64.toInt_ofInt_of_le inside.1 inside.2).symm
      · rintro rfl
        exact Int64.ofInt_toInt n
    · rw [if_neg inside]
      constructor
      · intro contra
        cases contra
      · rintro rfl
        exact absurd ⟨low, high⟩ inside
  | null | bool | text | real | array | object => simp [signed?]

/-- A document counts as null exactly if it is. -/
theorem isNull_iff {document : Json} : document.isNull = true ↔ document = .null := by
  cases document with
  | null => simp [isNull]
  | bool | integer | real | text | array | object => simp [isNull]

end Json

/-! ## What an answer says -/

namespace Response

/-- The answer reports an error: it has a member for one, and it is not null. -/
def Reports (response error : Json) : Prop :=
  response.HasMember "error" error ∧ error ≠ .null

/-- The code that an error shows: the one it has, if this is an integer of the signed 64-bit range,
and zero otherwise. -/
inductive HasCode (error : Json) : Int64 → Prop
  /-- There is a code. -/
  | given {code : Int64} (member : error.HasMember "code" (.integer code.toInt)) :
      HasCode error code
  /-- There is none in range. -/
  | missing (none : ∀ code : Int64, ¬ error.HasMember "code" (.integer code.toInt)) :
      HasCode error 0

/-- The message that an error shows: the one it has, if this is a text, and a fixed one
otherwise. -/
inductive HasMessage (error : Json) : String → Prop
  /-- There is a message. -/
  | given {message : String} (member : error.HasMember "message" (.text message)) :
      HasMessage error message
  /-- There is no text that is one. -/
  | missing (none : ∀ message, ¬ error.HasMember "message" (.text message)) :
      HasMessage error "unknown error"

/-- An answer reports one error. -/
theorem Reports.unique {response error error' : Json} (reports : Reports response error)
    (reports' : Reports response error') : error = error' :=
  reports.1.unique reports'.1

/-- The error that is looked for in a response is the one that it reports. -/
theorem error?_eq_some_iff {response error : Json} :
    error? response = some error ↔ Reports response error := by
  unfold error? Reports
  rw [Option.filter_eq_some_iff, Json.member?_eq_some_iff, Bool.not_eq_true', Ne,
    ← Json.isNull_iff, Bool.not_eq_true]

/-- No error is found in a response exactly if it reports none. -/
theorem error?_eq_none_iff {response : Json} :
    error? response = none ↔ ∀ error, ¬ Reports response error := by
  simp only [← error?_eq_some_iff, Option.eq_none_iff_forall_ne_some, ne_eq]

/-- The code that is read from an error is the one that it shows. -/
theorem hasCode_code (error : Json) : HasCode error (code error) := by
  have inRange (n : Int64) : (error.member? "code").bind Json.signed? = some n ↔
      error.HasMember "code" (.integer n.toInt) := by
    simp only [Option.bind_eq_some_iff, Json.member?_eq_some_iff, Json.signed?_eq_some_iff,
      exists_eq_right]
  unfold code
  cases shown : (error.member? "code").bind Json.signed? with
  | some n => exact .given ((inRange n).mp shown)
  | none => exact .missing fun n member => by cases shown.symm.trans ((inRange n).mpr member)

/-- The message that is read from an error is the one that it shows. -/
theorem hasMessage_message (error : Json) : HasMessage error (message error) := by
  have isText (text : String) : (error.member? "message").bind Json.text? = some text ↔
      error.HasMember "message" (.text text) := by
    simp only [Option.bind_eq_some_iff, Json.member?_eq_some_iff, Json.text?_eq_some_iff,
      exists_eq_right]
  unfold message
  cases shown : (error.member? "message").bind Json.text? with
  | some text => exact .given ((isText text).mp shown)
  | none => exact .missing fun text member => by cases shown.symm.trans ((isText text).mpr member)

/-! ## What comes of an answer -/

variable {response error value : Json}

/-- A response that reports an error gives this error, whatever else is in it. -/
theorem result_of_reports (reports : Reports response error) :
    result response = .error (.reported (code error) (message error)) := by
  unfold result
  rw [error?_eq_some_iff.mpr reports]

/-- A response that reports no error gives its result. -/
theorem result_of_member (silent : ∀ error, ¬ Reports response error)
    (member : response.HasMember "result" value) : result response = .ok value := by
  unfold result
  rw [error?_eq_none_iff.mpr silent, Json.member?_eq_some_iff.mpr member]

/-- A response without error and result gives neither. -/
theorem result_of_neither (silent : ∀ error, ¬ Reports response error)
    (missing : ∀ value, ¬ response.HasMember "result" value) :
    result response = .error .noResult := by
  unfold result
  rw [error?_eq_none_iff.mpr silent, Json.member?_eq_none_iff.mpr missing]

/-- Only the two members count. -/
theorem result_congr {response' : Json}
    (errors : ∀ error, response.HasMember "error" error ↔ response'.HasMember "error" error)
    (results : ∀ value, response.HasMember "result" value ↔ response'.HasMember "result" value) :
    result response = result response' := by
  unfold result error?
  rw [Json.member?_congr errors, Json.member?_congr results]

/-- What is put into an answer as its result is the result it holds. -/
theorem result_ofResult (id : UInt64) (value : Json) : result (ofResult id value) = .ok value := by
  have entered (name : String) : (ofResult id value).member? name =
      if name = "result" then some value
      else if name = "id" then some (.integer id.toNat)
      else if name = "jsonrpc" then some (.text "2.0") else none := by
    unfold ofResult Json.ofMembers Json.member? Ordered.ofList
    simp only [List.foldl_cons, List.foldl_nil, Ordered.lookup_insert, Ordered.lookup]
  have noError : (ofResult id value).member? "error" = none := entered "error"
  have holds : (ofResult id value).member? "result" = some value := entered "result"
  exact result_of_member
    (fun error reports => Json.member?_eq_none_iff.mp noError error reports.1)
    (Json.member?_eq_some_iff.mp holds)

/-- What an answer to a method is decoded as. -/
inductive Decodes (method : String) (response : Json) : Except TransportError Json → Prop
  /-- The answer reports an error. -/
  | reported {error : Json} {failure : TransportError} {n : Int64} {text : String}
      (reports : Reports response error) (problem : failure.problem = .rpc n)
      (code : HasCode error n) (note : failure.context.note = .ofMethod method text)
      (message : HasMessage error text) : Decodes method response (.error failure)
  /-- The answer reports no error and holds a result. -/
  | held {value : Json} (silent : ∀ error, ¬ Reports response error)
      (member : response.HasMember "result" value) : Decodes method response (.ok value)
  /-- The answer does neither. -/
  | neither {failure : TransportError} (silent : ∀ error, ¬ Reports response error)
      (missing : ∀ value, ¬ response.HasMember "result" value)
      (problem : failure.problem = .unreadable) : Decodes method response (.error failure)

/-- The decoder does with a response what should be done with it. -/
theorem decode_decodes (method : String) (response : Json) (journal : Journal) :
    Decodes method response (decode method response journal).1 := by
  by_cases reports : ∃ error, Reports response error
  · obtain ⟨error, reports⟩ := reports
    unfold decode
    rw [result_of_reports reports]
    exact .reported reports rfl (hasCode_code error) (Context.logged_note _ none journal)
      (hasMessage_message error)
  · have silent := not_exists.mp reports
    by_cases holds : ∃ value, response.HasMember "result" value
    · obtain ⟨value, member⟩ := holds
      rw [decode_of_ok (result_of_member silent member)]
      exact .held silent member
    · have missing := not_exists.mp holds
      unfold decode
      rw [result_of_neither silent missing]
      exact .neither silent missing rfl

namespace Decodes

variable {method : String} {outcome : Except TransportError Json}

/-- An error of the node comes of a reported error and of nothing else. -/
theorem rpc_iff (decodes : Decodes method response outcome) :
    (∃ failure n, outcome = .error failure ∧ failure.problem = .rpc n) ↔
      ∃ error, Reports response error := by
  cases decodes with
  | reported reports problem => exact iff_of_true ⟨_, _, rfl, problem⟩ ⟨_, reports⟩
  | held silent =>
    refine iff_of_false ?_ (not_exists.mpr silent)
    rintro ⟨failure, n, contra, -⟩
    cases contra
  | neither silent missing problem =>
    refine iff_of_false ?_ (not_exists.mpr silent)
    rintro ⟨failure, n, same, rpc⟩
    cases same
    cases problem.symm.trans rpc

/-- The error of the node says what the reported one shows. -/
theorem shows (decodes : Decodes method response outcome) {error : Json}
    (reports : Reports response error) :
    ∃ failure n text, outcome = .error failure ∧ failure.problem = .rpc n ∧ HasCode error n ∧
      failure.context.note = .ofMethod method text ∧ HasMessage error text := by
  cases decodes with
  | reported reports' problem code note message =>
    obtain rfl := reports.unique reports'
    exact ⟨_, _, _, rfl, problem, code, note, message⟩
  | held silent => exact absurd reports (silent error)
  | neither silent => exact absurd reports (silent error)

/-- A result comes of the one that is held where no error is reported. -/
theorem ok_iff (decodes : Decodes method response outcome) :
    outcome = .ok value ↔
      (∀ error, ¬ Reports response error) ∧ response.HasMember "result" value := by
  cases decodes with
  | reported reports =>
    refine iff_of_false ?_ fun held => held.1 _ reports
    intro contra
    cases contra
  | held silent member =>
    constructor
    · rintro ⟨⟩
      exact ⟨silent, member⟩
    · rintro ⟨-, member'⟩
      rw [member.unique member']
  | neither silent missing =>
    refine iff_of_false ?_ fun held => missing value held.2
    intro contra
    cases contra

/-- An unreadable answer is one with neither. -/
theorem unreadable_iff (decodes : Decodes method response outcome) :
    (∃ failure, outcome = .error failure ∧ failure.problem = .unreadable) ↔
      (∀ error, ¬ Reports response error) ∧ ∀ value, ¬ response.HasMember "result" value := by
  cases decodes with
  | reported reports problem =>
    refine iff_of_false ?_ fun neither => neither.1 _ reports
    rintro ⟨failure, same, unreadable⟩
    cases same
    cases problem.symm.trans unreadable
  | held silent member =>
    refine iff_of_false ?_ fun neither => neither.2 _ member
    rintro ⟨failure, contra, -⟩
    cases contra
  | neither silent missing problem => exact iff_of_true ⟨_, rfl, problem⟩ ⟨silent, missing⟩

end Decodes

/-- The metadata of a note about a method is the method. -/
theorem get?_ofMethod {context : Context} {method text : String}
    (noted : context.note = .ofMethod method text) (name : String) :
    context.get? name = if name = "method" then some method else none :=
  Context.get?_of_about noted name

/-- A reported error and a result are told apart.  An answer is decoded as an error of the node if
and only if it reports one, with its code, its message and the method; otherwise as its result, if
it holds one; and otherwise it is unreadable.  No other member of it counts, so what is put into an
answer as its result is what is decoded. -/
theorem decode_result_or_error (method : String) (response : Json) (journal : Journal) :
    ((∃ failure n, (decode method response journal).1 = .error failure ∧
        failure.problem = .rpc n) ↔ ∃ error, Reports response error) ∧
    (∀ error, Reports response error → ∃ failure n text,
      (decode method response journal).1 = .error failure ∧
      failure.problem = .rpc n ∧ HasCode error n ∧
      failure.context.note.message = text ∧ HasMessage error text ∧
      ∀ name, failure.context.get? name = if name = "method" then some method else none) ∧
    (∀ value, (decode method response journal).1 = .ok value ↔
      (∀ error, ¬ Reports response error) ∧ response.HasMember "result" value) ∧
    ((∃ failure, (decode method response journal).1 = .error failure ∧
        failure.problem = .unreadable) ↔
      (∀ error, ¬ Reports response error) ∧ ∀ value, ¬ response.HasMember "result" value) ∧
    (∀ response', (∀ error, response.HasMember "error" error ↔ response'.HasMember "error" error) →
      (∀ value, response.HasMember "result" value ↔ response'.HasMember "result" value) →
      decode method response = decode method response') ∧
    ∀ id value, decode method (ofResult id value) journal = (.ok value, journal) := by
  have decodes := decode_decodes method response journal
  refine ⟨decodes.rpc_iff, ?shown, fun _ => decodes.ok_iff, decodes.unreadable_iff, ?others,
    fun id value => decode_of_ok (result_ofResult id value) method journal⟩
  case shown =>
    intro error reports
    obtain ⟨failure, n, text, same, problem, code, note, message⟩ := decodes.shows reports
    exact ⟨failure, n, text, same, problem, code, congrArg Note.message note, message,
      get?_ofMethod note⟩
  case others =>
    intro response' errors results
    unfold decode
    rw [result_congr errors results]

/-- An error is reported even if it is a bare text and a result stands beside it. -/
example : result (.object [("error", .text "busy"), ("result", .null)])
    = .error (.reported 0 "unknown error") := rfl

end Response

end ChainIdentity
