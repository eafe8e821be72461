import ChainIdentity.Node.Exchange
import ChainIdentity.Proofs.Raising

/-!
# How responses are matched to requests

The responses to a batch are entered into a table and taken out of it again, one for each
request.  What a table holds is read with `Table.find?`, and in these terms entering replaces
under one id, taking removes under one id, and neither is noticed under another
(`find?_enter`, `take_fst`, `find?_take_of_ne`).

For ids that differ from one another the table is therefore no more than a way to compute:
`resultsFrom_eq_positionalResults` says that every request gets the last of the responses with
its own id, as if there were no table.  `positionalResults_getElem?` is the result at one
position.  `resultsFrom_getElem?` and `resultsFrom_congr` say the same of the table itself, for any
ids: what a request gets, and that it does not depend on the order in which the table holds it.
-/

namespace ChainIdentity.HttpClient

namespace Table

/-- The response that a table holds under an id. -/
def find? (id : UInt64) : Table → Option Json
  | [] => none
  | (id', response) :: rest => if id = id' then some response else find? id rest

/-- Entering a response changes what is held under its own id only. -/
theorem find?_enter (id id' : UInt64) (response : Json) (table : Table) :
    find? id' (enter id response table) = if id' = id then some response else find? id' table := by
  induction table with
  | nil => rfl
  | cons entry rest ih =>
    obtain ⟨key, held⟩ := entry
    unfold enter
    by_cases same : id = key
    · subst same
      rw [if_pos rfl]
      by_cases asked : id' = id
      · simp [find?, asked]
      · simp [find?, asked]
    · rw [if_neg same]
      by_cases asked : id' = id
      · subst asked
        simp [find?, same, ih]
      · simp only [find?, ih, if_neg asked]

/-- What is taken is what is held. -/
theorem take_fst (id : UInt64) (table : Table) : (take id table).1 = find? id table := by
  induction table with
  | nil => rfl
  | cons entry rest ih =>
    obtain ⟨key, held⟩ := entry
    unfold take find?
    by_cases same : id = key
    · rw [if_pos same, if_pos same]
    · rw [if_neg same, if_neg same]
      exact ih

/-- Taking a response changes nothing under another id. -/
theorem find?_take_of_ne {id id' : UInt64} (different : id' ≠ id) (table : Table) :
    find? id' (take id table).2 = find? id' table := by
  induction table with
  | nil => rfl
  | cons entry rest ih =>
    obtain ⟨key, held⟩ := entry
    unfold take
    by_cases same : id = key
    · subst same
      rw [if_pos rfl]
      simp [find?, different]
    · rw [if_neg same]
      show find? id' ((key, held) :: (take id rest).2) = _
      simp only [find?, ih]

/-! ### Ids that are entered once -/

/-- Every id stands in a table at most once. -/
def Distinct (table : Table) : Prop := (table.map Prod.fst).Nodup

/-- Entering a response adds its id behind the others where the table does not have it. -/
theorem map_fst_enter (id : UInt64) (response : Json) (table : Table) :
    (enter id response table).map Prod.fst =
      if id ∈ table.map Prod.fst then table.map Prod.fst else table.map Prod.fst ++ [id] := by
  induction table with
  | nil => rfl
  | cons entry rest ih =>
    obtain ⟨key, held⟩ := entry
    unfold enter
    by_cases same : id = key
    · simp [same]
    · rw [if_neg same, List.map_cons, ih, List.map_cons]
      simp only [List.mem_cons, same, false_or]
      split
      · rfl
      · rfl

/-- To enter a response brings no id in twice. -/
theorem Distinct.enter {table : Table} (distinct : table.Distinct) (id : UInt64)
    (response : Json) : (table.enter id response).Distinct := by
  unfold Distinct at distinct ⊢
  rw [map_fst_enter]
  split
  · exact distinct
  · rename_i fresh
    refine List.nodup_append.mpr ⟨distinct, by simp, ?_⟩
    intro key among other single
    obtain rfl := List.mem_singleton.mp single
    exact fun same => fresh (same ▸ among)

/-- To enter any number of responses brings no id in twice. -/
theorem Distinct.foldl_enter {table : Table} (distinct : table.Distinct)
    (responses : List Json) :
    (responses.foldl
        (fun table response =>
          match responseId? response with
          | some id => table.enter id response
          | none => table)
        table).Distinct := by
  induction responses generalizing table with
  | nil => exact distinct
  | cons response rest ih =>
    rw [List.foldl_cons]
    refine ih ?_
    cases responseId? response with
    | none => exact distinct
    | some id => exact distinct.enter id response

/-- The table of any responses has every id once. -/
theorem ofResponses_distinct (responses : List Json) : (ofResponses responses).Distinct :=
  Distinct.foldl_enter (show Distinct [] from List.nodup_nil) responses

/-- Taking a response takes its id away. -/
theorem map_fst_take (id : UInt64) (table : Table) :
    (take id table).2.map Prod.fst = (table.map Prod.fst).erase id := by
  induction table with
  | nil => rfl
  | cons entry rest ih =>
    obtain ⟨key, held⟩ := entry
    unfold take
    by_cases same : id = key
    · simp [same]
    · have other : (key == id) = false := beq_eq_false_iff_ne.mpr (Ne.symm same)
      rw [if_neg same, List.map_cons, List.map_cons, List.erase_cons_tail (by simp [other]), ← ih]

/-- To take a response brings no id in. -/
theorem Distinct.take {table : Table} (distinct : table.Distinct) (id : UInt64) :
    (table.take id).2.Distinct := by
  unfold Distinct
  rw [map_fst_take]
  exact distinct.erase id

/-- Nothing is held under an id that a table does not have. -/
theorem find?_eq_none {id : UInt64} {table : Table} (absent : id ∉ table.map Prod.fst) :
    find? id table = none := by
  induction table with
  | nil => rfl
  | cons entry rest ih =>
    obtain ⟨key, held⟩ := entry
    rw [List.map_cons, List.mem_cons, not_or] at absent
    unfold find?
    rw [if_neg absent.1]
    exact ih absent.2

/-- What was taken is not there any more. -/
theorem Distinct.find?_take {table : Table} (distinct : table.Distinct) (id : UInt64) :
    find? id (table.take id).2 = none := by
  apply find?_eq_none
  rw [map_fst_take]
  exact fun among => (List.Nodup.mem_erase_iff distinct).mp among |>.1 rfl

end Table

/-! ## The last response with an id -/

/-- The last response with an id is one of the responses, and it has the id. -/
theorem lastResponse?_of_some {id : UInt64} {responses : List Json} {response : Json}
    (last : lastResponse? id responses = some response) :
    response ∈ responses ∧ responseId? response = some id := by
  unfold lastResponse? at last
  refine ⟨List.mem_reverse.mp (List.mem_of_find?_eq_some last), ?_⟩
  simpa using List.find?_some last

/-- Where there is no last response with an id there is none with it at all. -/
theorem lastResponse?_eq_none_iff {id : UInt64} {responses : List Json} :
    lastResponse? id responses = none ↔
      ∀ response ∈ responses, responseId? response ≠ some id := by
  unfold lastResponse?
  rw [List.find?_eq_none]
  simp

/-- One more response in front counts only where no later one has the id. -/
theorem lastResponse?_cons (id : UInt64) (response : Json) (responses : List Json) :
    lastResponse? id (response :: responses) =
      (lastResponse? id responses).or
        (if responseId? response = some id then some response else none) := by
  unfold lastResponse?
  rw [List.reverse_cons, List.find?_append]
  by_cases same : responseId? response = some id
  · simp [same]
  · simp [same]

/-- The responses are entered in their order, so the last one with an id stays. -/
theorem find?_foldl_enter (id : UInt64) (responses : List Json) (table : Table) :
    (responses.foldl
        (fun table response =>
          match responseId? response with
          | some id => table.enter id response
          | none => table)
        table).find? id
      = (lastResponse? id responses).or (table.find? id) := by
  induction responses generalizing table with
  | nil => rfl
  | cons response rest ih =>
    rw [List.foldl_cons, ih, lastResponse?_cons, Option.or_assoc]
    congr 1
    cases usable : responseId? response with
    | none => rfl
    | some id' =>
      simp only [Table.find?_enter]
      by_cases same : id = id'
      · simp [same]
      · simp [same, Ne.symm same]

/-- What the table of the responses holds under an id is the last response with it. -/
theorem find?_ofResponses (id : UInt64) (responses : List Json) :
    (Table.ofResponses responses).find? id = lastResponse? id responses := by
  have entered := find?_foldl_enter id responses []
  rw [show Table.find? id [] = none from rfl, Option.or_none] at entered
  exact entered

/-! ## The results -/

/-- A response that was found is the result of its request, as it decodes. -/
theorem resultOf_some (id : UInt64) (request : Request) (response : Json) :
    resultOf id request (some response) = Response.decode request.method response := rfl

/-- Where no response was found the result is an error that says so. -/
theorem resultOf_none (id : UInt64) (request : Request) (journal : Journal) :
    ∃ error later, resultOf id request none journal = (.error error, later) ∧
      error.problem = .unreadable ∧
      error.context.note = .ofMethod request.method
        ("missing response for request " ++ Text.Numeral.decimal id.toNat) := by
  let raised := TransportError.unreadable (.ofMethod request.method
    ("missing response for request " ++ Text.Numeral.decimal id.toNat)) none journal
  exact ⟨raised.1, raised.2, rfl, rfl, TransportError.unreadable_note _ _ _⟩

/-- As long as the table holds the last responses under the ids to come, and these differ from
one another, taking from it gives every request the last response with its id.  The induction
is on the ids; the one that is used up is not asked for again. -/
theorem resultsFrom_eq_of_agree (responses : List Json) {ids : List UInt64}
    (distinct : ids.Nodup) (requests : List Request) {table : Table}
    (agree : ∀ id ∈ ids, table.find? id = lastResponse? id responses) :
    resultsFrom table ids requests = positionalResults responses ids requests := by
  induction ids generalizing requests table with
  | nil =>
    cases requests with
    | nil => rfl
    | cons request requests => rfl
  | cons id ids ih =>
    cases requests with
    | nil => rfl
    | cons request requests =>
      obtain ⟨fresh, distinct⟩ := List.nodup_cons.mp distinct
      have found : (table.take id).1 = lastResponse? id responses := by
        rw [Table.take_fst]
        exact agree id List.mem_cons_self
      have agree' : ∀ id' ∈ ids,
          (table.take id).2.find? id' = lastResponse? id' responses := by
        intro id' later
        have different : id' ≠ id := fun same => fresh (same ▸ later)
        rw [Table.find?_take_of_ne different]
        exact agree id' (List.mem_cons_of_mem _ later)
      unfold resultsFrom positionalResults
      rw [← ih distinct requests agree', ← found]

/-- For ids that differ from one another every request gets the last response with its id. -/
theorem resultsFrom_eq_positionalResults (responses : List Json) {ids : List UInt64}
    (distinct : ids.Nodup) (requests : List Request) :
    resultsFrom (.ofResponses responses) ids requests
      = positionalResults responses ids requests :=
  resultsFrom_eq_of_agree responses distinct requests
    fun id _ => find?_ofResponses id responses

/-- There is one result for each request, whatever the responses are. -/
theorem positionalResults_length (responses : List Json) {ids : List UInt64}
    {requests : List Request} (lengthEq : ids.length = requests.length) (journal : Journal) :
    (positionalResults responses ids requests journal).1.length = requests.length := by
  induction ids generalizing requests journal with
  | nil =>
    cases requests with
    | nil => rfl
    | cons request requests => cases lengthEq
  | cons id ids ih =>
    cases requests with
    | nil => cases lengthEq
    | cons request requests =>
      exact congrArg Nat.succ (ih (Nat.succ.inj lengthEq) _)

/-- The result at a position is that of the request and the id at that position. -/
theorem positionalResults_getElem? (responses : List Json) {ids : List UInt64}
    {requests : List Request} {i : Nat} {id : UInt64} {request : Request}
    (hasId : ids[i]? = some id) (hasRequest : requests[i]? = some request) (journal : Journal) :
    ∃ between, (positionalResults responses ids requests journal).1[i]?
      = some (resultOf id request (lastResponse? id responses) between).1 := by
  induction i generalizing ids requests journal with
  | zero =>
    cases ids with
    | nil => cases hasId
    | cons id' ids =>
      cases requests with
      | nil => cases hasRequest
      | cons request' requests =>
        obtain rfl : id' = id := Option.some.inj hasId
        obtain rfl : request' = request := Option.some.inj hasRequest
        exact ⟨journal, rfl⟩
  | succ i ih =>
    cases ids with
    | nil => cases hasId
    | cons id' ids =>
      cases requests with
      | nil => cases hasRequest
      | cons request' requests => exact ih hasId hasRequest _

/-! ## The results straight from a table

A list of ids is as long as the list of requests, and where that is longer than there are ids, they
come round again.  The lemmas here do without ids that differ from one another: a response is used
up by the first request with its id, and a later one finds none.
-/

/-- The first request takes its response out of the table, and the others get what is left. -/
theorem resultsFrom_cons (table : Table) (id : UInt64) (ids : List UInt64) (request : Request)
    (requests : List Request) :
    resultsFrom table (id :: ids) (request :: requests) = do
      return (← (resultOf id request (table.take id).1).run) ::
        (← resultsFrom (table.take id).2 ids requests) := rfl

/-- There is one result for each request, whatever the table holds. -/
theorem resultsFrom_length (table : Table) {ids : List UInt64} {requests : List Request}
    (lengthEq : ids.length = requests.length) (journal : Journal) :
    (resultsFrom table ids requests journal).1.length = requests.length := by
  induction ids generalizing table requests journal with
  | nil =>
    cases requests with
    | nil => rfl
    | cons request requests => cases lengthEq
  | cons id ids ih =>
    cases requests with
    | nil => cases lengthEq
    | cons request requests =>
      exact congrArg Nat.succ (ih _ (Nat.succ.inj lengthEq) _)

/-- The first request with an id gets what the table holds under it. -/
theorem resultsFrom_getElem? {ids : List UInt64} {requests : List Request} {i : Nat} {id : UInt64}
    {request : Request} (hasId : ids[i]? = some id) (hasRequest : requests[i]? = some request)
    (first : id ∉ ids.take i) (table : Table) (journal : Journal) :
    ∃ between, (resultsFrom table ids requests journal).1[i]?
      = some (resultOf id request (table.find? id) between).1 := by
  induction i generalizing ids requests table journal with
  | zero =>
    cases ids with
    | nil => cases hasId
    | cons id' ids =>
      cases requests with
      | nil => cases hasRequest
      | cons request' requests =>
        obtain rfl : id' = id := Option.some.inj hasId
        obtain rfl : request' = request := Option.some.inj hasRequest
        rw [← Table.take_fst]
        exact ⟨journal, rfl⟩
  | succ i ih =>
    cases ids with
    | nil => cases hasId
    | cons id' ids =>
      cases requests with
      | nil => cases hasRequest
      | cons request' requests =>
        rw [List.take_succ_cons, List.mem_cons, not_or] at first
        rw [← Table.find?_take_of_ne first.1]
        exact ih hasId hasRequest first.2 _ _

/-- Tables that have every id once and hold the same under the ids to come give the same results,
in whatever order they hold it. -/
theorem resultsFrom_congr {ids : List UInt64} {table table' : Table} (distinct : table.Distinct)
    (distinct' : table'.Distinct) (agree : ∀ id ∈ ids, table.find? id = table'.find? id)
    (requests : List Request) :
    resultsFrom table ids requests = resultsFrom table' ids requests := by
  induction ids generalizing requests table table' with
  | nil =>
    cases requests with
    | nil => rfl
    | cons request requests => rfl
  | cons id ids ih =>
    cases requests with
    | nil => rfl
    | cons request requests =>
      have found : (table.take id).1 = (table'.take id).1 := by
        rw [Table.take_fst, Table.take_fst]
        exact agree id List.mem_cons_self
      have agreeAfter : ∀ id' ∈ ids,
          (table.take id).2.find? id' = (table'.take id).2.find? id' := by
        intro id' later
        by_cases again : id' = id
        · subst again
          rw [distinct.find?_take, distinct'.find?_take]
        · rw [Table.find?_take_of_ne again, Table.find?_take_of_ne again]
          exact agree id' (List.mem_cons_of_mem _ later)
      rw [resultsFrom_cons, resultsFrom_cons, found,
        ih (distinct.take id) (distinct'.take id) agreeAfter]

end ChainIdentity.HttpClient
