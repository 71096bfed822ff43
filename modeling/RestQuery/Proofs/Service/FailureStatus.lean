import RestQuery.Proofs.Json.ReadBack
import RestQuery.Proofs.Service.Exchanges

/-!
# Failure statuses

An envelope reports a failure through its status. `outcome_of_status` says what every status does:
an integer of 64 bits other than zero, sign included, makes a failure of the response and of every
operation that takes it, and carries its value and the error message along. Any other status has no
such value. It then counts as zero, and the response is a success whatever number was written, be
it too large, a fraction, or so small that it is read as zero: `succeeds_of_fractionBody` reads rows
out of an envelope with the status `10.0`.
-/

namespace RestQuery

open Json (Tree Part)

namespace Json

/-- A number other than zero. -/
def isNonzeroNumber : Json → Bool
  | int value => value ≠ 0
  | float value => !value.isZero
  | _ => false

theorem mem_insertField {key : String} {value : Json} {fields : List (String × Json)}
    {field : String × Json} (fieldMem : field ∈ insertField key value fields) :
    field = (key, value) ∨ field ∈ fields := by
  induction fields with
  | nil => exact Or.inl (List.mem_singleton.mp fieldMem)
  | cons present rest ih =>
      simp only [insertField] at fieldMem
      split at fieldMem
      · rcases List.mem_cons.mp fieldMem with isGiven | inRest
        · exact Or.inl isGiven
        · exact Or.inr (List.mem_cons_of_mem _ inRest)
      · split at fieldMem
        · exact List.mem_cons.mp fieldMem
        · rcases List.mem_cons.mp fieldMem with isPresent | inserted
          · exact Or.inr (List.mem_cons.mpr (Or.inl isPresent))
          · exact (ih inserted).imp_right (List.mem_cons_of_mem _)

/-- The value of a field is that of some tree, or stood there before. -/
theorem exists_tree_of_mem {levels : Nat} {present fields : List (String × Json)}
    {trees : List (List Part × Tree)}
    (read : Tree.fieldsToJson? levels present trees = some fields) {field : String × Json}
    (fieldMem : field ∈ fields) :
    field ∈ present ∨ ∃ tree, Tree.toJson? levels tree = some field.2 := by
  induction trees generalizing present with
  | nil =>
      simp only [Tree.fieldsToJson?, Option.some.injEq] at read
      exact Or.inl (read ▸ fieldMem)
  | cons written rest ih =>
      simp only [Tree.fieldsToJson?] at read
      split at read
      · rename_i keyRead treeRead
        rcases ih read with inserted | ofRest
        · rcases mem_insertField inserted with rfl | inPresent
          · exact Or.inr ⟨_, treeRead⟩
          · exact Or.inl inPresent
        · exact Or.inr ofRest
      · cases read

theorem int_or_float_of_ofNumeral? {numeral : Numeral} {value : Json}
    (read : ofNumeral? numeral = some value) :
    (∃ integer : Int, value = .int integer ∧ Int64.minValue.toInt ≤ integer) ∨
      ∃ double, value = .float double := by
  simp only [ofNumeral?] at read
  split at read
  · left
    refine ⟨_, (Option.some.inj read).symm, ?_⟩
    rw [Int64.toInt_minValue]
    omega
  · split at read
    · left
      rename_i inRange
      simp only [Bool.and_eq_true, decide_eq_true_eq] at inRange
      exact ⟨_, (Option.some.inj read).symm, inRange.2⟩
    · right
      rcases Option.map_eq_some_iff.mp read with ⟨double, -, isFloat⟩
      exact ⟨double, isFloat.symm⟩

theorem le_of_toJson?_eq_int {levels : Nat} {tree : Tree} {value : Int}
    (read : Tree.toJson? levels tree = some (.int value)) : Int64.minValue.toInt ≤ value := by
  cases tree with
  | number numeral =>
      rcases int_or_float_of_ofNumeral? read with ⟨integer, isInt, lower⟩ | ⟨double, isFloat⟩
      · exact int.inj isInt ▸ lower
      · cases isFloat
  | list items => cases levels <;> simp [Tree.toJson?] at read
  | record fields => cases levels <;> simp [Tree.toJson?] at read
  | _ => simp [Tree.toJson?] at read

theorem exists_fields_of_toJson?_eq_object {levels : Nat} {tree : Tree}
    {fields : List (String × Json)} (read : Tree.toJson? levels tree = some (.object fields)) :
    ∃ inner trees, Tree.fieldsToJson? inner [] trees = some fields := by
  cases tree with
  | record trees =>
      cases levels with
      | zero => cases read
      | succ inner =>
          simp only [Tree.toJson?, Option.map_eq_some_iff, object.injEq, exists_eq_right] at read
          exact ⟨inner, trees, read⟩
  | number numeral =>
      rcases int_or_float_of_ofNumeral? read with ⟨integer, isInt, -⟩ | ⟨double, isFloat⟩
      · cases isInt
      · cases isFloat
  | list items => cases levels <;> simp [Tree.toJson?] at read
  | _ => simp [Tree.toJson?] at read

theorem exists_tree_of_field? {text key : String} {object value : Json}
    (isRead : read? text = some object) (given : object.field? key = some value) :
    ∃ levels tree, Tree.toJson? levels tree = some value := by
  rcases Option.bind_eq_some_iff.mp isRead with ⟨tree, -, treeRead⟩
  cases object with
  | object fields =>
      rcases exists_fields_of_toJson?_eq_object treeRead with ⟨levels, trees, fieldsRead⟩
      rcases List.lookup_eq_some_iff.mp given with ⟨before, after, isField, -⟩
      have fieldMem : (key, value) ∈ fields := by simp [isField]
      rcases exists_tree_of_mem fieldsRead fieldMem with inNone | ⟨tree, read⟩
      · cases inNone
      · exact ⟨levels, tree, read⟩
  | _ => cases given

end Json

theorem statusOf_of_int64 {envelope : Json} {code : Int64}
    (given : envelope.field? "status" = some (.int code.toInt)) : statusOf envelope = code := by
  simp only [statusOf, given, code.toInt_le]
  exact Int64.ofInt_toInt code

/-- Whatever is no integer of 64 bits counts as zero. -/
theorem statusOf_of_not_int64 {body : String} {envelope status : Json}
    (isRead : Json.read? body = some envelope) (given : envelope.field? "status" = some status)
    (notCode : ∀ code : Int64, code ≠ 0 → status ≠ .int code.toInt) : statusOf envelope = 0 := by
  cases status with
  | int value =>
      rcases Json.exists_tree_of_field? isRead given with ⟨levels, tree, read⟩
      have lower := Json.le_of_toJson?_eq_int read
      by_cases upper : value ≤ Int64.maxValue.toInt
      · have isCode : (Int64.ofInt value).toInt = value :=
          Int64.toInt_ofInt_of_le lower (Int.lt_of_le_sub_one upper)
        rw [statusOf_of_int64 (isCode ▸ given)]
        by_contra nonzero
        exact notCode _ nonzero (congrArg Json.int isCode.symm)
      · simp only [statusOf, given]
        exact if_neg upper
  | _ => simp [statusOf, given]

theorem decode_of_read {body : String} {envelope status : Json}
    (isRead : Json.read? body = some envelope) (given : envelope.field? "status" = some status)
    (url : String) :
    decode url body =
      if statusOf envelope ≠ 0 then
        .error (.service url (statusOf envelope) (errorMessageOf envelope))
      else .ok ((envelope.field? "data").getD envelope) := by
  cases envelope with
  | object fields => simp only [decode, isRead]
  | _ => cases given

namespace ClientOperation

theorem exists_url_of_body {transport : Transport} (operation : ClientOperation)
    (connection : Connection) {body : String} (oldest : transport.queue.head? = some (.body body))
    (sends : operation.sends = true) :
    ∃ url, (operation.perform connection transport).1 =
      (decode url body).map operation.interpret := by
  rcases operation.exists_call_of_sends connection transport sends with ⟨call, performed⟩
  refine ⟨call.url, ?_⟩
  simp only [performed, oldest, Connection.resultOf]

end ClientOperation

/--
The status of an envelope is a failure of the response, and of every operation that takes it, if it
is an integer of 64 bits other than zero, sign included. Any other status is passed over, numbers
too large, with a fraction or too small for a double among them, and the operation answers with the
data of the envelope.
-/
theorem outcome_of_status {body : String} {envelope status : Json}
    (isRead : Json.read? body = some envelope)
    (given : envelope.field? "status" = some status) :
    (∀ code : Int64, code ≠ 0 → status = .int code.toInt →
        (∀ url, decode url body = .error (.service url code (errorMessageOf envelope))) ∧
          ∀ (connection : Connection) (transport : Transport) (operation : ClientOperation),
            transport.queue.head? = some (.body body) → operation.sends = true →
              ∃ url, (operation.perform connection transport).1 =
                .error (.service url code (errorMessageOf envelope))) ∧
      ((∀ code : Int64, code ≠ 0 → status ≠ .int code.toInt) →
        (∀ url, decode url body = .ok ((envelope.field? "data").getD envelope)) ∧
          ∀ (connection : Connection) (transport : Transport) (operation : ClientOperation),
            transport.queue.head? = some (.body body) → operation.sends = true →
              (operation.perform connection transport).1 =
                .ok (operation.interpret ((envelope.field? "data").getD envelope))) := by
  constructor
  · rintro code codeNonzero rfl
    have fails : ∀ url, decode url body = .error (.service url code (errorMessageOf envelope)) := by
      intro url
      simp [decode_of_read isRead given, statusOf_of_int64 given, codeNonzero]
    refine ⟨fails, ?_⟩
    intro connection transport operation oldest sends
    rcases operation.exists_url_of_body connection oldest sends with ⟨url, performed⟩
    refine ⟨url, ?_⟩
    simp [performed, fails, Except.map]
  · intro notCode
    have succeeds : ∀ url, decode url body = .ok ((envelope.field? "data").getD envelope) := by
      intro url
      simp [decode_of_read isRead given, statusOf_of_not_int64 isRead given notCode]
    refine ⟨succeeds, ?_⟩
    intro connection transport operation oldest sends
    rcases operation.exists_url_of_body connection oldest sends with ⟨url, performed⟩
    simp [performed, succeeds, Except.map]

/-- A failure that carries data all the same. -/
def failureEnvelope : Json :=
  .object [("data", .list [.int 1]), ("error_message", .text "down"), ("status", .int (-7))]

def failureBody : String :=
  failureEnvelope.render

theorem read?_failureBody : Json.read? failureBody = some failureEnvelope := by
  rw [Json.read?, failureBody, Tree.ofText?_render, Option.bind_some]
  rfl

theorem outcome_of_status_failureBody :
    let count := ClientOperation.count (Builder.new "users")
    Json.read? failureBody = some failureEnvelope ∧
      failureEnvelope.field? "status" = some (.int (-7)) ∧
      decode "u" failureBody = .error (.service "u" (-7) "down") ∧
      ∃ url, (count.perform ⟨.default, "http://localhost"⟩ ⟨[.body failureBody], []⟩).1 =
        .error (.service url (-7) "down") := by
  intro count
  have given : failureEnvelope.field? "status" = some (.int (-7)) := rfl
  rcases (outcome_of_status read?_failureBody given).1 (-7) (by decide) rfl with
    ⟨decodes, answers⟩
  exact ⟨read?_failureBody, given, decodes "u", answers _ _ count rfl rfl⟩

/-- A failure whose status is written with a fraction. -/
def fractionBody : String :=
  "\x7b\"status\":10.0,\"data\":[\x7b\"id\":1\x7d],\"error_message\":\"down\"\x7d"

/-- Nonzero as it is, the status `10.0` makes no failure, and its data are answered as rows. -/
theorem succeeds_of_fractionBody :
    (¬∀ (url body : String) (envelope status : Json), Json.read? body = some envelope →
        envelope.field? "status" = some status → status.isNonzeroNumber = true →
          ∃ code message, decode url body = .error (.service url code message)) ∧
      (decode "u" fractionBody).toOption.map Json.render = some "[\x7b\"id\":1\x7d]" ∧
      (Connection.get (Builder.new "users") ⟨[.body fractionBody], []⟩
          ⟨.default, "http://localhost"⟩).1.toOption.map (List.map Json.render) =
        some ["\x7b\"id\":1\x7d"] := by
  have isNonzero :
      ((Json.read? fractionBody).bind (·.field? "status")).any Json.isNonzeroNumber = true := by
    decide +kernel
  have decodes :
      (decode "u" fractionBody).toOption.map Json.render = some "[\x7b\"id\":1\x7d]" := by
    decide +kernel
  refine ⟨?_, decodes, by decide +kernel⟩
  intro fails
  rcases (Option.any_eq_true _ _).mp isNonzero with ⟨status, hasStatus, nonzero⟩
  rcases Option.bind_eq_some_iff.mp hasStatus with ⟨envelope, isRead, given⟩
  rcases fails "u" fractionBody envelope status isRead given nonzero with
    ⟨code, message, isFailure⟩
  rw [isFailure] at decodes
  cases decodes

end RestQuery
