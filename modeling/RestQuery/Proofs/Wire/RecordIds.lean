import RestQuery.Proofs.Decimal.WholeDoubles
import RestQuery.Proofs.Wire.Conditions

/-!
# Records found by their id

`Builder.find` asks for a record by a condition on its id. The request depends on the id only
through the text that is displayed for it, so two ids give the same request exactly if they are
displayed alike. Signed 64-bit integers are displayed in their own digits, and unsigned ones too as
long as they are below `2 ^ 63`.

An unsigned id from `2 ^ 63` on is a double, which only holds multiples of 2048 there. What is sent
has the digits of a number next to the nearest multiple. Ids that are rounded to one multiple ask
for the same record, but never for one below `2 ^ 63`.
-/

namespace RestQuery

/-- An id as callers give it. -/
inductive RecordId where
  | unsigned (number : UInt64)
  | signed (number : Int64)
deriving DecidableEq, Repr

namespace RecordId

def scalar : RecordId → Scalar
  | unsigned number => .ofUnsigned number
  | signed number => .int number

def number : RecordId → Int
  | unsigned number => number.toNat
  | signed number => number.toInt

/-- The multiple of 2048 that an id is rounded to as a double, as a number of times. -/
def multiple (id : RecordId) : Nat :=
  Double.roundQuotient id.number.toNat 2048

end RecordId

theorem encode_intText (value : Int) : Percent.encode (intText value) = intText value := by
  apply Percent.encode_of_isUnreserved
  intro char charMem
  rw [intText, String.toList_ofList, intChars, List.mem_append] at charMem
  rcases charMem with inSign | inDigits
  · split at inSign
    · rw [List.mem_singleton.mp inSign]
      decide
    · simp at inSign
  · have isDigit : char.isDigit = true :=
      Nat.isDigit_of_mem_toDigits (by decide) (by decide) inDigits
    simp [Percent.isUnreserved, Char.isAlphanum, isDigit]

namespace RecordId

theorem number_lt (id : RecordId) : id.number < 2 ^ 64 := by
  cases id with
  | unsigned number =>
      have bound := number.toNat_lt
      rw [RecordId.number]
      omega
  | signed number =>
      have bound : number.toInt < 2 ^ 63 := number.toInt_lt
      rw [RecordId.number]
      omega

/-- The number whose digits are sent for an id. -/
def sent (id : RecordId) : Int :=
  if id.number < 2 ^ 63 then id.number else Double.multipleMagnitude id.multiple

theorem sent_of_lt {id : RecordId} (small : id.number < 2 ^ 63) : id.sent = id.number :=
  if_pos small

theorem sent_of_le {id : RecordId} (large : 2 ^ 63 ≤ id.number) :
    id.sent = Double.multipleMagnitude id.multiple :=
  if_neg (by omega)

/-- The unsigned numbers that signed 64-bit integers hold. -/
theorem le_maxValue_iff {number : UInt64} :
    number ≤ Int64.maxValue.toUInt64 ↔ number.toNat < 2 ^ 63 := by
  have greatest : Int64.maxValue.toUInt64.toNat = 2 ^ 63 - 1 := by decide
  rw [UInt64.le_iff_toNat_le, greatest]
  omega

/-- An id that no signed integer holds is a double. -/
theorem scalar_of_le {id : RecordId} (large : 2 ^ 63 ≤ id.number) :
    id.scalar = .float (Double.ofNat id.number.toNat) := by
  cases id with
  | unsigned number =>
      have notSmall : ¬number ≤ Int64.maxValue.toUInt64 := by
        rw [RecordId.number] at large
        rw [le_maxValue_iff]
        omega
      rw [scalar, Scalar.ofUnsigned, if_neg notSmall]
      rfl
  | signed number =>
      have bound : number.toInt < 2 ^ 63 := number.toInt_lt
      rw [RecordId.number] at large
      omega

theorem display_of_lt {id : RecordId} (small : id.number < 2 ^ 63) :
    id.scalar.display = intText id.number := by
  cases id with
  | unsigned number =>
      have isSmall : number.toNat < 2 ^ 63 := by
        rw [RecordId.number] at small
        omega
      rw [scalar, Scalar.ofUnsigned, if_pos (le_maxValue_iff.mpr isSmall), Scalar.display,
        RecordId.number, Int64.toInt_ofNat_of_lt isSmall]
  | signed number => rfl

theorem multiple_bounds {id : RecordId} (large : 2 ^ 63 ≤ id.number) :
    2 ^ 52 ≤ id.multiple ∧ id.multiple ≤ 2 ^ 53 := by
  have small := id.number_lt
  have leastNat : 2 ^ 63 ≤ id.number.toNat := by omega
  have bounds := Double.roundQuotient_bounds leastNat (by omega)
  exact ⟨bounds.1, bounds.2.1⟩

theorem display_scalar (id : RecordId) : id.scalar.display = intText id.sent := by
  by_cases small : id.number < 2 ^ 63
  · rw [sent_of_lt small, display_of_lt small]
  · have large : 2 ^ 63 ≤ id.number := by omega
    have bound := id.number_lt
    rw [sent_of_le large, scalar_of_le large, Scalar.display,
      Double.queryChars_ofNat (by omega) (by omega)]
    rfl

/-- Rounding does not bring an id back among the signed integers. -/
theorem le_sent {id : RecordId} (large : 2 ^ 63 ≤ id.number) : 2 ^ 63 ≤ id.sent := by
  have bounds := multiple_bounds large
  have written := Double.multipleMagnitude_bounds bounds.1 bounds.2
  rw [sent_of_le large]
  omega

theorem sent_eq_iff (id other : RecordId) :
    id.sent = other.sent ↔
      id.number = other.number ∨
        2 ^ 63 ≤ id.number ∧ 2 ^ 63 ≤ other.number ∧ id.multiple = other.multiple := by
  constructor
  · intro same
    rcases lt_or_ge id.number (2 ^ 63) with small | large
    · rcases lt_or_ge other.number (2 ^ 63) with otherSmall | otherLarge
      · rw [sent_of_lt small, sent_of_lt otherSmall] at same
        exact .inl same
      · have beyond := le_sent otherLarge
        rw [← same, sent_of_lt small] at beyond
        omega
    · rcases lt_or_ge other.number (2 ^ 63) with otherSmall | otherLarge
      · have beyond := le_sent large
        rw [same, sent_of_lt otherSmall] at beyond
        omega
      · rw [sent_of_le large, sent_of_le otherLarge, Int.natCast_inj] at same
        have bounds := multiple_bounds large
        have otherBounds := multiple_bounds otherLarge
        exact .inr ⟨large, otherLarge, Double.multipleMagnitude_inj bounds.1 bounds.2
          otherBounds.1 otherBounds.2 same⟩
  · rintro (same | ⟨large, otherLarge, same⟩)
    · rw [sent, sent, multiple, multiple, same]
    · rw [sent_of_le large, sent_of_le otherLarge, same]

end RecordId

namespace Builder

variable {builder : Builder}

theorem isFlat_find (flat : builder.IsFlat) (id : Scalar) : (builder.find id).IsFlat := by
  intro condition conditionMem
  rcases List.mem_append.mp conditionMem with present | added
  · exact flat condition present
  · rw [List.mem_singleton.mp added]
    rfl

/-- The pair of the id stands between pairs that do not depend on it. -/
theorem exists_pairs_find (builder : Builder) :
    ∃ before after, ∀ id : Scalar,
      (builder.find id).pairs = before ++ ("id", "eq:" ++ id.encode) :: after := by
  have unqualified : IsUnqualified builder.collection "id" :=
    isUnqualified_of_noDot (by decide) builder.collection
  have idPair (id : Scalar) : Condition.pair builder.collection (.basic "id" "=" id .and) =
      ("id", "eq:" ++ id.encode) := by
    have token : Operator.compiledToken "=" = "eq" := by decide
    rw [Condition.pair, Condition.pair?, Condition.rule?]
    simp only [Option.map_some, Option.getD_some, Condition.marker, Condition.junction,
      stripCollection_of_isUnqualified unqualified, token]
    rfl
  refine ⟨builder.aggregatePairs ++ builder.columnPairs ++
    builder.conditions.map (Condition.pair builder.collection),
    builder.orderPairs ++ countPairs "_limit" (some 1) ++ countPairs "_offset" builder.offset ++
      countPairs "_timeout" builder.timeout ++ builder.hintPairs, fun id => ?_⟩
  have conditions : (builder.find id).conditions.map (Condition.pair builder.collection) =
      builder.conditions.map (Condition.pair builder.collection) ++
        [("id", "eq:" ++ id.encode)] := by
    rw [← idPair id, ← List.map_singleton, ← List.map_append]
    rfl
  change builder.aggregatePairs ++ builder.columnPairs ++
    (builder.find id).conditions.map (Condition.pair builder.collection) ++ _ = _
  rw [conditions]
  simp only [List.append_assoc, List.singleton_append]
  rfl

/-- The pair of an id as it is written. -/
theorem pairText_id (id : Scalar) : pairText ("id", "eq:" ++ id.encode) = "id=eq:" ++ id.encode := by
  rw [pairText, ← String.append_assoc]
  rfl

theorem exists_compile_find (flat : builder.IsFlat) (id : Scalar) :
    ∃ request, (builder.find id).compile = .ok request ∧
      "id=eq:" ++ id.encode ∈ segmentsOf request.query := by
  rcases exists_pairs_find builder with ⟨before, after, isPairs⟩
  refine ⟨_, compile_eq (isFlat_find flat id), ?_⟩
  have single : Text.split '&' ("id=eq:" ++ id.encode) = ["id=eq:" ++ id.encode] := by
    apply Text.split_of_notMem
    rw [String.toList_append, List.mem_append, not_or]
    exact ⟨by decide, notMem_scalar (by decide) (by decide) id⟩
  rw [segmentsOf_join (pairs_ne_empty _), List.mem_flatMap, isPairs]
  refine ⟨"id=eq:" ++ id.encode, ?_, ?_⟩
  · simp [pairText_id]
  · simp [single]

/-- Ids that are displayed alike give the same request, and no others do. -/
theorem compile_find_eq_iff (flat : builder.IsFlat) (id other : Scalar) :
    (builder.find id).compile = (builder.find other).compile ↔ id.display = other.display := by
  rcases exists_pairs_find builder with ⟨before, after, isPairs⟩
  rw [compile_eq (isFlat_find flat id), compile_eq (isFlat_find flat other), isPairs, isPairs]
  constructor
  · intro same
    have sameQuery := congrArg Request.query (Except.ok.inj same)
    simp only [List.map_append, List.map_cons, Text.join_append_cons_inj] at sameQuery
    rw [pairText_id, pairText_id] at sameQuery
    have sameEncoded : id.encode = other.encode := (String.append_right_inj _).mp sameQuery
    rw [← decode_scalar, sameEncoded, decode_scalar]
  · intro same
    rw [Scalar.encode, same, Scalar.encode]
    rfl

/--
An id below `2 ^ 63` reaches the service in its own digits. One beyond is sent in the digits of a
double, which are those of a number next to the nearest multiple of 2048. Two ids give the same
request if and only if they are the same number, or are both beyond and have one nearest multiple.
-/
theorem compile_find (flat : builder.IsFlat) :
    (∀ id : RecordId, id.number < 2 ^ 63 →
      ∃ request, (builder.find id.scalar).compile = .ok request ∧
        "id=eq:" ++ id.number.repr ∈ segmentsOf request.query) ∧
    (∀ id : RecordId, 2 ^ 63 ≤ id.number →
      ∃ request, ∃ sent : Nat, (builder.find id.scalar).compile = .ok request ∧
        "id=eq:" ++ sent.repr ∈ segmentsOf request.query ∧
        sent.repr = (Scalar.float (Double.ofNat id.number.toNat)).display ∧ 2 ^ 63 ≤ sent ∧
        sent ≤ 2048 * id.multiple + 1024 ∧ 2048 * id.multiple ≤ sent + 1024) ∧
    ∀ id other : RecordId,
      (builder.find id.scalar).compile = (builder.find other.scalar).compile ↔
        id.number = other.number ∨
          2 ^ 63 ≤ id.number ∧ 2 ^ 63 ≤ other.number ∧ id.multiple = other.multiple := by
  have encoded (id : RecordId) : id.scalar.encode = id.sent.repr := by
    rw [Scalar.encode, id.display_scalar, encode_intText, intText_eq_repr]
  refine ⟨?_, ?_, ?_⟩
  · intro id small
    rw [← RecordId.sent_of_lt small, ← encoded]
    exact exists_compile_find flat id.scalar
  · intro id large
    rcases exists_compile_find flat id.scalar with ⟨request, isRequest, segmentMem⟩
    have bounds := RecordId.multiple_bounds large
    have written := Double.multipleMagnitude_bounds bounds.1 bounds.2
    have isSent := RecordId.sent_of_le large
    rw [encoded, isSent] at segmentMem
    refine ⟨request, Double.multipleMagnitude id.multiple, isRequest, segmentMem, ?_, written⟩
    rw [← RecordId.scalar_of_le large, id.display_scalar, isSent, intText_eq_repr]
    rfl
  · intro id other
    rw [compile_find_eq_iff flat, id.display_scalar, other.display_scalar,
      ← RecordId.sent_eq_iff]
    exact ⟨intText_inj, congrArg intText⟩

/-- The least signed id, the ids around `2 ^ 63`, and the two greatest unsigned ones. -/
theorem compile_find_bounds :
    let builder := (Builder.new "users").compare .and "age" ">" (.int 17)
    builder.IsFlat ∧
      (∃ request, (builder.find (RecordId.signed Int64.minValue).scalar).compile = .ok request ∧
        "id=eq:-9223372036854775808" ∈ segmentsOf request.query) ∧
      (builder.find (RecordId.unsigned 9223372036854775807).scalar).compile ≠
        (builder.find (RecordId.unsigned 9223372036854775808).scalar).compile ∧
      (builder.find (RecordId.unsigned 18446744073709551614).scalar).compile =
        (builder.find (RecordId.unsigned 18446744073709551615).scalar).compile := by
  intro builder
  have flat : builder.IsFlat := by
    intro condition conditionMem
    rw [List.mem_singleton.mp conditionMem]
    rfl
  have found := compile_find flat
  have least := found.1 (.signed Int64.minValue) (by decide)
  refine ⟨flat, least, ?_, ?_⟩
  · rw [ne_eq, found.2.2]
    decide +kernel
  · rw [found.2.2]
    decide +kernel

/-- The two greatest unsigned ids ask for the same record, which has neither of their digits. -/
theorem find_greatestIds :
    let builder := Builder.new "users"
    let greatest := RecordId.unsigned 18446744073709551615
    let next := RecordId.unsigned 18446744073709551614
    let query := "id=eq:18446744073709552000&_limit=1"
    builder.IsFlat ∧ greatest.number ≠ next.number ∧
      ((builder.find greatest.scalar).compile.map Request.query).toOption = some query ∧
      ((builder.find next.scalar).compile.map Request.query).toOption = some query ∧
      "id=eq:18446744073709551615" ∉ segmentsOf query ∧
      "id=eq:18446744073709551614" ∉ segmentsOf query := by
  intro builder greatest next query
  have flat : builder.IsFlat := by
    intro condition conditionMem
    exact absurd conditionMem (List.not_mem_nil)
  exact ⟨flat, by decide +kernel, by decide +kernel, by decide +kernel, by decide +kernel,
    by decide +kernel⟩

end Builder

end RestQuery
