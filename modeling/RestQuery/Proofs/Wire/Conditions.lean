import RestQuery.Proofs.Text.Percent
import RestQuery.Proofs.Wire.Compiled
import RestQuery.Proofs.Wire.Fragments

/-!
# Reading one compiled condition

`Condition.filter?` and `Condition.dropped?` say what a reader makes of each kind of condition.
Comparisons, lists and ranges come back as filters whose operands are texts. The reader has no
form for the others: a null test has no operator, and neither `nin` nor `!between` is a token it
knows, so these are dropped with the fragment as it was written.

`pairEvents_pair` proves that reading the pair of a condition does just that. It holds the compiled
text against the rules of `ReadsAs`, so that reading is unfolded in one place only.
-/

namespace RestQuery

/-- A scalar as a reader of the query string sees it. -/
def Scalar.shown (scalar : Scalar) : Scalar :=
  .text scalar.display

/-- A key that names no directive: no underscore with another character behind it. -/
def IsFieldName (key : String) : Prop :=
  ∀ char rest, key.toList = '_' :: char :: rest → char = '_'

theorem directiveName?_of_isFieldName {key : String} (isFieldName : IsFieldName key) :
    directiveName? key = none := by
  unfold directiveName?
  split
  · rename_i char rest chars
    rw [if_pos (isFieldName char rest chars)]
  · rfl

theorem isFieldName_of_directiveName? {key : String} (noName : directiveName? key = none) :
    IsFieldName key := by
  intro char rest chars
  by_contra other
  simp [directiveName?, chars, other] at noName

theorem directiveName?_eq_none_iff {key : String} :
    directiveName? key = none ↔ IsFieldName key :=
  ⟨isFieldName_of_directiveName?, directiveName?_of_isFieldName⟩

instance (key : String) : Decidable (IsFieldName key) :=
  decidable_of_iff _ directiveName?_eq_none_iff

/-- A column that stands for itself as the key of a condition. -/
@[mk_iff]
structure IsPlainKey (column : String) : Prop where
  noAmpersand : '&' ∉ column.toList
  noEquals : '=' ∉ column.toList
  noPercent : '%' ∉ column.toList
  noPlus : '+' ∉ column.toList
  noMark : column.toList.head? ≠ some '!'
  noQuestionMark : column.toList.head? ≠ some '?'
  isFieldName : IsFieldName column

instance (column : String) : Decidable (IsPlainKey column) :=
  decidable_of_iff' _ (isPlainKey_iff column)

namespace Condition

def wireColumn (collection : String) (condition : Condition) : String :=
  stripCollection collection (condition.column?.getD "")

/-- The symbols of the operators that take a single operand. -/
def singleSymbols : List String :=
  ["=", "!=", "<", "<=", ">", ">=", "like", "not like"]

/-- A condition that is written in a form of its own. -/
def HasReadableForm : Condition → Prop
  | basic _ operator _ _ => operator ∈ singleSymbols
  | oneOf _ values _ => values ≠ []
  | nested _ _ => False
  | noneOf _ _ _ | null _ _ | notNull _ _ | between _ _ _ _ _ => True

instance : (condition : Condition) → Decidable condition.HasReadableForm
  | basic _ operator _ _ => inferInstanceAs (Decidable (operator ∈ singleSymbols))
  | oneOf _ values _ => inferInstanceAs (Decidable (values ≠ []))
  | nested _ _ => inferInstanceAs (Decidable False)
  | noneOf _ _ _ | null _ _ | notNull _ _ | between _ _ _ _ _ => inferInstanceAs (Decidable True)

theorem isFlat_of_hasReadableForm {condition : Condition} (form : condition.HasReadableForm) :
    condition.isNested = false := by
  cases condition with
  | nested group junction => exact absurd form id
  | _ => rfl

/-- A condition with a form of its own and a column that stands for itself. -/
def IsReadable (collection : String) (condition : Condition) : Prop :=
  IsPlainKey (condition.wireColumn collection) ∧ condition.HasReadableForm

instance (collection : String) (condition : Condition) :
    Decidable (condition.IsReadable collection) :=
  inferInstanceAs (Decidable (_ ∧ _))

/-- The filter that is read from a condition, for the kinds that have one. -/
def filter? (collection : String) (condition : Condition) : Option FieldFilter :=
  let field := condition.wireColumn collection
  match condition with
  | basic _ operator value _ =>
      (Operator.ofSymbol? operator).map (⟨field, ·, .single value.shown, false⟩)
  | oneOf _ values _ => some ⟨field, .oneOf, .list (values.map Scalar.shown), false⟩
  | between _ low high _ false => some ⟨field, .between, .pair low.shown high.shown, false⟩
  | _ => none

/-- The fragment that is dropped when a condition is read, for the kinds that have no filter. -/
def dropped? (collection : String) (condition : Condition) : Option DroppedFragment :=
  let field := condition.wireColumn collection
  match condition with
  | noneOf _ values _ => some ⟨field, "nin:" ++ encodeList values, .unknownOperator "nin"⟩
  | null _ _ => some ⟨field, "null", .missingOperator⟩
  | notNull _ _ => some ⟨field, "!null", .missingOperator⟩
  | between _ low high _ true =>
      some ⟨field, "!between:" ++ low.encode ++ "," ++ high.encode, .unknownOperator "!between"⟩
  | _ => none

end Condition

@[simp]
theorem decode_scalar (scalar : Scalar) : Percent.decode scalar.encode = scalar.display :=
  Percent.decode_encode _

theorem notMem_scalar {char : Char} (reserved : Percent.isUnreserved char = false)
    (notPercent : char ≠ '%') (scalar : Scalar) : char ∉ scalar.encode.toList :=
  Percent.notMem_encode reserved notPercent _

theorem notMem_scalars {char : Char} (reserved : Percent.isUnreserved char = false)
    (notPercent : char ≠ '%') (values : List Scalar) :
    ∀ piece ∈ values.map Scalar.encode, char ∉ piece.toList := by
  intro piece pieceMem
  rcases List.mem_map.mp pieceMem with ⟨value, -, rfl⟩
  exact notMem_scalar reserved notPercent value

theorem notMem_encodeList {char : Char} (reserved : Percent.isUnreserved char = false)
    (notPercent : char ≠ '%') (notComma : char ≠ ',') (values : List Scalar) :
    char ∉ (encodeList values).toList :=
  Text.notMem_join notComma (notMem_scalars reserved notPercent values)

namespace Operator

theorem notMem_compiledToken {operator : String} (plain : '&' ∉ operator.toList) :
    '&' ∉ (compiledToken operator).toList := by
  have inToken : ∀ known : Operator, '&' ∉ known.token.toList := by
    intro known
    cases known <;> decide
  unfold compiledToken tokenOfSymbol
  split
  · decide
  · split
    · exact inToken _
    · exact plain

end Operator

namespace Condition

/-- The operator as it was given, which a comparison has. -/
def operator? : Condition → Option String
  | basic _ operator _ _ => some operator
  | _ => none

/-- The rule of a condition holds a separator in its operator or not at all. -/
theorem notMem_rule {condition : Condition} {column rule : String}
    (hasRule : condition.rule? = some (column, rule))
    (plain : ∀ operator ∈ condition.operator?, '&' ∉ operator.toList) :
    '&' ∉ rule.toList := by
  have inScalar (scalar : Scalar) : '&' ∉ scalar.encode.toList :=
    notMem_scalar (by decide) (by decide) scalar
  have inList (values : List Scalar) : '&' ∉ (encodeList values).toList :=
    notMem_encodeList (by decide) (by decide) (by decide) values
  cases condition with
  | basic column operator value junction =>
      have inOperator := Operator.notMem_compiledToken (plain operator rfl)
      cases hasRule
      simp [inOperator, inScalar]
  | between column low high junction outside =>
      cases hasRule
      cases outside <;> simp [inScalar]
  | nested group junction => simp [rule?] at hasRule
  | _ =>
      cases hasRule
      simp [inList]

end Condition

/-- A token that stands for itself and ends at the first colon. -/
@[mk_iff]
structure IsPlainToken (token : String) : Prop where
  noColon : ':' ∉ token.toList
  noPlus : '+' ∉ token.toList
  noPercent : '%' ∉ token.toList

instance (token : String) : Decidable (IsPlainToken token) :=
  decidable_of_iff' _ (isPlainToken_iff token)

theorem IsPlainToken.text_eq {token : String} (plain : IsPlainToken token) :
    ValueForm.text .written token = token :=
  Percent.decode_of_plain plain.noPlus plain.noPercent

theorem text_encode (value : Scalar) : ValueForm.text .written value.encode = value.display :=
  decode_scalar value

namespace Condition

theorem notMem_of_mem_singleSymbols {symbol : String} (single : symbol ∈ singleSymbols) :
    '&' ∉ symbol.toList := by
  have plain : ∀ known ∈ singleSymbols, '&' ∉ known.toList := by decide
  exact plain symbol single

theorem token_of_mem_singleSymbols {symbol : String} (single : symbol ∈ singleSymbols) :
    ∃ operator : Operator, operator.symbol = symbol ∧ operator.isList = false ∧
      operator.isRange = false ∧ Operator.compiledToken symbol = operator.token ∧
      IsPlainToken operator.token := by
  simp only [singleSymbols, List.mem_cons, List.not_mem_nil, or_false] at single
  rcases single with rfl | rfl | rfl | rfl | rfl | rfl | rfl | rfl
  · exact ⟨.equal, by decide⟩
  · exact ⟨.notEqual, by decide⟩
  · exact ⟨.less, by decide⟩
  · exact ⟨.lessOrEqual, by decide⟩
  · exact ⟨.greater, by decide⟩
  · exact ⟨.greaterOrEqual, by decide⟩
  · exact ⟨.like, by decide⟩
  · exact ⟨.notLike, by decide⟩

/-- The text of a range is its token and its bounds. -/
theorem pair_snd_between (collection column : String) (low high : Scalar) (junction : Junction)
    (outside : Bool) :
    (pair collection (between column low high junction outside)).2 =
      (if outside then "!between" else "between") ++ ":" ++
        (low.encode ++ "," ++ high.encode) := by
  cases outside <;> simp [pair, pair?, rule?, ← String.append_assoc]

theorem readsAs_single {symbol : String} (single : symbol ∈ singleSymbols) (field : String)
    (value : Scalar) :
    ∃ operator, Operator.ofSymbol? symbol = some operator ∧
      ReadsAs .written (.condition field (Operator.compiledToken symbol ++ ":" ++ value.encode))
        (.filter ⟨field, operator, .single value.shown, false⟩) := by
  rcases token_of_mem_singleSymbols single with
    ⟨operator, rfl, notList, notRange, compiled, plain⟩
  refine ⟨operator, Operator.ofSymbol?_symbol operator, ?_⟩
  rw [compiled, Scalar.shown, ← text_encode]
  exact .single plain.noColon plain.text_eq notList notRange

theorem readsAs_oneOf {values : List Scalar} (nonempty : values ≠ []) (field : String) :
    ReadsAs .written (.condition field ("in:" ++ encodeList values))
      (.filter ⟨field, .oneOf, .list (values.map Scalar.shown), false⟩) := by
  have starts : "in:" = "in" ++ ":" := by decide
  have plain : IsPlainToken "in" := by decide
  have shown : values.map Scalar.shown =
      (values.map Scalar.encode).map fun piece => .text (ValueForm.text .written piece) := by
    simp [text_encode, Function.comp_def, Scalar.shown]
  have noComma : ∀ piece ∈ values.map Scalar.encode, ',' ∉ piece.toList :=
    notMem_scalars (by decide) (by decide) values
  rw [starts, shown]
  exact .list plain.noColon plain.text_eq rfl (by simpa using nonempty) noComma

theorem readsAs_between (low high : Scalar) (field : String) :
    ReadsAs .written (.condition field ("between" ++ ":" ++ (low.encode ++ "," ++ high.encode)))
      (.filter ⟨field, .between, .pair low.shown high.shown, false⟩) := by
  have plain : IsPlainToken "between" := by decide
  have noComma (value : Scalar) : ',' ∉ value.encode.toList :=
    notMem_scalar (by decide) (by decide) value
  rw [Scalar.shown, Scalar.shown, ← text_encode, ← text_encode]
  exact .range plain.noColon plain.text_eq rfl (noComma low) (noComma high)

theorem readsAs_unknown {token : String} (plain : IsPlainToken token)
    (unknown : Operator.ofToken? token = none) (field raw : String) :
    ReadsAs .written (.condition field (token ++ ":" ++ raw))
      (.drop ⟨field, token ++ ":" ++ raw, .unknownOperator token⟩) := by
  have reads : ReadsAs .written (.condition field (token ++ ":" ++ raw))
      (.drop ⟨field, token ++ ":" ++ raw, .unknownOperator (ValueForm.text .written token)⟩) := by
    apply ReadsAs.unknownOperator plain.noColon
    rw [plain.text_eq]
    exact Operator.ofToken?_eq_none_iff.mp unknown
  rwa [plain.text_eq] at reads

/-- What is read from a condition is its filter or its dropped fragment. -/
theorem conditionEvents_pair {collection : String} {condition : Condition}
    (form : condition.HasReadableForm) :
    conditionEvents .written (condition.wireColumn collection) (condition.pair collection).2 =
      (condition.filter? collection).toList.map Event.filter ++
        (condition.dropped? collection).toList.map Event.drop := by
  cases condition with
  | basic column symbol value junction =>
      rcases readsAs_single form (stripCollection collection column) value with
        ⟨operator, known, reads⟩
      have filter : (basic column symbol value junction).filter? collection =
          some ⟨stripCollection collection column, operator, .single value.shown, false⟩ := by
        simp [filter?, known, wireColumn, column?]
      rw [filter]
      exact conditionEvents_of_readsAs reads
  | oneOf column values junction => exact conditionEvents_of_readsAs (readsAs_oneOf form _)
  | noneOf column values junction =>
      have starts : "nin:" = "nin" ++ ":" := by decide
      have unknown : Operator.ofToken? "nin" = none := by decide
      have reads := readsAs_unknown (by decide) unknown (stripCollection collection column)
        (encodeList values)
      rw [← starts] at reads
      exact conditionEvents_of_readsAs reads
  | null column junction =>
      have noColon : ':' ∉ "null".toList := by decide
      exact conditionEvents_of_readsAs (.missingOperator noColon)
  | notNull column junction =>
      have noColon : ':' ∉ "!null".toList := by decide
      exact conditionEvents_of_readsAs (.missingOperator noColon)
  | between column low high junction outside =>
      rw [pair_snd_between]
      cases outside with
      | false => exact conditionEvents_of_readsAs (readsAs_between low high _)
      | true =>
          have unknown : Operator.ofToken? "!between" = none := by decide
          rw [if_pos rfl, conditionEvents_of_readsAs (readsAs_unknown (by decide) unknown _ _)]
          simp [filter?, dropped?, ← String.append_assoc]
  | nested group junction => exact absurd form id

theorem pairEvents_pair {collection : String} {condition : Condition}
    (readable : condition.IsReadable collection) :
    pairEvents .written (condition.wireColumn collection) (condition.pair collection).2 =
      (condition.filter? collection).toList.map Event.filter ++
        (condition.dropped? collection).toList.map Event.drop := by
  rw [pairEvents, directiveName?_of_isFieldName readable.1.isFieldName,
    conditionEvents_pair readable.2]

end Condition

end RestQuery
