import RestQuery.Binding
import RestQuery.Proofs.Filters.Shape

/-!
# Recording filters

A builder records a filter as one condition on its field, or refuses it. `FieldFilter.RecordedAs`
lists what can be recorded as what, a rule for each kind of filter and each side of its negation;
`conditionOf_cases` says that there is nothing else. Whatever is true of every recorded filter then
needs a look at the rules alone.

Filters that were put together field by field may hold any operand. A range and a comparison are
checked again when they are recorded, but membership is not: a filter that asks for membership in an
empty list could not be built, and is recorded nevertheless. `effect_of_addFilter` says that this is
the only kind of filter with a wrong number of scalars that gets through.
-/

namespace RestQuery

namespace Operator

variable {operator other : Operator}

theorem exists_complement? (comparison : operator.IsComparison) :
    ∃ other, operator.complement? = some other ∧ other.IsComparison := by
  cases comparison <;> exact ⟨_, rfl, by constructor⟩

theorem isComparison_of_complement? (comparison : operator.IsComparison)
    (complements : operator.complement? = some other) : other.IsComparison := by
  rcases exists_complement? comparison with ⟨known, complementsKnown, isComparison⟩
  obtain rfl : known = other := Option.some.inj (complementsKnown.symm.trans complements)
  exact isComparison

/-- How many scalars a filter with the operator should hold. -/
def TakesCount (operator : Operator) (count : Nat) : Prop :=
  match operator with
  | .between => count = 2
  | .oneOf | .noneOf => 1 ≤ count
  | .equal | .notEqual | .less | .lessOrEqual | .greater | .greaterOrEqual | .like | .notLike =>
      count = 1

theorem takesCount_of_isComparison (comparison : operator.IsComparison) {count : Nat} :
    operator.TakesCount count ↔ count = 1 := by
  cases comparison <;> rfl

end Operator

/-- The scalars that a condition compares its column with, in order. -/
def Condition.operands : Condition → List Scalar
  | basic _ _ value _ => [value]
  | oneOf _ values _ => values
  | noneOf _ values _ => values
  | between _ low high _ _ => [low, high]
  | null _ _ => []
  | notNull _ _ => []
  | nested _ _ => []

namespace FieldFilter

/-- The condition that a filter is recorded as. -/
inductive RecordedAs : FieldFilter → Condition → Prop where
  | comparison (field : String) {operator : Operator} (isComparison : operator.IsComparison)
      (scalar : Scalar) :
      RecordedAs ⟨field, operator, .single scalar, false⟩ (.basic field operator.symbol scalar .and)
  | complement (field : String) {operator other : Operator} (isComparison : operator.IsComparison)
      (complements : operator.complement? = some other) (scalar : Scalar) :
      RecordedAs ⟨field, operator, .single scalar, true⟩ (.basic field other.symbol scalar .and)
  | range (field : String) (low high : Scalar) (negated : Bool) :
      RecordedAs ⟨field, .between, .pair low high, negated⟩ (.between field low high .and negated)
  | oneOf (field : String) (operand : Operand) :
      RecordedAs ⟨field, .oneOf, operand, false⟩ (.oneOf field operand.scalars .and)
  | notOneOf (field : String) (operand : Operand) :
      RecordedAs ⟨field, .oneOf, operand, true⟩ (.noneOf field operand.scalars .and)
  | noneOf (field : String) (operand : Operand) :
      RecordedAs ⟨field, .noneOf, operand, false⟩ (.noneOf field operand.scalars .and)
  | notNoneOf (field : String) (operand : Operand) :
      RecordedAs ⟨field, .noneOf, operand, true⟩ (.oneOf field operand.scalars .and)

variable {filter : FieldFilter} {condition : Condition}

theorem RecordedAs.column?_eq (recorded : filter.RecordedAs condition) :
    condition.column? = some filter.field := by
  cases recorded <;> rfl

theorem RecordedAs.junction_eq (recorded : filter.RecordedAs condition) :
    condition.junction = .and := by
  cases recorded <;> rfl

theorem RecordedAs.operands_eq (recorded : filter.RecordedAs condition) :
    condition.operands = filter.operand.scalars := by
  cases recorded <;> rfl

theorem exists_recordedAs_of_isList (isList : filter.operator.isList = true) :
    ∃ condition, filter.RecordedAs condition := by
  rcases filter with ⟨field, operator, operand, negated⟩
  rcases Operator.eq_of_isList isList with isOneOf | isNoneOf
  · obtain rfl : operator = .oneOf := isOneOf
    cases negated with
    | false => exact ⟨_, .oneOf field operand⟩
    | true => exact ⟨_, .notOneOf field operand⟩
  · obtain rfl : operator = .noneOf := isNoneOf
    cases negated with
    | false => exact ⟨_, .noneOf field operand⟩
    | true => exact ⟨_, .notNoneOf field operand⟩

theorem exists_recordedAs_of_single {operator : Operator} (comparison : operator.IsComparison)
    (field : String) (scalar : Scalar) (negated : Bool) :
    ∃ condition, RecordedAs ⟨field, operator, .single scalar, negated⟩ condition := by
  rcases Operator.exists_complement? comparison with ⟨other, complements, -⟩
  cases negated with
  | false => exact ⟨_, .comparison field comparison scalar⟩
  | true => exact ⟨_, .complement field comparison complements scalar⟩

end FieldFilter

namespace Builder

open FieldFilter (RecordedAs)

theorem effectiveOperator_of_complement {operator other : Operator}
    (complements : operator.complement? = some other) (field : String) (operand : Operand) :
    effectiveOperator ⟨field, operator, operand, true⟩ = other := by
  have notRange : operator.isRange = false := by
    cases operator with
    | between => cases complements
    | _ => rfl
  simp [effectiveOperator, notRange, complements]

theorem isComparison_effectiveOperator {filter : FieldFilter}
    (comparison : filter.operator.IsComparison) : (effectiveOperator filter).IsComparison := by
  rcases filter with ⟨field, operator, operand, negated⟩
  cases negated with
  | false => exact comparison
  | true =>
      rcases Operator.exists_complement? comparison with ⟨other, complements, isComparison⟩
      rwa [effectiveOperator_of_complement complements]

/-- What a builder answers when the operand does not suit the operator that a filter stands for. -/
def refusal (filter : FieldFilter) : QueryError :=
  .invalidArity (effectiveOperator filter) (.ofOperator (effectiveOperator filter))
    filter.operand.arity

theorem conditionOf_of_isComparison {filter : FieldFilter}
    (comparison : filter.operator.IsComparison) :
    conditionOf filter =
      match filter.operand.single? with
      | some scalar => .ok (.basic filter.field (effectiveOperator filter).symbol scalar .and)
      | none => .error (refusal filter) := by
  have effectiveComparison := isComparison_effectiveOperator comparison
  simp only [conditionOf, refusal]
  generalize effectiveOperator filter = effective at effectiveComparison ⊢
  cases effectiveComparison <;> cases filter.operand <;> rfl

theorem conditionOf_of_recordedAs {filter : FieldFilter} {condition : Condition}
    (recorded : filter.RecordedAs condition) : conditionOf filter = .ok condition := by
  cases recorded with
  | comparison field isComparison scalar => exact conditionOf_of_isComparison isComparison
  | complement field isComparison complements scalar =>
      rw [conditionOf_of_isComparison isComparison, effectiveOperator_of_complement complements]
      rfl
  | range field low high negated => cases negated <;> rfl
  | _ => rfl

/-- Every filter is either recorded by one of the rules or refused for its number of scalars. -/
theorem conditionOf_cases (filter : FieldFilter) :
    (∃ condition, filter.RecordedAs condition) ∨ conditionOf filter = .error (refusal filter) := by
  rcases filter with ⟨field, operator, operand, negated⟩
  rcases operator.class_cases with rfl | isList | comparison
  · cases operand with
    | pair low high => exact .inl ⟨_, .range field low high negated⟩
    | _ => cases negated <;> exact .inr rfl
  · exact .inl (FieldFilter.exists_recordedAs_of_isList isList)
  · cases operand with
    | single scalar =>
        exact .inl (FieldFilter.exists_recordedAs_of_single comparison field scalar negated)
    | _ => exact .inr (conditionOf_of_isComparison comparison)

theorem recordedAs_iff {filter : FieldFilter} {condition : Condition} :
    filter.RecordedAs condition ↔ conditionOf filter = .ok condition := by
  constructor
  · exact conditionOf_of_recordedAs
  · intro succeeds
    rcases conditionOf_cases filter with ⟨known, recorded⟩ | fails
    · rw [conditionOf_of_recordedAs recorded] at succeeds
      exact Except.ok.inj succeeds ▸ recorded
    · simp [fails] at succeeds

theorem addFilter_of_recordedAs {filter : FieldFilter} {condition : Condition}
    (recorded : filter.RecordedAs condition) (builder : Builder) :
    builder.addFilter filter = .ok (builder.push condition) := by
  rw [addFilter, conditionOf_of_recordedAs recorded]
  rfl

theorem target_of_recordedAs {filter : FieldFilter} {condition : Condition}
    (recorded : filter.RecordedAs condition) (builder : Builder) :
    Bindable.addFilter filter builder = (builder.push condition, none) := by
  simp only [Bindable.addFilter, addFilter_of_recordedAs recorded]

theorem target_of_error {filter : FieldFilter} {error : QueryError}
    (fails : conditionOf filter = .error error) (builder : Builder) :
    Bindable.addFilter filter builder = (builder, some error) := by
  simp only [Bindable.addFilter, addFilter, fails, Except.map]

end Builder

theorem Operand.arity_eq_zero_iff {operand : Operand} : operand.arity = 0 ↔ operand = .list [] := by
  cases operand <;> simp [arity, scalars]

namespace FieldFilter

variable {filter : FieldFilter} {condition : Condition}

/-- What is recorded has the right number of scalars, unless it is membership in an empty list. -/
theorem RecordedAs.takesCount (recorded : filter.RecordedAs condition) :
    filter.operator.TakesCount filter.operand.arity ∨
      filter.operator.isList = true ∧ filter.operand = .list [] := by
  have ofMembership (isList : filter.operator.isList = true)
      (takesSome : filter.operator.TakesCount filter.operand.arity ↔ 1 ≤ filter.operand.arity) :
      filter.operator.TakesCount filter.operand.arity ∨
        filter.operator.isList = true ∧ filter.operand = .list [] := by
    rcases Nat.eq_zero_or_pos filter.operand.arity with isZero | isPositive
    · exact .inr ⟨isList, Operand.arity_eq_zero_iff.mp isZero⟩
    · exact .inl (takesSome.mpr isPositive)
  cases recorded with
  | comparison field isComparison scalar =>
      exact .inl ((Operator.takesCount_of_isComparison isComparison).mpr rfl)
  | complement field isComparison complements scalar =>
      exact .inl ((Operator.takesCount_of_isComparison isComparison).mpr rfl)
  | range field low high negated => exact .inl rfl
  | _ => exact ofMembership rfl Iff.rfl

theorem not_takesCount_of_isList (isList : filter.operator.isList = true)
    (isEmpty : filter.operand = .list []) :
    ¬ filter.operator.TakesCount filter.operand.arity := by
  rw [isEmpty]
  rcases Operator.eq_of_isList isList with isOneOf | isNoneOf
  · rw [isOneOf]
    exact Nat.not_succ_le_zero 0
  · rw [isNoneOf]
    exact Nat.not_succ_le_zero 0

end FieldFilter

/--
A builder that accepts a filter gets one more condition, on the field of the filter, with all of its
scalars in order; a builder that refuses one stays as it was. A filter with a wrong number of
scalars is refused, unless it asks for membership in an empty list.
-/
theorem effect_of_addFilter (filter : FieldFilter) (builder : Builder) :
    let outcome := Bindable.addFilter filter builder
    (outcome.2 = none →
      ∃ condition, outcome.1 = builder.push condition ∧
        condition.column? = some filter.field ∧ condition.junction = .and ∧
        condition.operands = filter.operand.scalars) ∧
      (∀ error, outcome.2 = some error →
        outcome.1 = builder ∧ ∃ operator,
          error = .invalidArity operator (.ofOperator operator) filter.operand.arity) ∧
      (outcome.2 = none ∧ ¬ filter.operator.TakesCount filter.operand.arity ↔
        filter.operator.isList = true ∧ filter.operand = .list []) := by
  intro outcome
  rcases Builder.conditionOf_cases filter with ⟨condition, recorded⟩ | fails
  · have accepted : outcome = (builder.push condition, none) :=
      Builder.target_of_recordedAs recorded builder
    rw [accepted]
    refine ⟨?_, ?_, ?_⟩
    · intro _
      exact ⟨condition, rfl, recorded.column?_eq, recorded.junction_eq, recorded.operands_eq⟩
    · intro error isError
      cases isError
    · constructor
      · rintro ⟨-, wrongCount⟩
        exact recorded.takesCount.resolve_left wrongCount
      · rintro ⟨isList, isEmpty⟩
        exact ⟨rfl, FieldFilter.not_takesCount_of_isList isList isEmpty⟩
  · have refused : outcome = (builder, some (Builder.refusal filter)) :=
      Builder.target_of_error fails builder
    rw [refused]
    refine ⟨?_, ?_, ?_⟩
    · intro isNone
      cases isNone
    · rintro error isError
      exact ⟨rfl, Builder.effectiveOperator filter, (Option.some.inj isError).symm⟩
    · constructor
      · rintro ⟨isNone, -⟩
        cases isNone
      · rintro ⟨isList, -⟩
        rcases FieldFilter.exists_recordedAs_of_isList isList with ⟨condition, recorded⟩
        cases fails.symm.trans (Builder.conditionOf_of_recordedAs recorded)

/-- Membership in an empty list is recorded, although no filter of that kind can be built. -/
theorem addFilter_emptyMembership :
    let filter : FieldFilter := ⟨"id", .oneOf, .list [], false⟩
    let builder := Builder.new "users"
    Bindable.addFilter filter builder = (builder.push (.oneOf "id" [] .and), none) ∧
      ¬ filter.operator.TakesCount filter.operand.arity ∧
      FieldFilter.build "id" .oneOf (.list []) =
        .error (.invalidArity .oneOf .atLeastOne 0) := by
  intro filter builder
  exact ⟨rfl, Nat.not_succ_le_zero 0, rfl⟩

end RestQuery
