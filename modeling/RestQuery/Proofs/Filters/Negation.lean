import Mathlib.Algebra.Ring.Parity
import Mathlib.Data.Int.Order.Basic
import Mathlib.Order.Lattice
import RestQuery.Proofs.Filters.Recording

/-!
# Negated filters

A filter and the condition that it is recorded as are two things that one can ask of a record
value, and both are given a meaning here: a filter through its operator, a condition through the
symbol that it carries or through its kind. Record values may come from any linear order into which
scalars are read, such as the scalars themselves in an order of their own, and `like` may mean
anything.

Negation is recorded in three ways. A comparison is recorded with the complementary operator,
membership as the other kind of membership, and a range with a mark. `RecordedAs.holds_iff` goes
through the rules and finds the same in all of them: the condition holds exactly when the filter
does, or fails to if it is negated. Negating a filter again and again then only counts.
-/

namespace RestQuery

/-- How scalars are read as record values, and what `like` means among these. -/
structure Interpretation (Value : Type) where
  value : Scalar → Value
  like : Value → Value → Prop

section

variable {Value : Type} [LinearOrder Value]

/-- What an operator asks of a record value, given the scalars of an operand. -/
def Operator.Holds (interpretation : Interpretation Value) (value : Value) :
    Operator → List Scalar → Prop
  | .equal, [bound] => value = interpretation.value bound
  | .notEqual, [bound] => value ≠ interpretation.value bound
  | .less, [bound] => value < interpretation.value bound
  | .lessOrEqual, [bound] => value ≤ interpretation.value bound
  | .greater, [bound] => interpretation.value bound < value
  | .greaterOrEqual, [bound] => interpretation.value bound ≤ value
  | .like, [pattern] => interpretation.like value (interpretation.value pattern)
  | .notLike, [pattern] => ¬ interpretation.like value (interpretation.value pattern)
  | .between, [low, high] => interpretation.value low ≤ value ∧ value ≤ interpretation.value high
  | .oneOf, members => value ∈ members.map interpretation.value
  | .noneOf, members => value ∉ members.map interpretation.value
  | _, _ => False

namespace Interpretation

/-- What the symbol of a recorded comparison asks of a record value and a bound. -/
def comparison? (interpretation : Interpretation Value) (symbol : String) :
    Option (Value → Value → Prop) :=
  match symbol with
  | "=" => some (· = ·)
  | "!=" => some (· ≠ ·)
  | "<" => some (· < ·)
  | "<=" => some (· ≤ ·)
  | ">" => some (· > ·)
  | ">=" => some (· ≥ ·)
  | "like" => some interpretation.like
  | "not like" => some fun value pattern => ¬ interpretation.like value pattern
  | _ => none

end Interpretation

/-- What a condition asks of a record value, which is not null; a group asks nothing of just one. -/
def Condition.Holds (interpretation : Interpretation Value) (value : Value) : Condition → Prop
  | .basic _ symbol bound _ =>
      ∃ relation ∈ interpretation.comparison? symbol, relation value (interpretation.value bound)
  | .oneOf _ members _ => value ∈ members.map interpretation.value
  | .noneOf _ members _ => value ∉ members.map interpretation.value
  | .between _ low high _ outside =>
      let within := interpretation.value low ≤ value ∧ value ≤ interpretation.value high
      if outside then ¬ within else within
  | .null _ _ => False
  | .notNull _ _ => True
  | .nested _ _ => False

variable {interpretation : Interpretation Value} {value : Value}

theorem Operator.holds_complement {operator other : Operator} (comparison : operator.IsComparison)
    (complements : operator.complement? = some other) (scalar : Scalar) :
    other.Holds interpretation value [scalar] ↔ ¬ operator.Holds interpretation value [scalar] := by
  cases comparison <;>
    · obtain rfl := Option.some.inj complements
      simp [Operator.Holds]

/-- The symbol of a comparison is read back as the operator that it stands for. -/
theorem Condition.holds_basic {operator : Operator} (comparison : operator.IsComparison)
    (column : String) (scalar : Scalar) (junction : Junction) :
    (basic column operator.symbol scalar junction).Holds interpretation value ↔
      operator.Holds interpretation value [scalar] := by
  cases comparison <;>
    simp [Holds, Operator.symbol, Operator.Holds, Interpretation.comparison?]

namespace FieldFilter

/-- The condition holds exactly when the operator of the filter does, or else its negation. -/
theorem RecordedAs.holds_iff {filter : FieldFilter} {condition : Condition}
    (recorded : filter.RecordedAs condition) :
    condition.Holds interpretation value ↔
      Xor (filter.operator.Holds interpretation value filter.operand.scalars)
        (filter.negated = true) := by
  rw [xor_iff_iff_not]
  cases recorded with
  | comparison field isComparison scalar =>
      simpa [Operand.scalars] using Condition.holds_basic isComparison field scalar .and
  | complement field isComparison complements scalar =>
      have otherComparison := Operator.isComparison_of_complement? isComparison complements
      rw [Condition.holds_basic otherComparison, Operator.holds_complement isComparison complements]
      simp [Operand.scalars]
  | range field low high negated =>
      cases negated <;> simp [Condition.Holds, Operator.Holds, Operand.scalars]
  | _ => simp [Condition.Holds, Operator.Holds]

end FieldFilter

end

namespace FieldFilter

theorem iterate_negate (filter : FieldFilter) (count : Nat) :
    negate^[count] filter =
      { filter with negated := filter.negated ^^ decide (Odd count) } := by
  induction count with
  | zero => simp
  | succ count ih =>
      rw [Function.iterate_succ_apply', ih, negate]
      by_cases isOdd : Odd count <;> simp [isOdd, Nat.odd_add_one]

/-- A filter with an operand in shape is recorded, negated or not. -/
theorem exists_recordedAs_of_fits {operator : Operator} {operand : Operand}
    (fits : operator.Fits operand) (field : String) (negated : Bool) :
    ∃ condition, RecordedAs ⟨field, operator, operand, negated⟩ condition := by
  rcases operator.class_cases with rfl | isList | comparison
  · rcases fits with ⟨low, high, rfl⟩
    exact ⟨_, .range field low high negated⟩
  · exact exists_recordedAs_of_isList isList
  · rcases (Operator.fits_of_isComparison comparison).mp fits with ⟨scalar, rfl⟩
    exact exists_recordedAs_of_single comparison field scalar negated

/--
A filter that was built is recorded however often it is negated, as one condition on its field that
joins with `and`. Without a negation the condition holds of just the record values that the operator
accepts; with an odd number of negations it holds of the others.
-/
theorem holds_of_iterate_negate {field : String} {operator : Operator} {operand : Operand}
    {filter : FieldFilter} (builds : build field operator operand = .ok filter) (count : Nat)
    (builder : Builder) :
    ∃ plain recorded : Condition,
      builder.addFilter filter = .ok (builder.push plain) ∧
        builder.addFilter (negate^[count] filter) = .ok (builder.push recorded) ∧
        recorded.column? = some field ∧ recorded.junction = .and ∧
        ∀ {Value : Type} [LinearOrder Value] (interpretation : Interpretation Value)
          (value : Value),
          (plain.Holds interpretation value ↔
              operator.Holds interpretation value operand.scalars) ∧
            (recorded.Holds interpretation value ↔
              Xor (plain.Holds interpretation value) (Odd count)) := by
  rcases exists_of_build builds with ⟨shaped, rfl, fits, sameScalars⟩
  have negated : negate^[count] ⟨field, operator, shaped, false⟩ =
      ⟨field, operator, shaped, decide (Odd count)⟩ := by
    simp [iterate_negate]
  rcases exists_recordedAs_of_fits fits field false with ⟨plain, plainly⟩
  rcases exists_recordedAs_of_fits fits field (decide (Odd count)) with ⟨recorded, isRecorded⟩
  rw [negated]
  refine ⟨plain, recorded, Builder.addFilter_of_recordedAs plainly builder,
    Builder.addFilter_of_recordedAs isRecorded builder, isRecorded.column?_eq,
    isRecorded.junction_eq, ?_⟩
  intro Value order interpretation value
  have plainHolds : plain.Holds interpretation value ↔
      operator.Holds interpretation value operand.scalars := by
    rw [plainly.holds_iff, ← sameScalars, xor_iff_iff_not]
    simp
  refine ⟨plainHolds, ?_⟩
  rw [isRecorded.holds_iff, plainHolds, ← sameScalars, decide_eq_true_iff]

/-- Record values are whole numbers, and nothing is like anything. -/
def wholeNumbers : Interpretation Int where
  value
    | .int number => number.toInt
    | _ => 0
  like _ _ := False

/-- A range that is given as a list is negated three times, on a builder with another condition. -/
theorem holds_of_iterate_negate_ages :
    let ages : FieldFilter := ⟨"age", .between, .pair (.int 18) (.int 65), false⟩
    let builder := (Builder.new "users").whereNull .or "removed"
    build "age" .between (.list [.int 18, .int 65]) = .ok ages ∧
      ∃ recorded : Condition,
        builder.addFilter (negate^[3] ages) = .ok (builder.push recorded) ∧
          recorded.column? = some "age" ∧ recorded.junction = .and ∧
          recorded.Holds wholeNumbers 70 ∧ ¬ recorded.Holds wholeNumbers 18 := by
  intro ages builder
  have builds : build "age" .between (.list [.int 18, .int 65]) = .ok ages := rfl
  rcases holds_of_iterate_negate builds 3 builder with
    ⟨plain, recorded, -, adds, column, junction, holds⟩
  refine ⟨builds, recorded, adds, column, junction, ?_, ?_⟩
  · rw [(holds wholeNumbers 70).2, (holds wholeNumbers 70).1, xor_iff_iff_not]
    simp only [Operator.Holds, Operand.scalars, wholeNumbers]
    decide
  · rw [(holds wholeNumbers 18).2, (holds wholeNumbers 18).1, xor_iff_iff_not]
    simp only [Operator.Holds, Operand.scalars, wholeNumbers]
    decide

end FieldFilter

end RestQuery
