import RestQuery.Query.FieldFilter

/-!
# Operands brought into shape

A range takes a pair of bounds, or a list of just two; membership takes anything with at least one
scalar; every other operator takes a single scalar and nothing else. `Operator.Takes` says which
operands these are, and `Operator.Fits` says what shape they end in.

Bringing an operand into shape keeps its scalars in order, and an operand in shape stays as it is.
So building a filter a second time gives the same filter, and `build_in_shape` says when it is built
at all.
-/

namespace RestQuery

namespace Operator

/-- The operands that a filter with the operator can be built from. -/
def Takes (operator : Operator) (operand : Operand) : Prop :=
  match operator with
  | .between => ∃ low high, operand = .pair low high ∨ operand = .list [low, high]
  | .oneOf | .noneOf => operand.scalars ≠ []
  | .equal | .notEqual | .less | .lessOrEqual | .greater | .greaterOrEqual | .like | .notLike =>
      ∃ scalar, operand = .single scalar

/-- The operands in the shape of the operator. -/
def Fits (operator : Operator) (operand : Operand) : Prop :=
  match operator with
  | .between => ∃ low high, operand = .pair low high
  | .oneOf | .noneOf => ∃ items, items ≠ [] ∧ operand = .list items
  | .equal | .notEqual | .less | .lessOrEqual | .greater | .greaterOrEqual | .like | .notLike =>
      ∃ scalar, operand = .single scalar

/-- The operators that compare with a single scalar. -/
inductive IsComparison : Operator → Prop where
  | equal : IsComparison .equal
  | notEqual : IsComparison .notEqual
  | less : IsComparison .less
  | lessOrEqual : IsComparison .lessOrEqual
  | greater : IsComparison .greater
  | greaterOrEqual : IsComparison .greaterOrEqual
  | like : IsComparison .like
  | notLike : IsComparison .notLike

/-- What an operator takes depends on its class alone. -/
theorem class_cases (operator : Operator) :
    operator = .between ∨ operator.isList = true ∨ operator.IsComparison := by
  cases operator with
  | between => exact .inl rfl
  | oneOf => exact .inr (.inl rfl)
  | noneOf => exact .inr (.inl rfl)
  | _ => exact .inr (.inr (by constructor))

variable {operator : Operator} {operand : Operand}

theorem eq_of_isList (isList : operator.isList = true) :
    operator = .oneOf ∨ operator = .noneOf := by
  cases operator with
  | oneOf => exact .inl rfl
  | noneOf => exact .inr rfl
  | _ => cases isList

theorem IsComparison.notRange (comparison : operator.IsComparison) :
    operator.isRange = false := by
  cases comparison <;> rfl

theorem IsComparison.notList (comparison : operator.IsComparison) : operator.isList = false := by
  cases comparison <;> rfl

theorem isComparison_of_single (notRange : operator.isRange = false)
    (notList : operator.isList = false) : operator.IsComparison := by
  rcases operator.class_cases with rfl | isList | comparison
  · cases notRange
  · cases notList.symm.trans isList
  · exact comparison

theorem takes_of_isList (isList : operator.isList = true) :
    operator.Takes operand ↔ operand.scalars ≠ [] := by
  rcases eq_of_isList isList with rfl | rfl <;> rfl

theorem fits_of_isList (isList : operator.isList = true) :
    operator.Fits operand ↔ ∃ items, items ≠ [] ∧ operand = .list items := by
  rcases eq_of_isList isList with rfl | rfl <;> rfl

theorem takes_of_isComparison (comparison : operator.IsComparison) :
    operator.Takes operand ↔ ∃ scalar, operand = .single scalar := by
  cases comparison <;> rfl

theorem fits_of_isComparison (comparison : operator.IsComparison) :
    operator.Fits operand ↔ ∃ scalar, operand = .single scalar := by
  cases comparison <;> rfl

end Operator

namespace FieldFilter

variable {operator : Operator} {operand shaped : Operand}

theorem shape?_of_fits (fits : operator.Fits operand) :
    shape? operator operand = some operand := by
  rcases operator.class_cases with rfl | isList | comparison
  · rcases fits with ⟨low, high, rfl⟩
    rfl
  · rcases (Operator.fits_of_isList isList).mp fits with ⟨items, nonempty, rfl⟩
    simp [shape?, Operator.isRange_of_isList isList, isList, nonempty]
  · rcases (Operator.fits_of_isComparison comparison).mp fits with ⟨scalar, rfl⟩
    simp [shape?, comparison.notRange, comparison.notList, Operand.single?]

theorem exists_shape?_of_takes (takes : operator.Takes operand) :
    ∃ shaped, shape? operator operand = some shaped ∧ operator.Fits shaped ∧
      shaped.scalars = operand.scalars := by
  rcases operator.class_cases with rfl | isList | comparison
  · rcases takes with ⟨low, high, rfl | rfl⟩
    · exact ⟨.pair low high, rfl, ⟨low, high, rfl⟩, rfl⟩
    · exact ⟨.pair low high, rfl, ⟨low, high, rfl⟩, rfl⟩
  · have nonempty := (Operator.takes_of_isList isList).mp takes
    refine ⟨.list operand.scalars, ?_, ?_, rfl⟩
    · simp [shape?, Operator.isRange_of_isList isList, isList, nonempty]
    · exact (Operator.fits_of_isList isList).mpr ⟨_, nonempty, rfl⟩
  · rcases (Operator.takes_of_isComparison comparison).mp takes with ⟨scalar, rfl⟩
    refine ⟨.single scalar, ?_, ?_, rfl⟩
    · simp [shape?, comparison.notRange, comparison.notList, Operand.single?]
    · exact (Operator.fits_of_isComparison comparison).mpr ⟨scalar, rfl⟩

theorem takes_of_shape? (shapes : shape? operator operand = some shaped) :
    operator.Takes operand := by
  rcases operator.class_cases with rfl | isList | comparison
  · simp only [shape?, Operator.isRange, ↓reduceIte] at shapes
    split at shapes
    · exact ⟨_, _, .inl rfl⟩
    · exact ⟨_, _, .inr rfl⟩
    · cases shapes
  · apply (Operator.takes_of_isList isList).mpr
    intro isEmpty
    simp [shape?, Operator.isRange_of_isList isList, isList, isEmpty] at shapes
  · apply (Operator.takes_of_isComparison comparison).mpr
    cases operand with
    | single scalar => exact ⟨scalar, rfl⟩
    | _ => simp [shape?, comparison.notRange, comparison.notList, Operand.single?] at shapes

theorem shape?_eq_none_iff : shape? operator operand = none ↔ ¬ operator.Takes operand := by
  constructor
  · intro noShape takes
    rcases exists_shape?_of_takes takes with ⟨shaped, shapes, -⟩
    simp [noShape] at shapes
  · intro notTaken
    cases shapes : shape? operator operand with
    | none => rfl
    | some shaped => exact absurd (takes_of_shape? shapes) notTaken

variable {field : String}

theorem build_of_shape? (shapes : shape? operator operand = some shaped) :
    build field operator operand = .ok ⟨field, operator, shaped, false⟩ := by
  simp [build, shapes]

theorem build_of_fits (fits : operator.Fits operand) :
    build field operator operand = .ok ⟨field, operator, operand, false⟩ :=
  build_of_shape? (shape?_of_fits fits)

theorem build_of_takes (field : String) (takes : operator.Takes operand) :
    ∃ shaped, build field operator operand = .ok ⟨field, operator, shaped, false⟩ ∧
      operator.Fits shaped ∧ shaped.scalars = operand.scalars := by
  rcases exists_shape?_of_takes takes with ⟨shaped, shapes, fits, sameScalars⟩
  exact ⟨shaped, build_of_shape? shapes, fits, sameScalars⟩

theorem build_of_not_takes (notTaken : ¬ operator.Takes operand) :
    build field operator operand =
      .error (.invalidArity operator (.ofOperator operator) operand.arity) := by
  simp [build, shape?_eq_none_iff.mpr notTaken]

theorem takes_of_build {filter : FieldFilter} (builds : build field operator operand = .ok filter) :
    operator.Takes operand := by
  by_cases takes : operator.Takes operand
  · exact takes
  · cases builds.symm.trans (build_of_not_takes takes)

theorem exists_of_build {filter : FieldFilter} (builds : build field operator operand = .ok filter) :
    ∃ shaped, filter = ⟨field, operator, shaped, false⟩ ∧ operator.Fits shaped ∧
      shaped.scalars = operand.scalars := by
  rcases build_of_takes field (takes_of_build builds) with
    ⟨shaped, expected, fits, sameScalars⟩
  exact ⟨shaped, Except.ok.inj (builds.symm.trans expected), fits, sameScalars⟩

/--
A filter is built exactly from the operands that its operator takes. It holds the same scalars in
the shape of the operator, and is built again from what it holds. Otherwise the failure names the
operator and the number of scalars that were given.
-/
theorem build_in_shape (field : String) (operator : Operator) (operand : Operand) :
    ((∃ filter, build field operator operand = .ok filter) ↔ operator.Takes operand) ∧
      (∀ filter, build field operator operand = .ok filter →
        filter.field = field ∧ filter.operator = operator ∧ filter.negated = false ∧
          operator.Fits filter.operand ∧ filter.operand.scalars = operand.scalars ∧
          build filter.field filter.operator filter.operand = .ok filter) ∧
      ∀ error, build field operator operand = .error error →
        error = .invalidArity operator (.ofOperator operator) operand.arity := by
  have exactDomain : (∃ filter, build field operator operand = .ok filter) ↔
      operator.Takes operand := by
    constructor
    · rintro ⟨filter, builds⟩
      exact takes_of_build builds
    · intro takes
      rcases build_of_takes field takes with ⟨shaped, builds, -⟩
      exact ⟨_, builds⟩
  refine ⟨exactDomain, ?_, ?_⟩
  · intro filter builds
    rcases exists_of_build builds with ⟨shaped, rfl, fits, sameScalars⟩
    exact ⟨rfl, rfl, rfl, fits, sameScalars, build_of_fits fits⟩
  · intro error fails
    have notTaken : ¬ operator.Takes operand := by
      intro takes
      rcases build_of_takes field takes with ⟨shaped, builds, -⟩
      cases fails.symm.trans builds
    exact (Except.error.inj ((build_of_not_takes notTaken).symm.trans fails)).symm

end FieldFilter

end RestQuery
