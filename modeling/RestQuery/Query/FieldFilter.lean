import RestQuery.Query.Error
import RestQuery.Query.Operand

/-!
# Field filters

A filter is one condition on a field. `FieldFilter.build` brings the operand into the shape that
the operator takes and refuses an operand that cannot be brought into it. A filter that is put
together field by field, as one read from JSON is, has no such guarantee.
-/

namespace RestQuery

/-- One condition on a field. -/
structure FieldFilter where
  field : String
  operator : Operator
  operand : Operand
  /-- The whole condition is negated. Query strings never set this. -/
  negated : Bool
deriving DecidableEq, Repr, Inhabited

namespace FieldFilter

/-- The operand in the shape that an operator takes, if it has the right number of scalars. -/
def shape? (operator : Operator) (operand : Operand) : Option Operand :=
  if operator.isRange then
    match operand with
    | .pair low high => some (.pair low high)
    | .list [low, high] => some (.pair low high)
    | _ => none
  else if operator.isList then
    if operand.scalars.isEmpty then none else some (.list operand.scalars)
  else operand.single?.map .single

/-- A filter whose operand suits its operator. -/
def build (field : String) (operator : Operator) (operand : Operand) :
    Except QueryError FieldFilter :=
  match shape? operator operand with
  | some operand => .ok ⟨field, operator, operand, false⟩
  | none => .error (.invalidArity operator (.ofOperator operator) operand.arity)

/-- The filter with its negation flipped. -/
def negate (filter : FieldFilter) : FieldFilter :=
  { filter with negated := !filter.negated }

end FieldFilter

end RestQuery
