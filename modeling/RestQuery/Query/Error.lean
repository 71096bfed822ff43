import RestQuery.Query.Operator
import RestQuery.Text.Split

/-!
# Errors of queries

What can go wrong when a query is built, bound or compiled. Reading a query string never fails:
what cannot be understood is dropped.
-/

namespace RestQuery

/-- How many operands an operator takes. -/
inductive Arity where
  | exactlyOne
  | exactlyTwo
  | atLeastOne
deriving DecidableEq, Repr

namespace Arity

def describe : Arity → String
  | exactlyOne => "exactly 1"
  | exactlyTwo => "exactly 2"
  | atLeastOne => "at least 1"

/-- The number of operands an operator takes. -/
def ofOperator (operator : Operator) : Arity :=
  if operator.isRange then exactlyTwo
  else if operator.isList then atLeastOne
  else exactlyOne

end Arity

/-- Why a query cannot be built, bound or compiled. -/
inductive QueryError where
  /-- The filter has no form in a query string. -/
  | notSupported (reason : String)
  /-- Columns were requested that the collection does not have. -/
  | invalidProjection (collection : String) (columns : List String)
  /-- An operator was given the wrong number of operands. -/
  | invalidArity (operator : Operator) (expected : Arity) (actual : Nat)
deriving DecidableEq, Repr

/-- The texts with a separating text between neighbours. -/
def separated (separator : String) : List String → String
  | [] => ""
  | [piece] => piece
  | piece :: next :: rest => piece ++ separator ++ separated separator (next :: rest)

/-- The wording of an error. -/
def QueryError.message : QueryError → String
  | notSupported reason => "not supported: " ++ reason
  | invalidProjection collection columns =>
      "invalid projection on '" ++ collection ++ "': unknown column(s) " ++
        separated ", " columns
  | invalidArity operator expected actual =>
      "operator '" ++ operator.symbol ++ "' expects " ++ expected.describe ++
        " value(s), got " ++ actual.repr

end RestQuery
