import RestQuery.Json.Printer
import RestQuery.Json.Reader
import RestQuery.Query

/-!
# Structured queries as JSON

Records are written with their fields in the order of declaration; a projection that is not set is
left out. Reading accepts a record as an object or as a list, and leaves the operands of a filter as
they are: they need not suit its operator.
-/

namespace RestQuery

open Json (Tree)

def Operator.toJson (operator : Operator) : Json :=
  .text operator.symbol

def Scalar.toJson : Scalar → Json
  | .bool value => .bool value
  | .int value => .int value.toInt
  | .float value => .float value
  | .text value => .text value

def Operand.toJson : Operand → Json
  | .single scalar => .object [("scalar", scalar.toJson)]
  | .pair low high => .object [("pair", .list [low.toJson, high.toJson])]
  | .list items => .object [("list", .ofList Scalar.toJson items)]

def FieldFilter.toJson (filter : FieldFilter) : Json :=
  .object [("field", .text filter.field), ("operator", filter.operator.toJson),
    ("value", filter.operand.toJson), ("negated", .bool filter.negated)]

def SortKey.toJson (key : SortKey) : Json :=
  .object [("field", .text key.field), ("direction", .text key.direction.token)]

def DirectiveKind.toJson (kind : DirectiveKind) : Json :=
  .text kind.name

def Directive.toJson (directive : Directive) : Json :=
  .object [("kind", directive.kind.toJson), ("value", .text directive.value)]

def Query.toJson (query : Query) : Json :=
  let projection :=
    match query.projection with
    | none => []
    | some columns => [("projection", Json.ofTexts columns)]
  .object ([("filters", .ofList FieldFilter.toJson query.filters),
    ("orders", .ofList SortKey.toJson query.orders)] ++ projection ++
    [("directives", .ofList Directive.toJson query.directives)])

def Operator.ofTree? (tree : Tree) : Option Operator :=
  tree.unitName?.bind Operator.ofSymbol?

/-- A truth value, a number or a text; a number that is no signed 64-bit integer is a double. -/
def Scalar.ofTree? : Tree → Option Scalar
  | .bool value => some (.bool value)
  | .text parts => (Json.partsText? parts).map .text
  | .number numeral =>
      match Json.ofNumeral? numeral with
      | some (.int value) =>
          if value ≤ Int64.maxValue.toInt then some (.int (Int64.ofInt value))
          else some (.float (Double.ofNat value.toNat))
      | some (.float value) => some (.float value)
      | _ => none
  | _ => none

def Operand.ofTree? (tree : Tree) : Option Operand :=
  match tree.variant? with
  | some ("scalar", content) => (Scalar.ofTree? content).map .single
  | some ("pair", .list [low, high]) =>
      match Scalar.ofTree? low, Scalar.ofTree? high with
      | some low, some high => some (.pair low high)
      | _, _ => none
  | some ("list", content) => (content.listOf? Scalar.ofTree?).map .list
  | _ => none

def FieldFilter.ofTree? (tree : Tree) : Option FieldFilter :=
  match tree.fields? [["field"], ["operator"], ["value"], ["negated"]] with
  | some [field, operator, operand, negated] => do
      let field ← Fields.required? Tree.text? field
      let operator ← Fields.required? Operator.ofTree? operator
      let operand ← Fields.required? Operand.ofTree? operand
      let negated ← Fields.defaulted? false Tree.bool? negated
      return ⟨field, operator, operand, negated⟩
  | _ => none

def SortKey.ofTree? (tree : Tree) : Option SortKey :=
  match tree.fields? [["field"], ["direction"]] with
  | some [field, direction] => do
      let field ← Fields.required? Tree.text? field
      let direction ← Fields.required? Tree.text? direction
      return ⟨field, ⟨direction⟩⟩
  | _ => none

def DirectiveKind.ofTree? (tree : Tree) : Option DirectiveKind :=
  tree.unitName?.bind DirectiveKind.ofName?

def Directive.ofTree? (tree : Tree) : Option Directive :=
  match tree.fields? [["kind"], ["value"]] with
  | some [kind, value] => do
      let kind ← Fields.required? DirectiveKind.ofTree? kind
      let value ← Fields.required? Tree.text? value
      return ⟨kind, value⟩
  | _ => none

def Query.ofTree? (tree : Tree) : Option Query :=
  match tree.fields? [["filters"], ["orders"], ["projection"], ["directives"]] with
  | some [filters, orders, projection, directives] => do
      let filters ← Fields.defaulted? [] (Tree.listOf? FieldFilter.ofTree?) filters
      let orders ← Fields.defaulted? [] (Tree.listOf? SortKey.ofTree?) orders
      let projection ← Fields.defaulted? none (Tree.optionOf? (Tree.listOf? Tree.text?)) projection
      let directives ← Fields.defaulted? [] (Tree.listOf? Directive.ofTree?) directives
      return ⟨filters, orders, projection, directives⟩
  | _ => none

/-- Reads a structured query from JSON text. -/
def Query.ofJsonText? (text : String) : Option Query :=
  (Tree.ofText? text).bind Query.ofTree?

end RestQuery
