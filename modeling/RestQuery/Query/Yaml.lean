import RestQuery.Query
import RestQuery.Yaml.Printer

/-!
# Structured queries as YAML

The same records as in JSON. An alternative with content is written as a tag in front of the
content.
-/

namespace RestQuery

open Yaml (Value)

/-- A list of values. -/
def Yaml.Value.ofList {Item : Type} (encode : Item → Value) (items : List Item) : Value :=
  .sequence (items.map encode)

/-- A list of texts. -/
def Yaml.Value.ofTexts (texts : List String) : Value :=
  .ofList .text texts

/-- A number as it is written in YAML. -/
def Double.yamlText (number : Double) : String :=
  match number.view with
  | .nan => ".nan"
  | .infinite negative => if negative then "-.inf" else ".inf"
  | .finite .. => String.ofList number.jsonChars

def Scalar.toYaml : Scalar → Value
  | .bool value => .bool value
  | .int value => .number (Scalar.int value).display
  | .float value => .number value.yamlText
  | .text value => .text value

def Operand.toYaml : Operand → Value
  | .single scalar => .tagged "scalar" scalar.toYaml
  | .pair low high => .tagged "pair" (.sequence [low.toYaml, high.toYaml])
  | .list items => .tagged "list" (.ofList Scalar.toYaml items)

def FieldFilter.toYaml (filter : FieldFilter) : Value :=
  .mapping [("field", .text filter.field), ("operator", .text filter.operator.symbol),
    ("value", filter.operand.toYaml), ("negated", .bool filter.negated)]

def SortKey.toYaml (key : SortKey) : Value :=
  .mapping [("field", .text key.field), ("direction", .text key.direction.token)]

def Directive.toYaml (directive : Directive) : Value :=
  .mapping [("kind", .text directive.kind.name), ("value", .text directive.value)]

def Query.toYaml (query : Query) : Value :=
  let projection :=
    match query.projection with
    | none => []
    | some columns => [("projection", Value.ofTexts columns)]
  .mapping ([("filters", .ofList FieldFilter.toYaml query.filters),
    ("orders", .ofList SortKey.toYaml query.orders)] ++ projection ++
    [("directives", .ofList Directive.toYaml query.directives)])

end RestQuery
