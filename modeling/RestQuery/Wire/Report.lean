import RestQuery.Query.Json
import RestQuery.Query.Yaml
import RestQuery.Wire.Event

/-!
# Reports of dropped fragments

What was dropped while a query string was read, as JSON and as YAML. A reason without content is
written as its name, any other as an alternative with content.
-/

namespace RestQuery

open Yaml (Value)

def DropReason.toJson : DropReason → Json
  | .missingOperator => .text "missing_operator"
  | .unknownOperator token => .object [("unknown_operator", .text token)]
  | .betweenArity bounds => .object [("between_arity", .int bounds)]
  | .missingDirection => .text "missing_direction"
  | .unknownDirective name => .object [("unknown_directive", .text name)]

def DroppedFragment.toJson (dropped : DroppedFragment) : Json :=
  .object [("key", .text dropped.key), ("fragment", .text dropped.fragment),
    ("reason", dropped.reason.toJson)]

def DropReason.toYaml : DropReason → Value
  | .missingOperator => .text "missing_operator"
  | .unknownOperator token => .tagged "unknown_operator" (.text token)
  | .betweenArity bounds => .tagged "between_arity" (.number bounds.repr)
  | .missingDirection => .text "missing_direction"
  | .unknownDirective name => .tagged "unknown_directive" (.text name)

def DroppedFragment.toYaml (dropped : DroppedFragment) : Value :=
  .mapping [("key", .text dropped.key), ("fragment", .text dropped.fragment),
    ("reason", dropped.reason.toYaml)]

end RestQuery
