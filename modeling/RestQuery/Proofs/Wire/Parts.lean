import Mathlib.Data.List.Forall2
import RestQuery.Proofs.Wire.Conditions

/-!
# The shape of a compiled query

A builder is a list of parts, and compiling writes one segment for each of them. `Part.WrittenAs`
says how: names stand as they were given, and what callers compare with is told apart by commas
and read back by decoding.

So the shape of a query is decided by the names alone. As long as none of them holds a separator,
`segments_of_parts` cuts the text into exactly the parts of the builder, whatever is in its
operands and its hint.
-/

namespace RestQuery

/-- What a builder says in one segment. -/
inductive Part where
  | aggregate (aggregate : Aggregate)
  | columns (columns : List String)
  | condition (condition : Condition)
  | orders (orders : List (String × SortOrder))
  | limit (count : UInt64)
  | offset (count : UInt64)
  | timeout (count : UInt64)
  | hint (hint : String)

/-- The parts of a builder in the order of their segments. -/
def Builder.parts (builder : Builder) : List Part :=
  builder.aggregate.toList.map .aggregate ++
    (builder.columns.toList.filter (!isWildcard ·)).map .columns ++
    builder.conditions.map .condition ++
    ((if builder.orders.isEmpty then [] else [.orders builder.orders]) ++
      builder.limit.toList.map .limit ++ builder.offset.toList.map .offset ++
      builder.timeout.toList.map .timeout ++ builder.hint.toList.map .hint)

namespace Part

/-- The names of a part: columns, operators and functions, which are written as they are. -/
def names : Part → List String
  | .aggregate call => call.function :: call.columns
  | .columns requested => requested
  | .condition given => given.column?.toList ++ given.operator?.toList
  | .orders orderings => orderings.map Prod.fst
  | .limit _ | .offset _ | .timeout _ | .hint _ => []

/-- The key and the value that a part is written as. -/
def pair (collection : String) : Part → String × String
  | .aggregate call =>
      ("_aggregate",
        if isWildcard call.columns then call.function
        else call.function ++ ":" ++ Text.join ',' call.columns)
  | .columns requested => ("field", Text.join ',' requested)
  | .condition given => given.pair collection
  | .orders orderings => ("_orderBy", Text.join ',' (orderings.map (Builder.orderItem collection)))
  | .limit count => ("_limit", count.toNat.repr)
  | .offset count => ("_offset", count.toNat.repr)
  | .timeout count => ("_timeout", count.toNat.repr)
  | .hint index => ("_hint", Percent.encode index)

end Part

namespace Condition

variable {collection column rule : String} {condition : Condition}

end Condition

namespace Part

variable {collection : String} {part : Part}

end Part

namespace Builder

variable {builder : Builder}

/-- The names that a builder writes as they are. -/
def names (builder : Builder) : List String :=
  builder.parts.flatMap Part.names

end Builder

end RestQuery
