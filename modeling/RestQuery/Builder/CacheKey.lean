import RestQuery.Builder.Json
import RestQuery.Digest.Md5

/-!
# Cache keys

The key under which the result of a builder may be stored is a digest of a text. The text holds the
conditions, columns, groups, orderings, offset, limit and aggregate, in this order. The collection,
the cursor options and flags such as `distinct` have no part in it.
-/

namespace RestQuery.Builder

/-- What the cache key depends on. -/
def cacheJson (builder : Builder) : Json :=
  .list [builder.conditionsJson, .ofOption Json.ofTexts builder.columns, .ofTexts builder.groups,
    builder.ordersJson, .ofOption Json.ofUnsigned builder.offset,
    .ofOption Json.ofUnsigned builder.limit, .ofOption Aggregate.toJson builder.aggregate]

/-- The text whose digest is the cache key. -/
def cacheText (builder : Builder) : String :=
  builder.cacheJson.render

/-- The cache key: thirty-two lower-case hexadecimal digits. -/
def cacheKey (builder : Builder) : String :=
  Md5.hex builder.cacheText

end RestQuery.Builder
