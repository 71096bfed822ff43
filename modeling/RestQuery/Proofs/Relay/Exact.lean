import RestQuery.Proofs.Binding.Orders
import RestQuery.Proofs.Decimal.Unsigned
import RestQuery.Proofs.Relay.Recorded

/-!
# What is sent on means the same

`IsRelayable` collects the limits of the wire grammar: keys that stand for themselves, columns
that do not look qualified, no operator and no directive that readers lack. Within them a query
string that is sent on asks for what came in, with its orderings merged.

The proof goes through the recorded builder. Reading what was sent on gives the same filters, the
same page and orderings that record the same, so the second builder is the first one, and
sending on once more changes nothing.
-/

namespace RestQuery

open Builder (orderColumn)

/-- A query string that can be sent on without loss. -/
@[mk_iff]
structure IsRelayable (collection raw : String) : Prop where
  keys : ∀ pair ∈ decodedPairs raw, pair.1.toList.head? ≠ some '!' ∧ pair.1.toList.head? ≠ some '?'
  fields : ∀ filter ∈ (parseQueryString raw).query.filters,
    ('&' ∉ filter.field.toList ∧ '=' ∉ filter.field.toList ∧ '%' ∉ filter.field.toList ∧
      '+' ∉ filter.field.toList) ∧ IsUnqualified collection filter.field
  operators : ∀ filter ∈ (parseQueryString raw).query.filters, filter.operator ≠ .noneOf
  orders : ∀ order ∈ (parseQueryString raw).query.orders,
    IsPlainSortColumn order.field ∧ IsUnqualified collection order.field
  directives : ∀ directive ∈ (parseQueryString raw).query.directives,
    directive.kind ≠ .null ∧ directive.kind ≠ .notNull

instance (collection raw : String) : Decidable (IsRelayable collection raw) :=
  decidable_of_iff' _ (isRelayable_iff collection raw)

theorem recorded_orders (collection raw : String) :
    (recorded collection raw).orders = recordOrders (parseQueryString raw).query.orders [] := by
  simp only [recorded_eq, Query.recordedOn, Builder.new]

theorem recorded_limit (collection raw : String) :
    (recorded collection raw).limit = (parseQueryString raw).query.limit? := by
  rw [recorded_eq, Query.recordedOn]
  simp [Builder.new]

theorem recorded_offset (collection raw : String) :
    (recorded collection raw).offset = (parseQueryString raw).query.offset? := by
  rw [recorded_eq, Query.recordedOn]
  simp [Builder.new]

theorem nullConditions_eq_nil {directives : List Directive}
    (noNulls : ∀ directive ∈ directives, directive.kind ≠ .null ∧ directive.kind ≠ .notNull) :
    directives.flatMap Directive.nullConditions = [] := by
  rw [List.flatMap_eq_nil_iff]
  intro directive directiveMem
  have noNull := noNulls directive directiveMem
  unfold Directive.nullConditions
  split <;> simp_all

theorem recordedOn_congr {left right : Query} {builder : Builder}
    (filters : left.filters = right.filters)
    (nulls : left.directives.flatMap Directive.nullConditions =
      right.directives.flatMap Directive.nullConditions)
    (orders : recordOrders left.orders builder.orders = recordOrders right.orders builder.orders)
    (limit : left.limit? = right.limit?) (offset : left.offset? = right.offset?) :
    left.recordedOn builder = right.recordedOn builder := by
  rw [Query.recordedOn, Query.recordedOn, filters, nulls, orders, limit, offset]

theorem orderColumn_eq (column : String) :
    orderColumn column = "$natural" ∨ orderColumn column = column := by
  unfold orderColumn
  split
  · exact Or.inl rfl
  · exact Or.inr rfl

section Relay

variable {collection raw : String} (relayable : IsRelayable collection raw)

include relayable

theorem field_of_isRelayable {filter : FieldFilter}
    (filterMem : filter ∈ (parseQueryString raw).query.filters) : IsPlainKey filter.field := by
  rcases isRead_parseQueryString filterMem with ⟨-, noName, pair, pairMem, sameKey⟩
  rcases relayable.keys pair pairMem with ⟨noMark, noQuestionMark⟩
  rw [bareKey, Text.dropLeading?_of_head? noMark, Option.getD_none] at sameKey
  rw [sameKey] at noMark noQuestionMark
  rcases (relayable.fields filter filterMem).1 with ⟨noAmpersand, noEquals, noPercent, noPlus⟩
  exact
    { noAmpersand
      noEquals
      noPercent
      noPlus
      noMark
      noQuestionMark
      isFieldName := isFieldName_of_directiveName? noName }

theorem wireColumn_of_isRelayable {filter : FieldFilter}
    (filterMem : filter ∈ (parseQueryString raw).query.filters) :
    filter.condition.wireColumn collection = filter.field := by
  rw [FieldFilter.wireColumn_condition]
  exact stripCollection_of_isUnqualified (relayable.fields filter filterMem).2

theorem orderColumn_of_isRelayable {order : String × SortOrder}
    (orderMem : order ∈ (recorded collection raw).orders) :
    IsPlainSortColumn order.1 ∧ stripCollection collection order.1 = order.1 := by
  rw [recorded_orders, recordOrders_nil] at orderMem
  rcases List.mem_map.mp orderMem with ⟨column, columnMem, rfl⟩
  rcases List.mem_map.mp (List.mem_eraseDups.mp columnMem) with ⟨given, givenMem, rfl⟩
  rcases relayable.orders given givenMem with ⟨plain, unqualified⟩
  have plainNatural : IsPlainSortColumn "$natural" := by decide
  rcases orderColumn_eq given.field with natural | same
  · rw [natural]
    have unqualifiedNatural := isUnqualified_of_noDot (by decide : '.' ∉ "$natural".toList) collection
    exact ⟨plainNatural, stripCollection_of_isUnqualified unqualifiedNatural⟩
  · rw [same]
    exact ⟨plain, stripCollection_of_isUnqualified unqualified⟩

theorem conditions_of_isRelayable :
    (recorded collection raw).conditions =
      (parseQueryString raw).query.filters.map FieldFilter.condition := by
  rw [conditions_recorded, nullConditions_eq_nil relayable.directives, List.append_nil]

/-- What can be sent on without loss is recorded by a builder that can be read. -/
theorem isReadable_recorded : (recorded collection raw).IsReadable where
  toIsSearch := isSearch_recorded
  conditions := by
    intro condition conditionMem
    have form := hasReadableForm_recorded condition conditionMem
    rw [conditions_of_isRelayable relayable] at conditionMem
    rcases List.mem_map.mp conditionMem with ⟨filter, filterMem, rfl⟩
    refine ⟨?_, form⟩
    rw [collection_recorded, wireColumn_of_isRelayable relayable filterMem]
    exact field_of_isRelayable relayable filterMem
  orders := by
    intro order orderMem
    rcases orderColumn_of_isRelayable relayable orderMem with ⟨plain, unqualified⟩
    rw [collection_recorded, unqualified]
    exact plain

/-- The filters of a query string come in groups already, one for each key. -/
theorem regroup_filters :
    regroup FieldFilter.field (parseQueryString raw).query.filters =
      (parseQueryString raw).query.filters := by
  have grouped := filters_parseQueryString raw
  rw [regroup, List.flatMap_assoc] at grouped
  rw [grouped]
  -- No key has a mark in front, so the filters of one key all have that key as their field.
  apply regroup_flatMap (nodup_eraseDups _)
  intro key filter filterMem
  rcases List.mem_flatMap.mp filterMem with ⟨pair, pairMem, eventMem⟩
  rcases List.mem_filter.mp pairMem with ⟨given, sameKey⟩
  have field := (isRead_of_mem_pairEvents (mem_filterMap_filter?.mp eventMem)).2.1
  rw [bareKey, Text.dropLeading?_of_head? (relayable.keys pair given).1, Option.getD_none] at field
  rw [field]
  simpa using sameKey

theorem groupedConditions_recorded :
    (recorded collection raw).groupedConditions =
      (parseQueryString raw).query.filters.map FieldFilter.condition := by
  have sameGroups : regroup (fun filter : FieldFilter =>
        (filter.condition.junction, filter.condition.wireColumn collection))
      (parseQueryString raw).query.filters =
      regroup FieldFilter.field (parseQueryString raw).query.filters := by
    apply regroup_congr
    intro left leftMem right rightMem
    rw [FieldFilter.junction_condition, FieldFilter.junction_condition,
      wireColumn_of_isRelayable relayable leftMem, wireColumn_of_isRelayable relayable rightMem]
    simp
  rw [Builder.groupedConditions, conditions_of_isRelayable relayable, regroup_map,
    collection_recorded, sameGroups, regroup_filters relayable]

theorem filters_readBack :
    (recorded collection raw).readBack.query.filters = (parseQueryString raw).query.filters := by
  have filterOf : ∀ filter ∈ (parseQueryString raw).query.filters,
      (Condition.filter? collection ∘ FieldFilter.condition) filter = some filter :=
    fun filter filterMem =>
      FieldFilter.filter?_condition (isRead_parseQueryString filterMem).1
        (relayable.operators filter filterMem)
        (stripCollection_of_isUnqualified (relayable.fields filter filterMem).2)
  rw [Builder.readBack, groupedConditions_recorded relayable, collection_recorded,
    List.filterMap_map, List.filterMap_congr filterOf, List.filterMap_some]

theorem orders_readBack :
    (recorded collection raw).readBack.query.orders =
      mergedOrders (parseQueryString raw).query.orders := by
  rw [Builder.readBack, Builder.readOrders, ← map_recordOrders, ← recorded_orders collection,
    collection_recorded]
  apply List.map_congr_left
  intro order orderMem
  simp only [(orderColumn_of_isRelayable relayable orderMem).2]

end Relay

namespace Builder

variable (builder : Builder)

theorem limit?_readBack : builder.readBack.query.limit? = builder.limit := by
  unfold readBack readDirectives Query.limit? Query.paging? Query.directive?
  cases builder.limit with
  | none => cases builder.offset <;> rfl
  | some count => simpa using readUnsigned?_repr count

theorem offset?_readBack : builder.readBack.query.offset? = builder.offset := by
  unfold readBack readDirectives Query.offset? Query.paging? Query.directive?
  cases builder.offset with
  | none => cases builder.limit <;> rfl
  | some count => cases builder.limit <;> simpa using readUnsigned?_repr count

theorem nullConditions_readBack :
    builder.readBack.query.directives.flatMap Directive.nullConditions = [] := by
  unfold readBack readDirectives
  cases builder.limit <;> cases builder.offset <;> rfl

end Builder

/-- The query string that is sent on is recorded as the one that came in. -/
theorem recorded_relay {collection raw query : String} (relayable : IsRelayable collection raw)
    (parsed : parseQueryString query = (recorded collection raw).readBack) :
    recorded collection query = recorded collection raw := by
  rw [recorded_eq, recorded_eq, parsed]
  apply recordedOn_congr
  · exact filters_readBack relayable
  · rw [Builder.nullConditions_readBack, nullConditions_eq_nil relayable.directives]
  · rw [orders_readBack relayable]
    exact recordOrders_mergedOrders (parseQueryString raw).query.orders
  · rw [Builder.limit?_readBack, recorded_limit]
  · rw [Builder.offset?_readBack, recorded_offset]

/-- Sending on keeps filters and page, merges the orderings, and changes nothing a second time. -/
theorem relay_exact {collection raw : String} (relayable : IsRelayable collection raw) :
    ∃ query, relay collection raw = .ok query ∧
      (parseQueryString query).query.filters = (parseQueryString raw).query.filters ∧
      (parseQueryString query).query.limit? = (parseQueryString raw).query.limit? ∧
      (parseQueryString query).query.offset? = (parseQueryString raw).query.offset? ∧
      (parseQueryString query).query.orders = mergedOrders (parseQueryString raw).query.orders ∧
      relay collection query = .ok query := by
  refine ⟨_, relay_eq, ?_⟩
  have parsed := Builder.parseQueryString_join_pairs (isReadable_recorded relayable)
  have again := recorded_relay relayable parsed
  rw [relay_eq, again, parsed]
  refine ⟨filters_readBack relayable, ?_, ?_, orders_readBack relayable, rfl⟩
  · rw [Builder.limit?_readBack, recorded_limit]
  · rw [Builder.offset?_readBack, recorded_offset]

/-- A repeated key, an escaped comma, a dropped condition and an ordering that is merged. -/
def memberQuery : String :=
  "age=gt:18&name=in:a%2Cb,c&age=lt:65&x=y&_orderBy=natural:d,natural:1&_limit=+9"

theorem isRelayable_memberQuery : IsRelayable "members" memberQuery := by
  decide +kernel

theorem relay_exact_memberQuery :
    IsRelayable "members" memberQuery ∧
      ∃ query, relay "members" memberQuery = .ok query ∧
        (parseQueryString query).query.filters = (parseQueryString memberQuery).query.filters ∧
        (parseQueryString query).query.limit? = (parseQueryString memberQuery).query.limit? ∧
        (parseQueryString query).query.offset? = (parseQueryString memberQuery).query.offset? ∧
        (parseQueryString query).query.orders =
          mergedOrders (parseQueryString memberQuery).query.orders ∧
        relay "members" query = .ok query :=
  ⟨isRelayable_memberQuery, relay_exact isRelayable_memberQuery⟩

end RestQuery
