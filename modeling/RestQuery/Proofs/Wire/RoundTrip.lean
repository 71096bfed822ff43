import RestQuery.Proofs.Wire.Conditions
import RestQuery.Proofs.Wire.WrittenPairs

/-!
# Compiling and reading back

`Builder.readBack` states what a reader is told by the query string of a builder: the conditions,
brought together by junction and column, each as its filter or as the fragment that is dropped;
the orderings; limit and offset; and the columns of the conditions that are joined with "or", as
negated keys. `parseQueryString_compile` proves that reading the compiled text gives exactly this.

The exclamation mark of an "or" is part of the key, which is why a column that is joined in both
ways makes two groups. Dropped conditions hold the place of their group all the same.
-/

namespace RestQuery

/-- A column that stands for itself in an ordering. -/
@[mk_iff]
structure IsPlainSortColumn (column : String) : Prop where
  noAmpersand : '&' ∉ column.toList
  noPercent : '%' ∉ column.toList
  noPlus : '+' ∉ column.toList
  noComma : ',' ∉ column.toList
  noColon : ':' ∉ column.toList

instance (column : String) : Decidable (IsPlainSortColumn column) :=
  decidable_of_iff' _ (isPlainSortColumn_iff column)

namespace Builder

/-- A search whose conditions and orderings the wire grammar carries. -/
@[mk_iff]
structure IsReadable (builder : Builder) : Prop extends builder.IsSearch where
  conditions : ∀ condition ∈ builder.conditions, condition.IsReadable builder.collection
  orders : ∀ order ∈ builder.orders,
    IsPlainSortColumn (stripCollection builder.collection order.1)

instance (builder : Builder) : Decidable builder.IsSearch :=
  decidable_of_iff' _ (isSearch_iff builder)

instance (builder : Builder) : Decidable builder.IsReadable :=
  decidable_of_iff' _ (isReadable_iff builder)

/-- The orderings as they are read: the column as it is written, the direction as a sign. -/
def readOrders (builder : Builder) : List SortKey :=
  builder.orders.map fun (column, order) =>
    ⟨stripCollection builder.collection column, .ofSortOrder order⟩

/-- The conditions brought together by junction and written column. -/
def groupedConditions (builder : Builder) : List Condition :=
  regroup (fun condition => (condition.junction, condition.wireColumn builder.collection))
    builder.conditions

def readDirectives (builder : Builder) : List Directive :=
  builder.limit.toList.map (fun count => ⟨.limit, count.toNat.repr⟩) ++
    builder.offset.toList.map fun count => ⟨.offset, count.toNat.repr⟩

/-- What the query string of a builder means to its reader. -/
def readBack (builder : Builder) : Parsed where
  query :=
    { filters := builder.groupedConditions.filterMap (Condition.filter? builder.collection)
      orders := builder.readOrders
      projection := none
      directives := builder.readDirectives }
  dropped := builder.groupedConditions.filterMap (Condition.dropped? builder.collection)
  negatedKeys :=
    ((builder.conditions.filter (·.junction = .or)).map
      (Condition.wireColumn builder.collection)).eraseDups

end Builder

namespace Condition

variable {collection : String} {condition : Condition}

theorem pair_fst (form : condition.HasReadableForm) :
    (condition.pair collection).1 = condition.marker ++ condition.wireColumn collection := by
  cases condition with
  | nested group junction => exact absurd form id
  | _ => rfl

/-- The mark in front of the key is all that the junction adds. -/
theorem dropLeading?_pair (readable : condition.IsReadable collection) :
    Text.dropLeading? '!' (condition.pair collection).1 =
      match condition.junction with
      | .and => none
      | .or => some (condition.wireColumn collection) := by
  rw [pair_fst readable.2, marker]
  cases condition.junction with
  | and => simpa using Text.dropLeading?_of_head? readable.1.noMark
  | or => exact Text.dropLeading?_append (by decide) _

theorem bareKey_pair (readable : condition.IsReadable collection) :
    bareKey (condition.pair collection).1 = condition.wireColumn collection := by
  rw [bareKey, dropLeading?_pair readable, pair_fst readable.2, marker]
  cases condition.junction with
  | and => simp
  | or => rfl

theorem pair_fst_inj {other : Condition} (readable : condition.IsReadable collection)
    (otherReadable : other.IsReadable collection) :
    (condition.pair collection).1 = (other.pair collection).1 ↔
      (condition.junction, condition.wireColumn collection) =
        (other.junction, other.wireColumn collection) := by
  constructor
  · intro sameKey
    have sameColumn : condition.wireColumn collection = other.wireColumn collection := by
      rw [← bareKey_pair readable, ← bareKey_pair otherReadable, sameKey]
    have sameMark := congrArg (Text.dropLeading? '!') sameKey
    rw [dropLeading?_pair readable, dropLeading?_pair otherReadable] at sameMark
    rw [sameColumn, Prod.mk.injEq]
    refine ⟨?_, rfl⟩
    cases junction : condition.junction <;> cases otherJunction : other.junction <;>
      simp [junction, otherJunction] at sameMark ⊢
  · intro same
    rw [Prod.mk.injEq] at same
    rw [pair_fst readable.2, pair_fst otherReadable.2,
      marker, marker, same.1, same.2]

/-- The value of a condition never holds the character between segments. -/
theorem notMem_pair_snd (form : condition.HasReadableForm) :
    '&' ∉ (condition.pair collection).2.toList := by
  have plainOperator : ∀ operator ∈ condition.operator?, '&' ∉ operator.toList := by
    intro operator isOperator
    cases condition <;> cases isOperator
    exact notMem_of_mem_singleSymbols form
  cases hasRule : condition.rule? with
  | none => simp [pair, pair?, hasRule]
  | some rule => simpa [pair, pair?, hasRule] using notMem_rule hasRule plainOperator

theorem isPlainPair_pair (readable : condition.IsReadable collection) :
    IsPlainPair (condition.pair collection) := by
  have keyChars {char : Char} (notMark : char ≠ '!')
      (absent : char ∉ (condition.wireColumn collection).toList) :
      char ∉ (condition.pair collection).1.toList := by
    rw [pair_fst readable.2, String.toList_append, List.mem_append, not_or]
    refine ⟨?_, absent⟩
    unfold marker
    cases condition.junction <;> simp [notMark]
  exact
    { noAmpersand := keyChars (by decide) readable.1.noAmpersand
      noEquals := keyChars (by decide) readable.1.noEquals
      noPercent := keyChars (by decide) readable.1.noPercent
      noPlus := keyChars (by decide) readable.1.noPlus
      valueNoAmpersand := notMem_pair_snd readable.2 }

end Condition

namespace Builder

def settingEvents (builder : Builder) : List Event :=
  builder.readOrders.map Event.order ++
    builder.limit.toList.map (fun count => .directive .limit count.toNat.repr) ++
    builder.offset.toList.map (fun count => .directive .offset count.toNat.repr)

variable {builder : Builder}

theorem decode_repr (count : Nat) : Percent.decode count.repr = count.repr :=
  Percent.decode_of_plain (notMem_repr (by decide) count) (notMem_repr (by decide) count)

/-- One written ordering is read as its column and sign. -/
theorem orderEvent_orderItem {collection : String} {order : String × SortOrder}
    (plain : IsPlainSortColumn (stripCollection collection order.1)) (key : String) :
    orderEvent .written key (orderItem collection order) =
      .order ⟨stripCollection collection order.1, .ofSortOrder order.2⟩ := by
  have noColonSign : ':' ∉ order.2.signText.toList :=
    notMem_signText (by decide) (by decide) order.2
  have signDecoded : Percent.decode order.2.signText = order.2.signText :=
    Percent.decode_of_plain (notMem_signText (by decide) (by decide) order.2)
      (notMem_signText (by decide) (by decide) order.2)
  have pieces : Text.split ':' (orderItem collection order) =
      [stripCollection collection order.1, order.2.signText] := by
    rw [orderItem, Text.split_append (by decide), Text.split_of_notMem plain.noColon,
      Text.split_of_notMem noColonSign]
    rfl
  simp only [orderEvent, pieces, ValueForm.text,
    Percent.decode_of_plain plain.noPlus plain.noPercent, signDecoded]
  rfl

theorem pairEvents_orderPairs (readable : builder.IsReadable) :
    builder.orderPairs.flatMap (fun pair => pairEvents .written (bareKey pair.1) pair.2) =
      builder.readOrders.map Event.order := by
  unfold orderPairs readOrders
  by_cases none : builder.orders.isEmpty
  · simp [List.isEmpty_iff.mp none]
  · have someOrders : builder.orders ≠ [] := by simpa using none
    have pieces :
        Text.split ',' (Text.join ',' (builder.orders.map (orderItem builder.collection))) =
          builder.orders.map (orderItem builder.collection) := by
      apply Text.split_join_of_notMem (by simpa using someOrders)
      intro piece pieceMem
      rcases List.mem_map.mp pieceMem with ⟨order, orderMem, rfl⟩
      exact notMem_orderItem (readable.orders order orderMem).noComma (by decide) (by decide)
        (by decide)
    have name : directiveName? (bareKey "_orderBy") = some "orderby" := by decide
    simp only [none, Bool.false_eq_true, ↓reduceIte, List.flatMap_cons, List.flatMap_nil,
      List.append_nil, pairEvents, name, directiveEvents, pieces, List.map_map]
    apply List.map_congr_left
    intro order orderMem
    exact orderEvent_orderItem (readable.orders order orderMem) _

theorem pairEvents_countPairs {key name : String} {kind : DirectiveKind}
    (named : directiveName? (bareKey key) = some name)
    (known : DirectiveKind.ofName? name = some kind) (notOrder : name ≠ "orderby")
    (notField : name ≠ "field") (count : Option UInt64) :
    (countPairs key count).flatMap (fun pair => pairEvents .written (bareKey pair.1) pair.2) =
      count.toList.map fun count => .directive kind count.toNat.repr := by
  cases count with
  | none => rfl
  | some count =>
      simp [countPairs, pairEvents, named, directiveEvents, known, notOrder, notField,
        ValueForm.text, decode_repr]

theorem pairEvents_settingPairs (readable : builder.IsReadable) :
    builder.settingPairs.flatMap (fun pair => pairEvents .written (bareKey pair.1) pair.2) =
      builder.settingEvents := by
  have limitName : directiveName? (bareKey "_limit") = some "limit" := by decide
  have offsetName : directiveName? (bareKey "_offset") = some "offset" := by decide
  have limitKind : DirectiveKind.ofName? "limit" = some .limit := by decide
  have offsetKind : DirectiveKind.ofName? "offset" = some .offset := by decide
  rw [settingPairs, List.flatMap_append, List.flatMap_append, pairEvents_orderPairs readable,
    pairEvents_countPairs limitName limitKind (by decide) (by decide),
    pairEvents_countPairs offsetName offsetKind (by decide) (by decide),
    settingEvents]

theorem mem_settingPairs_fst {pair : String × String} (pairMem : pair ∈ builder.settingPairs) :
    pair.1 ∈ ["_orderBy", "_limit", "_offset"] := by
  simp only [settingPairs, orderPairs, countPairs, List.mem_append, List.mem_map] at pairMem
  rcases pairMem with (orderMem | ⟨count, -, rfl⟩) | ⟨count, -, rfl⟩
  · split at orderMem
    · simp at orderMem
    · simp [List.mem_singleton.mp orderMem]
  · simp
  · simp

theorem nodup_settingPairs : (builder.settingPairs.map Prod.fst).Nodup := by
  unfold settingPairs orderPairs countPairs
  cases builder.limit <;> cases builder.offset <;> cases builder.orders <;> simp

theorem isPlainPair_settingPairs (readable : builder.IsReadable) {pair : String × String}
    (pairMem : pair ∈ builder.settingPairs) : IsPlainPair pair := by
  have keyChars : ∀ key ∈ ["_orderBy", "_limit", "_offset"],
      '&' ∉ key.toList ∧ '=' ∉ key.toList ∧ '%' ∉ key.toList ∧ '+' ∉ key.toList := by
    decide
  have valueChars : '&' ∉ pair.2.toList := by
    simp only [settingPairs, orderPairs, countPairs, List.mem_append, List.mem_map] at pairMem
    rcases pairMem with (orderMem | ⟨count, -, rfl⟩) | ⟨count, -, rfl⟩
    · split at orderMem
      · simp at orderMem
      · rw [List.mem_singleton.mp orderMem]
        apply Text.notMem_join (by decide)
        intro piece pieceMem
        rcases List.mem_map.mp pieceMem with ⟨order, orderMem, rfl⟩
        exact notMem_orderItem (readable.orders order orderMem).noAmpersand (by decide)
          (by decide) (by decide)
    · exact notMem_repr (by decide) _
    · exact notMem_repr (by decide) _
  rcases keyChars pair.1 (mem_settingPairs_fst pairMem) with
    ⟨noAmpersand, noEquals, noPercent, noPlus⟩
  exact ⟨noAmpersand, noEquals, noPercent, noPlus, valueChars⟩

theorem isFlat_of_isReadable (readable : builder.IsReadable) : builder.IsFlat :=
  fun condition conditionMem =>
    Condition.isFlat_of_hasReadableForm (readable.conditions condition conditionMem).2

theorem isPlainPair_pairs (readable : builder.IsReadable) :
    ∀ pair ∈ builder.pairs, IsPlainPair pair := by
  intro pair pairMem
  rw [pairs_of_isSearch readable.toIsSearch, List.mem_append] at pairMem
  rcases pairMem with conditionMem | settingMem
  · rcases List.mem_map.mp conditionMem with ⟨condition, found, rfl⟩
    exact Condition.isPlainPair_pair (readable.conditions condition found)
  · exact isPlainPair_settingPairs readable settingMem

theorem lacksQuestionMark_pairs (readable : builder.IsReadable) :
    LacksQuestionMark builder.pairs := by
  intro pair isFirst
  have pairMem : pair ∈ builder.pairs := List.mem_of_head? isFirst
  rw [pairs_of_isSearch readable.toIsSearch, List.mem_append] at pairMem
  rcases pairMem with conditionMem | settingMem
  · rcases List.mem_map.mp conditionMem with ⟨condition, found, rfl⟩
    have conditionReadable := readable.conditions condition found
    rw [Condition.pair_fst conditionReadable.2, Condition.marker]
    cases condition.junction with
    | and => simpa using conditionReadable.1.noQuestionMark
    | or => simp
  · have keyStart : ∀ key ∈ ["_orderBy", "_limit", "_offset"], key.toList.head? ≠ some '?' := by
      decide
    exact keyStart pair.1 (mem_settingPairs_fst settingMem)

theorem pair_fst_ne_setting (readable : builder.IsReadable) :
    ∀ first ∈ builder.conditions.map (Condition.pair builder.collection),
      ∀ second ∈ builder.settingPairs, first.1 ≠ second.1 := by
  intro first firstMem second secondMem sameKey
  rcases List.mem_map.mp firstMem with ⟨condition, conditionMem, rfl⟩
  have conditionReadable := readable.conditions condition conditionMem
  have noName := directiveName?_of_isFieldName conditionReadable.1.isFieldName
  rw [← Condition.bareKey_pair conditionReadable, sameKey] at noName
  have named : ∀ key ∈ ["_orderBy", "_limit", "_offset"],
      directiveName? (bareKey key) ≠ none := by
    decide
  exact named second.1 (mem_settingPairs_fst secondMem) noName

/-- The pairs regrouped by key are the conditions regrouped, with the other pairs behind them. -/
theorem regroup_pairs (readable : builder.IsReadable) :
    regroup Prod.fst builder.pairs =
      builder.groupedConditions.map (Condition.pair builder.collection) ++
        builder.settingPairs := by
  rw [pairs_of_isSearch readable.toIsSearch, regroup_append (pair_fst_ne_setting readable),
    regroup_of_nodup nodup_settingPairs, regroup_map, groupedConditions]
  congr 2
  apply regroup_congr
  intro left leftMem right rightMem
  exact Condition.pair_fst_inj (readable.conditions left leftMem)
    (readable.conditions right rightMem)

/-- Whatever is selected from the events comes from the grouped conditions and the settings. -/
theorem filterMap_events_pairs (readable : builder.IsReadable) {Selected : Type}
    {select : Event → Option Selected} (unmarked : ∀ key, select (.negatedKey key) = none) :
    ((Parameters.ofPairs builder.pairs).events .written).filterMap select =
      (builder.groupedConditions.flatMap fun condition =>
        ((condition.filter? builder.collection).toList.map Event.filter ++
          (condition.dropped? builder.collection).toList.map Event.drop).filterMap select) ++
        builder.settingEvents.filterMap select := by
  rw [Parameters.filterMap_events unmarked, regroup_pairs readable, List.flatMap_append,
    List.flatMap_map, ← pairEvents_settingPairs readable, List.filterMap_flatMap]
  congr 1
  apply List.flatMap_congr
  intro condition conditionMem
  have conditionReadable := readable.conditions condition (mem_regroup.mp conditionMem)
  rw [Condition.bareKey_pair conditionReadable, Condition.pairEvents_pair conditionReadable]

section Selection

variable (filter : Option FieldFilter) (dropped : Option DroppedFragment)

theorem filterMap_filter? :
    (filter.toList.map Event.filter ++ dropped.toList.map Event.drop).filterMap Event.filter? =
      filter.toList := by
  cases filter <;> cases dropped <;> rfl

theorem filterMap_dropped? :
    (filter.toList.map Event.filter ++ dropped.toList.map Event.drop).filterMap Event.dropped? =
      dropped.toList := by
  cases filter <;> cases dropped <;> rfl

theorem filterMap_other {Selected : Type} {select : Event → Option Selected}
    (noFilter : ∀ added, select (.filter added) = none)
    (noDrop : ∀ fragment, select (.drop fragment) = none) :
    (filter.toList.map Event.filter ++ dropped.toList.map Event.drop).filterMap select = [] := by
  cases filter <;> cases dropped <;> simp [noFilter, noDrop]

end Selection

theorem filterMap_settingEvents {Selected : Type} {select : Event → Option Selected}
    (noOrder : ∀ key, select (.order key) = none)
    (noDirective : ∀ kind value, select (.directive kind value) = none) :
    builder.settingEvents.filterMap select = [] := by
  simp [settingEvents, List.filterMap_map, noOrder, noDirective]

theorem filterMap_order?_settingEvents :
    builder.settingEvents.filterMap Event.order? = builder.readOrders := by
  simp [settingEvents, List.filterMap_map, Function.comp_def, Event.order?]

theorem putDirectives_settingEvents :
    putDirectives (builder.settingEvents.filterMap Event.directive?) = builder.readDirectives := by
  have noOrders : (builder.readOrders.map Event.order).filterMap Event.directive? = [] := by
    simp [List.filterMap_map, Function.comp_def, Event.directive?]
  unfold settingEvents readDirectives
  rw [List.filterMap_append, List.filterMap_append, noOrders]
  cases builder.limit <;> cases builder.offset <;> rfl

theorem negatedKeys_pairs (readable : builder.IsReadable) :
    (builder.pairs.map Prod.fst).eraseDups.filterMap (Text.dropLeading? '!') =
      builder.readBack.negatedKeys := by
  have injective : ∀ left ∈ builder.pairs.map Prod.fst, ∀ right ∈ builder.pairs.map Prod.fst,
      ∀ name, Text.dropLeading? '!' left = some name → Text.dropLeading? '!' right = some name →
        left = right := by
    intro left _ right _ name leftName rightName
    apply String.toList_inj.mp
    rw [Text.eq_append_of_dropLeading? leftName, Text.eq_append_of_dropLeading? rightName]
  have noSettingMark :
      (builder.settingPairs.map Prod.fst).filterMap (Text.dropLeading? '!') = [] := by
    have noMark : ∀ key ∈ ["_orderBy", "_limit", "_offset"],
        Text.dropLeading? '!' key = none := by
      decide
    rw [List.filterMap_eq_nil_iff]
    intro key keyMem
    rcases List.mem_map.mp keyMem with ⟨pair, pairMem, rfl⟩
    exact noMark pair.1 (mem_settingPairs_fst pairMem)
  rw [filterMap_eraseDups injective, pairs_of_isSearch readable.toIsSearch, List.map_append,
    List.filterMap_append,
    noSettingMark, List.append_nil, readBack]
  congr 1
  rw [List.map_map, List.filterMap_map]
  have conditionsReadable := readable.conditions
  generalize builder.conditions = conditions at conditionsReadable
  induction conditions with
  | nil => rfl
  | cons condition rest ih =>
      simp only [List.mem_cons, forall_eq_or_imp] at conditionsReadable
      have mark := Condition.dropLeading?_pair conditionsReadable.1
      rw [List.filterMap_cons, List.filter_cons, ih conditionsReadable.2]
      cases junction : condition.junction <;> simp [mark, junction]

/-- What is neither filter nor dropped fragment comes from the settings alone. -/
theorem filterMap_events_settings (readable : builder.IsReadable) {Selected : Type}
    {select : Event → Option Selected} (unmarked : ∀ key, select (.negatedKey key) = none)
    (noFilter : ∀ added, select (.filter added) = none)
    (noDrop : ∀ fragment, select (.drop fragment) = none) :
    ((Parameters.ofPairs builder.pairs).events .written).filterMap select =
      builder.settingEvents.filterMap select := by
  rw [filterMap_events_pairs readable unmarked]
  simp [filterMap_other _ _ noFilter noDrop]

theorem filters_pairs (readable : builder.IsReadable) :
    ((Parameters.ofPairs builder.pairs).events .written).filterMap Event.filter? =
      builder.readBack.query.filters := by
  rw [filterMap_events_pairs readable (fun _ => rfl),
    filterMap_settingEvents (fun _ => rfl) (fun _ _ => rfl), List.append_nil]
  simp only [filterMap_filter?]
  exact (List.filterMap_eq_flatMap_toList _ _).symm

theorem dropped_pairs (readable : builder.IsReadable) :
    ((Parameters.ofPairs builder.pairs).events .written).filterMap Event.dropped? =
      builder.readBack.dropped := by
  rw [filterMap_events_pairs readable (fun _ => rfl),
    filterMap_settingEvents (fun _ => rfl) (fun _ _ => rfl), List.append_nil]
  simp only [filterMap_dropped?]
  exact (List.filterMap_eq_flatMap_toList _ _).symm

theorem orders_pairs (readable : builder.IsReadable) :
    ((Parameters.ofPairs builder.pairs).events .written).filterMap Event.order? =
      builder.readBack.query.orders := by
  rw [filterMap_events_settings readable (fun _ => rfl) (fun _ => rfl) (fun _ => rfl),
    filterMap_order?_settingEvents]
  rfl

theorem projections_pairs (readable : builder.IsReadable) :
    ((Parameters.ofPairs builder.pairs).events .written).filterMap Event.projection? = [] := by
  rw [filterMap_events_settings readable (fun _ => rfl) (fun _ => rfl) (fun _ => rfl),
    filterMap_settingEvents (fun _ => rfl) (fun _ _ => rfl)]

theorem directives_pairs (readable : builder.IsReadable) :
    putDirectives (((Parameters.ofPairs builder.pairs).events .written).filterMap
      Event.directive?) = builder.readBack.query.directives := by
  rw [filterMap_events_settings readable (fun _ => rfl) (fun _ => rfl) (fun _ => rfl),
    putDirectives_settingEvents]
  rfl

/-- A query string that is written from readable pairs means what the builder says. -/
theorem parseQueryString_join_pairs (readable : builder.IsReadable) :
    parseQueryString (Text.join '&' (builder.pairs.map pairText)) = builder.readBack := by
  rw [parseQueryString_eq,
    decodedPairs_join (isPlainPair_pairs readable) (lacksQuestionMark_pairs readable),
    Parsed.ofEvents_eq, filters_pairs readable, orders_pairs readable, projections_pairs readable,
    directives_pairs readable, dropped_pairs readable, Parameters.negatedKeys_events,
    negatedKeys_pairs readable]
  rfl

end Builder

/-- Compiling a readable builder succeeds, and reading the query string gives its meaning back. -/
theorem parseQueryString_compile {builder : Builder} (readable : builder.IsReadable) :
    ∃ request, builder.compile = .ok request ∧
      parseQueryString request.query = builder.readBack :=
  ⟨_, Builder.compile_eq (Builder.isFlat_of_isReadable readable),
    Builder.parseQueryString_join_pairs readable⟩

/-- A builder whose column `age` makes two groups, with a condition that no reader understands. -/
def memberSearch : Builder :=
  { Builder.new "members" with
    conditions :=
      [.basic "members.age" ">=" (.int 18) .and, .oneOf "name" [.text "a,b", .text "é&"] .or,
        .null "age" .or, .basic "age" "<" (.int 65) .and, .noneOf "city" [] .and]
    orders := [("$natural", .descending), ("members.name", .ascending)]
    limit := some 10 }

theorem parseQueryString_compile_memberSearch :
    memberSearch.IsReadable ∧ ∃ request, memberSearch.compile = .ok request ∧
      parseQueryString request.query = memberSearch.readBack :=
  ⟨by decide, parseQueryString_compile (by decide)⟩

end RestQuery
