import Mathlib.Data.Finset.Basic
import RestQuery.Proofs.Wire.Compiled

/-!
# Columns qualified with the collection

A builder may name a column alone or with its collection and a dot in front. Both are the same
column to the service, so what is compiled must not tell them apart: the qualifier is taken off,
once and nowhere else.

The argument is local. Each condition has the segment and each ordering the item that it has
without the qualifier, and a compiled builder only depends on these. Which of them are qualified
therefore makes no difference, so that any choice of places will do.
-/

namespace RestQuery

/-- A column with the collection and a dot in front. -/
def qualifyColumn (collection column : String) : String :=
  collection ++ "." ++ column

section Places

variable {Item : Type}

/-- Changes the items that stand at certain places. -/
def changeAt (places : Finset ℕ) (change : Item → Item) (items : List Item) : List Item :=
  items.mapIdx fun place item => if place ∈ places then change item else item

/-- What a change leaves alone can be read from the changed list. -/
theorem map_changeAt {Seen : Type} {see : Item → Seen} {change : Item → Item}
    {items : List Item} (unseen : ∀ item ∈ items, see (change item) = see item)
    (places : Finset ℕ) :
    (changeAt places change items).map see = items.map see := by
  apply List.ext_getElem?
  intro place
  rw [List.getElem?_map, List.getElem?_map, changeAt, List.getElem?_mapIdx]
  cases isItem : items[place]? with
  | none => rfl
  | some item =>
      have sameSeen := unseen item (List.mem_of_getElem? isItem)
      simp only [Option.map_some]
      split
      · rw [sameSeen]
      · rfl

end Places

namespace Condition

/-- The condition with the collection in front of its column; a group has none. -/
def qualify (collection : String) : Condition → Condition
  | basic column operator value junction =>
      basic (qualifyColumn collection column) operator value junction
  | oneOf column values junction => oneOf (qualifyColumn collection column) values junction
  | noneOf column values junction => noneOf (qualifyColumn collection column) values junction
  | null column junction => null (qualifyColumn collection column) junction
  | notNull column junction => notNull (qualifyColumn collection column) junction
  | between column low high junction outside =>
      between (qualifyColumn collection column) low high junction outside
  | nested group junction => nested group junction

theorem marker_qualify (collection : String) (condition : Condition) :
    (condition.qualify collection).marker = condition.marker := by
  cases condition <;> rfl

theorem rule?_qualify (collection : String) (condition : Condition) :
    (condition.qualify collection).rule? =
      condition.rule?.map fun (column, rule) => (qualifyColumn collection column, rule) := by
  cases condition <;> rfl

/-- A column that is not qualified is written as it is. -/
theorem segment_of_isUnqualified {collection column rule : String} {condition : Condition}
    (hasRule : condition.rule? = some (column, rule))
    (unqualified : IsUnqualified collection column) :
    condition.segment collection = .ok (condition.marker ++ column ++ "=" ++ rule) := by
  rw [segment, hasRule]
  simp only [stripCollection_of_isUnqualified unqualified]

/-- The qualifier is taken off once, whatever is left. -/
theorem segment_qualify {collection column rule : String} (named : collection ≠ "")
    {condition : Condition} (hasRule : condition.rule? = some (column, rule)) :
    (condition.qualify collection).segment collection =
      .ok (condition.marker ++ column ++ "=" ++ rule) := by
  rw [segment, rule?_qualify, hasRule, marker_qualify]
  simp only [Option.map_some, qualifyColumn, stripCollection_append named]

theorem segment_qualify_of_isUnqualified {collection : String} (named : collection ≠ "")
    {condition : Condition}
    (unqualified : ∀ column ∈ condition.column?, IsUnqualified collection column) :
    (condition.qualify collection).segment collection = condition.segment collection := by
  cases hasRule : condition.rule? with
  | none =>
      rw [segment, segment, rule?_qualify, hasRule]
      rfl
  | some parts =>
      rcases parts with ⟨column, rule⟩
      have isUnqualified := unqualified column (column?_of_rule? hasRule)
      rw [segment_qualify named hasRule, segment_of_isUnqualified hasRule isUnqualified]

end Condition

namespace Builder

/-- An ordering with the collection in front of its column. -/
def qualifyOrder (collection : String) (order : String × SortOrder) : String × SortOrder :=
  (qualifyColumn collection order.1, order.2)

theorem orderItem_of_isUnqualified {collection : String} {order : String × SortOrder}
    (unqualified : IsUnqualified collection order.1) :
    orderItem collection order = order.1 ++ ":" ++ order.2.signText := by
  rw [orderItem, stripCollection_of_isUnqualified unqualified]

theorem orderItem_qualifyOrder {collection : String} (named : collection ≠ "")
    (order : String × SortOrder) :
    orderItem collection (qualifyOrder collection order) =
      order.1 ++ ":" ++ order.2.signText := by
  rw [orderItem, qualifyOrder, qualifyColumn, stripCollection_append named]

/-- No column of a condition or an ordering begins with the collection and a dot. -/
structure HasUnqualifiedColumns (builder : Builder) : Prop where
  conditions : ∀ condition ∈ builder.conditions, ∀ column ∈ condition.column?,
    IsUnqualified builder.collection column
  orders : ∀ order ∈ builder.orders, IsUnqualified builder.collection order.1

/-- The builder with the collection in front of the columns at certain places. -/
def qualify (conditionPlaces orderPlaces : Finset ℕ) (builder : Builder) : Builder :=
  { builder with
    conditions :=
      changeAt conditionPlaces (Condition.qualify builder.collection) builder.conditions
    orders := changeAt orderPlaces (qualifyOrder builder.collection) builder.orders }

variable {builder : Builder}

theorem conditionSegments_eq_mapM (builder : Builder) :
    builder.conditionSegments =
      (builder.conditions.map (Condition.segment builder.collection)).mapM id := by
  rw [conditionSegments, List.mapM_map]
  rfl

theorem ordersSegment_eq (builder : Builder) :
    builder.ordersSegment =
      let items := builder.orders.map (orderItem builder.collection)
      if items.isEmpty then "" else "_orderBy=" ++ Text.join ',' items := by
  rw [ordersSegment]
  simp only [List.isEmpty_map]

theorem conditionSegments_qualify (named : builder.collection ≠ "")
    (unqualified : builder.HasUnqualifiedColumns) (conditionPlaces orderPlaces : Finset ℕ) :
    (builder.qualify conditionPlaces orderPlaces).conditionSegments =
      builder.conditionSegments := by
  have sameSegments : (builder.qualify conditionPlaces orderPlaces).conditions.map
        (Condition.segment builder.collection) =
      builder.conditions.map (Condition.segment builder.collection) := by
    apply map_changeAt
    intro condition conditionMem
    exact Condition.segment_qualify_of_isUnqualified named
      (unqualified.conditions condition conditionMem)
  rw [conditionSegments_eq_mapM, conditionSegments_eq_mapM, ← sameSegments]
  rfl

theorem ordersSegment_qualify (named : builder.collection ≠ "")
    (unqualified : builder.HasUnqualifiedColumns) (conditionPlaces orderPlaces : Finset ℕ) :
    (builder.qualify conditionPlaces orderPlaces).ordersSegment = builder.ordersSegment := by
  have sameItems : (builder.qualify conditionPlaces orderPlaces).orders.map
        (orderItem builder.collection) =
      builder.orders.map (orderItem builder.collection) := by
    apply map_changeAt
    intro order orderMem
    rw [orderItem_qualifyOrder named,
      orderItem_of_isUnqualified (unqualified.orders order orderMem)]
  rw [ordersSegment_eq, ordersSegment_eq, ← sameItems]
  rfl

/-- Orderings are a map: their columns are still distinct when some of them are qualified. -/
theorem nodup_orders_qualify (named : builder.collection ≠ "")
    (unqualified : builder.HasUnqualifiedColumns) (distinct : (builder.orders.map Prod.fst).Nodup)
    (conditionPlaces orderPlaces : Finset ℕ) :
    ((builder.qualify conditionPlaces orderPlaces).orders.map Prod.fst).Nodup := by
  have stripped : ∀ order ∈ builder.orders,
      stripCollection builder.collection (qualifyOrder builder.collection order).1 =
        stripCollection builder.collection order.1 := by
    intro order orderMem
    rw [qualifyOrder, qualifyColumn, stripCollection_append named,
      stripCollection_of_isUnqualified (unqualified.orders order orderMem)]
  have columnsStay : ∀ order ∈ builder.orders,
      stripCollection builder.collection order.1 = order.1 :=
    fun order orderMem => stripCollection_of_isUnqualified (unqualified.orders order orderMem)
  have sameColumns : ((builder.qualify conditionPlaces orderPlaces).orders.map Prod.fst).map
      (stripCollection builder.collection) = builder.orders.map Prod.fst := by
    rw [List.map_map]
    exact (map_changeAt stripped orderPlaces).trans (List.map_congr_left columnsStay)
  exact List.Nodup.of_map _ (sameColumns ▸ distinct)

end Builder

/-- Wherever the column stands, it is written as it is. -/
def IsWrittenAsIs (collection column : String) : Prop :=
  (∀ (condition : Condition) (rule : String), condition.rule? = some (column, rule) →
    condition.segment collection = .ok (condition.marker ++ column ++ "=" ++ rule)) ∧
  ∀ order : SortOrder,
    Builder.orderItem collection (column, order) = column ++ ":" ++ order.signText

theorem isWrittenAsIs_of_isUnqualified {collection column : String}
    (unqualified : IsUnqualified collection column) : IsWrittenAsIs collection column :=
  ⟨fun _ _ hasRule => Condition.segment_of_isUnqualified hasRule unqualified,
    fun _ => Builder.orderItem_of_isUnqualified unqualified⟩

/-- The name of the collection is no qualifier without the dot. -/
theorem isUnqualified_append {collection rest : String} (noDot : rest.toList.head? ≠ some '.') :
    IsUnqualified collection (collection ++ rest) := by
  right
  rintro ⟨others, isColumn⟩
  rw [String.toList_append, String.toList_append, List.append_assoc,
    List.append_cancel_left_eq] at isColumn
  exact noDot (by rw [← isColumn]; rfl)

/--
Qualifying any of a builder's columns with its collection does not change what is compiled, errors
included. A column that is not qualified is written as it is, also if it has the qualifier further
in or only begins with the name of the collection.
-/
theorem Builder.compile_qualify {builder : Builder} (named : builder.collection ≠ "")
    (unqualified : builder.HasUnqualifiedColumns) :
    (∀ conditionPlaces orderPlaces : Finset ℕ,
      (builder.qualify conditionPlaces orderPlaces).compile = builder.compile) ∧
    (∀ column, IsUnqualified builder.collection column →
      IsWrittenAsIs builder.collection column) ∧
    ∀ rest : String, rest.toList.head? ≠ some '.' →
      IsWrittenAsIs builder.collection (builder.collection ++ rest) := by
  refine ⟨?_, fun _ => isWrittenAsIs_of_isUnqualified,
    fun _ noDot => isWrittenAsIs_of_isUnqualified (isUnqualified_append noDot)⟩
  intro conditionPlaces orderPlaces
  have sameConditions := conditionSegments_qualify named unqualified conditionPlaces orderPlaces
  have sameOrders := ordersSegment_qualify named unqualified conditionPlaces orderPlaces
  rw [compile, compile, segments, segments, compileConditions, compileConditions, sameConditions,
    sameOrders]
  rfl

/-- Columns that only look qualified, an alternative and an ordering; two places are qualified. -/
theorem Builder.compile_qualify_lookalikes :
    let builder := ((((Builder.new "users").compare .and "age" "=" (.text "1")).compare .or
      "usersx.age" "=" (.text "2")).whereNull .and "other.users.age").orderBy "name" .descending
    builder.collection ≠ "" ∧ builder.HasUnqualifiedColumns ∧
      (builder.qualify {0, 2} {0}).conditions.filterMap Condition.column? =
        ["users.age", "usersx.age", "users.other.users.age"] ∧
      (builder.qualify {0, 2} {0}).compile = builder.compile ∧
      (builder.compile.map Request.query).toOption =
        some "age=eq:1&!usersx.age=eq:2&other.users.age=null&_orderBy=name:-1" ∧
      IsWrittenAsIs builder.collection "usersx.age" := by
  intro builder
  have named : builder.collection ≠ "" := by decide
  have unqualified : builder.HasUnqualifiedColumns := by
    constructor <;> decide +kernel
  have sameRequest := (Builder.compile_qualify named unqualified).1 {0, 2} {0}
  have writtenAsIs := (Builder.compile_qualify named unqualified).2.2 "x.age" (by decide)
  exact ⟨named, unqualified, by decide +kernel, sameRequest, by decide +kernel, writtenAsIs⟩

end RestQuery
