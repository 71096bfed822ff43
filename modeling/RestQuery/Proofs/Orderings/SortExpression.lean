import Mathlib.Data.List.Nodup
import RestQuery.Proofs.Orderings.InsertionOrder
import RestQuery.Proofs.Wire.Compiled

/-!
# The sort expression of ordering calls

The orderings of a builder are told apart by the columns that callers give, and are written without
the collection in front. `namedOrders` reads a sort expression as fields and directions, and
`namedOrders_of_calls` says what ordering calls make of it. As long as no column is ordered by in
both spellings, the expression is a map from fields to the directions that were asked for last.
With `users.name` and `name` side by side, both are stored and one field is named twice.
-/

namespace RestQuery

open Builder (orderColumn)

/-- Some column is there both bare and with the collection in front of it. -/
def MixesSpellings (collection : String) (columns : List String) : Prop :=
  collection ≠ "" ∧ ∃ column ∈ columns,
    IsUnqualified collection column ∧ collection ++ "." ++ column ∈ columns

instance (collection : String) (columns : List String) :
    Decidable (MixesSpellings collection columns) :=
  inferInstanceAs (Decidable (_ ∧ _))

theorem qualified_ne_self (collection column : String) :
    collection ++ "." ++ column ≠ column := by
  intro same
  have lengths := congrArg String.length same
  simp at lengths

/-- Stripped columns are told apart unless one of them is there in both spellings. -/
theorem stripCollection_injective_iff {collection : String} {columns : List String} :
    (∀ left ∈ columns, ∀ right ∈ columns,
        stripCollection collection left = stripCollection collection right → left = right) ↔
      ¬MixesSpellings collection columns := by
  constructor
  · rintro injective ⟨named, column, columnMem, unqualified, qualifiedMem⟩
    apply qualified_ne_self collection column
    apply injective _ qualifiedMem _ columnMem
    rw [stripCollection_append named, stripCollection_of_isUnqualified unqualified]
  · intro unmixed left leftMem right rightMem same
    rcases stripCollection_cases collection left with ⟨leftBare, isLeft⟩ | ⟨named, isLeft⟩ <;>
      rcases stripCollection_cases collection right with ⟨rightBare, isRight⟩ | ⟨named, isRight⟩
    · rw [← isLeft, ← isRight, same]
    · rw [← same, isLeft] at isRight
      exact absurd ⟨named, left, leftMem, leftBare, isRight ▸ rightMem⟩ unmixed
    · rw [same, isRight] at isLeft
      exact absurd ⟨named, right, rightMem, rightBare, isLeft ▸ leftMem⟩ unmixed
    · rw [isLeft, isRight, same]

/-- An ordering as a sort expression names it. -/
def namedOrder (collection : String) (order : String × SortOrder) : String × String :=
  (stripCollection collection order.1, order.2.signText)

/-- The fields that a sort expression names, each with what is written behind its colon. -/
def namedOrders (segment : String) : List (String × String) :=
  match Text.dropStart? "_orderBy=" segment with
  | none => []
  | some items =>
      (Text.split ',' items).map fun item => (Text.cut ':' item).getD (item, "")

theorem namedOrders_ordersSegment {builder : Builder}
    (plain : ∀ order ∈ builder.orders, ',' ∉ order.1.toList ∧ ':' ∉ order.1.toList) :
    namedOrders builder.ordersSegment =
      builder.orders.map (namedOrder builder.collection) := by
  unfold Builder.ordersSegment
  by_cases none : builder.orders.isEmpty
  · rw [if_pos none, List.isEmpty_iff.mp none]
    rfl
  · have items : Text.split ',' (Text.join ','
        (builder.orders.map (Builder.orderItem builder.collection))) =
          builder.orders.map (Builder.orderItem builder.collection) := by
      apply Text.split_join_of_notMem (by simpa using none)
      intro item itemMem
      rcases List.mem_map.mp itemMem with ⟨order, orderMem, rfl⟩
      exact Builder.notMem_orderItem (notMem_stripCollection (plain order orderMem).1) (by decide)
        (by decide) (by decide)
    rw [if_neg none, namedOrders, Text.dropStart?_eq_some_iff.mpr rfl]
    simp only [items, List.map_map]
    apply List.map_congr_left
    intro order orderMem
    rw [Function.comp_apply, Builder.orderItem,
      Text.cut_append (notMem_stripCollection (plain order orderMem).2) (by decide)]
    rfl

namespace OrderCall

/-- What a call asks for, with its column as a builder stores it. -/
def ordering (call : OrderCall) : String × SortOrder :=
  (orderColumn call.column, call.order)

theorem asked_steps (calls : List OrderCall) :
    Step.asked (calls.map step) = calls.map ordering := by
  induction calls using List.reverseRecOn with
  | nil => rfl
  | append_singleton earlier call ih =>
      rw [List.map_append, List.map_singleton, Step.asked_concat, ih, List.map_append]
      rfl

theorem collection_runAll (builder : Builder) (calls : List OrderCall) :
    (Step.runAll builder (calls.map step)).collection = builder.collection := by
  induction calls generalizing builder with
  | nil => rfl
  | cons call rest ih => exact ih _

theorem keepsLast_runAll (collection : String) (calls : List OrderCall) :
    KeepsLast (calls.map ordering)
      (Step.runAll (.new collection) (calls.map step)).orders := by
  rw [Step.orders_runAll, asked_steps]
  exact Step.keepsLast_storeOrders _

theorem notMem_orderColumn {char : Char} (notDollar : char ≠ '$') {column : String}
    (absent : char ∉ column.toList) : char ∉ (orderColumn column).toList := by
  unfold orderColumn
  split
  · rename_i isNatural
    rw [isNatural] at absent
    simpa [notDollar] using absent
  · exact absent

/-- What no column of a call holds is in no column that is stored. -/
theorem notMem_orders (collection : String) {char : Char} (notDollar : char ≠ '$')
    {calls : List OrderCall} (absent : ∀ call ∈ calls, char ∉ call.column.toList) :
    ∀ order ∈ (Step.runAll (.new collection) (calls.map step)).orders,
      char ∉ order.1.toList := by
  intro order orderMem
  have isAsked : order.1 ∈ (calls.map ordering).map Prod.fst := by
    rw [← List.mem_eraseDups, ← (keepsLast_runAll collection calls).keys]
    exact List.mem_map_of_mem orderMem
  rw [List.map_map, List.mem_map] at isAsked
  rcases isAsked with ⟨call, callMem, sameColumn⟩
  rw [← sameColumn]
  exact notMem_orderColumn notDollar (absent call callMem)

end OrderCall

/--
After ordering calls whose columns hold no comma and no colon, the sort expression names what the
builder stores, without the collection. It names every field once if and only if no column was
given in both spellings, and then it is a map: fields stand in the order in which they were first
asked for, each with the direction that was asked for last.
-/
theorem namedOrders_of_calls {collection : String} {calls : List OrderCall}
    (plain : ∀ call ∈ calls, ',' ∉ call.column.toList ∧ ':' ∉ call.column.toList) :
    let builder := Step.runAll (.new collection) (calls.map OrderCall.step)
    let named := namedOrders builder.ordersSegment
    let asked := calls.map OrderCall.ordering
    KeepsLast asked builder.orders ∧
      named = builder.orders.map (namedOrder collection) ∧
      ((named.map Prod.fst).Nodup ↔ ¬MixesSpellings collection (asked.map Prod.fst)) ∧
      (¬MixesSpellings collection (asked.map Prod.fst) →
        KeepsLast (asked.map (namedOrder collection)) named) := by
  intro builder named asked
  have keeps : KeepsLast asked builder.orders := OrderCall.keepsLast_runAll collection calls
  have written : named = builder.orders.map (namedOrder collection) := by
    have noComma := OrderCall.notMem_orders collection (by decide) fun call callMem =>
      (plain call callMem).1
    have noColon := OrderCall.notMem_orders collection (by decide) fun call callMem =>
      (plain call callMem).2
    have ofBuilder := namedOrders_ordersSegment fun order orderMem =>
      ⟨noComma order orderMem, noColon order orderMem⟩
    rwa [OrderCall.collection_runAll] at ofBuilder
  refine ⟨keeps, written, ?_, ?_⟩
  · have fields : named.map Prod.fst =
        (builder.orders.map Prod.fst).map (stripCollection collection) := by
      rw [written, List.map_map, List.map_map]
      rfl
    rw [fields, List.nodup_map_iff_inj_on keeps.nodup, ← stripCollection_injective_iff]
    simp only [keeps.keys, List.mem_eraseDups]
  · intro unmixed
    rw [written]
    exact keeps.map (stripCollection collection) SortOrder.signText
      (stripCollection_injective_iff.mpr unmixed)

/-- With the collection in front of it every time, a column keeps one place. -/
theorem namedOrders_of_calls_qualified :
    let calls : List OrderCall :=
      [.written "users.name" " ASC ", .ascending "age", .descending "users.name"]
    let asked := calls.map OrderCall.ordering
    (∀ call ∈ calls, ',' ∉ call.column.toList ∧ ':' ∉ call.column.toList) ∧
      ¬MixesSpellings "users" (asked.map Prod.fst) ∧
      KeepsLast [("name", "1"), ("age", "1"), ("name", "-1")]
        (namedOrders (Step.runAll (.new "users") (calls.map OrderCall.step)).ordersSegment) := by
  intro calls asked
  have plain : ∀ call ∈ calls, ',' ∉ call.column.toList ∧ ':' ∉ call.column.toList := by decide
  have unmixed : ¬MixesSpellings "users" (asked.map Prod.fst) := by decide
  exact ⟨plain, unmixed, (namedOrders_of_calls plain).2.2.2 unmixed⟩

/-- Given once with the collection in front of it and once bare, a column is named twice. -/
theorem namedOrders_bothSpellings :
    let calls : List OrderCall := [.written "users.name" "asc", .written "name" "desc"]
    let named := namedOrders (Step.runAll (.new "users") (calls.map OrderCall.step)).ordersSegment
    (∀ call ∈ calls, ',' ∉ call.column.toList ∧ ':' ∉ call.column.toList) ∧
      named = [("name", "1"), ("name", "-1")] ∧ ¬(named.map Prod.fst).Nodup := by
  intro calls named
  have twice : named = [("name", "1"), ("name", "-1")] := by decide
  exact ⟨by decide, twice, by rw [twice]; decide⟩

end RestQuery
