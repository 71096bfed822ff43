import RestQuery.Proofs.Binding.OntoBuilder
import RestQuery.Proofs.Binding.ReceivedCalls

/-!
# What binding changes

A query is bound onto a builder that may already hold anything. `effect_of_bind` says what the
builder holds afterwards: a condition for each filter and one for each field of a null directive
behind the conditions that were there, the orderings with those of the query put in one by one, the
page as far as the query sets it to numbers, and all else as before.

Filters need not stem from a query string here, so binding may fail. When it does not, every filter
has been recorded by one of the rules, which `exists_recordedAs_of_runAll` finds along the calls.
-/

namespace RestQuery

/-- A column is given a direction: it keeps its place, or comes last if there was none for it. -/
inductive PutsOrder (column : String) (order : SortOrder) :
    List (String × SortOrder) → List (String × SortOrder) → Prop where
  | known {front : List (String × SortOrder)} (first : column ∉ front.map Prod.fst)
      (present : SortOrder) (back : List (String × SortOrder)) :
      PutsOrder column order (front ++ (column, present) :: back)
        (front ++ (column, order) :: back)
  | fresh {orders : List (String × SortOrder)} (absent : column ∉ orders.map Prod.fst) :
      PutsOrder column order orders (orders ++ [(column, order)])

/-- Orderings are put in one after another. -/
inductive PutsOrders :
    List SortKey → List (String × SortOrder) → List (String × SortOrder) → Prop where
  | done (orders : List (String × SortOrder)) : PutsOrders [] orders orders
  | next {key : SortKey} {rest : List SortKey} {before between after : List (String × SortOrder)}
      (puts : PutsOrder (if key.field = "natural" then "$natural" else key.field)
        key.direction.resolve before between)
      (putsRest : PutsOrders rest between after) :
      PutsOrders (key :: rest) before after

theorem putsOrder_putOrder (column : String) (order : SortOrder)
    (orders : List (String × SortOrder)) :
    PutsOrder column order orders (putOrder column order orders) := by
  induction orders with
  | nil => exact .fresh (by simp)
  | cons entry rest ih =>
      rcases entry with ⟨other, present⟩
      by_cases same : other = column
      · subst same
        have puts : PutsOrder other order ([] ++ (other, present) :: rest)
            ([] ++ (other, order) :: rest) := .known (by simp) present rest
        simpa [putOrder] using puts
      · simp only [putOrder, same, ↓reduceIte]
        generalize putOrder column order rest = after at ih ⊢
        cases ih with
        | @known front first present' back =>
            have firstOfAll : column ∉ ((other, present) :: front).map Prod.fst := by
              simpa [Ne.symm same] using first
            exact .known firstOfAll present' back
        | fresh absent =>
            have absentFromAll : column ∉ ((other, present) :: rest).map Prod.fst := by
              simpa [Ne.symm same] using absent
            exact .fresh absentFromAll

theorem putsOrders_recordOrders (keys : List SortKey) (orders : List (String × SortOrder)) :
    PutsOrders keys orders (recordOrders keys orders) := by
  induction keys generalizing orders with
  | nil => exact .done orders
  | cons key rest ih => exact .next (putsOrder_putOrder _ _ orders) (ih _)

/-- Calls that run without a failure have recorded every filter among the first of them. -/
theorem exists_recordedAs_of_runAll {filters : List FieldFilter} {later : List Call}
    {builder after : Builder}
    (runs : Call.runAll builder (filters.map .filter ++ later) = (after, none)) :
    ∃ conditions, List.Forall₂ FieldFilter.RecordedAs filters conditions := by
  induction filters generalizing builder with
  | nil => exact ⟨[], .nil⟩
  | cons filter rest ih =>
      rw [List.map_cons, List.cons_append, Call.runAll] at runs
      cases outcome : Builder.conditionOf filter with
      | ok condition =>
          have recorded := Builder.recordedAs_iff.mpr outcome
          have step : Call.run builder (.filter filter) = (builder.push condition, none) :=
            Builder.target_of_recordedAs recorded builder
          rw [step] at runs
          rcases ih runs with ⟨conditions, allRecorded⟩
          exact ⟨condition :: conditions, .cons recorded allRecorded⟩
      | error error =>
          have step : Call.run builder (.filter filter) = (builder, some error) :=
            Builder.target_of_error outcome builder
          rw [step] at runs
          cases runs

/--
A builder that a query has been bound to holds what it held before, and what the query says: one
condition for each filter, joined with `and`, then one for each field of a null directive; the
orderings of the query put in one after another; and its limit and offset if they are numbers.
-/
theorem effect_of_bind {query : Query} {builder : Builder} {catalog : Option Catalog}
    {columns : List String} (binds : (bind query builder catalog).projection = .ok columns) :
    ∃ (recorded : List Condition) (orders : List (String × SortOrder)),
      List.Forall₂
          (fun filter condition => filter.RecordedAs condition ∧
            condition.column? = some filter.field ∧ condition.junction = .and)
          query.filters recorded ∧
        PutsOrders query.orders builder.orders orders ∧
        (bind query builder catalog).target =
          { builder with
            conditions := builder.conditions ++ recorded ++
              query.directives.flatMap Directive.nullConditions
            orders := orders
            limit := query.limit?.or builder.limit
            offset := query.offset?.or builder.offset } := by
  have runs := (runAll_of_bind_ok binds).1
  have filtersRun := runs
  rw [Query.calls, List.append_assoc] at filtersRun
  rcases exists_recordedAs_of_runAll filtersRun with ⟨recorded, allRecorded⟩
  refine ⟨recorded, recordOrders query.orders builder.orders, ?_,
    putsOrders_recordOrders _ _, ?_⟩
  · apply allRecorded.imp
    intro filter condition isRecorded
    exact ⟨isRecorded, isRecorded.column?_eq, isRecorded.junction_eq⟩
  · rw [runAll_calls allRecorded builder] at runs
    exact (congrArg Prod.fst runs).symm

/-- A query with a negated range, a mixed page and the same column ordered twice. -/
def pagedQuery : Query where
  filters := [⟨"age", .between, .pair (.int 18) (.int 65), true⟩, ⟨"role", .oneOf, .list [], false⟩]
  orders := [⟨"natural", ⟨"asc"⟩⟩, ⟨"name", ⟨"1"⟩⟩, ⟨"natural", ⟨"down"⟩⟩]
  projection := some ["id"]
  directives := [⟨.limit, " +5 "⟩, ⟨.notNull, "email,,phone"⟩, ⟨.offset, "many"⟩]

/-- A builder with a condition, an ordering, a page and a timeout. -/
def pagedSearch : Builder :=
  ((((Builder.new "users").whereNull .or "removed").orderBy "name" .descending).forPage 3 10)
    |>.setTimeout 30

/-- The offset is no number, so the builder keeps its own; the limit is replaced. -/
theorem effect_of_bind_pagedQuery :
    let catalog := Catalog.ofTable [("users", ["id"])]
    let after := (bind pagedQuery pagedSearch (some catalog)).target
    (bind pagedQuery pagedSearch (some catalog)).projection = .ok ["id"] ∧
      PutsOrders pagedQuery.orders [("name", .descending)] after.orders ∧
      after.conditions.length = 5 ∧ after.limit = some 5 ∧ after.offset = some 20 ∧
      after.paginating = true ∧ after.timeout = some 30 := by
  intro catalog after
  have binds : (bind pagedQuery pagedSearch (some catalog)).projection = .ok ["id"] := by
    decide +kernel
  rcases effect_of_bind binds with ⟨recorded, orders, allRecorded, ordered, isTarget⟩
  have isAfter : after = _ := isTarget
  have recordedLength : recorded.length = 2 := allRecorded.length_eq.symm
  have nullLength : (pagedQuery.directives.flatMap Directive.nullConditions).length = 2 := by
    decide +kernel
  have limit : pagedQuery.limit?.or pagedSearch.limit = some 5 := by decide +kernel
  have offset : pagedQuery.offset?.or pagedSearch.offset = some 20 := by decide +kernel
  rw [isAfter]
  refine ⟨binds, ordered, ?_, limit, offset, rfl, rfl⟩
  have before : pagedSearch.conditions.length = 1 := rfl
  simp [before, recordedLength, nullLength]

end RestQuery
