import Mathlib.Data.List.Forall2
import RestQuery.Proofs.Filters.Recording
import RestQuery.Proofs.Wire.Conditions
import RestQuery.Proofs.Wire.WrittenPairs

/-!
# Binding what was read onto a builder

Reading a query string gives filters of four kinds only, which `FieldFilter.IsRead` lists. Each of
them has a condition, so binding never fails on what was read, and `bind_of_isRead` says in closed
form what a builder has recorded afterwards. `isRead_parseQueryString` ties the two together.
-/

namespace RestQuery

namespace FieldFilter

/-- The filters that a query string can give, by the shape of their operands. -/
inductive IsRead : FieldFilter → Prop where
  | single (field : String) (operator : Operator) (text : String)
      (notRange : operator.isRange = false) (notList : operator.isList = false) :
      IsRead ⟨field, operator, .single (.text text), false⟩
  | range (field low high : String) :
      IsRead ⟨field, .between, .pair (.text low) (.text high), false⟩
  | oneOf (field : String) (texts : List String) (nonempty : texts ≠ []) :
      IsRead ⟨field, .oneOf, .list (texts.map .text), false⟩
  | noneOf (field : String) (texts : List String) (nonempty : texts ≠ []) :
      IsRead ⟨field, .noneOf, .list (texts.map .text), false⟩

/-- The condition that a filter from a query string is recorded as. -/
def condition (filter : FieldFilter) : Condition :=
  match filter.operator, filter.operand with
  | .between, .pair low high => .between filter.field low high .and false
  | .oneOf, operand => .oneOf filter.field operand.scalars .and
  | .noneOf, operand => .noneOf filter.field operand.scalars .and
  | operator, operand =>
      .basic filter.field operator.symbol (operand.scalars.headD (.text "")) .and

theorem symbol_mem_singleSymbols {operator : Operator} (notRange : operator.isRange = false)
    (notList : operator.isList = false) : operator.symbol ∈ Condition.singleSymbols := by
  cases Operator.isComparison_of_single notRange notList <;> decide

theorem condition_single {operator : Operator} (notRange : operator.isRange = false)
    (notList : operator.isList = false) (field : String) (scalar : Scalar) :
    condition ⟨field, operator, .single scalar, false⟩ =
      .basic field operator.symbol scalar .and := by
  cases Operator.isComparison_of_single notRange notList <;> rfl

theorem recordedAs_of_isRead {filter : FieldFilter} (read : filter.IsRead) :
    filter.RecordedAs filter.condition := by
  cases read with
  | single field operator text notRange notList =>
      rw [condition_single notRange notList]
      exact .comparison field (Operator.isComparison_of_single notRange notList) (.text text)
  | range field low high => exact .range field _ _ false
  | oneOf field texts nonempty => exact .oneOf field _
  | noneOf field texts nonempty => exact .noneOf field _

theorem forall₂_recordedAs_of_isRead {filters : List FieldFilter}
    (read : ∀ filter ∈ filters, filter.IsRead) :
    List.Forall₂ RecordedAs filters (filters.map condition) := by
  apply List.forall₂_map_right_iff.mpr
  apply List.forall₂_same.mpr
  intro filter filterMem
  exact recordedAs_of_isRead (read filter filterMem)

theorem column?_condition (filter : FieldFilter) :
    filter.condition.column? = some filter.field := by
  unfold condition
  split <;> rfl

theorem junction_condition (filter : FieldFilter) : filter.condition.junction = .and := by
  unfold condition
  split <;> rfl

theorem wireColumn_condition (collection : String) (filter : FieldFilter) :
    filter.condition.wireColumn collection = stripCollection collection filter.field := by
  rw [Condition.wireColumn, column?_condition, Option.getD_some]

theorem hasReadableForm_condition {filter : FieldFilter} (read : filter.IsRead) :
    filter.condition.HasReadableForm := by
  cases read with
  | single field operator text notRange notList =>
      rw [condition_single notRange notList]
      exact symbol_mem_singleSymbols notRange notList
  | range field low high => trivial
  | oneOf field texts nonempty =>
      have someScalars : texts.map Scalar.text ≠ [] := by simpa using nonempty
      exact someScalars
  | noneOf field texts nonempty => trivial

/-- A filter is read back from its condition, unless it has the operator that readers lack. -/
theorem filter?_condition {filter : FieldFilter} (read : filter.IsRead)
    (known : filter.operator ≠ .noneOf) {collection : String}
    (unqualified : stripCollection collection filter.field = filter.field) :
    filter.condition.filter? collection = some filter := by
  have column := wireColumn_condition collection filter
  rw [unqualified] at column
  unfold Condition.filter?
  rw [column]
  cases read with
  | single field operator text notRange notList =>
      simp [condition_single notRange notList, Scalar.shown, Scalar.display]
  | range field low high => rfl
  | oneOf field texts nonempty => simp [condition, Scalar.shown, Scalar.display]
  | noneOf field texts nonempty => exact absurd rfl known

end FieldFilter

theorem isRead_of_readsAs {form : ValueForm} {field text : String} {filter : FieldFilter}
    (reads : ReadsAs form (.condition field text) (.filter filter)) :
    filter.IsRead ∧ filter.field = field := by
  cases reads with
  | @single operator _ token operand noColon known notList notRange =>
      exact ⟨.single field operator (form.text operand) notRange notList, rfl⟩
  | @list operator _ token pieces noColon known isList nonempty noComma =>
      have texts : pieces.map (fun piece => Scalar.text (form.text piece)) =
          (pieces.map form.text).map .text := by
        simp
      have nonemptyTexts : pieces.map form.text ≠ [] := by simpa using nonempty
      rw [texts]
      cases operator with
      | oneOf => exact ⟨.oneOf field _ nonemptyTexts, rfl⟩
      | noneOf => exact ⟨.noneOf field _ nonemptyTexts, rfl⟩
      | _ => simp [Operator.isList] at isList
  | @range operator _ token low high noColon known isRange lowNoComma highNoComma =>
      cases operator with
      | between => exact ⟨.range field (form.text low) (form.text high), rfl⟩
      | _ => simp [Operator.isRange] at isRange

theorem isRead_of_mem_conditionEvents {form : ValueForm} {field condition : String}
    {filter : FieldFilter} (eventMem : Event.filter filter ∈ conditionEvents form field condition) :
    filter.IsRead ∧ filter.field = field := by
  rcases exists_readsAs form (.condition field condition) with ⟨event, reads⟩
  rw [conditionEvents_of_readsAs reads, List.mem_singleton] at eventMem
  subst eventMem
  exact isRead_of_readsAs reads

theorem isRead_of_mem_pairEvents {form : ValueForm} {key value : String} {filter : FieldFilter}
    (eventMem : Event.filter filter ∈ pairEvents form key value) :
    filter.IsRead ∧ filter.field = key ∧ directiveName? key = none := by
  unfold pairEvents at eventMem
  split at eventMem
  · rename_i name named
    unfold directiveEvents at eventMem
    repeat' split at eventMem
    · rcases List.mem_map.mp eventMem with ⟨segment, -, isFilter⟩
      unfold orderEvent at isFilter
      split at isFilter <;> simp at isFilter
    all_goals simp at eventMem
  · rename_i noName
    exact ⟨(isRead_of_mem_conditionEvents eventMem).1, (isRead_of_mem_conditionEvents eventMem).2,
      noName⟩

theorem filters_parseQueryString (raw : String) :
    (parseQueryString raw).query.filters =
      (regroup Prod.fst (decodedPairs raw)).flatMap fun pair =>
        (pairEvents .written (bareKey pair.1) pair.2).filterMap Event.filter? := by
  have outcome : (parseQueryString raw).query.filters =
      ((Parameters.ofPairs (decodedPairs raw)).events .written).filterMap Event.filter? := by
    rw [parseQueryString_eq, Parsed.ofEvents_eq]
  rw [outcome, Parameters.filterMap_events (fun _ => rfl)]

theorem mem_filterMap_filter? {events : List Event} {filter : FieldFilter} :
    filter ∈ events.filterMap Event.filter? ↔ Event.filter filter ∈ events := by
  rw [List.mem_filterMap]
  constructor
  · rintro ⟨event, eventMem, selected⟩
    cases event <;> simp only [Event.filter?, Option.some.injEq, reduceCtorEq] at selected
    exact selected ▸ eventMem
  · intro eventMem
    exact ⟨_, eventMem, rfl⟩

/-- Every filter that is read stems from a key that names no directive. -/
theorem isRead_parseQueryString {raw : String} {filter : FieldFilter}
    (filterMem : filter ∈ (parseQueryString raw).query.filters) :
    filter.IsRead ∧ directiveName? filter.field = none ∧
      ∃ pair ∈ decodedPairs raw, bareKey pair.1 = filter.field := by
  rw [filters_parseQueryString, List.mem_flatMap] at filterMem
  rcases filterMem with ⟨pair, pairMem, eventMem⟩
  rcases isRead_of_mem_pairEvents (mem_filterMap_filter?.mp eventMem) with ⟨read, field, noName⟩
  exact ⟨read, field ▸ noName, pair, mem_regroup.mp pairMem, field.symm⟩

namespace Call

theorem runAll_append {Target : Type} [Bindable Target] {target next : Target}
    {first second : List Call} (firstRuns : runAll target first = (next, none)) :
    runAll target (first ++ second) = runAll next second := by
  induction first generalizing target with
  | nil =>
      simp only [runAll, Prod.mk.injEq, and_true] at firstRuns
      rw [List.nil_append, firstRuns]
  | cons call rest ih =>
      rw [List.cons_append, runAll]
      rw [runAll] at firstRuns
      split at firstRuns
      · exact ih firstRuns
      · simp at firstRuns

end Call

def Directive.nullConditions (directive : Directive) : List Condition :=
  match directive.kind with
  | .null => (Query.nullFields directive.value).map (.null · .and)
  | .notNull => (Query.nullFields directive.value).map (.notNull · .and)
  | .limit | .offset | .condition => []

theorem hasReadableForm_nullConditions {directive : Directive} {condition : Condition}
    (conditionMem : condition ∈ directive.nullConditions) : condition.HasReadableForm := by
  unfold Directive.nullConditions at conditionMem
  split at conditionMem
  · rcases List.mem_map.mp conditionMem with ⟨field, -, rfl⟩
    trivial
  · rcases List.mem_map.mp conditionMem with ⟨field, -, rfl⟩
    trivial
  all_goals simp at conditionMem

def recordOrders (orders : List SortKey) (present : List (String × SortOrder)) :
    List (String × SortOrder) :=
  orders.foldl
    (fun recorded order =>
      putOrder (Builder.orderColumn order.field) order.direction.resolve recorded)
    present

namespace Query

/-- The builder after a query with filters that were read has been bound to it. -/
def recordedOn (query : Query) (builder : Builder) : Builder :=
  { builder with
    conditions := builder.conditions ++ query.filters.map FieldFilter.condition ++
      query.directives.flatMap Directive.nullConditions
    orders := recordOrders query.orders builder.orders
    limit := query.limit?.or builder.limit
    offset := query.offset?.or builder.offset }

/-- A page setting after some directives, where a value that is no number changes nothing. -/
def pageAfter (query : Query) (kind : DirectiveKind) (directives : List Directive)
    (present : Option UInt64) : Option UInt64 :=
  if directives.any (·.kind = kind) then (query.paging? kind).or present else present

variable {query : Query}

theorem pageAfter_directives (query : Query) (kind : DirectiveKind) (present : Option UInt64) :
    query.pageAfter kind query.directives present = (query.paging? kind).or present := by
  unfold pageAfter
  split
  · rfl
  · rename_i absent
    have notFound : query.directives.find? (·.kind = kind) = none := by
      rw [List.find?_eq_none]
      intro directive directiveMem
      simp only [List.any_eq_true, not_exists, not_and] at absent
      exact absent directive directiveMem
    simp [paging?, directive?, notFound]

theorem pageAfter_cons (query : Query) (kind : DirectiveKind) (directive : Directive)
    (rest : List Directive) (present : Option UInt64) :
    query.pageAfter kind (directive :: rest) present =
      query.pageAfter kind rest (query.pageAfter kind [directive] present) := by
  unfold pageAfter
  by_cases same : directive.kind = kind <;>
    by_cases inRest : rest.any (·.kind = kind) <;>
      cases query.paging? kind <;> simp [same, inRest]

end Query

namespace Builder

/-- A builder with nothing changed; builders contain conditions, so this is no definitional fact. -/
@[simp]
theorem mk_eta (builder : Builder) :
    Builder.mk builder.collection builder.columns builder.conditions builder.groups builder.orders
      builder.limit builder.offset builder.aggregate builder.distinct builder.timeout builder.hint
      builder.paginating = builder := by
  cases builder
  rfl

variable {query : Query}

theorem runAll_filters {filters : List FieldFilter} {conditions : List Condition}
    (recorded : List.Forall₂ FieldFilter.RecordedAs filters conditions) (builder : Builder) :
    Call.runAll builder (filters.map .filter) =
      ({ builder with conditions := builder.conditions ++ conditions }, none) := by
  induction recorded generalizing builder with
  | nil => simp [Call.runAll]
  | cons isRecorded rest ih =>
      simp [Call.runAll, Call.run, target_of_recordedAs isRecorded, ih, push]

theorem runAll_orders (orders : List SortKey) (builder : Builder) :
    Call.runAll builder (orders.map fun order => .order order.field order.direction) =
      ({ builder with orders := recordOrders orders builder.orders }, none) := by
  induction orders generalizing builder with
  | nil => simp [Call.runAll, recordOrders]
  | cons order rest ih =>
      rw [List.map_cons, Call.runAll, Call.run]
      exact ih _

theorem runAll_nulls (negated : Bool) (fields : List String) (builder : Builder) :
    Call.runAll builder (fields.map (.null · negated)) =
      ({ builder with
          conditions := builder.conditions ++
            fields.map fun field => if negated then .notNull field .and else .null field .and },
        none) := by
  induction fields generalizing builder with
  | nil => simp [Call.runAll]
  | cons field rest ih =>
      rw [List.map_cons, Call.runAll, Call.run]
      cases negated <;> simp [ih, Bindable.addNull, whereNull, whereNotNull, push]

theorem runAll_directive (directive : Directive) (builder : Builder) :
    Call.runAll builder (query.directiveCalls directive) =
      ({ builder with
          conditions := builder.conditions ++ directive.nullConditions
          limit := query.pageAfter .limit [directive] builder.limit
          offset := query.pageAfter .offset [directive] builder.offset },
        none) := by
  unfold Query.directiveCalls Directive.nullConditions Query.pageAfter
  cases kind : directive.kind with
  | limit =>
      cases limit : query.paging? .limit <;>
        simp [Query.limit?, limit, kind, Call.runAll, Call.run, Bindable.setLimit, take]
  | offset =>
      cases offset : query.paging? .offset <;>
        simp [Query.offset?, offset, kind, Call.runAll, Call.run, Bindable.setOffset, skip]
  | condition => simp [kind, Call.runAll]
  | null => simp [kind, runAll_nulls]
  | notNull => simp [kind, runAll_nulls]

theorem runAll_directives (directives : List Directive) (builder : Builder) :
    Call.runAll builder (directives.flatMap query.directiveCalls) =
      ({ builder with
          conditions := builder.conditions ++ directives.flatMap Directive.nullConditions
          limit := query.pageAfter .limit directives builder.limit
          offset := query.pageAfter .offset directives builder.offset },
        none) := by
  induction directives generalizing builder with
  | nil => simp [Call.runAll, Query.pageAfter]
  | cons directive rest ih =>
      rw [List.flatMap_cons, Call.runAll_append (runAll_directive directive builder), ih]
      simp [Query.pageAfter_cons query _ directive rest]

end Builder

/-- Everything that the calls of a query change, when its filters are recorded as conditions. -/
theorem runAll_calls {query : Query} {conditions : List Condition}
    (recorded : List.Forall₂ FieldFilter.RecordedAs query.filters conditions) (builder : Builder) :
    Call.runAll builder query.calls =
      ({ builder with
          conditions := builder.conditions ++ conditions ++
            query.directives.flatMap Directive.nullConditions
          orders := recordOrders query.orders builder.orders
          limit := query.limit?.or builder.limit
          offset := query.offset?.or builder.offset },
        none) := by
  rw [Query.calls, List.append_assoc, Call.runAll_append (Builder.runAll_filters recorded builder),
    Call.runAll_append (Builder.runAll_orders _ _), Builder.runAll_directives,
    Query.pageAfter_directives, Query.pageAfter_directives]
  rfl

theorem bindCalls_of_isRead {query : Query} (read : ∀ filter ∈ query.filters, filter.IsRead)
    (builder : Builder) (asked : List String) :
    bindCalls query builder asked = ⟨query.recordedOn builder, .ok query.select, asked⟩ := by
  rw [bindCalls, runAll_calls (FieldFilter.forall₂_recordedAs_of_isRead read) builder]
  rfl

/-- Binding filters that were read never fails, and records all there is to record. -/
theorem bind_of_isRead {query : Query} (read : ∀ filter ∈ query.filters, filter.IsRead)
    (builder : Builder) :
    bind query builder none = ⟨query.recordedOn builder, .ok query.select, []⟩ :=
  bindCalls_of_isRead read builder []

end RestQuery
