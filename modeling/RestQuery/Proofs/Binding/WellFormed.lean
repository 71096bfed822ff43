import RestQuery.Proofs.Binding.OntoBuilder
import RestQuery.Proofs.Wire.Compiled
import RestQuery.Proofs.Wire.Directives

/-!
# What was read can be run

`Query.IsWellFormed` collects what reading guarantees whatever was sent: the operand of a filter
suits its operator, no column is requested twice, and no kind of directive is stored twice. A
query like that is bound to any builder without a failure, and the builder compiles as long as
none of its own conditions is a group. Only a catalog that lacks a requested column stands in the
way. `runs_of_isParsed` says so for query strings and for parameters alike.
-/

namespace RestQuery

theorem distinctColumns_concat (columns : List String) (column : String) :
    distinctColumns (columns ++ [column]) =
      if column.isEmpty || (distinctColumns columns).contains column then distinctColumns columns
      else distinctColumns columns ++ [column] := by
  rw [distinctColumns, List.foldl_append]
  rfl

theorem empty_notMem_distinctColumns (columns : List String) : "" ∉ distinctColumns columns := by
  induction columns using List.reverseRecOn with
  | nil => simp [distinctColumns]
  | append_singleton earlier column ih =>
      rw [distinctColumns_concat]
      split
      · exact ih
      · rename_i fresh
        intro isMember
        rcases List.mem_append.mp isMember with inEarlier | isColumn
        · exact ih inEarlier
        · simp [← List.mem_singleton.mp isColumn] at fresh

theorem nodup_distinctColumns (columns : List String) : (distinctColumns columns).Nodup := by
  induction columns using List.reverseRecOn with
  | nil => simp [distinctColumns]
  | append_singleton earlier column ih =>
      rw [distinctColumns_concat]
      split
      · exact ih
      · rename_i fresh
        simp only [Bool.or_eq_true, List.contains_iff_mem, not_or] at fresh
        refine List.nodup_append.mpr ⟨ih, by simp, ?_⟩
        intro known knownMem other isColumn same
        rw [same, List.mem_singleton.mp isColumn] at knownMem
        exact fresh.2 knownMem

namespace Query

/-- The shape of a query that was read. -/
structure IsWellFormed (query : Query) : Prop where
  filters : ∀ filter ∈ query.filters, filter.IsRead
  columns : ∀ columns ∈ query.projection, "" ∉ columns ∧ columns.Nodup
  directives : (query.directives.map Directive.kind).Nodup

/-- A query that stems from a query string or from parameters. -/
inductive IsParsed : Query → Prop where
  | ofQueryString (raw : String) : IsParsed (parseQueryString raw).query
  | ofParameters (params : Parameters) : IsParsed params.parse.query

end Query

theorem Parameters.exists_of_mem_events {form : ValueForm} {params : Parameters} {event : Event}
    (eventMem : event ∈ params.events form) :
    (∃ key, event = .negatedKey key) ∨ ∃ key value, event ∈ pairEvents form key value := by
  rw [events_eq] at eventMem
  rcases List.mem_flatMap.mp eventMem with ⟨⟨key, values⟩, -, entryMem⟩
  rcases List.mem_append.mp entryMem with isMark | ofValue
  · left
    simp only [markEvents, Option.mem_toList, Option.map_eq_some_iff] at isMark
    rcases isMark with ⟨bare, -, isMark⟩
    exact ⟨bare, isMark.symm⟩
  · right
    rcases List.mem_flatMap.mp ofValue with ⟨value, -, pairMem⟩
    exact ⟨bareKey key, value, pairMem⟩

theorem distinctColumns_of_mem_events {form : ValueForm} {params : Parameters}
    {columns : List String} (projects : Event.project columns ∈ params.events form) :
    ∃ given, columns = distinctColumns given := by
  rcases Parameters.exists_of_mem_events projects with ⟨key, isMark⟩ | ⟨key, value, pairMem⟩
  · simp at isMark
  · have selected : columns ∈ (pairEvents form key value).filterMap Event.projection? :=
      List.mem_filterMap.mpr ⟨_, pairMem, rfl⟩
    rw [filterMap_projection?_pairEvents] at selected
    split at selected
    · exact ⟨_, List.mem_singleton.mp selected⟩
    · simp at selected

theorem isWellFormed_ofEvents (form : ValueForm) (params : Parameters) :
    (Parsed.ofEvents (params.events form)).query.IsWellFormed := by
  rw [Parsed.ofEvents_eq]
  refine ⟨?_, ?_, nodup_kind_putDirectives _⟩
  · intro filter filterMem
    have eventMem := mem_filterMap_filter?.mp filterMem
    rcases Parameters.exists_of_mem_events eventMem with ⟨key, isMark⟩ | ⟨key, value, pairMem⟩
    · simp at isMark
    · exact (isRead_of_mem_pairEvents pairMem).1
  · intro columns isLast
    rcases List.mem_filterMap.mp (List.mem_of_getLast? isLast) with ⟨event, eventMem, projects⟩
    cases event <;> simp only [Event.projection?, Option.some.injEq, reduceCtorEq] at projects
    subst projects
    rcases distinctColumns_of_mem_events eventMem with ⟨given, rfl⟩
    exact ⟨empty_notMem_distinctColumns given, nodup_distinctColumns given⟩

theorem isWellFormed_of_isParsed {query : Query} (parsed : query.IsParsed) :
    query.IsWellFormed := by
  cases parsed with
  | ofQueryString raw => exact isWellFormed_ofEvents .written (.ofWritten raw)
  | ofParameters params => exact isWellFormed_ofEvents .plain params

theorem isFlat_recordedOn {query : Query} {builder : Builder}
    (read : ∀ filter ∈ query.filters, filter.IsRead) (flat : builder.IsFlat) :
    (query.recordedOn builder).IsFlat := by
  intro condition conditionMem
  simp only [Query.recordedOn, List.mem_append, List.mem_map, List.mem_flatMap] at conditionMem
  rcases conditionMem with (before | ⟨filter, filterMem, rfl⟩) | ⟨directive, -, ofDirective⟩
  · exact flat condition before
  · exact Condition.isFlat_of_hasReadableForm
      (FieldFilter.hasReadableForm_condition (read filter filterMem))
  · exact Condition.isFlat_of_hasReadableForm (hasReadableForm_nullConditions ofDirective)

theorem isEmpty_unknownColumns_iff (columns known : List String) :
    (unknownColumns columns known).isEmpty = true ↔ ∀ column ∈ columns, column ∈ known := by
  simp [unknownColumns, List.isEmpty_iff, List.filter_eq_nil_iff]

/-- With a catalog, a query that was read fails on unknown columns alone, and changes nothing. -/
theorem bind_some_of_isRead {query : Query} (read : ∀ filter ∈ query.filters, filter.IsRead)
    (builder : Builder) (catalog : Catalog) :
    bind query builder (some catalog) =
      let unknown := unknownColumns query.select (catalog builder.collection)
      if isWildcard query.select then ⟨query.recordedOn builder, .ok query.select, []⟩
      else if unknown.isEmpty then
        ⟨query.recordedOn builder, .ok query.select, [builder.collection]⟩
      else
        ⟨builder, .error (.invalidProjection builder.collection unknown), [builder.collection]⟩ := by
  simp only [bind, bindCalls_of_isRead read, validateProjection, Bindable.collection]
  split
  · rfl
  · cases (unknownColumns query.select (catalog builder.collection)).isEmpty <;> rfl

theorem isWildcard_eq_false_iff {columns : List String} :
    isWildcard columns = false ↔ columns ≠ [] ∧ "*" ∉ columns := by
  simp [isWildcard]

theorem bind_some_fails_iff {query : Query} (read : ∀ filter ∈ query.filters, filter.IsRead)
    (builder : Builder) (catalog : Catalog) :
    (∃ error, (bind query builder (some catalog)).projection = .error error) ↔
      ∃ columns, query.projection = some columns ∧ columns ≠ [] ∧ "*" ∉ columns ∧
        ∃ column ∈ columns, column ∉ catalog builder.collection := by
  have fails : (∃ error, (bind query builder (some catalog)).projection = .error error) ↔
      isWildcard query.select = false ∧
        ∃ column ∈ query.select, column ∉ catalog builder.collection := by
    rw [bind_some_of_isRead read]
    cases wildcard : isWildcard query.select with
    | true => simp
    | false =>
        have unknown := isEmpty_unknownColumns_iff query.select (catalog builder.collection)
        cases known : (unknownColumns query.select (catalog builder.collection)).isEmpty <;>
          simp_all
  rw [fails, isWildcard_eq_false_iff, Query.select]
  -- A query without a projection selects `*`.
  cases query.projection <;> simp [and_assoc]

/--
Whatever is sent is well formed and runs: it is bound without a failure, and the builder compiles.
With a catalog it fails if and only if a column that is requested by name is not known.
-/
theorem runs_of_isParsed {query : Query} (parsed : query.IsParsed) :
    query.IsWellFormed ∧
      ∀ builder : Builder, builder.IsFlat →
        (bind query builder none).projection = .ok query.select ∧
          (∃ request, (bind query builder none).target.compile = .ok request) ∧
          ∀ catalog : Catalog,
            (∃ error, (bind query builder (some catalog)).projection = .error error) ↔
              ∃ columns, query.projection = some columns ∧ columns ≠ [] ∧ "*" ∉ columns ∧
                ∃ column ∈ columns, column ∉ catalog builder.collection := by
  have wellFormed := isWellFormed_of_isParsed parsed
  refine ⟨wellFormed, ?_⟩
  intro builder flat
  have flatAfter := isFlat_recordedOn wellFormed.filters flat
  rw [bind_of_isRead wellFormed.filters]
  exact ⟨rfl, ⟨_, Builder.compile_eq flatAfter⟩, bind_some_fails_iff wellFormed.filters builder⟩

/-- A column that is not known is requested from a builder that has conditions of its own. -/
theorem runs_of_isParsed_unknownColumn :
    let query := (parseQueryString "tag=in:a%2C,b&_field=id,name,id&!_LIMIT=5&_limit=6").query
    let builder := (Builder.new "users").whereNull .or "removed"
    let catalog := Catalog.ofTable [("users", ["id", "tag"])]
    query.IsParsed ∧ builder.IsFlat ∧ query.IsWellFormed ∧
      (∃ request, (bind query builder none).target.compile = .ok request) ∧
      ∃ error, (bind query builder (some catalog)).projection = .error error := by
  intro query builder catalog
  have parsed : query.IsParsed := .ofQueryString _
  have flat : builder.IsFlat := by
    intro condition conditionMem
    obtain rfl : condition = .null "removed" .or := by
      simpa [builder, Builder.whereNull, Builder.push, Builder.new] using conditionMem
    rfl
  rcases runs_of_isParsed parsed with ⟨wellFormed, runs⟩
  rcases runs builder flat with ⟨-, compiles, failsIff⟩
  refine ⟨parsed, flat, wellFormed, compiles, (failsIff catalog).mpr ?_⟩
  refine ⟨["id", "name"], ?_, by decide, by decide, "name", by decide, ?_⟩
  · decide +kernel
  · decide +kernel

end RestQuery
