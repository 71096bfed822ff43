import RestQuery.Proofs.Binding.OntoBuilder
import RestQuery.Proofs.Wire.RoundTrip

/-!
# Sending a query on

A query string that comes in is read, bound to a fresh builder and compiled again. No step of this
can fail: `relay_eq` gives the query string that is sent on for any text whatsoever. What reaches
the builder is a search, and each of its conditions has a form of its own.
-/

namespace RestQuery

/-- The builder that records a query string. -/
def recorded (collection raw : String) : Builder :=
  (bind (parseQueryString raw).query (Builder.new collection) none).target

/-- The query string that is sent on for one that comes in. -/
def relay (collection raw : String) : Except QueryError String :=
  (recorded collection raw).compile.map Request.query

theorem bind_parseQueryString (raw : String) (builder : Builder) :
    bind (parseQueryString raw).query builder none =
      ⟨(parseQueryString raw).query.recordedOn builder, .ok (parseQueryString raw).query.select,
        []⟩ :=
  bind_of_isRead (fun _ filterMem => (isRead_parseQueryString filterMem).1) builder

theorem recorded_eq (collection raw : String) :
    recorded collection raw = (parseQueryString raw).query.recordedOn (.new collection) := by
  rw [recorded, bind_parseQueryString]

section Recorded

variable {collection raw : String}

theorem collection_recorded : (recorded collection raw).collection = collection := by
  rw [recorded_eq]
  rfl

theorem isSearch_recorded : (recorded collection raw).IsSearch := by
  rw [recorded_eq]
  exact
    { noColumns := by simp [Query.recordedOn, Builder.new]
      noAggregate := rfl
      noTimeout := rfl
      noHint := rfl }

theorem conditions_recorded :
    (recorded collection raw).conditions =
      (parseQueryString raw).query.filters.map FieldFilter.condition ++
        (parseQueryString raw).query.directives.flatMap Directive.nullConditions := by
  rw [recorded_eq, Query.recordedOn]
  simp [Builder.new]

theorem hasReadableForm_recorded :
    ∀ condition ∈ (recorded collection raw).conditions, condition.HasReadableForm := by
  intro condition conditionMem
  rw [conditions_recorded, List.mem_append] at conditionMem
  rcases conditionMem with fromFilter | fromDirective
  · rcases List.mem_map.mp fromFilter with ⟨filter, filterMem, rfl⟩
    exact FieldFilter.hasReadableForm_condition (isRead_parseQueryString filterMem).1
  · rcases List.mem_flatMap.mp fromDirective with ⟨directive, -, conditionMem⟩
    exact hasReadableForm_nullConditions conditionMem

theorem relay_eq :
    relay collection raw =
      .ok (Text.join '&' ((recorded collection raw).pairs.map pairText)) := by
  have flat : (recorded collection raw).IsFlat := fun condition conditionMem =>
    Condition.isFlat_of_hasReadableForm (hasReadableForm_recorded condition conditionMem)
  rw [relay, Builder.compile_eq flat]
  rfl

end Recorded

end RestQuery
