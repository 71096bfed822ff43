import RestQuery.Proofs.Binding.OntoBuilder

/-!
# What a target receives

Binding knows its target only through the calls that it makes, so what it does to a target is the
list of calls that the target receives. `Watched` keeps that list beside any target, and watching
changes nothing: a watched run projects to the run itself.

`received_of_bind` gives the list for every query, target and catalog. Filters come first and stop
at the first one that is refused, which `TakesFilters` follows on the target's own states. Nothing
behind them can fail, so orderings and directives are then received to the end. A catalog is asked
before all that, and an unknown column leaves the target without a call.
-/

namespace RestQuery

/-- A target together with the calls that it has received, oldest first. -/
structure Watched (Target : Type) where
  target : Target
  received : List Call

namespace Watched

variable {Target : Type}

def fresh (target : Target) : Watched Target :=
  ⟨target, []⟩

def note (watched : Watched Target) (call : Call) (next : Target) : Watched Target :=
  ⟨next, watched.received ++ [call]⟩

instance [Bindable Target] : Bindable (Watched Target) where
  collection watched := Bindable.collection watched.target
  addFilter filter watched :=
    let (next, failure) := Bindable.addFilter filter watched.target
    (watched.note (.filter filter) next, failure)
  addOrder field direction watched :=
    watched.note (.order field direction) (Bindable.addOrder field direction watched.target)
  setLimit count watched := watched.note (.limit count) (Bindable.setLimit count watched.target)
  setOffset count watched := watched.note (.offset count) (Bindable.setOffset count watched.target)
  addNull field negated watched :=
    watched.note (.null field negated) (Bindable.addNull field negated watched.target)

end Watched

namespace Call

variable {Target : Type} [Bindable Target]

theorem run_watched (watched : Watched Target) (call : Call) :
    run watched call =
      (watched.note call (run watched.target call).1, (run watched.target call).2) := by
  cases call <;> rfl

theorem run_filter_watched {target next : Target} {added : FieldFilter}
    {failure : Option QueryError} (outcome : Bindable.addFilter added target = (next, failure))
    (before : List Call) :
    run (⟨target, before⟩ : Watched Target) (.filter added) =
      (⟨next, before ++ [.filter added]⟩, failure) := by
  simp only [run_watched]
  simp [Watched.note, run, outcome]

theorem runAll_append_of_error {target next : Target} {first : List Call} {error : QueryError}
    (firstFails : runAll target first = (next, some error)) (second : List Call) :
    runAll target (first ++ second) = (next, some error) := by
  induction first generalizing target with
  | nil => simp [runAll] at firstFails
  | cons call rest ih =>
      rw [List.cons_append, runAll]
      rw [runAll] at firstFails
      split at firstFails
      · exact ih firstFails
      · exact firstFails

/-- A watched run projects to the run of the target itself. -/
theorem runAll_watched (calls : List Call) (watched : Watched Target) :
    ((runAll watched calls).1.target, (runAll watched calls).2) = runAll watched.target calls := by
  induction calls generalizing watched with
  | nil => rfl
  | cons call rest ih =>
      simp only [runAll, run_watched]
      rcases run watched.target call with ⟨next, failure⟩
      cases failure with
      | none => exact ih _
      | some error => rfl

def isFilter : Call → Bool
  | filter _ => true
  | _ => false

/-- What a call makes of a target, whether or not it fails. -/
def applied (target : Target) (call : Call) : Target :=
  (run target call).1

/-- Only filters are refused, so other calls are received to the end. -/
theorem runAll_watched_of_not_isFilter {calls : List Call}
    (others : ∀ call ∈ calls, call.isFilter = false) (watched : Watched Target) :
    runAll watched calls =
      (⟨calls.foldl applied watched.target, watched.received ++ calls⟩, none) := by
  induction calls generalizing watched with
  | nil => simp [runAll]
  | cons call rest ih =>
      have isOther : call.isFilter = false := others call (by simp)
      have accepted : (run watched.target call).2 = none := by
        cases call with
        | filter added => cases isOther
        | _ => rfl
      simp only [runAll, run_watched, accepted]
      rw [ih fun later laterMem => others later (List.mem_cons_of_mem _ laterMem)]
      simp [Watched.note, applied]

end Call

/--
A target takes filters one after another up to the first that it refuses: what it receives of them,
what it has become by then, and the failure if there is one.
-/
inductive TakesFilters {Target : Type} [Bindable Target] :
    Target → List FieldFilter → List FieldFilter → Target → Option QueryError → Prop where
  | done (target : Target) : TakesFilters target [] [] target none
  | accepted {target next reached : Target} {filter : FieldFilter}
      {rest received : List FieldFilter} {failure : Option QueryError}
      (accepts : Bindable.addFilter filter target = (next, none))
      (takesRest : TakesFilters next rest received reached failure) :
      TakesFilters target (filter :: rest) (filter :: received) reached failure
  | refused {target next : Target} {filter : FieldFilter} {error : QueryError}
      (refuses : Bindable.addFilter filter target = (next, some error))
      (rest : List FieldFilter) :
      TakesFilters target (filter :: rest) [filter] next (some error)

namespace TakesFilters

variable {Target : Type} [Bindable Target]

theorem exists_of_filters (filters : List FieldFilter) (target : Target) :
    ∃ received reached failure, TakesFilters target filters received reached failure := by
  induction filters generalizing target with
  | nil => exact ⟨_, _, _, .done target⟩
  | cons filter rest ih =>
      rcases added : Bindable.addFilter filter target with ⟨next, failure⟩
      cases failure with
      | none =>
          rcases ih next with ⟨received, reached, failure, takesRest⟩
          exact ⟨_, _, _, .accepted added takesRest⟩
      | some error => exact ⟨_, _, _, .refused added rest⟩

theorem received_of_none {target reached : Target} {filters received : List FieldFilter}
    (takes : TakesFilters target filters received reached none) : received = filters := by
  generalize noFailure : (none : Option QueryError) = failure at takes
  induction takes with
  | done => rfl
  | accepted accepts takesRest ih => simp only [ih noFailure]
  | refused refuses rest => cases noFailure

theorem runAll_watched {target reached : Target} {filters received : List FieldFilter}
    {failure : Option QueryError} (takes : TakesFilters target filters received reached failure)
    (before : List Call) :
    Call.runAll (⟨target, before⟩ : Watched Target) (filters.map .filter) =
      (⟨reached, before ++ received.map .filter⟩, failure) := by
  induction takes generalizing before with
  | done target => simp [Call.runAll]
  | accepted accepts takesRest ih =>
      simp [Call.runAll, Call.run_filter_watched accepts, ih]
  | refused refuses rest =>
      simp [Call.runAll, Call.run_filter_watched refuses]

end TakesFilters

namespace Query

/-- The calls that a directive of a query asks for. -/
inductive Asks (query : Query) : Directive → List Call → Prop where
  | limit {count : UInt64} (reads : query.limit? = some count) (value : String) :
      Asks query ⟨.limit, value⟩ [.limit count]
  | unreadLimit (unread : query.limit? = none) (value : String) : Asks query ⟨.limit, value⟩ []
  | offset {count : UInt64} (reads : query.offset? = some count) (value : String) :
      Asks query ⟨.offset, value⟩ [.offset count]
  | unreadOffset (unread : query.offset? = none) (value : String) : Asks query ⟨.offset, value⟩ []
  | null {pieces : List String} (nonempty : pieces ≠ [])
      (noComma : ∀ piece ∈ pieces, ',' ∉ piece.toList) :
      Asks query ⟨.null, Text.join ',' pieces⟩ ((pieces.filter (· ≠ "")).map (.null · false))
  | notNull {pieces : List String} (nonempty : pieces ≠ [])
      (noComma : ∀ piece ∈ pieces, ',' ∉ piece.toList) :
      Asks query ⟨.notNull, Text.join ',' pieces⟩ ((pieces.filter (· ≠ "")).map (.null · true))
  | condition (value : String) : Asks query ⟨.condition, value⟩ []

theorem nullFields_eq (value : String) :
    nullFields value = (Text.split ',' value).filter (· ≠ "") := by
  apply List.filter_congr
  intro piece _
  by_cases isEmpty : piece = "" <;> simp [isEmpty]

theorem asks_directiveCalls (query : Query) (directive : Directive) :
    query.Asks directive (query.directiveCalls directive) := by
  rcases directive with ⟨kind, value⟩
  have nonempty := Text.split_ne_nil ',' value
  have noComma : ∀ piece ∈ Text.split ',' value, ',' ∉ piece.toList :=
    fun _ => Text.notMem_of_mem_split
  cases kind with
  | limit =>
      simp only [directiveCalls]
      cases reads : query.limit? with
      | none => exact .unreadLimit reads value
      | some count => exact .limit reads value
  | offset =>
      simp only [directiveCalls]
      cases reads : query.offset? with
      | none => exact .unreadOffset reads value
      | some count => exact .offset reads value
  | null =>
      have asks : query.Asks _ _ := .null nonempty noComma
      simpa only [directiveCalls, Text.join_split, nullFields_eq] using asks
  | notNull =>
      have asks : query.Asks _ _ := .notNull nonempty noComma
      simpa only [directiveCalls, Text.join_split, nullFields_eq] using asks
  | condition => exact .condition value

theorem isFilter_eq_false_of_asks {query : Query} {directive : Directive} {calls : List Call}
    (asks : query.Asks directive calls) {call : Call} (callMem : call ∈ calls) :
    call.isFilter = false := by
  cases asks with
  | limit reads value => simp [List.mem_singleton.mp callMem, Call.isFilter]
  | offset reads value => simp [List.mem_singleton.mp callMem, Call.isFilter]
  | null nonempty noComma =>
      rcases List.mem_map.mp callMem with ⟨piece, -, rfl⟩
      rfl
  | notNull nonempty noComma =>
      rcases List.mem_map.mp callMem with ⟨piece, -, rfl⟩
      rfl
  | _ => simp at callMem

/--
What binding makes of a target once its columns are checked, with the calls that the target has
received and the answer.
-/
inductive Drives {Target : Type} [Bindable Target] (query : Query) (target : Target) :
    Watched Target → Except QueryError (List String) → Prop where
  | refused {received : List FieldFilter} {reached : Target} {error : QueryError}
      (takes : TakesFilters target query.filters received reached (some error)) :
      Drives query target ⟨reached, received.map .filter⟩ (.error error)
  | finished {reached : Target} {later : List Call} {asked : Directive → List Call}
      (takes : TakesFilters target query.filters query.filters reached none)
      (asks : ∀ directive, query.Asks directive (asked directive))
      (inOrder : later = query.orders.map (fun order => .order order.field order.direction) ++
        query.directives.flatMap asked) :
      Drives query target
        ⟨later.foldl Call.applied reached, query.filters.map .filter ++ later⟩ (.ok query.select)

theorem isFilter_eq_false_of_mem_later {query : Query} {asked : Directive → List Call}
    (asks : ∀ directive, query.Asks directive (asked directive)) {call : Call}
    (callMem : call ∈ query.orders.map (fun order => .order order.field order.direction) ++
      query.directives.flatMap asked) :
    call.isFilter = false := by
  rcases List.mem_append.mp callMem with ofOrder | ofDirective
  · rcases List.mem_map.mp ofOrder with ⟨order, -, rfl⟩
    rfl
  · rcases List.mem_flatMap.mp ofDirective with ⟨directive, -, askedMem⟩
    exact isFilter_eq_false_of_asks (asks directive) askedMem

/-- The columns that a query asks for by name. -/
def namedColumns (query : Query) : List String :=
  match query.projection with
  | none => []
  | some columns => if "*" ∈ columns then [] else columns

/-- The columns that are asked for by name and that a catalog lacks. -/
def missingColumns (query : Query) (catalog : Option Catalog) (collection : String) :
    List String :=
  match catalog with
  | none => []
  | some known => query.namedColumns.filter (· ∉ known collection)

/-- The collections that a catalog is asked about. -/
def askedCollections (query : Query) (catalog : Option Catalog) (collection : String) :
    List String :=
  if catalog.isSome ∧ query.namedColumns ≠ [] then [collection] else []

theorem namedColumns_of_isWildcard {query : Query} (wildcard : isWildcard query.select = true) :
    query.namedColumns = [] := by
  unfold select at wildcard
  unfold namedColumns
  cases projection : query.projection with
  | none => rfl
  | some columns =>
      simp only [projection, Option.getD_some, isWildcard, Bool.or_eq_true, List.isEmpty_iff,
        List.contains_iff_mem] at wildcard
      rcases wildcard with isEmpty | namesAll
      · simp [isEmpty]
      · simp [namesAll]

theorem namedColumns_of_not_isWildcard {query : Query}
    (notWildcard : isWildcard query.select = false) :
    query.namedColumns = query.select ∧ query.select ≠ [] := by
  unfold select at notWildcard ⊢
  unfold namedColumns
  cases projection : query.projection with
  | none => simp [isWildcard, projection] at notWildcard
  | some columns => simp_all [isWildcard]

end Query

section

variable {Target : Type} [Bindable Target] (query : Query)

theorem bind_eq (target : Target) (catalog : Option Catalog) :
    bind query target catalog =
      let collection := Bindable.collection target
      let missing := query.missingColumns catalog collection
      let asked := query.askedCollections catalog collection
      if missing = [] then bindCalls query target asked
      else ⟨target, .error (.invalidProjection collection missing), asked⟩ := by
  cases catalog with
  | none => rfl
  | some known =>
      cases wildcard : isWildcard query.select with
      | true =>
          have noNames := Query.namedColumns_of_isWildcard wildcard
          simp [bind, wildcard, Query.missingColumns, Query.askedCollections, noNames]
      | false =>
          rcases Query.namedColumns_of_not_isWildcard wildcard with ⟨names, nonempty⟩
          have unknown : unknownColumns query.select (known (Bindable.collection target)) =
              query.select.filter (· ∉ known (Bindable.collection target)) := by
            apply List.filter_congr
            intro column _
            simp
          simp only [bind, wildcard, validateProjection, unknown, Query.missingColumns,
            Query.askedCollections, names]
          cases query.select.filter (· ∉ known (Bindable.collection target)) <;> simp [nonempty]

variable {query} in
/-- A query that is bound has had all of its calls run, whatever the catalog. -/
theorem runAll_of_bind_ok {target : Target} {catalog : Option Catalog} {columns : List String}
    (binds : (bind query target catalog).projection = .ok columns) :
    Call.runAll target query.calls = ((bind query target catalog).target, none) ∧
      columns = query.select := by
  simp only [bind_eq] at binds ⊢
  split at binds
  · rename_i noneMissing
    simp only [bindCalls, noneMissing, ↓reduceIte] at binds ⊢
    split at binds
    · rename_i reached runs
      rw [runs]
      exact ⟨rfl, (Except.ok.inj binds).symm⟩
    · cases binds
  · cases binds

/-- Of a catalog nothing matters but the columns of the collection that it is asked about. -/
theorem bind_congr_catalog {known other : Catalog} (target : Target)
    (same : ∀ collection ∈ query.askedCollections (some known) (Bindable.collection target),
      other collection = known collection) :
    bind query target (some other) = bind query target (some known) := by
  have sameMissing : query.missingColumns (some other) (Bindable.collection target) =
      query.missingColumns (some known) (Bindable.collection target) := by
    by_cases noNames : query.namedColumns = []
    · simp [Query.missingColumns, noNames]
    · have sameColumns := same (Bindable.collection target) <| by
        simp [Query.askedCollections, noNames]
      simp [Query.missingColumns, sameColumns]
  simp [bind_eq, sameMissing, Query.askedCollections]

theorem bindCalls_watched (target : Target) (asked : List String) :
    bindCalls query target asked =
      let outcome := bindCalls query (Watched.fresh target) asked
      ⟨outcome.target.target, outcome.projection, outcome.asked⟩ := by
  have projects : _ = Call.runAll target query.calls :=
    Call.runAll_watched query.calls (Watched.fresh target)
  simp only [bindCalls, ← projects]
  rcases Call.runAll (Watched.fresh target) query.calls with ⟨watched, failure⟩
  cases failure <;> rfl

/-- Watching a target changes nothing of what binding makes of it. -/
theorem bind_watched (target : Target) (catalog : Option Catalog) :
    bind query target catalog =
      let outcome := bind query (Watched.fresh target) catalog
      ⟨outcome.target.target, outcome.projection, outcome.asked⟩ := by
  have sameCollection :
      Bindable.collection (Watched.fresh target) = Bindable.collection target := rfl
  simp only [bind_eq, sameCollection]
  split
  · exact bindCalls_watched query target _
  · rfl

theorem drives_bindCalls (target : Target) (asked : List String) :
    let outcome := bindCalls query (Watched.fresh target) asked
    query.Drives target outcome.target outcome.projection := by
  rcases TakesFilters.exists_of_filters query.filters target with
    ⟨received, reached, failure, takes⟩
  have filtersRun : Call.runAll (⟨target, []⟩ : Watched Target) (query.filters.map .filter) =
      (⟨reached, received.map .filter⟩, failure) := takes.runAll_watched []
  cases failure with
  | some error =>
      have runs := Call.runAll_append_of_error filtersRun
      simp only [bindCalls, Query.calls, List.append_assoc, Watched.fresh, runs]
      exact .refused takes
  | none =>
      obtain rfl := takes.received_of_none
      have asks := query.asks_directiveCalls
      have laterRuns := Call.runAll_watched_of_not_isFilter
        (fun _ => Query.isFilter_eq_false_of_mem_later asks)
        (⟨reached, query.filters.map .filter⟩ : Watched Target)
      simp only [bindCalls, Query.calls, List.append_assoc, Watched.fresh,
        Call.runAll_append filtersRun, laterRuns]
      exact .finished takes asks rfl

theorem asked_bindCalls (target : Target) (asked : List String) :
    (bindCalls query target asked).asked = asked := by
  unfold bindCalls
  split <;> rfl

/--
A target receives the filters of a query up to the first that it refuses; with none refused, then
the orderings, then what each directive asks for. If there is a catalog and columns are requested by
name, the catalog is asked once, before anything else, and a column that it lacks keeps every call
away from the target. What else a catalog may hold makes no difference.
-/
theorem received_of_bind (target : Target) (catalog : Option Catalog) :
    let collection := Bindable.collection target
    let outcome := bind query (Watched.fresh target) catalog
    let missing := query.missingColumns catalog collection
    bind query target catalog = ⟨outcome.target.target, outcome.projection, outcome.asked⟩ ∧
      outcome.asked =
        (if catalog.isSome ∧ query.namedColumns ≠ [] then [collection] else []) ∧
      (∀ known other : Catalog, catalog = some known →
        (∀ asked ∈ outcome.asked, other asked = known asked) →
          bind query target (some other) = bind query target catalog) ∧
      (missing ≠ [] →
        outcome.target = Watched.fresh target ∧
          outcome.projection = .error (.invalidProjection collection missing)) ∧
      (missing = [] → query.Drives target outcome.target outcome.projection) := by
  intro collection outcome missing
  have bound : outcome =
      if missing = [] then
        bindCalls query (Watched.fresh target) (query.askedCollections catalog collection)
      else
        ⟨Watched.fresh target, .error (.invalidProjection collection missing),
          query.askedCollections catalog collection⟩ :=
    bind_eq query (Watched.fresh target) catalog
  have asked : outcome.asked = query.askedCollections catalog collection := by
    simp only [bound]
    split
    · exact asked_bindCalls query _ _
    · rfl
  refine ⟨bind_watched query target catalog, asked, ?_, ?_, ?_⟩
  · rintro known other rfl same
    apply bind_congr_catalog query target
    intro collection collectionMem
    exact same collection (asked ▸ collectionMem)
  · intro someMissing
    simp [bound, someMissing]
  · intro noneMissing
    simp only [bound, noneMissing]
    exact drives_bindCalls query target _

end

end RestQuery
