import RestQuery.Proofs.Grouping
import RestQuery.Proofs.Text.Splitting
import RestQuery.Wire.Event

/-!
# What reading a query string collects

Reading is a list of events and their outcome. `Parsed.ofEvents_eq` takes the outcome apart: each
component selects its own events and keeps their order, except that of several projections the
last one counts and that directives are stored by kind.

`Parameters.filterMap_events` goes back from events to the written keys and values: whatever the
events select, the pairs are regrouped by key first and then read one by one. A leading
exclamation mark keeps a key apart from the bare key, but does not change what its values mean.
-/

namespace RestQuery

namespace Event

def filter? : Event → Option FieldFilter
  | .filter added => some added
  | _ => none

def order? : Event → Option SortKey
  | .order key => some key
  | _ => none

def projection? : Event → Option (List String)
  | .project columns => some columns
  | _ => none

def directive? : Event → Option (DirectiveKind × String)
  | .directive kind value => some (kind, value)
  | _ => none

def dropped? : Event → Option DroppedFragment
  | .drop fragment => some fragment
  | _ => none

def negatedKey? : Event → Option String
  | .negatedKey key => some key
  | _ => none

end Event

def putDirectives (pairs : List (DirectiveKind × String)) : List Directive :=
  pairs.foldl (fun directives pair => putDirective pair.1 pair.2 directives) []

theorem putDirectives_concat (pairs : List (DirectiveKind × String))
    (pair : DirectiveKind × String) :
    putDirectives (pairs ++ [pair]) = putDirective pair.1 pair.2 (putDirectives pairs) := by
  simp [putDirectives]

/-- Each component of the outcome selects its own events. -/
theorem Parsed.ofEvents_eq (events : List Event) :
    Parsed.ofEvents events =
      { query :=
          { filters := events.filterMap Event.filter?
            orders := events.filterMap Event.order?
            projection := (events.filterMap Event.projection?).getLast?
            directives := putDirectives (events.filterMap Event.directive?) }
        dropped := events.filterMap Event.dropped?
        negatedKeys := events.filterMap Event.negatedKey? } := by
  induction events using List.reverseRecOn with
  | nil => rfl
  | append_singleton earlier event ih =>
      rw [ofEvents, List.foldl_append, List.foldl_cons, List.foldl_nil, ← ofEvents, ih]
      simp only [List.filterMap_append]
      cases event <;>
        simp [record, Query.filter, Query.order, Query.project, Query.setDirective,
          Event.filter?, Event.order?, Event.projection?, Event.directive?, Event.dropped?,
          Event.negatedKey?, putDirectives_concat, List.filterMap_cons]

namespace Parameters

/-- The values of one key, which are a list as soon as there are two. -/
def valuesOf : List String → Values
  | [value] => .one value
  | values => .many values

theorem toList_valuesOf (values : List String) : (valuesOf values).toList = values := by
  rcases values with _ | ⟨first, _ | ⟨second, more⟩⟩ <;> rfl

theorem valuesOf_concat {earlier : List String} (nonempty : earlier ≠ []) (value : String) :
    valuesOf (earlier ++ [value]) = (valuesOf earlier).push value := by
  rcases earlier with _ | ⟨first, _ | ⟨second, more⟩⟩
  · exact absurd rfl nonempty
  · rfl
  · rfl

theorem updateEntry_eq_upsert (key : String) (update : Values → Values) (fresh : Values)
    (entries : List (String × Values)) :
    updateEntry key update fresh entries = upsert key update fresh entries := by
  induction entries with
  | nil => rfl
  | cons entry rest ih => rw [updateEntry, upsert, ih]

/-- Collected pairs are the distinct keys in order of first appearance with all their values. -/
theorem entries_ofPairs (pairs : List (String × String)) :
    (ofPairs pairs).entries =
      (pairs.map Prod.fst).eraseDups.map fun key => (key, valuesOf (givenFor key pairs)) := by
  have collected : (ofPairs pairs).entries =
      pairs.foldl (fun entries pair => upsert pair.1 (·.push pair.2) (.one pair.2) entries) [] := by
    induction pairs using List.reverseRecOn with
    | nil => rfl
    | append_singleton earlier pair ih =>
        rw [ofPairs, List.foldl_append, ← ofPairs, List.foldl_append, ← ih]
        exact updateEntry_eq_upsert _ _ _ _
  rw [collected]
  exact foldl_upsert (fun value values => values.push value) .one valuesOf (fun _ => rfl)
    (fun earlier value nonempty => valuesOf_concat nonempty value) pairs

end Parameters

/-- A key without an exclamation mark in front. -/
def bareKey (key : String) : String :=
  (Text.dropLeading? '!' key).getD key

/-- The events of one value of a key. -/
def pairEvents (form : ValueForm) (key value : String) : List Event :=
  match directiveName? key with
  | some name => directiveEvents form key name value
  | none => conditionEvents form key value

theorem valueEvents_eq (form : ValueForm) (key : String) (values : List String) :
    valueEvents form key values = values.flatMap (pairEvents form key) := by
  unfold valueEvents pairEvents
  cases directiveName? key <;> rfl

def markEvents (key : String) : List Event :=
  ((Text.dropLeading? '!' key).map Event.negatedKey).toList

theorem keyEvents_eq (form : ValueForm) (key : String) (values : List String) :
    keyEvents form key values =
      markEvents key ++ values.flatMap (pairEvents form (bareKey key)) := by
  unfold keyEvents markEvents bareKey
  cases Text.dropLeading? '!' key <;> simp [valueEvents_eq]

namespace Parameters

theorem events_eq (form : ValueForm) (params : Parameters) :
    params.events form =
      params.entries.flatMap fun entry =>
        markEvents entry.1 ++ entry.2.toList.flatMap (pairEvents form (bareKey entry.1)) := by
  simp only [events, keyEvents_eq]

theorem events_ofPairs (form : ValueForm) (pairs : List (String × String)) :
    (ofPairs pairs).events form =
      (pairs.map Prod.fst).eraseDups.flatMap fun key =>
        markEvents key ++ (givenFor key pairs).flatMap (pairEvents form (bareKey key)) := by
  simp only [events_eq, entries_ofPairs, List.flatMap_map, toList_valuesOf]

/-- What the events select is read off the pairs, regrouped by key. -/
theorem filterMap_events {Selected : Type} {select : Event → Option Selected}
    (unmarked : ∀ key, select (.negatedKey key) = none) (form : ValueForm)
    (pairs : List (String × String)) :
    ((ofPairs pairs).events form).filterMap select =
      (regroup Prod.fst pairs).flatMap fun pair =>
        (pairEvents form (bareKey pair.1) pair.2).filterMap select := by
  have noMarks (key : String) : (markEvents key).filterMap select = [] := by
    unfold markEvents
    cases Text.dropLeading? '!' key <;> simp [unmarked]
  rw [events_ofPairs, List.filterMap_flatMap, regroup, List.flatMap_assoc]
  apply List.flatMap_congr
  intro key _
  rw [List.filterMap_append, noMarks, List.nil_append, List.filterMap_flatMap, givenFor,
    List.flatMap_map]
  apply List.flatMap_congr
  intro pair pairMem
  have sameKey : pair.1 = key := by simpa using (List.mem_filter.mp pairMem).2
  rw [sameKey]

theorem filterMap_negatedKey?_pairEvents (form : ValueForm) (key value : String) :
    (pairEvents form key value).filterMap Event.negatedKey? = [] := by
  rw [List.filterMap_eq_nil_iff]
  intro event eventMem
  unfold pairEvents directiveEvents conditionEvents at eventMem
  repeat' split at eventMem
  all_goals simp only [List.mem_singleton, List.mem_map, List.not_mem_nil] at eventMem
  case h_1.isTrue =>
    rcases eventMem with ⟨segment, -, rfl⟩
    unfold orderEvent
    split <;> rfl
  all_goals
    subst eventMem
    rfl

/-- The negated keys are the distinct keys with an exclamation mark, in order of appearance. -/
theorem negatedKeys_events (form : ValueForm) (pairs : List (String × String)) :
    ((ofPairs pairs).events form).filterMap Event.negatedKey? =
      (pairs.map Prod.fst).eraseDups.filterMap (Text.dropLeading? '!') := by
  have markOf (key : String) :
      (markEvents key).filterMap Event.negatedKey? = (Text.dropLeading? '!' key).toList := by
    unfold markEvents
    cases Text.dropLeading? '!' key <;> rfl
  have noneNegated (key : String) (values : List String) :
      (values.flatMap (pairEvents form (bareKey key))).filterMap Event.negatedKey? = [] := by
    simp [List.filterMap_flatMap, filterMap_negatedKey?_pairEvents]
  rw [events_ofPairs, List.filterMap_flatMap, List.filterMap_eq_flatMap_toList]
  apply List.flatMap_congr
  intro key _
  rw [List.filterMap_append, markOf, noneNegated, List.append_nil]

end Parameters

end RestQuery
