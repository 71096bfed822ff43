import Mathlib.Data.List.Forall2
import RestQuery.Proofs.Wire.Events

/-!
# What every fragment is read as

Reading decides fragment by fragment: a condition is one fragment, and so is each ordering of a
list and each value of a directive that nobody knows. `ReadsAs` is the grammar that fragments are
held against. It is stated on how a text is put together, not on how it is cut, and has one rule
for every form that is understood and one for every way to miss them all.

`exists_readsAs` and `events_of_readsAs` show that the rules leave no fragment out and that no two
of them disagree. `outcomes_of_fragments` carries this from one fragment to all parameters: filters,
orderings and dropped fragments are the outcomes of the fragments, in the order in which keys,
values and segments are met.
-/

namespace RestQuery

/-- A part of the parameters that reading decides about on its own. -/
inductive Fragment where
  /-- A value of a key that names no directive. -/
  | condition (field text : String)
  /-- A piece between the commas of a value that orders. -/
  | ordering (key text : String)
  /-- A value of a directive whose name is not known. -/
  | unknown (key name text : String)
deriving DecidableEq, Repr

/-- What a fragment is read as, by the way its text is put together. -/
inductive ReadsAs (form : ValueForm) : Fragment → Event → Prop where
  | single {operator : Operator} {field token operand : String} (noColon : ':' ∉ token.toList)
      (known : form.text token = operator.token) (notList : operator.isList = false)
      (notRange : operator.isRange = false) :
      ReadsAs form (.condition field (token ++ ":" ++ operand))
        (.filter ⟨field, operator, .single (.text (form.text operand)), false⟩)
  | list {operator : Operator} {field token : String} {pieces : List String}
      (noColon : ':' ∉ token.toList) (known : form.text token = operator.token)
      (isList : operator.isList = true) (nonempty : pieces ≠ [])
      (noComma : ∀ piece ∈ pieces, ',' ∉ piece.toList) :
      ReadsAs form (.condition field (token ++ ":" ++ Text.join ',' pieces))
        (.filter ⟨field, operator, .list (pieces.map fun piece => .text (form.text piece)), false⟩)
  | range {operator : Operator} {field token low high : String} (noColon : ':' ∉ token.toList)
      (known : form.text token = operator.token) (isRange : operator.isRange = true)
      (lowNoComma : ',' ∉ low.toList) (highNoComma : ',' ∉ high.toList) :
      ReadsAs form (.condition field (token ++ ":" ++ (low ++ "," ++ high)))
        (.filter ⟨field, operator, .pair (.text (form.text low)) (.text (form.text high)), false⟩)
  | missingOperator {field text : String} (noColon : ':' ∉ text.toList) :
      ReadsAs form (.condition field text) (.drop ⟨field, text, .missingOperator⟩)
  | unknownOperator {field token operand : String} (noColon : ':' ∉ token.toList)
      (unknown : ∀ operator : Operator, form.text token ≠ operator.token) :
      ReadsAs form (.condition field (token ++ ":" ++ operand))
        (.drop ⟨field, token ++ ":" ++ operand, .unknownOperator (form.text token)⟩)
  | betweenArity {operator : Operator} {field token bounds : String}
      (noColon : ':' ∉ token.toList) (known : form.text token = operator.token)
      (isRange : operator.isRange = true) (otherCount : bounds.toList.count ',' ≠ 1) :
      ReadsAs form (.condition field (token ++ ":" ++ bounds))
        (.drop ⟨field, token ++ ":" ++ bounds, .betweenArity (bounds.toList.count ',' + 1)⟩)
  | order {key field direction : String} (fieldNoColon : ':' ∉ field.toList)
      (directionNoColon : ':' ∉ direction.toList) :
      ReadsAs form (.ordering key (field ++ ":" ++ direction))
        (.order ⟨form.text field, ⟨form.text direction⟩⟩)
  /-- What follows a second colon is ignored. -/
  | orderBefore {key field direction ignored : String} (fieldNoColon : ':' ∉ field.toList)
      (directionNoColon : ':' ∉ direction.toList) :
      ReadsAs form (.ordering key (field ++ ":" ++ direction ++ ":" ++ ignored))
        (.order ⟨form.text field, ⟨form.text direction⟩⟩)
  | missingDirection {key text : String} (noColon : ':' ∉ text.toList) :
      ReadsAs form (.ordering key text) (.drop ⟨key, text, .missingDirection⟩)
  | unknownDirective {key name text : String} :
      ReadsAs form (.unknown key name text) (.drop ⟨key, text, .unknownDirective name⟩)

/-- A condition that becomes a filter: a known token, a colon, and two bounds for a range. -/
def IsCondition (form : ValueForm) (text : String) : Prop :=
  ∃ (operator : Operator) (token operand : String), text = token ++ ":" ++ operand ∧
    ':' ∉ token.toList ∧ form.text token = operator.token ∧
    (operator.isRange = true → operand.toList.count ',' = 1)

namespace Fragment

/-- The fragments of one value of a key. -/
def ofValue (key value : String) : List Fragment :=
  match directiveName? key with
  | none => [.condition key value]
  | some name =>
      if name = "orderby" then (Text.split ',' value).map (.ordering key)
      else if name = "field" ∨ (DirectiveKind.ofName? name).isSome then []
      else [.unknown key name value]

/-- The events of a fragment. -/
def events (form : ValueForm) : Fragment → List Event
  | condition field text => conditionEvents form field text
  | ordering key text => [orderEvent form key text]
  | unknown key name text => [.drop ⟨key, text, .unknownDirective name⟩]

end Fragment

/-- The event of a value that is set as a whole, and so is no fragment. -/
def assignedEvents (form : ValueForm) (key value : String) : List Event :=
  match directiveName? key with
  | none => []
  | some name =>
      if name = "field" then [.project (distinctColumns ((Text.split ',' value).map form.text))]
      else (DirectiveKind.ofName? name).toList.map fun kind => .directive kind (form.text value)

/-- The fragments of all parameters, key by key and value by value. -/
def Parameters.fragments (params : Parameters) : List Fragment :=
  params.entries.flatMap fun entry => entry.2.toList.flatMap (Fragment.ofValue (bareKey entry.1))

variable {form : ValueForm} {fragment : Fragment} {event : Event}

theorem exists_filter_of_isCondition {text : String} (isCondition : IsCondition form text)
    (field : String) : ∃ filter, ReadsAs form (.condition field text) (.filter filter) := by
  rcases isCondition with ⟨operator, token, operand, rfl, noColon, known, bounds⟩
  by_cases isRange : operator.isRange = true
  · have twoPieces : (Text.split ',' operand).length = 2 := by
      simp [Text.length_split, bounds isRange]
    rcases List.length_eq_two.mp twoPieces with ⟨low, high, pieces⟩
    have noComma : ∀ piece ∈ [low, high], ',' ∉ piece.toList := by
      rw [← pieces]
      exact fun piece pieceMem => Text.notMem_of_mem_split pieceMem
    have operandEq : operand = low ++ "," ++ high := by
      have comma : ",".toList = [','] := by decide
      rw [← Text.join_split ',' operand, pieces, Text.join_cons comma, Text.join_singleton]
    subst operandEq
    exact ⟨_, .range noColon known isRange (noComma low (by simp)) (noComma high (by simp))⟩
  · by_cases isList : operator.isList = true
    · rw [← Text.join_split ',' operand]
      exact ⟨_, .list noColon known isList (Text.split_ne_nil ',' operand)
        (fun _ => Text.notMem_of_mem_split)⟩
    · exact ⟨_, .single noColon known (by simpa using isList) (by simpa using isRange)⟩

theorem exists_readsAs_condition (form : ValueForm) (field text : String) :
    ∃ event, ReadsAs form (.condition field text) event := by
  cases isCut : Text.cut ':' text with
  | none => exact ⟨_, .missingOperator (Text.notMem_of_cut_eq_none isCut)⟩
  | some parts =>
      rcases parts with ⟨token, operand⟩
      have colon : ":".toList = [':'] := by decide
      rcases Text.exists_of_cut colon isCut with ⟨rfl, noColon⟩
      cases found : Operator.ofToken? (form.text token) with
      | none =>
          refine ⟨_, .unknownOperator noColon ?_⟩
          intro operator known
          simp [known] at found
      | some operator =>
          have known := Operator.ofToken?_eq_some_iff.mp found
          by_cases bounds : operator.isRange = true ∧ operand.toList.count ',' ≠ 1
          · exact ⟨_, .betweenArity noColon known bounds.1 bounds.2⟩
          · have isCondition : IsCondition form (token ++ ":" ++ operand) :=
              ⟨operator, token, operand, rfl, noColon, known, by simpa using bounds⟩
            rcases exists_filter_of_isCondition isCondition field with ⟨filter, reads⟩
            exact ⟨_, reads⟩

theorem exists_readsAs_ordering (form : ValueForm) (key text : String) :
    ∃ event, ReadsAs form (.ordering key text) event := by
  have noColon : ∀ piece ∈ Text.split ':' text, ':' ∉ piece.toList :=
    fun piece pieceMem => Text.notMem_of_mem_split pieceMem
  have colon : ":".toList = [':'] := by decide
  have joined := Text.join_split ':' text
  rcases pieces : Text.split ':' text with _ | ⟨field, _ | ⟨direction, _ | ⟨next, more⟩⟩⟩
  · exact absurd pieces (Text.split_ne_nil ':' text)
  all_goals
    rw [pieces] at noColon joined
    rw [← joined]
  · rw [Text.join_singleton]
    exact ⟨_, .missingDirection (noColon field (by simp))⟩
  · rw [Text.join_cons colon, Text.join_singleton]
    exact ⟨_, .order (noColon field (by simp)) (noColon direction (by simp))⟩
  · rw [Text.join_cons colon, Text.join_cons colon, ← String.append_assoc, ← String.append_assoc]
    exact ⟨_, .orderBefore (noColon field (by simp)) (noColon direction (by simp))⟩

theorem exists_readsAs (form : ValueForm) (fragment : Fragment) :
    ∃ event, ReadsAs form fragment event := by
  cases fragment with
  | condition field text => exact exists_readsAs_condition form field text
  | ordering key text => exact exists_readsAs_ordering form key text
  | unknown key name text => exact ⟨_, .unknownDirective⟩

theorem readCondition_of_known {operator : Operator} {token : String}
    (noColon : ':' ∉ token.toList) (known : form.text token = operator.token) (raw : String) :
    readCondition form (token ++ ":" ++ raw) =
      (readOperand form operator raw).map fun operand => (operator, operand) := by
  simp [readCondition, Text.cut_append noColon, known]

theorem conditionEvents_of_known {operator : Operator} {token raw : String} {operand : Operand}
    (noColon : ':' ∉ token.toList) (known : form.text token = operator.token)
    (read : readOperand form operator raw = .ok operand)
    (shaped : FieldFilter.shape? operator operand = some operand) (field : String) :
    conditionEvents form field (token ++ ":" ++ raw) =
      [.filter ⟨field, operator, operand, false⟩] := by
  simp [conditionEvents, readCondition_of_known noColon known, read, Except.map,
    FieldFilter.build, shaped]

theorem events_of_readsAs (reads : ReadsAs form fragment event) :
    fragment.events form = [event] := by
  cases reads with
  | single noColon known notList notRange =>
      apply conditionEvents_of_known noColon known
      · simp [readOperand, notList, notRange]
      · simp [FieldFilter.shape?, notList, notRange, Operand.single?]
  | list noColon known isList nonempty noComma =>
      apply conditionEvents_of_known noColon known
      · simp [readOperand, isList, Text.split_join_of_notMem nonempty noComma]
      · simp [FieldFilter.shape?, isList, Operator.isRange_of_isList isList, nonempty]
  | @range operator field token low high noColon known isRange lowNoComma highNoComma =>
      have notList := Operator.isList_of_isRange isRange
      have pieces : Text.split ',' (low ++ "," ++ high) = [low, high] := by
        rw [Text.split_append (by decide), Text.split_of_notMem lowNoComma,
          Text.split_of_notMem highNoComma]
        rfl
      apply conditionEvents_of_known noColon known
      · simp [readOperand, notList, isRange, pieces]
      · simp [FieldFilter.shape?, isRange]
  | missingOperator noColon =>
      simp [Fragment.events, conditionEvents, readCondition, Text.cut_of_notMem noColon]
  | unknownOperator noColon unknown =>
      simp [Fragment.events, conditionEvents, readCondition, Text.cut_append noColon,
        Operator.ofToken?_eq_none_iff.mpr unknown]
  | @betweenArity operator field token bounds noColon known isRange otherCount =>
      have count : (Text.split ',' bounds).length = bounds.toList.count ',' + 1 :=
        Text.length_split bounds
      have read : readOperand form operator bounds =
          .error (.betweenArity (bounds.toList.count ',' + 1)) := by
        simp only [readOperand, Operator.isList_of_isRange isRange, isRange, Bool.false_eq_true,
          ↓reduceIte]
        split
        · rename_i low high pieces
          rw [pieces] at count
          simp only [List.length_cons, List.length_nil] at count
          omega
        · rw [count]
      simp [Fragment.events, conditionEvents, readCondition_of_known noColon known, read,
        Except.map]
  | order fieldNoColon directionNoColon =>
      have colon : ":".toList = [':'] := by decide
      simp [Fragment.events, orderEvent, Text.split_append colon,
        Text.split_of_notMem fieldNoColon, Text.split_of_notMem directionNoColon]
  | orderBefore fieldNoColon directionNoColon =>
      have colon : ":".toList = [':'] := by decide
      simp [Fragment.events, orderEvent, Text.split_append colon,
        Text.split_of_notMem fieldNoColon, Text.split_of_notMem directionNoColon]
  | missingDirection noColon =>
      simp [Fragment.events, orderEvent, Text.split_of_notMem noColon]
  | unknownDirective => rfl

theorem conditionEvents_of_readsAs {field text : String}
    (reads : ReadsAs form (.condition field text) event) :
    conditionEvents form field text = [event] :=
  events_of_readsAs reads

theorem existsUnique_readsAs (form : ValueForm) (fragment : Fragment) :
    ∃! event, ReadsAs form fragment event := by
  rcases exists_readsAs form fragment with ⟨event, reads⟩
  refine ⟨event, reads, ?_⟩
  intro other otherReads
  have same : [other] = [event] := by
    rw [← events_of_readsAs otherReads, events_of_readsAs reads]
  exact List.singleton_inj.mp same

/-- A condition that is read has an operand that suits its operator. -/
theorem exists_build_of_readCondition {text : String} {operator : Operator} {operand : Operand}
    (read : readCondition form text = .ok (operator, operand)) (field : String) :
    ∃ filter, FieldFilter.build field operator operand = .ok filter := by
  rcases exists_readsAs form (.condition field text) with ⟨event, reads⟩
  have events := events_of_readsAs reads
  simp only [Fragment.events, conditionEvents, read] at events
  cases built : FieldFilter.build field operator operand with
  | ok filter => exact ⟨filter, rfl⟩
  | error error => simp [built] at events

theorem isCondition_of_readsAs {field text : String} {filter : FieldFilter}
    (reads : ReadsAs form (.condition field text) (.filter filter)) : IsCondition form text := by
  cases reads with
  | single noColon known notList notRange =>
      exact ⟨_, _, _, rfl, noColon, known, by simp [notRange]⟩
  | list noColon known isList nonempty noComma =>
      exact ⟨_, _, _, rfl, noColon, known, by simp [Operator.isRange_of_isList isList]⟩
  | range noColon known isRange lowNoComma highNoComma =>
      refine ⟨_, _, _, rfl, noColon, known, ?_⟩
      intro _
      simp [List.count_eq_zero.mpr lowNoComma, List.count_eq_zero.mpr highNoComma]

namespace Event

/-- An event that some fragment is read as. -/
def isOutcome : Event → Bool
  | .filter _ | .order _ | .drop _ => true
  | .project _ | .directive _ _ | .negatedKey _ => false

end Event

theorem isOutcome_of_readsAs (reads : ReadsAs form fragment event) : event.isOutcome = true := by
  cases reads <;> rfl

theorem isOutcome_of_mem_events {fragments : List Fragment}
    (eventMem : event ∈ fragments.flatMap (Fragment.events form)) : event.isOutcome = true := by
  rcases List.mem_flatMap.mp eventMem with ⟨fragment, -, ofFragment⟩
  rcases exists_readsAs form fragment with ⟨only, reads⟩
  rw [events_of_readsAs reads, List.mem_singleton] at ofFragment
  subst ofFragment
  exact isOutcome_of_readsAs reads

theorem filter_isOutcome_events (form : ValueForm) (fragments : List Fragment) :
    (fragments.flatMap (Fragment.events form)).filter Event.isOutcome =
      fragments.flatMap (Fragment.events form) := by
  rw [List.filter_eq_self]
  exact fun event eventMem => isOutcome_of_mem_events eventMem

/-- A value is set as a whole or read as fragments. -/
theorem pairEvents_eq (form : ValueForm) (key value : String) :
    pairEvents form key value =
      assignedEvents form key value ++
        (Fragment.ofValue key value).flatMap (Fragment.events form) := by
  unfold pairEvents assignedEvents Fragment.ofValue
  cases directiveName? key with
  | none => simp [Fragment.events]
  | some name =>
      have unnamed : DirectiveKind.ofName? "orderby" = none := by decide
      unfold directiveEvents
      by_cases orders : name = "orderby"
      · simp [orders, unnamed, List.map_eq_flatMap, List.flatMap_assoc, Fragment.events]
      · by_cases projects : name = "field"
        · simp [projects]
        · cases kind : DirectiveKind.ofName? name <;> simp [orders, projects, kind, Fragment.events]

theorem filter_isOutcome_assignedEvents (form : ValueForm) (key value : String) :
    (assignedEvents form key value).filter Event.isOutcome = [] := by
  unfold assignedEvents
  repeat' split
  all_goals simp [Event.isOutcome]

theorem filter_isOutcome_parameters (form : ValueForm) (params : Parameters) :
    (params.events form).filter Event.isOutcome =
      params.fragments.flatMap (Fragment.events form) := by
  have noMarks (key : String) : (markEvents key).filter Event.isOutcome = [] := by
    unfold markEvents
    cases Text.dropLeading? '!' key <;> rfl
  rw [Parameters.events_eq, Parameters.fragments, List.filter_flatMap, List.flatMap_assoc]
  apply List.flatMap_congr
  intro entry _
  rw [List.filter_append, noMarks, List.nil_append, List.filter_flatMap, List.flatMap_assoc]
  apply List.flatMap_congr
  intro value _
  rw [pairEvents_eq, List.filter_append, filter_isOutcome_assignedEvents, List.nil_append,
    filter_isOutcome_events]

theorem forall₂_events (form : ValueForm) (fragments : List Fragment) :
    List.Forall₂ (ReadsAs form) fragments (fragments.flatMap (Fragment.events form)) := by
  induction fragments with
  | nil => exact .nil
  | cons fragment rest ih =>
      rcases exists_readsAs form fragment with ⟨event, reads⟩
      rw [List.flatMap_cons, events_of_readsAs reads]
      exact .cons reads ih

theorem selected_of_isOutcome_eq_false (noOutcome : event.isOutcome = false) :
    event.filter? = none ∧ event.order? = none ∧ event.dropped? = none := by
  cases event <;> simp_all [Event.isOutcome, Event.filter?, Event.order?, Event.dropped?]

theorem filterMap_filter_isOutcome {Selected : Type} {select : Event → Option Selected}
    (outcomesOnly : ∀ event, event.isOutcome = false → select event = none)
    (events : List Event) :
    (events.filter Event.isOutcome).filterMap select = events.filterMap select := by
  rw [List.filterMap_filter]
  apply List.filterMap_congr
  intro event _
  cases outcome : event.isOutcome <;> simp [outcomesOnly, outcome]

theorem length_outcomes {outcomes : List Event}
    (allOutcomes : ∀ event ∈ outcomes, event.isOutcome = true) :
    (outcomes.filterMap Event.filter?).length + (outcomes.filterMap Event.order?).length +
      (outcomes.filterMap Event.dropped?).length = outcomes.length := by
  induction outcomes with
  | nil => rfl
  | cons event rest ih =>
      simp only [List.mem_cons, forall_eq_or_imp] at allOutcomes
      have restLength := ih allOutcomes.2
      have isOutcome := allOutcomes.1
      cases event <;> simp only [Event.isOutcome, Bool.false_eq_true] at isOutcome <;>
        simp only [List.filterMap_cons, Event.filter?, Event.order?, Event.dropped?,
          List.length_cons] <;>
        omega

/--
Reading loses nothing: every fragment is read by exactly one rule of the grammar, and the filters,
orderings and dropped fragments are the outcomes of the fragments in the order they are met.
-/
theorem outcomes_of_fragments (form : ValueForm) (params : Parameters) :
    let parsed := Parsed.ofEvents (params.events form)
    (∀ fragment, ∃! event, ReadsAs form fragment event) ∧
      (∀ field text, (∃ filter, ReadsAs form (.condition field text) (.filter filter)) ↔
        IsCondition form text) ∧
      (∀ field text operator operand, readCondition form text = .ok (operator, operand) →
        ∃ filter, FieldFilter.build field operator operand = .ok filter) ∧
      (∃ outcomes, List.Forall₂ (ReadsAs form) params.fragments outcomes ∧
        parsed.query.filters = outcomes.filterMap Event.filter? ∧
        parsed.query.orders = outcomes.filterMap Event.order? ∧
        parsed.dropped = outcomes.filterMap Event.dropped?) ∧
      parsed.query.filters.length + parsed.query.orders.length + parsed.dropped.length =
        params.fragments.length := by
  have readings := forall₂_events form params.fragments
  rw [← filter_isOutcome_parameters] at readings
  have filters := filterMap_filter_isOutcome
    (fun _ noOutcome => (selected_of_isOutcome_eq_false noOutcome).1) (params.events form)
  have orders := filterMap_filter_isOutcome
    (fun _ noOutcome => (selected_of_isOutcome_eq_false noOutcome).2.1) (params.events form)
  have dropped := filterMap_filter_isOutcome
    (fun _ noOutcome => (selected_of_isOutcome_eq_false noOutcome).2.2) (params.events form)
  rw [Parsed.ofEvents_eq, ← filters, ← orders, ← dropped]
  refine ⟨existsUnique_readsAs form, ?_, ?_, ⟨_, readings, rfl, rfl, rfl⟩, ?_⟩
  · intro field text
    constructor
    · rintro ⟨filter, reads⟩
      exact isCondition_of_readsAs reads
    · intro isCondition
      exact exists_filter_of_isCondition isCondition field
  · intro field text operator operand read
    exact exists_build_of_readCondition read field
  · rw [readings.length_eq]
    apply length_outcomes
    intro event eventMem
    exact (List.mem_filter.mp eventMem).2

end RestQuery
