import Mathlib.Tactic.MkIffOfInductiveProp
import RestQuery.Proofs.Text.Splitting
import RestQuery.Wire.Segments

/-!
# The compiled text as keys and values

`Builder.pairs` lists what a builder says on the wire as keys and values, and
`Builder.compile_eq` that the query string is these pairs and nothing else, each as `key=value`,
joined with `&`. Every statement about the compiled text starts from it, so that only this file
knows how segments are put together. `segmentsOf` takes the text apart again.
-/

namespace RestQuery

/-- A key and a value as one segment. -/
def pairText (pair : String × String) : String :=
  pair.1 ++ "=" ++ pair.2

theorem toList_pairText (pair : String × String) :
    (pairText pair).toList = pair.1.toList ++ '=' :: pair.2.toList := by
  simp [pairText]

theorem pairText_ne_empty (pair : String × String) : pairText pair ≠ "" := by
  intro isEmpty
  have charsEmpty := congrArg String.toList isEmpty
  simp [toList_pairText] at charsEmpty

theorem concatenate_eq (before group after : List String)
    (nonempty : ∀ segment ∈ group, segment ≠ "") :
    concatenate (before ++ Text.join '&' group :: after) =
      Text.join '&' (before.filter (!·.isEmpty) ++ group ++ after.filter (!·.isEmpty)) := by
  rw [concatenate, List.filter_append]
  rcases group with _ | ⟨segment, more⟩
  · rw [List.filter_cons_of_neg (by decide), List.append_nil]
  · have joined : Text.join '&' (segment :: more) ≠ "" :=
      Text.join_ne_empty (by simp) nonempty
    rw [List.filter_cons_of_pos (by simpa using joined),
      Text.join_append_join _ _ _ (by simp)]

/-- A column that does not begin with the collection and a dot. -/
def IsUnqualified (collection column : String) : Prop :=
  collection.isEmpty ∨ ¬ (collection ++ ".").toList <+: column.toList

instance (collection column : String) : Decidable (IsUnqualified collection column) :=
  inferInstanceAs (Decidable (_ ∨ _))

theorem stripCollection_of_isUnqualified {collection column : String}
    (unqualified : IsUnqualified collection column) :
    stripCollection collection column = column := by
  unfold stripCollection
  split
  · rfl
  · rename_i someCollection
    have noPrefix : ¬ (collection ++ ".").toList <+: column.toList :=
      unqualified.resolve_left someCollection
    rw [Text.dropStart?, if_neg (by simpa [List.isPrefixOf_iff_prefix] using noPrefix)]
    rfl

theorem isUnqualified_of_noDot {column : String} (noDot : '.' ∉ column.toList)
    (collection : String) : IsUnqualified collection column := by
  right
  intro qualified
  have dotMem : '.' ∈ (collection ++ ".").toList := by simp
  exact noDot (qualified.subset dotMem)

theorem stripCollection_append {collection : String} (named : collection ≠ "")
    (column : String) : stripCollection collection (collection ++ "." ++ column) = column := by
  rw [stripCollection, if_neg (by simpa using named), Text.dropStart?_eq_some_iff.mpr rfl]
  rfl

/-- Stripping keeps a column as it is, or takes off the collection and a dot. -/
theorem stripCollection_cases (collection column : String) :
    IsUnqualified collection column ∧ stripCollection collection column = column ∨
      collection ≠ "" ∧ column = collection ++ "." ++ stripCollection collection column := by
  by_cases unqualified : IsUnqualified collection column
  · exact .inl ⟨unqualified, stripCollection_of_isUnqualified unqualified⟩
  · simp only [IsUnqualified, not_or, Decidable.not_not] at unqualified
    rcases unqualified with ⟨named, others, isColumn⟩
    have named : collection ≠ "" := by simpa using named
    have qualified : column = collection ++ "." ++ String.ofList others := by
      rw [← String.toList_inj, String.toList_append, String.toList_ofList, isColumn]
    refine .inr ⟨named, ?_⟩
    rw [qualified, stripCollection_append named]

theorem notMem_stripCollection {char : Char} {collection column : String}
    (absent : char ∉ column.toList) : char ∉ (stripCollection collection column).toList := by
  rcases stripCollection_cases collection column with ⟨-, isColumn⟩ | ⟨-, isColumn⟩
  · rwa [isColumn]
  · intro present
    rw [isColumn, String.toList_append] at absent
    exact absent (List.mem_append_right _ present)

namespace Condition

/-- The key and the value that a condition is written as; a group has none. -/
def pair? (collection : String) (condition : Condition) : Option (String × String) :=
  condition.rule?.map fun (column, rule) =>
    (condition.marker ++ stripCollection collection column, rule)

theorem column?_of_rule? {condition : Condition} {column rule : String}
    (hasRule : condition.rule? = some (column, rule)) : condition.column? = some column := by
  cases condition <;> cases hasRule <;> rfl

theorem segment_eq (collection : String) (condition : Condition) :
    condition.segment collection =
      match condition.pair? collection with
      | some pair => .ok (pairText pair)
      | none => .error nestedNotSupported := by
  unfold segment pair?
  cases condition.rule? <;> rfl

def pair (collection : String) (condition : Condition) : String × String :=
  (condition.pair? collection).getD ("", "")

theorem segment_of_flat {condition : Condition} (flat : condition.isNested = false)
    (collection : String) :
    condition.segment collection = .ok (pairText (condition.pair collection)) := by
  rw [segment_eq, pair]
  cases condition with
  | nested group junction => simp [isNested] at flat
  | _ => rfl

end Condition

namespace Builder

variable (builder : Builder)

def IsFlat : Prop :=
  ∀ condition ∈ builder.conditions, condition.isNested = false

def aggregatePairs : List (String × String) :=
  builder.aggregate.toList.map fun aggregate =>
    ("_aggregate",
      if isWildcard aggregate.columns then aggregate.function
      else aggregate.function ++ ":" ++ Text.join ',' aggregate.columns)

def columnPairs : List (String × String) :=
  (builder.columns.toList.filter (!isWildcard ·)).map fun columns =>
    ("field", Text.join ',' columns)

def orderPairs : List (String × String) :=
  if builder.orders.isEmpty then []
  else [("_orderBy", Text.join ',' (builder.orders.map (orderItem builder.collection)))]

def countPairs (key : String) (count : Option UInt64) : List (String × String) :=
  count.toList.map fun count => (key, count.toNat.repr)

def hintPairs : List (String × String) :=
  builder.hint.toList.map fun hint => ("_hint", Percent.encode hint)

/-- The keys and values that a builder without groups is written as, in order. -/
def pairs : List (String × String) :=
  builder.aggregatePairs ++ builder.columnPairs ++
    builder.conditions.map (Condition.pair builder.collection) ++
    (builder.orderPairs ++ countPairs "_limit" builder.limit ++
      countPairs "_offset" builder.offset ++ countPairs "_timeout" builder.timeout ++
      builder.hintPairs)

/-- The pairs behind the conditions of a search. -/
def settingPairs : List (String × String) :=
  builder.orderPairs ++ countPairs "_limit" builder.limit ++ countPairs "_offset" builder.offset

/-- A builder of conditions, orderings, limit and offset, which asks for whole records. -/
@[mk_iff]
structure IsSearch : Prop where
  noColumns : ∀ columns ∈ builder.columns, isWildcard columns
  noAggregate : builder.aggregate = none
  noTimeout : builder.timeout = none
  noHint : builder.hint = none

variable {builder} in
theorem pairs_of_isSearch (search : builder.IsSearch) :
    builder.pairs =
      builder.conditions.map (Condition.pair builder.collection) ++ builder.settingPairs := by
  have noColumns : builder.columnPairs = [] := by
    unfold columnPairs
    cases columns : builder.columns with
    | none => rfl
    | some columns => simp [search.noColumns _ columns]
  simp [pairs, aggregatePairs, noColumns, hintPairs, countPairs, settingPairs,
    search.noAggregate, search.noTimeout, search.noHint]

theorem text_eq_pairText {start key : String} (starts : start = key ++ "=") (value : String) :
    start ++ value = pairText (key, value) := by
  rw [starts, pairText]

theorem filter_pairText (pair : String × String) :
    [pairText pair].filter (!·.isEmpty) = [pairText pair] :=
  List.filter_cons_of_pos (by simpa using pairText_ne_empty pair)

theorem filter_aggregateSegment :
    [builder.aggregateSegment].filter (!·.isEmpty) = builder.aggregatePairs.map pairText := by
  unfold aggregateSegment aggregatePairs
  cases builder.aggregate with
  | none => rfl
  | some aggregate =>
      have starts : "_aggregate=" = "_aggregate" ++ "=" := by decide
      by_cases wildcard : isWildcard aggregate.columns
      · simp only [wildcard, ↓reduceIte, text_eq_pairText starts, filter_pairText]
        simp [wildcard]
      · simp only [wildcard, Bool.false_eq_true, ↓reduceIte]
        rw [String.append_assoc, String.append_assoc, text_eq_pairText starts, filter_pairText]
        simp [wildcard, String.append_assoc]

theorem filter_columnsSegment :
    [builder.columnsSegment].filter (!·.isEmpty) = builder.columnPairs.map pairText := by
  unfold columnsSegment columnPairs
  cases builder.columns with
  | none => rfl
  | some columns =>
      have starts : "field=" = "field" ++ "=" := by decide
      by_cases wildcard : isWildcard columns
      · simp [wildcard]
      · simp only [wildcard, Bool.false_eq_true, ↓reduceIte, text_eq_pairText starts,
          filter_pairText]
        simp [wildcard]

theorem filter_ordersSegment :
    [builder.ordersSegment].filter (!·.isEmpty) = builder.orderPairs.map pairText := by
  unfold ordersSegment orderPairs
  have starts : "_orderBy=" = "_orderBy" ++ "=" := by decide
  split
  · rfl
  · rw [text_eq_pairText starts, filter_pairText]
    rfl

theorem filter_countSegment (key : String) (count : Option UInt64) :
    [countSegment key count].filter (!·.isEmpty) = (countPairs key count).map pairText := by
  cases count with
  | none => rfl
  | some count => exact filter_pairText (key, count.toNat.repr)

theorem filter_hintSegment :
    [builder.hintSegment].filter (!·.isEmpty) = builder.hintPairs.map pairText := by
  unfold hintSegment hintPairs
  have starts : "_hint=" = "_hint" ++ "=" := by decide
  cases builder.hint with
  | none => rfl
  | some hint =>
      simp only [text_eq_pairText starts, filter_pairText]
      rfl

variable {builder}

theorem conditionSegments_eq (flat : builder.IsFlat) :
    builder.conditionSegments =
      .ok ((builder.conditions.map (Condition.pair builder.collection)).map pairText) := by
  unfold IsFlat at flat
  unfold conditionSegments
  generalize builder.conditions = conditions at flat ⊢
  induction conditions with
  | nil => rfl
  | cons condition rest ih =>
      simp only [List.mem_cons, forall_eq_or_imp] at flat
      rw [List.mapM_cons, Condition.segment_of_flat flat.1, ih flat.2]
      rfl

/-- A builder without groups compiles to its pairs, joined with `&`. -/
theorem compile_eq (flat : builder.IsFlat) :
    builder.compile =
      .ok
        { path := requestPath builder.collection "query"
          query := Text.join '&' (builder.pairs.map pairText)
          body := none } := by
  have nonempty : ∀ segment ∈
      (builder.conditions.map (Condition.pair builder.collection)).map pairText,
      segment ≠ "" := by
    intro segment segmentMem
    rcases List.mem_map.mp segmentMem with ⟨pair, -, rfl⟩
    exact pairText_ne_empty pair
  have beforeEq : [builder.aggregateSegment, builder.columnsSegment].filter (!·.isEmpty) =
      (builder.aggregatePairs ++ builder.columnPairs).map pairText := by
    rw [List.map_append, ← filter_aggregateSegment, ← filter_columnsSegment, ← List.filter_append]
    rfl
  have afterEq : [builder.ordersSegment, builder.limitSegment, builder.offsetSegment,
      builder.timeoutSegment, builder.hintSegment].filter (!·.isEmpty) =
      (builder.orderPairs ++ countPairs "_limit" builder.limit ++
        countPairs "_offset" builder.offset ++ countPairs "_timeout" builder.timeout ++
        builder.hintPairs).map pairText := by
    simp only [List.map_append, ← filter_ordersSegment, ← filter_countSegment,
      ← filter_hintSegment, ← List.filter_append]
    rfl
  have joined := concatenate_eq [builder.aggregateSegment, builder.columnsSegment]
    ((builder.conditions.map (Condition.pair builder.collection)).map pairText)
    [builder.ordersSegment, builder.limitSegment, builder.offsetSegment, builder.timeoutSegment,
      builder.hintSegment] nonempty
  rw [beforeEq, afterEq, ← List.map_append, ← List.map_append] at joined
  rw [compile, segments, compileConditions, conditionSegments_eq flat, pairs, ← joined]
  rfl

theorem conditionSegments_of_not_flat (notFlat : ¬builder.IsFlat) :
    builder.conditionSegments = .error Condition.nestedNotSupported := by
  unfold IsFlat at notFlat
  unfold conditionSegments
  generalize builder.conditions = conditions at notFlat ⊢
  induction conditions with
  | nil => simp at notFlat
  | cons condition rest ih =>
      rw [List.mapM_cons]
      cases isNested : condition.isNested with
      | false =>
          have restNotFlat : ¬∀ condition ∈ rest, condition.isNested = false := by
            intro flat
            exact notFlat (List.forall_mem_cons.mpr ⟨isNested, flat⟩)
          rw [Condition.segment_of_flat isNested, ih restNotFlat]
          rfl
      | true =>
          cases condition with
          | nested group junction => rfl
          | _ => simp [Condition.isNested] at isNested

/-- A builder with a group among its conditions does not compile. -/
theorem compile_of_not_flat (notFlat : ¬builder.IsFlat) :
    builder.compile = .error Condition.nestedNotSupported := by
  rw [compile, segments, compileConditions, conditionSegments_of_not_flat notFlat]
  rfl

theorem pairs_ne_empty (builder : Builder) :
    ∀ segment ∈ builder.pairs.map pairText, segment ≠ "" := by
  intro segment segmentMem
  rcases List.mem_map.mp segmentMem with ⟨pair, -, rfl⟩
  exact pairText_ne_empty pair

theorem notMem_repr {char : Char} (notDigit : char.isDigit = false) (count : Nat) :
    char ∉ count.repr.toList := by
  intro charMem
  rw [Nat.toList_repr] at charMem
  simp [Nat.isDigit_of_mem_toDigits (by decide) (by decide) charMem] at notDigit

theorem toList_signText (order : SortOrder) :
    order.signText.toList = ['1'] ∨ order.signText.toList = ['-', '1'] := by
  cases order
  · exact Or.inl rfl
  · exact Or.inr rfl

theorem notMem_signText {char : Char} (notOne : char ≠ '1') (notMinus : char ≠ '-')
    (order : SortOrder) : char ∉ order.signText.toList := by
  rcases toList_signText order with chars | chars <;> simp [chars, notOne, notMinus]

theorem notMem_orderItem {collection : String} {order : String × SortOrder} {char : Char}
    (absent : char ∉ (stripCollection collection order.1).toList) (notColon : char ≠ ':')
    (notOne : char ≠ '1') (notMinus : char ≠ '-') :
    char ∉ (orderItem collection order).toList := by
  have notInSign := notMem_signText notOne notMinus order.2
  simp [orderItem, absent, notColon, notInSign]

end Builder

/-- The segments of a query string; the empty one has none. -/
def segmentsOf (query : String) : List String :=
  if query.isEmpty then [] else Text.split '&' query

theorem segmentsOf_join {segments : List String} (nonempty : ∀ segment ∈ segments, segment ≠ "") :
    segmentsOf (Text.join '&' segments) = segments.flatMap (Text.split '&') := by
  unfold segmentsOf
  rcases segments with _ | ⟨segment, rest⟩
  · rfl
  · have someText : Text.join '&' (segment :: rest) ≠ "" := Text.join_ne_empty (by simp) nonempty
    rw [if_neg (by simpa using someText), Text.split_join (by simp)]

end RestQuery
