import Mathlib.Algebra.GroupWithZero.Nat
import RestQuery.Proofs.Relay.Recorded

/-!
# The segments of what is sent on

Operands are encoded one by one, so nothing that a client writes behind a colon can hold a
separator when it is sent on. Columns stand as they are, and a key may have been written with an
escaped `&`. `segmentsOf_relay` weighs the two: there is one segment for each condition and each
setting, and one more for every `&` in a column.
-/

namespace RestQuery

namespace Text

/-- Joining adds no characters other than the separator. -/
theorem count_joinChars {separator char : Char} (other : char ≠ separator)
    (pieces : List (List Char)) :
    (joinChars separator pieces).count char = (pieces.map (List.count char)).sum := by
  induction pieces with
  | nil => rfl
  | cons piece rest ih =>
      cases rest with
      | nil => simp [joinChars]
      | cons next more =>
          rw [joinChars, List.count_append, List.count_cons_of_ne other.symm, ih]
          simp

theorem count_join {separator char : Char} (other : char ≠ separator) (pieces : List String) :
    (join separator pieces).toList.count char =
      (pieces.map fun piece => piece.toList.count char).sum := by
  rw [join, String.toList_ofList, count_joinChars other, List.map_map]
  rfl

end Text

def ampersands (text : String) : Nat :=
  text.toList.count '&'

theorem ampersands_eq_zero {text : String} : ampersands text = 0 ↔ '&' ∉ text.toList :=
  List.count_eq_zero

theorem ampersands_append (left right : String) :
    ampersands (left ++ right) = ampersands left + ampersands right := by
  simp [ampersands]

theorem ampersands_pairText (pair : String × String) :
    ampersands (pairText pair) = ampersands pair.1 + ampersands pair.2 := by
  have equals : ampersands "=" = 0 := by decide
  rw [pairText, ampersands_append, ampersands_append, equals, Nat.add_zero]

theorem length_flatMap_split (segments : List String) :
    (segments.flatMap (Text.split '&')).length =
      segments.length + (segments.map ampersands).sum := by
  induction segments with
  | nil => rfl
  | cons segment rest ih =>
      rw [List.flatMap_cons, List.length_append, ih, Text.length_split, List.length_cons,
        List.map_cons, List.sum_cons, ampersands]
      omega

namespace Builder

variable (builder : Builder)

/-- The columns as they are written, those of the conditions before those of the orderings. -/
def wireColumns : List String :=
  builder.conditions.map (Condition.wireColumn builder.collection) ++
    builder.orders.map fun order => stripCollection builder.collection order.1

/-- The number of segments that a builder of conditions, orderings, limit and offset has. -/
def segmentCount : Nat :=
  builder.conditions.length + (if builder.orders.isEmpty then 0 else 1) +
    (if builder.limit.isSome then 1 else 0) + (if builder.offset.isSome then 1 else 0)

theorem length_countPairs (key : String) (count : Option UInt64) :
    (countPairs key count).length = if count.isSome then 1 else 0 := by
  cases count <;> rfl

theorem length_orderPairs :
    builder.orderPairs.length = if builder.orders.isEmpty then 0 else 1 := by
  unfold orderPairs
  split <;> rfl

variable {builder}

theorem length_pairs (search : builder.IsSearch) : builder.pairs.length = builder.segmentCount := by
  rw [pairs_of_isSearch search, settingPairs, segmentCount]
  simp only [List.length_append, List.length_map, length_countPairs, length_orderPairs]
  omega

theorem ampersands_pair {collection : String} {condition : Condition}
    (form : condition.HasReadableForm) :
    ampersands (pairText (condition.pair collection)) =
      ampersands (condition.wireColumn collection) := by
  have plainMarker : ampersands condition.marker = 0 := by
    unfold Condition.marker
    cases condition.junction <;> decide
  have plainValue : ampersands (condition.pair collection).2 = 0 :=
    ampersands_eq_zero.mpr (Condition.notMem_pair_snd form)
  rw [ampersands_pairText, Condition.pair_fst form,
    ampersands_append, plainMarker, plainValue, Nat.zero_add, Nat.add_zero]

theorem ampersands_orderItem (collection : String) (order : String × SortOrder) :
    ampersands (orderItem collection order) = ampersands (stripCollection collection order.1) := by
  have plainColon : ampersands ":" = 0 := by decide
  have plainSign : ampersands order.2.signText = 0 :=
    ampersands_eq_zero.mpr (notMem_signText (by decide) (by decide) order.2)
  rw [orderItem, ampersands_append, ampersands_append, plainColon, plainSign, Nat.add_zero]

theorem ampersands_orderPairs :
    ((builder.orderPairs.map pairText).map ampersands).sum =
      ((builder.orders.map fun order => stripCollection builder.collection order.1).map
        ampersands).sum := by
  unfold orderPairs
  split
  · rename_i noOrders
    simp [List.isEmpty_iff.mp noOrders]
  · have plainKey : ampersands "_orderBy" = 0 := by decide
    have items : ampersands (Text.join ',' (builder.orders.map (orderItem builder.collection))) =
        ((builder.orders.map (orderItem builder.collection)).map ampersands).sum :=
      Text.count_join (by decide) _
    simp only [List.map_cons, List.map_nil, List.sum_cons, List.sum_nil, ampersands_pairText,
      plainKey, items, List.map_map, Nat.zero_add, Nat.add_zero]
    congr 1
    apply List.map_congr_left
    intro order _
    exact ampersands_orderItem builder.collection order

theorem ampersands_countPairs {key : String} (plainKey : ampersands key = 0)
    (count : Option UInt64) : (((countPairs key count).map pairText).map ampersands).sum = 0 := by
  cases count with
  | none => rfl
  | some count =>
      have plainValue : ampersands count.toNat.repr = 0 :=
        ampersands_eq_zero.mpr (notMem_repr (by decide) _)
      simp [countPairs, ampersands_pairText, plainKey, plainValue]

/-- All separators inside the segments of a search stand in its columns. -/
theorem ampersands_pairs (search : builder.IsSearch)
    (forms : ∀ condition ∈ builder.conditions, condition.HasReadableForm) :
    ((builder.pairs.map pairText).map ampersands).sum =
      (builder.wireColumns.map ampersands).sum := by
  have inConditions :
      ((builder.conditions.map (Condition.pair builder.collection)).map pairText).map ampersands =
        (builder.conditions.map (Condition.wireColumn builder.collection)).map ampersands := by
    rw [List.map_map, List.map_map, List.map_map]
    apply List.map_congr_left
    intro condition conditionMem
    exact ampersands_pair (forms condition conditionMem)
  have plainLimit : ampersands "_limit" = 0 := by decide
  have plainOffset : ampersands "_offset" = 0 := by decide
  have inLimit := ampersands_countPairs plainLimit builder.limit
  have inOffset := ampersands_countPairs plainOffset builder.offset
  rw [pairs_of_isSearch search, settingPairs, wireColumns]
  simp only [List.map_append, List.sum_append, inConditions, inLimit, inOffset,
    ampersands_orderPairs, Nat.add_zero]

end Builder

theorem sum_ampersands_eq_zero {texts : List String} :
    (texts.map ampersands).sum = 0 ↔ ∀ text ∈ texts, '&' ∉ text.toList := by
  simp only [List.sum_eq_zero_iff_forall_eq_nat, List.mem_map, forall_exists_index, and_imp,
    forall_apply_eq_imp_iff₂, ampersands_eq_zero]

theorem flatMap_split_of_ampersands {segments : List String}
    (plain : (segments.map ampersands).sum = 0) :
    segments.flatMap (Text.split '&') = segments :=
  Text.flatMap_split_of_notMem (sum_ampersands_eq_zero.mp plain)

/--
What is sent on has the segments of the recorded builder, each cut at the separators it holds.
These stand in columns alone, and without any the segments are those of the builder.
-/
theorem segmentsOf_relay (collection raw : String) :
    ∃ query, relay collection raw = .ok query ∧
      segmentsOf query =
        ((recorded collection raw).pairs.map pairText).flatMap (Text.split '&') ∧
      (segmentsOf query).length = (recorded collection raw).segmentCount +
        ((recorded collection raw).wireColumns.map ampersands).sum ∧
      (segmentsOf query = (recorded collection raw).pairs.map pairText ↔
        ∀ column ∈ (recorded collection raw).wireColumns, '&' ∉ column.toList) := by
  have search : (recorded collection raw).IsSearch := isSearch_recorded
  have pieces := segmentsOf_join (recorded collection raw).pairs_ne_empty
  have total := Builder.ampersands_pairs search hasReadableForm_recorded
  have count := length_flatMap_split ((recorded collection raw).pairs.map pairText)
  rw [← pieces, total, List.length_map, Builder.length_pairs search] at count
  refine ⟨_, relay_eq, pieces, count, ?_⟩
  rw [← sum_ampersands_eq_zero]
  constructor
  · intro same
    rw [same, List.length_map, Builder.length_pairs search] at count
    omega
  · intro plainColumns
    rw [pieces]
    exact flatMap_split_of_ampersands (total.trans plainColumns)

/-- A key with an escaped separator makes two segments of one condition. -/
theorem segmentsOf_relay_escapedKey :
    (recorded "users" "a%26b=eq:1").segmentCount = 1 ∧
      (relay "users" "a%26b=eq:1").map segmentsOf = .ok ["a", "b=eq:1"] := by
  decide

end RestQuery
