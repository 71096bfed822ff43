import RestQuery.Proofs.Text.Percent
import RestQuery.Proofs.Wire.WrittenPairs

/-!
# Query strings with marked keys

An exclamation mark in front of every segment is read as one in front of every key. Marked keys
are told apart exactly as the keys themselves are, so the values come together under the same keys
in the same order, and without its mark every key has the events that it had before. What is left
of the marks is the list of negated keys.

All segments have to be marked, or at least all those of one key: `a` and `!a` are two keys, whose
values do not come together.
-/

namespace RestQuery

/-- A segment with an exclamation mark in front; an empty one stays empty. -/
def markSegment (segment : String) : String :=
  if segment.isEmpty then segment else "!" ++ segment

/-- The query string without the question mark in front and with every segment marked. -/
def markSegments (raw : String) : String :=
  Text.join '&' ((Text.split '&' (dropQuestionMark raw)).map markSegment)

/-- A key and a value with an exclamation mark in front of the key. -/
def markPair (pair : String × String) : String × String :=
  ("!" ++ pair.1, pair.2)

theorem isEmpty_markSegment (segment : String) :
    (markSegment segment).isEmpty = segment.isEmpty := by
  unfold markSegment
  split
  · rfl
  · rename_i nonempty
    rw [Bool.eq_false_iff.mpr nonempty]
    simp

theorem notMem_markSegment {segment : String} (absent : '&' ∉ segment.toList) :
    '&' ∉ (markSegment segment).toList := by
  unfold markSegment
  split
  · exact absent
  · rw [String.toList_append, List.mem_append, not_or]
    exact ⟨by decide, absent⟩

theorem head?_markSegment (segment : String) :
    (markSegment segment).toList.head? ≠ some '?' := by
  unfold markSegment
  split
  · rename_i empty
    rw [String.isEmpty_iff.mp empty]
    decide
  · rw [String.toList_append]
    simp

/-- Marked segments start with their mark or are empty, so no question mark comes to the front. -/
theorem dropQuestionMark_markSegments (raw : String) :
    dropQuestionMark (markSegments raw) = markSegments raw := by
  have noQuestionMark : (markSegments raw).toList.head? ≠ some '?' := by
    intro starts
    rw [markSegments] at starts
    cases segments : Text.split '&' (dropQuestionMark raw) with
    | nil => exact Text.split_ne_nil '&' (dropQuestionMark raw) segments
    | cons segment rest =>
        rw [segments, List.map_cons] at starts
        rcases Text.head?_join_cons starts with segmentStarts | isSeparator
        · exact head?_markSegment segment segmentStarts
        · exact absurd isSeparator (by decide)
  rw [dropQuestionMark, Text.dropLeading?_of_head? noQuestionMark]
  rfl

theorem split_markSegments (raw : String) :
    Text.split '&' (markSegments raw) =
      (Text.split '&' (dropQuestionMark raw)).map markSegment := by
  apply Text.split_join_of_notMem
  · simpa using Text.split_ne_nil '&' (dropQuestionMark raw)
  · intro segment segmentMem
    rcases List.mem_map.mp segmentMem with ⟨piece, pieceMem, rfl⟩
    exact notMem_markSegment (Text.notMem_of_mem_split pieceMem)

/-- The mark in front of a segment goes to the part before the first `=`. -/
theorem cut_mark (segment : String) :
    (Text.cut '=' ("!" ++ segment)).getD ("!" ++ segment, "") =
      markPair ((Text.cut '=' segment).getD (segment, "")) := by
  have separates : "=".toList = ['='] := by decide
  have notEquals : '=' ∉ "!".toList := by decide
  cases isCut : Text.cut '=' segment with
  | none =>
      have absent : '=' ∉ ("!" ++ segment).toList := by
        rw [String.toList_append, List.mem_append, not_or]
        exact ⟨notEquals, Text.notMem_of_cut_eq_none isCut⟩
      rw [Text.cut_of_notMem absent]
      rfl
  | some parts =>
      rcases Text.exists_of_cut separates isCut with ⟨isSegment, absent⟩
      have absentMarked : '=' ∉ ("!" ++ parts.1).toList := by
        rw [String.toList_append, List.mem_append, not_or]
        exact ⟨notEquals, absent⟩
      rw [isSegment, ← String.append_assoc, ← String.append_assoc,
        Text.cut_append absentMarked separates]
      rfl

theorem isSeparator_mark : Percent.IsSeparator '!' :=
  ⟨by decide, by decide, by decide, by decide⟩

theorem decode_mark (key : String) : Percent.decode ("!" ++ key) = "!" ++ Percent.decode key := by
  have decoded := Percent.decodeChars_append isSeparator_mark.standsForItself [] key.toList
  have nothing : Percent.decodeChars [] = [] := rfl
  rw [nothing, List.nil_append, List.nil_append] at decoded
  apply String.toList_inj.mp
  rw [Percent.decode, Percent.decode, String.toList_append, String.toList_append,
    String.toList_ofList, String.toList_ofList]
  simpa using decoded

theorem writtenPairs_markSegments (raw : String) :
    writtenPairs (markSegments raw) = (writtenPairs raw).map markPair := by
  rw [writtenPairs, dropQuestionMark_markSegments, split_markSegments, writtenPairs, List.map_map,
    List.filter_map, List.map_map]
  have sameKept : (fun segment : String => !segment.isEmpty) ∘ markSegment =
      fun segment => !segment.isEmpty := by
    funext segment
    rw [Function.comp_apply, isEmpty_markSegment]
  rw [sameKept]
  apply List.map_congr_left
  intro segment segmentMem
  have nonempty : ¬ segment.isEmpty = true := by
    simpa using (List.mem_filter.mp segmentMem).2
  rw [Function.comp_apply, markSegment, if_neg nonempty, cut_mark]
  rfl

theorem decodedPairs_markSegments (raw : String) :
    decodedPairs (markSegments raw) = (decodedPairs raw).map markPair := by
  rw [decodedPairs, writtenPairs_markSegments, decodedPairs, List.map_map, List.map_map]
  apply List.map_congr_left
  rintro ⟨key, value⟩ _
  simp only [Function.comp_apply, markPair, decode_mark]

theorem dropLeading?_mark (key : String) : Text.dropLeading? '!' ("!" ++ key) = some key :=
  Text.dropLeading?_append (by decide) key

theorem mark_inj {left right : String} (same : "!" ++ left = "!" ++ right) : left = right := by
  have dropped := congrArg (Text.dropLeading? '!') same
  rwa [dropLeading?_mark, dropLeading?_mark, Option.some.injEq] at dropped

namespace Parameters

/-- Whatever is selected from the events besides the marks, marked keys give the same. -/
theorem filterMap_events_markPair (form : ValueForm) {Selected : Type}
    (select : Event → Option Selected) (unmarked : ∀ key, select (.negatedKey key) = none)
    {pairs : List (String × String)}
    (bare : ∀ pair ∈ pairs, pair.1.toList.head? ≠ some '!') :
    ((ofPairs (pairs.map markPair)).events form).filterMap select =
      ((ofPairs pairs).events form).filterMap select := by
  have sameGroups : regroup (fun pair => (markPair pair).1) pairs = regroup Prod.fst pairs := by
    apply regroup_congr
    intro left _ right _
    exact ⟨mark_inj, congrArg ("!" ++ ·)⟩
  rw [filterMap_events unmarked, filterMap_events unmarked, regroup_map, sameGroups,
    List.flatMap_map]
  apply List.flatMap_congr
  intro pair pairMem
  have isBare := bare pair (mem_regroup.mp pairMem)
  rw [bareKey, bareKey, markPair, dropLeading?_mark, Text.dropLeading?_of_head? isBare]
  rfl

theorem negatedKeys_markPair (form : ValueForm) (pairs : List (String × String)) :
    ((ofPairs (pairs.map markPair)).events form).filterMap Event.negatedKey? =
      (pairs.map Prod.fst).eraseDups := by
  have sameKeys : (pairs.map markPair).map Prod.fst = (pairs.map Prod.fst).map ("!" ++ ·) := by
    rw [List.map_map, List.map_map]
    rfl
  have dropsMark : Text.dropLeading? '!' ∘ ("!" ++ ·) = some := by
    funext key
    exact dropLeading?_mark key
  have tellsApart : ∀ left ∈ (pairs.map markPair).map Prod.fst,
      ∀ right ∈ (pairs.map markPair).map Prod.fst, ∀ name,
      Text.dropLeading? '!' left = some name → Text.dropLeading? '!' right = some name →
        left = right := by
    intro left _ right _ name isLeft isRight
    apply String.toList_inj.mp
    rw [Text.eq_append_of_dropLeading? isLeft, Text.eq_append_of_dropLeading? isRight]
  rw [negatedKeys_events, filterMap_eraseDups tellsApart, sameKeys, List.filterMap_map, dropsMark,
    List.filterMap_some]

theorem negatedKeys_of_bare (form : ValueForm) {pairs : List (String × String)}
    (bare : ∀ pair ∈ pairs, pair.1.toList.head? ≠ some '!') :
    ((ofPairs pairs).events form).filterMap Event.negatedKey? = [] := by
  rw [negatedKeys_events, List.filterMap_eq_nil_iff]
  intro key keyMem
  rcases List.mem_map.mp (List.mem_eraseDups.mp keyMem) with ⟨pair, pairMem, rfl⟩
  exact Text.dropLeading?_of_head? (bare pair pairMem)

end Parameters

/--
A mark in front of every segment changes nothing but the list of negated keys, which are then all
the keys.
-/
theorem parseQueryString_markSegments {raw : String}
    (bare : ∀ key ∈ decodedKeys raw, key.toList.head? ≠ some '!') :
    parseQueryString (markSegments raw) =
        { parseQueryString raw with negatedKeys := (decodedKeys raw).eraseDups } ∧
      (parseQueryString raw).negatedKeys = [] := by
  have barePairs : ∀ pair ∈ decodedPairs raw, pair.1.toList.head? ≠ some '!' :=
    fun pair pairMem => bare pair.1 (List.mem_map_of_mem pairMem)
  have noneNegated := Parameters.negatedKeys_of_bare .written barePairs
  have allNegated := Parameters.negatedKeys_markPair .written (decodedPairs raw)
  rw [parseQueryString_eq, parseQueryString_eq, decodedPairs_markSegments, Parsed.ofEvents_eq,
    Parsed.ofEvents_eq, allNegated, noneNegated, decodedKeys]
  refine ⟨?_, rfl⟩
  have sameSelected {Selected : Type} (select : Event → Option Selected)
      (unmarked : ∀ key, select (.negatedKey key) = none) :=
    Parameters.filterMap_events_markPair .written select unmarked barePairs
  rw [sameSelected Event.filter? fun _ => rfl, sameSelected Event.order? fun _ => rfl,
    sameSelected Event.projection? fun _ => rfl, sameSelected Event.directive? fun _ => rfl,
    sameSelected Event.dropped? fun _ => rfl]

/-- Filter keys, a directive in two spellings, an empty key and a key without a value. -/
theorem parseQueryString_markSegments_everyKind :
    let raw := "?a=eq:1&&_limit=3&=eq:2&b&a=lt:9,&%5Flimit=4&_orderby=x"
    let marked := "!a=eq:1&&!_limit=3&!=eq:2&!b&!a=lt:9,&!%5Flimit=4&!_orderby=x"
    (∀ key ∈ decodedKeys raw, key.toList.head? ≠ some '!') ∧ markSegments raw = marked ∧
      parseQueryString marked =
        { parseQueryString raw with negatedKeys := ["a", "_limit", "", "b", "_orderby"] } ∧
      (parseQueryString raw).negatedKeys = [] := by
  intro raw marked
  have bare : ∀ key ∈ decodedKeys raw, key.toList.head? ≠ some '!' := by decide +kernel
  have isMarked : markSegments raw = marked := by decide +kernel
  have distinctKeys : (decodedKeys raw).eraseDups = ["a", "_limit", "", "b", "_orderby"] := by
    decide +kernel
  have sameMeaning := parseQueryString_markSegments bare
  rw [isMarked, distinctKeys] at sameMeaning
  exact ⟨bare, isMarked, sameMeaning⟩

end RestQuery
