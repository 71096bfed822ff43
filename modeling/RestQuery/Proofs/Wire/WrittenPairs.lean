import RestQuery.Proofs.Text.Percent
import RestQuery.Proofs.Wire.Compiled
import RestQuery.Proofs.Wire.Events

/-!
# Keys and values of a query string

`writtenPairs` cuts a query string into the keys and values that `pairText` and a join put
together. `writtenPairs_join` says that the two cancel as soon as no key or value holds a
character that the cut looks for. A query string that is read has its keys decoded as well, which
`decodedPairs_join` shows to make no difference for such pairs.
-/

namespace RestQuery

/-- A key and a value that a query string gives back: the key stands for itself. -/
structure IsPlainPair (pair : String × String) : Prop where
  noAmpersand : '&' ∉ pair.1.toList
  noEquals : '=' ∉ pair.1.toList
  noPercent : '%' ∉ pair.1.toList
  noPlus : '+' ∉ pair.1.toList
  valueNoAmpersand : '&' ∉ pair.2.toList

/-- The text does not begin with the question mark that is dropped in front. -/
def LacksQuestionMark (pairs : List (String × String)) : Prop :=
  ∀ pair, pairs.head? = some pair → pair.1.toList.head? ≠ some '?'

theorem split_pairText {pairs : List (String × String)} (nonempty : pairs ≠ [])
    (plain : ∀ pair ∈ pairs, IsPlainPair pair) :
    Text.split '&' (Text.join '&' (pairs.map pairText)) = pairs.map pairText := by
  apply Text.split_join_of_notMem (by simpa using nonempty)
  intro segment segmentMem
  rcases List.mem_map.mp segmentMem with ⟨pair, pairMem, rfl⟩
  rw [toList_pairText, List.mem_append, List.mem_cons, not_or, not_or]
  exact ⟨(plain pair pairMem).noAmpersand, by decide, (plain pair pairMem).valueNoAmpersand⟩

theorem head?_join_pairText {pair : String × String} {rest : List (String × String)}
    (lacksMark : pair.1.toList.head? ≠ some '?') :
    (Text.join '&' ((pair :: rest).map pairText)).toList.head? ≠ some '?' := by
  intro isMark
  rw [List.map_cons] at isMark
  rcases Text.head?_join_cons isMark with pairStarts | isSeparator
  · rw [toList_pairText] at pairStarts
    cases key : pair.1.toList with
    | nil => simp [key] at pairStarts
    | cons char more =>
        rw [key, List.cons_append] at pairStarts
        exact lacksMark (by rw [key]; exact pairStarts)
  · exact absurd isSeparator (by decide)

/-- Plain pairs that are joined are cut into the same pairs again. -/
theorem writtenPairs_join {pairs : List (String × String)}
    (plain : ∀ pair ∈ pairs, IsPlainPair pair) (lacksMark : LacksQuestionMark pairs) :
    writtenPairs (Text.join '&' (pairs.map pairText)) = pairs := by
  rcases pairs with _ | ⟨pair, rest⟩
  · rfl
  · have kept : dropQuestionMark (Text.join '&' ((pair :: rest).map pairText)) =
        Text.join '&' ((pair :: rest).map pairText) := by
      rw [dropQuestionMark, Text.dropLeading?_of_head? (head?_join_pairText (lacksMark pair rfl))]
      rfl
    have allNonempty : ((pair :: rest).map pairText).filter (!·.isEmpty) =
        (pair :: rest).map pairText := by
      rw [List.filter_eq_self]
      intro segment segmentMem
      rcases List.mem_map.mp segmentMem with ⟨written, -, rfl⟩
      simpa using pairText_ne_empty written
    rw [writtenPairs, kept, split_pairText (by simp) plain, allNonempty, List.map_map]
    conv_rhs => rw [← List.map_id (pair :: rest)]
    apply List.map_congr_left
    intro written writtenMem
    have separates : "=".toList = ['='] := by decide
    have cutBack := Text.cut_append (plain written writtenMem).noEquals separates written.2
    simp [pairText, cutBack]

/-- The pairs of a query string with decoded keys. -/
def decodedPairs (raw : String) : List (String × String) :=
  (writtenPairs raw).map fun (key, value) => (Percent.decode key, value)

/-- The decoded keys of a query string, one for each segment that is not empty. -/
def decodedKeys (raw : String) : List String :=
  (decodedPairs raw).map Prod.fst

theorem parseQueryString_eq (raw : String) :
    parseQueryString raw = .ofEvents ((Parameters.ofPairs (decodedPairs raw)).events .written) :=
  rfl

theorem decodedPairs_join {pairs : List (String × String)}
    (plain : ∀ pair ∈ pairs, IsPlainPair pair) (lacksMark : LacksQuestionMark pairs) :
    decodedPairs (Text.join '&' (pairs.map pairText)) = pairs := by
  rw [decodedPairs, writtenPairs_join plain lacksMark]
  conv_rhs => rw [← List.map_id pairs]
  apply List.map_congr_left
  intro pair pairMem
  simp [Percent.decode_of_plain (plain pair pairMem).noPlus (plain pair pairMem).noPercent]

end RestQuery
