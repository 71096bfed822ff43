import RestQuery.Proofs.Wire.Directives

/-!
# Query strings joined with `&`

Reading is compositional as long as no decoded key is on both sides. `Parsed.followedBy` puts what
a second text means behind what a first one means: filters, orderings, dropped fragments and
negated keys are appended, a later projection counts, and later directives are laid over the
earlier ones.

Keys that are apart keep the parameters apart, so the events of the two texts follow one another.
This does not keep the directives apart, whose kinds may be on both sides in different spellings.
`putDirectives_append` shows that it makes no difference: storing the later directives one by one
is the same as storing them on their own and laying the outcome over the earlier ones.
-/

namespace RestQuery

/--
Earlier directives with later ones laid over them. A kind that both have keeps its place and takes
the later value, and kinds that are new come behind.
-/
def overlay (earlier later : List Directive) : List Directive :=
  earlier.map (fun directive =>
      ⟨directive.kind,
        ((later.find? (·.kind = directive.kind)).map Directive.value).getD directive.value⟩) ++
    later.filter fun directive => directive.kind ∉ earlier.map Directive.kind

/-- The directive that pairs store for a kind which they give a value. -/
def storedDirective (pairs : List (DirectiveKind × String)) (kind : DirectiveKind) : Directive :=
  ⟨kind, (givenFor kind pairs).getLast?.getD ""⟩

theorem putDirectives_eq (pairs : List (DirectiveKind × String)) :
    putDirectives pairs = (pairs.map Prod.fst).eraseDups.map (storedDirective pairs) := by
  rw [putDirectives_eq_foldl, foldl_upsert_last "", List.map_map]
  apply List.map_congr_left
  intro kind _
  simp [storedDirective, List.getLastD_eq_getLast?]

theorem map_kind_putDirectives (pairs : List (DirectiveKind × String)) :
    (putDirectives pairs).map Directive.kind = (pairs.map Prod.fst).eraseDups := by
  rw [putDirectives_eq, List.map_map]
  exact List.map_id _

theorem putDirectives_append (earlier later : List (DirectiveKind × String)) :
    putDirectives (earlier ++ later) =
      overlay (putDirectives earlier) (putDirectives later) := by
  have onBothSides : ∀ kind,
      storedDirective (earlier ++ later) kind =
        ⟨kind, (((putDirectives later).find? (·.kind = kind)).map Directive.value).getD
          (storedDirective earlier kind).value⟩ := by
    intro kind
    rw [find?_putDirectives, storedDirective, storedDirective, givenFor_append,
      List.getLast?_append, Option.getD_or]
  have onlyLater : ∀ kind, kind ∉ earlier.map Prod.fst →
      storedDirective (earlier ++ later) kind = storedDirective later kind := by
    intro kind new
    rw [storedDirective, givenFor_append, givenFor_eq_nil.mpr new, List.nil_append,
      storedDirective]
  have newKinds : (later.map Prod.fst).removeAll (earlier.map Prod.fst) =
      (later.map Prod.fst).filter (· ∉ earlier.map Prod.fst) := by
    simp [List.removeAll]
  have newDirectives : (putDirectives later).filter
        (fun directive => directive.kind ∉ (earlier.map Prod.fst).eraseDups) =
      ((later.map Prod.fst).filter (· ∉ earlier.map Prod.fst)).eraseDups.map
        (storedDirective later) := by
    rw [putDirectives_eq, List.filter_map, ← filter_eraseDups]
    congr 1
    apply List.filter_congr
    intro kind _
    rw [Function.comp_apply, decide_eq_decide]
    exact not_congr List.mem_eraseDups
  rw [overlay, map_kind_putDirectives, newDirectives, putDirectives_eq (earlier ++ later),
    List.map_append, List.eraseDups_append, newKinds, List.map_append]
  congr 1
  · rw [putDirectives_eq earlier, List.map_map]
    apply List.map_congr_left
    intro kind _
    exact onBothSides kind
  · apply List.map_congr_left
    intro kind kindMem
    have isNew := (List.mem_filter.mp (List.mem_eraseDups.mp kindMem)).2
    exact onlyLater kind (of_decide_eq_true isNew)

namespace Parsed

/-- What is read from one text and then from another. -/
def followedBy (earlier later : Parsed) : Parsed where
  query :=
    { filters := earlier.query.filters ++ later.query.filters
      orders := earlier.query.orders ++ later.query.orders
      projection := later.query.projection.or earlier.query.projection
      directives := overlay earlier.query.directives later.query.directives }
  dropped := earlier.dropped ++ later.dropped
  negatedKeys := earlier.negatedKeys ++ later.negatedKeys

/-- Events that follow others are recorded as if they stood alone. -/
theorem ofEvents_append (earlier later : List Event) :
    ofEvents (earlier ++ later) = (ofEvents earlier).followedBy (ofEvents later) := by
  simp only [ofEvents_eq, followedBy, List.filterMap_append, List.getLast?_append,
    putDirectives_append]

end Parsed

namespace Parameters

theorem entries_ofPairs_append {pairs more : List (String × String)}
    (disjoint : ∀ key ∈ pairs.map Prod.fst, key ∉ more.map Prod.fst) :
    (ofPairs (pairs ++ more)).entries = (ofPairs pairs).entries ++ (ofPairs more).entries := by
  rw [entries_ofPairs, entries_ofPairs, entries_ofPairs, List.map_append,
    eraseDups_append_of_disjoint disjoint, List.map_append]
  congr 1
  · apply List.map_congr_left
    intro key keyMem
    have absent : givenFor key more = [] :=
      givenFor_eq_nil.mpr (disjoint key (List.mem_eraseDups.mp keyMem))
    rw [givenFor_append, absent, List.append_nil]
  · apply List.map_congr_left
    intro key keyMem
    have absent : givenFor key pairs = [] :=
      givenFor_eq_nil.mpr fun known => disjoint key known (List.mem_eraseDups.mp keyMem)
    rw [givenFor_append, absent, List.nil_append]

theorem events_ofPairs_append (form : ValueForm) {pairs more : List (String × String)}
    (disjoint : ∀ key ∈ pairs.map Prod.fst, key ∉ more.map Prod.fst) :
    (ofPairs (pairs ++ more)).events form =
      (ofPairs pairs).events form ++ (ofPairs more).events form := by
  rw [events, entries_ofPairs_append disjoint, List.flatMap_append]
  rfl

end Parameters

theorem dropQuestionMark_append (first rest : String) :
    dropQuestionMark (first ++ "&" ++ rest) = dropQuestionMark first ++ "&" ++ rest := by
  unfold dropQuestionMark Text.dropLeading?
  rw [String.toList_append, String.toList_append]
  rcases chars : first.toList with _ | ⟨char, more⟩
  · rfl
  · by_cases isMark : char = '?'
    · apply String.toList_inj.mp
      simp [isMark]
    · simp [isMark]

theorem decodedPairs_append (first : String) {second : String}
    (noMark : second.toList.head? ≠ some '?') :
    decodedPairs (first ++ "&" ++ second) = decodedPairs first ++ decodedPairs second := by
  have kept : dropQuestionMark second = second := by
    rw [dropQuestionMark, Text.dropLeading?_of_head? noMark]
    rfl
  have separates : "&".toList = ['&'] := by decide
  simp only [decodedPairs, writtenPairs, dropQuestionMark_append, kept,
    Text.split_append separates, List.filter_append, List.map_append]

/--
A query string that is joined from two with no decoded key in common means what the first one
means, followed by what the second one means.
-/
theorem parseQueryString_append {first second : String}
    (disjoint : ∀ key ∈ decodedKeys first, key ∉ decodedKeys second)
    (noMark : second.toList.head? ≠ some '?') :
    parseQueryString (first ++ "&" ++ second) =
      (parseQueryString first).followedBy (parseQueryString second) := by
  rw [parseQueryString_eq, parseQueryString_eq, parseQueryString_eq,
    decodedPairs_append first noMark, Parameters.events_ofPairs_append .written disjoint,
    Parsed.ofEvents_append]

/-- A directive that is on both sides in two spellings keeps its place and takes the later value. -/
theorem parseQueryString_append_twoSpellings :
    let first := "?a=eq:1&_limit=1&!b=18&_field=a"
    let second := "_offset=3&_LIMIT=7&_FIELD=b&%61+=eq:2"
    (∀ key ∈ decodedKeys first, key ∉ decodedKeys second) ∧
      second.toList.head? ≠ some '?' ∧
      parseQueryString (first ++ "&" ++ second) =
        (parseQueryString first).followedBy (parseQueryString second) ∧
      (parseQueryString (first ++ "&" ++ second)).query.directives =
        [⟨.limit, "7"⟩, ⟨.offset, "3"⟩] := by
  intro first second
  have disjoint : ∀ key ∈ decodedKeys first, key ∉ decodedKeys second := by decide +kernel
  have noMark : second.toList.head? ≠ some '?' := by decide
  exact ⟨disjoint, noMark, parseQueryString_append disjoint noMark, by decide +kernel⟩

end RestQuery
