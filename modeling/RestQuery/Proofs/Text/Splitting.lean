import RestQuery.Text.Split

/-!
# Cutting undoes joining

The query string is put together with separators and taken apart again at the same separators.
The statements here say when the two cancel: a split distributes over a separator wherever it
stands, so that splitting a join splits each piece, and pieces without the separator come back
as they are.
-/

namespace RestQuery.Text

variable {separator : Char}

theorem splitChars_append (left right : List Char) :
    splitChars separator (left ++ separator :: right) =
      splitChars separator left ++ splitChars separator right := by
  induction left with
  | nil => simp [splitChars]
  | cons char rest ih =>
      simp only [List.cons_append, splitChars, ih]
      by_cases isSeparator : char = separator
      · simp [isSeparator]
      · simp only [isSeparator, ↓reduceIte]
        cases pieces : splitChars separator rest with
        | nil => exact absurd pieces (splitChars_ne_nil separator rest)
        | cons piece more => simp

theorem splitChars_of_notMem {chars : List Char} (absent : separator ∉ chars) :
    splitChars separator chars = [chars] := by
  induction chars with
  | nil => rfl
  | cons char rest ih =>
      simp only [List.mem_cons, not_or] at absent
      simp [splitChars, ih absent.2, Ne.symm absent.1]

/-- Splitting a join splits every piece. -/
theorem splitChars_joinChars {pieces : List (List Char)} (nonempty : pieces ≠ []) :
    splitChars separator (joinChars separator pieces) =
      pieces.flatMap (splitChars separator) := by
  induction pieces with
  | nil => exact absurd rfl nonempty
  | cons piece rest ih =>
      cases rest with
      | nil => simp [joinChars]
      | cons next more =>
          simp only [joinChars, splitChars_append, List.flatMap_cons]
          rw [ih (by simp), List.flatMap_cons]

theorem length_splitChars (chars : List Char) :
    (splitChars separator chars).length = chars.count separator + 1 := by
  induction chars with
  | nil => rfl
  | cons char rest ih =>
      simp only [splitChars]
      by_cases isSeparator : char = separator
      · simp [isSeparator, ih]
      · cases pieces : splitChars separator rest with
        | nil => exact absurd pieces (splitChars_ne_nil separator rest)
        | cons piece more =>
            rw [pieces, List.length_cons] at ih
            simp [isSeparator, ih]

theorem notMem_of_mem_splitChars {chars piece : List Char}
    (pieceMem : piece ∈ splitChars separator chars) : separator ∉ piece := by
  induction chars generalizing piece with
  | nil =>
      rw [splitChars, List.mem_singleton] at pieceMem
      simp [pieceMem]
  | cons char rest ih =>
      simp only [splitChars] at pieceMem
      split at pieceMem
      · rcases List.mem_cons.mp pieceMem with rfl | restMem
        · simp
        · exact ih restMem
      · rename_i notSeparator
        cases pieces : splitChars separator rest with
        | nil => exact absurd pieces (splitChars_ne_nil separator rest)
        | cons first more =>
            simp only [pieces, List.mem_cons] at pieceMem ih
            rcases pieceMem with rfl | moreMem
            · simp only [List.mem_cons, not_or]
              exact ⟨Ne.symm notSeparator, ih (Or.inl rfl)⟩
            · exact ih (Or.inr moreMem)

theorem cutChars_append {left : List Char} (absent : separator ∉ left) (right : List Char) :
    cutChars separator (left ++ separator :: right) = some (left, right) := by
  induction left with
  | nil => simp [cutChars]
  | cons char rest ih =>
      simp only [List.mem_cons, not_or] at absent
      simp [cutChars, Ne.symm absent.1, ih absent.2]

theorem cutChars_of_notMem {chars : List Char} (absent : separator ∉ chars) :
    cutChars separator chars = none := by
  induction chars with
  | nil => rfl
  | cons char rest ih =>
      simp only [List.mem_cons, not_or] at absent
      simp [cutChars, Ne.symm absent.1, ih absent.2]

/-- A text either lacks the separator or is two parts around its first occurrence. -/
theorem exists_append_of_mem {chars : List Char} (present : separator ∈ chars) :
    ∃ left right, separator ∉ left ∧ chars = left ++ separator :: right := by
  induction chars with
  | nil => simp at present
  | cons char rest ih =>
      by_cases isSeparator : char = separator
      · exact ⟨[], rest, by simp, by simp [isSeparator]⟩
      · have restPresent : separator ∈ rest := by
          simpa [Ne.symm isSeparator] using present
        rcases ih restPresent with ⟨left, right, absent, rfl⟩
        refine ⟨char :: left, right, ?_, rfl⟩
        simp only [List.mem_cons, not_or]
        exact ⟨Ne.symm isSeparator, absent⟩

theorem eq_append_of_cutChars {chars left right : List Char}
    (cut : cutChars separator chars = some (left, right)) : chars = left ++ separator :: right := by
  by_cases present : separator ∈ chars
  · rcases exists_append_of_mem present with ⟨before, after, absent, rfl⟩
    rw [cutChars_append absent, Option.some.injEq, Prod.mk.injEq] at cut
    rw [cut.1, cut.2]
  · simp [cutChars_of_notMem present] at cut

theorem isInfix_joinChars {pieces : List (List Char)} {piece : List Char}
    (pieceMem : piece ∈ pieces) : piece <:+: joinChars separator pieces := by
  induction pieces with
  | nil => simp at pieceMem
  | cons first rest ih =>
      rcases rest with _ | ⟨next, more⟩
      · rw [List.mem_singleton.mp pieceMem]
        exact List.infix_rfl
      · rw [joinChars]
        rcases List.mem_cons.mp pieceMem with rfl | restMem
        · exact (List.prefix_append _ _).isInfix
        · have inRest := ih restMem
          have restIsSuffix : joinChars separator (next :: more) <:+
              first ++ separator :: joinChars separator (next :: more) :=
            ⟨first ++ [separator], by simp⟩
          exact inRest.trans restIsSuffix.isInfix

/-- The pieces of one part of a join may as well be joined to the others directly. -/
theorem joinChars_append_join (before group after : List (List Char)) (nonempty : group ≠ []) :
    joinChars separator (before ++ joinChars separator group :: after) =
      joinChars separator (before ++ group ++ after) := by
  induction before with
  | nil =>
      induction group with
      | nil => exact absurd rfl nonempty
      | cons piece rest ih =>
          cases rest with
          | nil => simp [joinChars]
          | cons next more =>
              have tail := ih (by simp)
              cases after with
              | nil => simp [joinChars]
              | cons first others =>
                  simp only [List.nil_append, List.cons_append, joinChars] at tail ⊢
                  simp [← tail]
  | cons piece rest ih =>
      cases rest with
      | nil =>
          cases group with
          | nil => exact absurd rfl nonempty
          | cons first more => simpa [joinChars] using ih
      | cons next more => simpa [joinChars] using ih

theorem joinChars_cons (piece : List Char) (rest : List (List Char)) :
    joinChars separator (piece :: rest) = piece ++ rest.flatMap (separator :: ·) := by
  induction rest generalizing piece with
  | nil => simp [joinChars]
  | cons next more ih => simp [joinChars, ih]

/-- What stands around one piece of a join does not depend on that piece. -/
theorem exists_joinChars_append_cons (separator : Char) (before after : List (List Char)) :
    ∃ front back, ∀ piece,
      joinChars separator (before ++ piece :: after) = front ++ (piece ++ back) := by
  rcases before with _ | ⟨first, rest⟩
  · exact ⟨[], _, fun piece => joinChars_cons piece after⟩
  · refine ⟨first ++ rest.flatMap (separator :: ·) ++ [separator],
      after.flatMap (separator :: ·), fun piece => ?_⟩
    simp [joinChars_cons]

theorem split_of_notMem {text : String} (absent : separator ∉ text.toList) :
    split separator text = [text] := by
  simp [split, splitChars_of_notMem absent]

theorem split_join {pieces : List String} (nonempty : pieces ≠ []) :
    split separator (join separator pieces) = pieces.flatMap (split separator) := by
  have charsNonempty : pieces.map String.toList ≠ [] := by simpa using nonempty
  simp only [split, join, String.toList_ofList, splitChars_joinChars charsNonempty,
    List.flatMap_map, List.map_flatMap]
  rfl

theorem flatMap_split_of_notMem {pieces : List String}
    (absent : ∀ piece ∈ pieces, separator ∉ piece.toList) :
    pieces.flatMap (split separator) = pieces := by
  induction pieces with
  | nil => rfl
  | cons piece rest ih =>
      simp only [List.mem_cons, forall_eq_or_imp] at absent
      rw [List.flatMap_cons, split_of_notMem absent.1, ih absent.2]
      rfl

/-- Pieces without the separator come back from their join. -/
theorem split_join_of_notMem {pieces : List String} (nonempty : pieces ≠ [])
    (absent : ∀ piece ∈ pieces, separator ∉ piece.toList) :
    split separator (join separator pieces) = pieces := by
  rw [split_join nonempty, flatMap_split_of_notMem absent]

theorem length_split (text : String) :
    (split separator text).length = text.toList.count separator + 1 := by
  simp [split, length_splitChars]

theorem cut_append {left between : String} (absent : separator ∉ left.toList)
    (separates : between.toList = [separator]) (right : String) :
    cut separator (left ++ between ++ right) = some (left, right) := by
  simp [cut, separates, cutChars_append absent]

theorem cut_of_notMem {text : String} (absent : separator ∉ text.toList) :
    cut separator text = none := by
  simp [cut, cutChars_of_notMem absent]

/-- A cut finds the first separator. -/
theorem exists_of_cut {text left right between : String}
    (separates : between.toList = [separator]) (isCut : cut separator text = some (left, right)) :
    text = left ++ between ++ right ∧ separator ∉ left.toList := by
  by_cases present : separator ∈ text.toList
  · rcases exists_append_of_mem present with ⟨before, after, absent, chars⟩
    simp only [cut, chars, cutChars_append absent, Option.map_some, Option.some.injEq,
      Prod.mk.injEq] at isCut
    rcases isCut with ⟨rfl, rfl⟩
    refine ⟨String.toList_inj.mp ?_, by simpa using absent⟩
    simp [chars, separates]
  · simp [cut_of_notMem present] at isCut

theorem notMem_of_cut_eq_none {text : String} (uncut : cut separator text = none) :
    separator ∉ text.toList := by
  intro present
  rcases exists_append_of_mem present with ⟨before, after, absent, chars⟩
  simp [cut, chars, cutChars_append absent] at uncut

theorem split_ne_nil (separator : Char) (text : String) : split separator text ≠ [] := by
  simpa [split] using splitChars_ne_nil separator text.toList

@[simp]
theorem join_split (separator : Char) (text : String) :
    join separator (split separator text) = text := by
  simp [join, split, Function.comp_def]

theorem notMem_of_mem_split {text piece : String} (pieceMem : piece ∈ split separator text) :
    separator ∉ piece.toList := by
  rcases List.mem_map.mp pieceMem with ⟨chars, charsMem, rfl⟩
  simpa using notMem_of_mem_splitChars charsMem

@[simp]
theorem join_singleton (piece : String) : join separator [piece] = piece := by
  simp [join, joinChars]

theorem join_cons {between : String} (separates : between.toList = [separator])
    (piece next : String) (more : List String) :
    join separator (piece :: next :: more) = piece ++ between ++ join separator (next :: more) := by
  apply String.toList_inj.mp
  simp [join, joinChars, separates]

/-- A join starts like its first piece, or with the separator if that piece is empty. -/
theorem head?_join_cons {char : Char} {piece : String} {rest : List String}
    (starts : (join separator (piece :: rest)).toList.head? = some char) :
    piece.toList.head? = some char ∨ char = separator := by
  rcases rest with _ | ⟨next, more⟩
  · left
    rwa [join_singleton] at starts
  · rw [join, String.toList_ofList, List.map_cons, List.map_cons, joinChars] at starts
    cases chars : piece.toList with
    | nil =>
        right
        rw [chars, List.nil_append, List.head?_cons, Option.some.injEq] at starts
        exact starts.symm
    | cons first others =>
        left
        rwa [chars, List.cons_append] at starts

theorem isInfix_of_mem_split {text piece : String} (pieceMem : piece ∈ split separator text) :
    piece.toList <:+: text.toList := by
  rcases List.mem_map.mp pieceMem with ⟨chars, charsMem, rfl⟩
  have inJoin : chars <:+: joinChars separator (splitChars separator text.toList) :=
    isInfix_joinChars charsMem
  rw [joinChars_splitChars] at inJoin
  rwa [String.toList_ofList]

theorem isSuffix_of_cut {text left right : String}
    (isCut : cut separator text = some (left, right)) : right.toList <:+ text.toList := by
  rw [cut, Option.map_eq_some_iff] at isCut
  rcases isCut with ⟨⟨before, after⟩, charsCut, sameParts⟩
  simp only [Prod.mk.injEq] at sameParts
  rw [eq_append_of_cutChars charsCut, ← sameParts.2, String.toList_ofList]
  exact ⟨before ++ [separator], by simp⟩

theorem split_append {left between : String} (separates : between.toList = [separator])
    (right : String) :
    split separator (left ++ between ++ right) = split separator left ++ split separator right := by
  simp [split, separates, splitChars_append]

theorem join_append_join (before group after : List String) (nonempty : group ≠ []) :
    join separator (before ++ join separator group :: after) =
      join separator (before ++ group ++ after) := by
  have charsNonempty : group.map String.toList ≠ [] := by simpa using nonempty
  simp only [join, List.map_append, List.map_cons, String.toList_ofList,
    joinChars_append_join _ _ _ charsNonempty]

theorem joinChars_ne_nil {pieces : List (List Char)} (nonempty : pieces ≠ [])
    (piecesNonempty : ∀ piece ∈ pieces, piece ≠ []) : joinChars separator pieces ≠ [] := by
  rcases pieces with _ | ⟨piece, _ | ⟨next, more⟩⟩
  · exact absurd rfl nonempty
  · simpa [joinChars] using piecesNonempty
  · simp [joinChars]

theorem join_ne_empty {pieces : List String} (nonempty : pieces ≠ [])
    (piecesNonempty : ∀ piece ∈ pieces, piece ≠ "") : join separator pieces ≠ "" := by
  intro isEmpty
  have charsEmpty := congrArg String.toList isEmpty
  rw [join, String.toList_ofList] at charsEmpty
  refine joinChars_ne_nil (by simpa using nonempty) ?_ charsEmpty
  intro chars charsMem
  rcases List.mem_map.mp charsMem with ⟨piece, pieceMem, rfl⟩
  simpa using piecesNonempty piece pieceMem

/-- Joins that differ in one piece at most tell these pieces apart. -/
theorem join_append_cons_inj {before after : List String} {left right : String} :
    join separator (before ++ left :: after) = join separator (before ++ right :: after) ↔
      left = right := by
  constructor
  · intro same
    rcases exists_joinChars_append_cons separator (before.map String.toList)
      (after.map String.toList) with ⟨front, back, around⟩
    have sameChars := congrArg String.toList same
    simp only [join, String.toList_ofList, List.map_append, List.map_cons, around,
      List.append_cancel_left_eq, List.append_cancel_right_eq] at sameChars
    exact String.toList_inj.mp sameChars
  · rintro rfl
    rfl

theorem notMem_joinChars {char : Char} {pieces : List (List Char)} (other : char ≠ separator)
    (absent : ∀ piece ∈ pieces, char ∉ piece) : char ∉ joinChars separator pieces := by
  induction pieces with
  | nil => simp [joinChars]
  | cons piece rest ih =>
      simp only [List.mem_cons, forall_eq_or_imp] at absent
      cases rest with
      | nil => simpa [joinChars] using absent.1
      | cons next more => simpa [joinChars, other, absent.1] using ih absent.2

theorem notMem_join {char : Char} {pieces : List String} (other : char ≠ separator)
    (absent : ∀ piece ∈ pieces, char ∉ piece.toList) :
    char ∉ (join separator pieces).toList := by
  rw [join, String.toList_ofList]
  apply notMem_joinChars other
  intro chars charsMem
  rcases List.mem_map.mp charsMem with ⟨piece, pieceMem, rfl⟩
  exact absent piece pieceMem

/-- Dropping a leading part undoes putting it in front. -/
theorem dropStart?_eq_some_iff {start text rest : String} :
    dropStart? start text = some rest ↔ text = start ++ rest := by
  unfold dropStart?
  rw [Option.ite_none_right_eq_some, List.isPrefixOf_iff_prefix, Option.some.injEq,
    ← String.toList_inj, ← String.toList_inj, String.toList_ofList, String.toList_append,
    ← String.length_toList]
  constructor
  · rintro ⟨⟨others, isText⟩, isRest⟩
    rw [← isText, List.drop_left] at isRest
    rw [← isText, isRest]
  · intro isText
    rw [isText, List.drop_left]
    exact ⟨List.prefix_append _ _, rfl⟩

theorem dropLeading?_of_head? {char : Char} {text : String}
    (other : text.toList.head? ≠ some char) : dropLeading? char text = none := by
  unfold dropLeading?
  split
  · rfl
  · rename_i first rest chars
    rw [if_neg]
    rintro rfl
    exact other (by rw [chars, List.head?_cons])

theorem dropLeading?_append {char : Char} {start : String} (starts : start.toList = [char])
    (text : String) : dropLeading? char (start ++ text) = some text := by
  simp [dropLeading?, starts]

theorem eq_append_of_dropLeading? {char : Char} {text rest : String}
    (dropped : dropLeading? char text = some rest) : text.toList = char :: rest.toList := by
  unfold dropLeading? at dropped
  split at dropped
  · simp at dropped
  · rename_i first more chars
    split at dropped
    · rename_i same
      simp only [Option.some.injEq] at dropped
      rw [chars, same, ← dropped, String.toList_ofList]
    · simp at dropped

end RestQuery.Text
