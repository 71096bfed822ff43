import RestQuery.Proofs.Cache.Content
import RestQuery.Proofs.Wire.Compiled

/-!
# Requests that share a cache key

Builders that are digested from the same text compile to texts that differ at most where a double is
not finite: JSON has only `null` for it, a query string has a word of its own for NaN and for each
infinity. `Aligned` relates two texts of this kind and keeps the words apart from the rest. No word
starts another one, so aligned texts are equal just when their words are.

Hence a shared key stands for one and the same request as long as the words agree, and for two
different ones otherwise.
-/

namespace RestQuery

/-- What the doubles that are not finite read as in a query string. -/
def floatWords : List String :=
  ["NaN", "inf", "-inf"]

/-- The word of a scalar that is a double and not finite. -/
def Scalar.floatWord? : Scalar → Option String
  | .float value => if value.isFinite then none else some (String.ofList value.queryChars)
  | _ => none

def floatWordsOf (scalars : List Scalar) : List String :=
  scalars.filterMap Scalar.floatWord?

def Builder.floatWords (builder : Builder) : List String :=
  floatWordsOf (conditionScalars builder.conditions)

theorem eq_of_word_append {word other : String} (isWord : word ∈ floatWords)
    (otherWord : other ∈ floatWords) {rest otherRest : List Char}
    (same : word.toList ++ rest = other.toList ++ otherRest) :
    word = other ∧ rest = otherRest := by
  simp only [floatWords, List.mem_cons, List.not_mem_nil, or_false] at isWord otherWord
  rcases isWord with rfl | rfl | rfl <;> rcases otherWord with rfl | rfl | rfl <;>
    simp_all

/-- Texts that are the same but for words, which are listed for either. -/
inductive Aligned : List Char → List Char → List String → List String → Prop where
  | nil : Aligned [] [] [] []
  | char (char : Char) {left right : List Char} {leftWords rightWords : List String}
      (rest : Aligned left right leftWords rightWords) :
      Aligned (char :: left) (char :: right) leftWords rightWords
  | word {word other : String} (isWord : word ∈ floatWords) (otherWord : other ∈ floatWords)
      {left right : List Char} {leftWords rightWords : List String}
      (rest : Aligned left right leftWords rightWords) :
      Aligned (word.toList ++ left) (other.toList ++ right) (word :: leftWords)
        (other :: rightWords)

namespace Aligned

variable {left right moreLeft moreRight : List Char}
  {leftWords rightWords moreLeftWords moreRightWords : List String}

/-- Aligned texts are told apart by their words alone. -/
theorem eq_iff (aligned : Aligned left right leftWords rightWords) :
    left = right ↔ leftWords = rightWords := by
  induction aligned with
  | nil => simp
  | char char rest ih => rw [List.cons.injEq, eq_self, true_and, ih]
  | word isWord otherWord rest ih =>
      rw [List.cons.injEq, ← ih]
      constructor
      · exact eq_of_word_append isWord otherWord
      · rintro ⟨rfl, rfl⟩
        rfl

theorem refl (text : List Char) : Aligned text text [] [] := by
  induction text with
  | nil => exact .nil
  | cons char rest ih => exact .char char ih

theorem append (aligned : Aligned left right leftWords rightWords)
    (more : Aligned moreLeft moreRight moreLeftWords moreRightWords) :
    Aligned (left ++ moreLeft) (right ++ moreRight) (leftWords ++ moreLeftWords)
      (rightWords ++ moreRightWords) := by
  induction aligned with
  | nil => exact more
  | char char rest ih => exact .char char ih
  | word isWord otherWord rest ih =>
      rw [List.append_assoc, List.append_assoc]
      exact .word isWord otherWord ih

theorem prepend (text : List Char) (aligned : Aligned left right leftWords rightWords) :
    Aligned (text ++ left) (text ++ right) leftWords rightWords :=
  (refl text).append aligned

section Texts

variable {left right moreLeft moreRight : String}

theorem prependText (start : String)
    (aligned : Aligned left.toList right.toList leftWords rightWords) :
    Aligned (start ++ left).toList (start ++ right).toList leftWords rightWords := by
  rw [String.toList_append, String.toList_append]
  exact .prepend start.toList aligned

theorem appendText (aligned : Aligned left.toList right.toList leftWords rightWords)
    (more : Aligned moreLeft.toList moreRight.toList moreLeftWords moreRightWords) :
    Aligned (left ++ moreLeft).toList (right ++ moreRight).toList (leftWords ++ moreLeftWords)
      (rightWords ++ moreRightWords) := by
  rw [String.toList_append, String.toList_append]
  exact aligned.append more

end Texts

end Aligned

/-- Pieces that are aligned one by one. -/
inductive AllAligned : List (List Char) → List (List Char) → List String → List String → Prop where
  | nil : AllAligned [] [] [] []
  | cons {left right : List Char} {lefts rights : List (List Char)}
      {leftWords rightWords moreLeftWords moreRightWords : List String}
      (piece : Aligned left right leftWords rightWords)
      (more : AllAligned lefts rights moreLeftWords moreRightWords) :
      AllAligned (left :: lefts) (right :: rights) (leftWords ++ moreLeftWords)
        (rightWords ++ moreRightWords)

namespace AllAligned

variable {lefts rights moreLefts moreRights : List (List Char)}
  {leftWords rightWords moreLeftWords moreRightWords : List String}

theorem refl (pieces : List (List Char)) : AllAligned pieces pieces [] [] := by
  induction pieces with
  | nil => exact .nil
  | cons piece rest ih => exact .cons (.refl piece) ih

theorem append (aligned : AllAligned lefts rights leftWords rightWords)
    (more : AllAligned moreLefts moreRights moreLeftWords moreRightWords) :
    AllAligned (lefts ++ moreLefts) (rights ++ moreRights) (leftWords ++ moreLeftWords)
      (rightWords ++ moreRightWords) := by
  induction aligned with
  | nil => exact more
  | cons piece others ih =>
      rw [List.append_assoc, List.append_assoc]
      exact .cons piece ih

theorem joinChars (aligned : AllAligned lefts rights leftWords rightWords) (separator : Char) :
    Aligned (Text.joinChars separator lefts) (Text.joinChars separator rights) leftWords
      rightWords := by
  induction aligned with
  | nil => exact .nil
  | cons piece others ih =>
      cases others with
      | nil =>
          rw [List.append_nil, List.append_nil]
          exact piece
      | cons next rest => exact piece.append (.char separator ih)

end AllAligned

theorem queryChars_of_not_finite {value : Double} (notFinite : value.isFinite = false) :
    String.ofList value.queryChars ∈ floatWords ∧
      Percent.encode (String.ofList value.queryChars) = String.ofList value.queryChars := by
  unfold Double.isFinite at notFinite
  unfold Double.queryChars
  cases view : value.view with
  | nan => decide
  | infinite negative => cases negative <;> decide
  | finite negative significand exponent => simp [view] at notFinite

theorem isFinite_eq_false_of_numeral? {value : Double} (isNone : value.numeral? = none) :
    value.isFinite = false := by
  unfold Double.numeral? at isNone
  unfold Double.isFinite
  cases view : value.view with
  | finite negative significand exponent => simp [view] at isNone
  | _ => rfl

namespace Scalar

theorem floatWord?_of_numeral? {value : Double} (isNone : value.numeral? = none) :
    (float value).floatWord? = some (float value).display := by
  rw [floatWord?, isFinite_eq_false_of_numeral? isNone]
  rfl

theorem encode_of_floatWord? {scalar : Scalar} {word : String}
    (isWord : scalar.floatWord? = some word) : scalar.encode = word ∧ word ∈ floatWords := by
  cases scalar with
  | float value =>
      cases isFinite : value.isFinite with
      | true => simp [floatWord?, isFinite] at isWord
      | false =>
          have written := queryChars_of_not_finite isFinite
          obtain rfl : String.ofList value.queryChars = word := by
            simpa [floatWord?, isFinite] using isWord
          exact ⟨written.2, written.1⟩
  | _ => cases isWord

theorem aligned_encode {left right : Scalar} (alike : left.WrittenAlike right) :
    Aligned left.encode.toList right.encode.toList (floatWordsOf [left])
      (floatWordsOf [right]) := by
  have ofWords : ∀ {word other : String}, left.floatWord? = some word →
      right.floatWord? = some other →
      Aligned left.encode.toList right.encode.toList (floatWordsOf [left])
        (floatWordsOf [right]) := by
    intro word other isWord otherWord
    rcases encode_of_floatWord? isWord with ⟨written, wordMem⟩
    rcases encode_of_floatWord? otherWord with ⟨otherWritten, otherMem⟩
    have aligned := Aligned.word wordMem otherMem .nil
    simpa [floatWordsOf, isWord, otherWord, written, otherWritten] using aligned
  -- The same scalar may be a word as well, which is then listed twice.
  rcases eq_or_null_of_writtenAlike alike with rfl | ⟨leftValue, rightValue, rfl, rfl, isNull⟩
  · cases isWord : left.floatWord? with
    | none => simpa [floatWordsOf, isWord] using Aligned.refl left.encode.toList
    | some word => exact ofWords isWord isWord
  · exact ofWords (floatWord?_of_numeral? isNull.1) (floatWord?_of_numeral? isNull.2)

end Scalar

theorem floatWordsOf_append (scalars more : List Scalar) :
    floatWordsOf (scalars ++ more) = floatWordsOf scalars ++ floatWordsOf more :=
  List.filterMap_append

theorem allAligned_encode {left right : List Scalar}
    (values : List.Forall₂ Scalar.WrittenAlike left right) :
    AllAligned (left.map fun value => value.encode.toList)
      (right.map fun value => value.encode.toList) (floatWordsOf left) (floatWordsOf right) := by
  induction values with
  | nil => exact .nil
  | @cons leftValue rightValue leftRest rightRest alike _ ih =>
      rw [← List.singleton_append, ← List.singleton_append (l := rightRest), floatWordsOf_append,
        floatWordsOf_append]
      exact .cons (Scalar.aligned_encode alike) ih

theorem aligned_encodeList {left right : List Scalar}
    (values : List.Forall₂ Scalar.WrittenAlike left right) :
    Aligned (encodeList left).toList (encodeList right).toList (floatWordsOf left)
      (floatWordsOf right) := by
  have joined := (allAligned_encode values).joinChars ','
  simpa [encodeList, Text.join, Function.comp_def] using joined

namespace Condition

theorem aligned_of_rules {left right : Condition} {column leftRule rightRule : String}
    (leftWritten : left.rule? = some (column, leftRule))
    (rightWritten : right.rule? = some (column, rightRule))
    (sameJunction : left.junction = right.junction) (collection : String)
    {leftWords rightWords : List String}
    (rules : Aligned leftRule.toList rightRule.toList leftWords rightWords) :
    Aligned (pairText (left.pair collection)).toList (pairText (right.pair collection)).toList
      leftWords rightWords := by
  have sameMarker : left.marker = right.marker := by
    rw [marker, marker, sameJunction]
  rw [toList_pairText, toList_pairText, pair, pair, pair?, pair?, leftWritten, rightWritten,
    sameMarker]
  exact .prepend _ (.char '=' rules)

/-- Conditions that agree are written alike, up to the words of their scalars. -/
theorem aligned_pairText {left right : Condition} (agrees : left.Agrees Scalar.WrittenAlike right)
    (flat : left.isNested = false) (collection : String) :
    Aligned (pairText (left.pair collection)).toList (pairText (right.pair collection)).toList
      (floatWordsOf left.scalars) (floatWordsOf right.scalars) := by
  cases agrees with
  | nested conditions => cases flat
  | null => exact .refl _
  | notNull => exact .refl _
  | basic value =>
      refine aligned_of_rules (by rfl) (by rfl) (by rfl) collection ?_
      exact .prependText _ (Scalar.aligned_encode value)
  | oneOf values =>
      refine aligned_of_rules (by rfl) (by rfl) (by rfl) collection ?_
      exact .prependText _ (aligned_encodeList values)
  | noneOf values =>
      refine aligned_of_rules (by rfl) (by rfl) (by rfl) collection ?_
      exact .prependText _ (aligned_encodeList values)
  | @between column leftLow leftHigh rightLow rightHigh junction outside low high =>
      have bounds : ∀ start low high : String, start ++ low ++ "," ++ high =
          (start ++ low) ++ ("," ++ high) := fun _ _ _ => String.append_assoc
      refine aligned_of_rules (by rfl) (by rfl) (by rfl) collection ?_
      change Aligned _ _ (floatWordsOf ([leftLow] ++ [leftHigh]))
        (floatWordsOf ([rightLow] ++ [rightHigh]))
      rw [floatWordsOf_append, floatWordsOf_append, bounds, bounds]
      exact .appendText (.prependText _ (Scalar.aligned_encode low))
        (.prependText _ (Scalar.aligned_encode high))

end Condition

namespace Builder

variable {left right : Builder}

theorem allAligned_conditions {left right : List Condition}
    (conditions : List.Forall₂ (Condition.Agrees Scalar.WrittenAlike) left right)
    (flat : ∀ condition ∈ left, condition.isNested = false) (collection : String) :
    AllAligned (left.map fun condition => (pairText (condition.pair collection)).toList)
      (right.map fun condition => (pairText (condition.pair collection)).toList)
      (floatWordsOf (conditionScalars left)) (floatWordsOf (conditionScalars right)) := by
  induction conditions with
  | nil => exact .nil
  | cons agrees rest ih =>
      rw [List.forall_mem_cons] at flat
      rw [conditionScalars, conditionScalars, floatWordsOf_append, floatWordsOf_append]
      exact .cons (Condition.aligned_pairText agrees flat.1 collection) (ih flat.2)

/-- Only the conditions of builders with the same key can be written differently. -/
theorem exists_pairs_eq (content : left.SameContent Scalar.WrittenAlike right)
    (sameCollection : left.collection = right.collection)
    (sameTimeout : left.timeout = right.timeout) (sameHint : left.hint = right.hint) :
    ∃ before after : List (String × String),
      left.pairs = before ++ left.conditions.map (Condition.pair left.collection) ++ after ∧
        right.pairs = before ++ right.conditions.map (Condition.pair left.collection) ++ after := by
  refine ⟨_, _, rfl, ?_⟩
  simp only [pairs, aggregatePairs, columnPairs, orderPairs, hintPairs, content.aggregate,
    content.columns, content.orders, content.limit, content.offset, sameCollection, sameTimeout,
    sameHint]

theorem aligned_query (content : left.SameContent Scalar.WrittenAlike right)
    (sameCollection : left.collection = right.collection)
    (sameTimeout : left.timeout = right.timeout) (sameHint : left.hint = right.hint)
    (flat : left.IsFlat) :
    Aligned (Text.join '&' (left.pairs.map pairText)).toList
      (Text.join '&' (right.pairs.map pairText)).toList left.floatWords right.floatWords := by
  rcases exists_pairs_eq content sameCollection sameTimeout sameHint with
    ⟨before, after, leftPairs, rightPairs⟩
  have conditions := allAligned_conditions content.conditions flat left.collection
  have pieces := (AllAligned.refl (before.map fun pair => (pairText pair).toList)).append
    (conditions.append (.refl (after.map fun pair => (pairText pair).toList)))
  rw [leftPairs, rightPairs]
  simpa [Text.join, Function.comp_def, floatWords] using pieces.joinChars '&'

theorem isFlat_iff_of_agree {left right : List Condition} {same : Scalar → Scalar → Prop}
    (conditions : List.Forall₂ (Condition.Agrees same) left right) :
    (∀ condition ∈ left, condition.isNested = false) ↔
      ∀ condition ∈ right, condition.isNested = false := by
  induction conditions with
  | nil => rfl
  | cons agrees rest ih =>
      rw [List.forall_mem_cons, List.forall_mem_cons, ih]
      cases agrees <;> rfl

/--
Builders against one collection, with the same cursor options and the same digested text, compile to
the same result just when the doubles among their operands that are not finite read alike, or when
neither compiles for a group.
-/
theorem compile_eq_iff_of_cacheText (sameText : left.cacheText = right.cacheText)
    (sameCollection : left.collection = right.collection)
    (sameTimeout : left.timeout = right.timeout) (sameHint : left.hint = right.hint) :
    left.compile = right.compile ↔ (left.IsFlat → left.floatWords = right.floatWords) := by
  have content := sameContent_of_cacheText sameText
  have flatTogether : left.IsFlat ↔ right.IsFlat := isFlat_iff_of_agree content.conditions
  by_cases flat : left.IsFlat
  · have aligned := aligned_query content sameCollection sameTimeout sameHint flat
    rw [compile_eq flat, compile_eq (flatTogether.mp flat), ← sameCollection]
    simp only [flat, true_imp_iff, ← aligned.eq_iff, Except.ok.injEq, Request.mk.injEq, true_and,
      and_true, String.toList_inj]
  · have rightNotFlat : ¬right.IsFlat := fun rightFlat => flat (flatTogether.mpr rightFlat)
    rw [compile_of_not_flat flat, compile_of_not_flat rightNotFlat]
    simp [flat]

/-- The records whose level is a number. -/
def levelSearch (level : Double) (distinct : Bool) : Builder :=
  { (new "samples").compare .and "level" "=" (.float level) with distinct }

/-- NaN in its negative form reads like the other one, and `distinct` is not written at all. -/
theorem compile_eq_levelSearch :
    (levelSearch .nan false).cacheText = (levelSearch Double.nan.neg true).cacheText ∧
      (levelSearch .nan false).compile = (levelSearch Double.nan.neg true).compile := by
  have sameText : (levelSearch .nan false).cacheText =
      (levelSearch Double.nan.neg true).cacheText := rfl
  exact ⟨sameText, (compile_eq_iff_of_cacheText sameText rfl rfl rfl).mpr fun _ => rfl⟩

/-- NaN and infinity share a digested text, and so a key, and are different requests. -/
theorem compile_ne_levelSearch :
    let notANumber := levelSearch .nan false
    let infinite := levelSearch (.infinity false) false
    notANumber.cacheText = infinite.cacheText ∧
      (notANumber.collection = infinite.collection ∧ notANumber.timeout = infinite.timeout ∧
        notANumber.hint = infinite.hint) ∧
      notANumber.compile ≠ infinite.compile := by
  refine ⟨rfl, ⟨rfl, rfl, rfl⟩, ?_⟩
  intro same
  have sameQuery := congrArg (fun result => result.toOption.map Request.query) same
  exact absurd sameQuery (by decide)

end Builder

end RestQuery
