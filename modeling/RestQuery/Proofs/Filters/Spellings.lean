import RestQuery.Query.Operator

/-!
# Spellings of operators

The table of operators has a column of symbols and a column of tokens, and a text is converted from
one to the other without knowing which of them it is from. Some texts stand in both: `like`,
`between` and `in`. This does no harm, since no text stands for two operators: whichever name of an
operator is given, a conversion makes of it the operator's name in its own column (`convert_name`),
and leaves a text of neither column alone. So a conversion undoes those before it
(`convert_convert`), and only the last one counts.
-/

namespace RestQuery.Operator

/-- A column of the table of operators. -/
inductive Spelling where
  | symbol
  | token
deriving DecidableEq, Repr

namespace Spelling

/-- What the column calls an operator. -/
def name : Spelling → Operator → String
  | symbol => Operator.symbol
  | token => Operator.token

/-- Converts a text to the column. -/
def convert : Spelling → String → String
  | symbol => symbolOfToken
  | token => tokenOfSymbol

/-- Converts a text to each of the columns in turn. -/
def convertAll (columns : List Spelling) (text : String) : String :=
  columns.foldl (fun text column => column.convert text) text

/-- Every name of an operator is converted to its name in the column. -/
@[simp]
theorem convert_name (column given : Spelling) (operator : Operator) :
    column.convert (given.name operator) = column.name operator := by
  cases column <;> cases given <;> cases operator <;> rfl

theorem convert_of_unknown {text : String}
    (unknown : ∀ (given : Spelling) (operator : Operator), text ≠ given.name operator)
    (column : Spelling) : column.convert text = text := by
  cases column with
  | symbol =>
      have notToken : ofToken? text = none := ofToken?_eq_none_iff.mpr (unknown token)
      simp only [convert, symbolOfToken, notToken]
  | token =>
      have notSymbol : ofSymbol? text = none := ofSymbol?_eq_none_iff.mpr (unknown symbol)
      simp only [convert, tokenOfSymbol, notSymbol]

/-- A conversion undoes the one before it. -/
@[simp]
theorem convert_convert (later earlier : Spelling) (text : String) :
    later.convert (earlier.convert text) = later.convert text := by
  by_cases known : ∃ (given : Spelling) (operator : Operator), text = given.name operator
  · rcases known with ⟨given, operator, rfl⟩
    simp only [convert_name]
  · have unknown : ∀ (given : Spelling) (operator : Operator), text ≠ given.name operator := by
      intro given operator isName
      exact known ⟨given, operator, isName⟩
    rw [convert_of_unknown unknown earlier]

/-- Only the last conversion counts. -/
theorem convertAll_concat (earlier : List Spelling) (last : Spelling) (text : String) :
    convertAll (earlier ++ [last]) text = last.convert text := by
  induction earlier generalizing text with
  | nil => rfl
  | cons first rest ih =>
      change convertAll (rest ++ [last]) (first.convert text) = last.convert text
      rw [ih, convert_convert]

end Spelling

theorem tokenOfSymbol_cases (text : String) :
    (∃ operator : Operator, text = operator.symbol ∧ tokenOfSymbol text = operator.token) ∨
      (∀ operator : Operator, text ≠ operator.symbol) ∧ tokenOfSymbol text = text := by
  cases found : ofSymbol? text with
  | none => exact Or.inr ⟨ofSymbol?_eq_none_iff.mp found, by simp only [tokenOfSymbol, found]⟩
  | some operator =>
      exact Or.inl
        ⟨operator, ofSymbol?_eq_some_iff.mp found, by simp only [tokenOfSymbol, found]⟩

/--
What a text is converted to reads as the operator with this symbol, or as the one with this token
if the text is no symbol.
-/
theorem ofToken?_tokenOfSymbol_eq_some_iff {text : String} {operator : Operator} :
    ofToken? (tokenOfSymbol text) = some operator ↔
      text = operator.symbol ∨
        text = operator.token ∧ ∀ other : Operator, text ≠ other.symbol := by
  rcases tokenOfSymbol_cases text with ⟨known, rfl, converted⟩ | ⟨notSymbol, converted⟩
  · have isSymbol : ¬∀ other : Operator, known.symbol ≠ other.symbol := by
      intro notSymbol
      exact notSymbol known rfl
    have sameSymbol : known.symbol = operator.symbol ↔ known = operator := by
      rw [← ofSymbol?_eq_some_iff, ofSymbol?_symbol, Option.some.injEq]
    simp [converted, isSymbol, sameSymbol]
  · simp [converted, notSymbol, ofToken?_eq_some_iff]

theorem compiledToken_of_ne {text : String} (notLegacy : text ≠ "<>") :
    compiledToken text = tokenOfSymbol text :=
  if_neg notLegacy

/--
Conversions between the two columns are stable: after any of them, a further one gives what it would
have given at once. A text of neither column passes through all of them, except that `<>` compiles
to the token of equality. Any other text compiles to a token that reads as an operator exactly if
the text is its symbol, or is its token and nobody's symbol.
-/
theorem conversions_of_text (text : String) :
    (symbolOfToken (tokenOfSymbol (symbolOfToken text)) = symbolOfToken text ∧
        tokenOfSymbol (symbolOfToken (tokenOfSymbol text)) = tokenOfSymbol text) ∧
      (∀ (earlier : List Spelling) (last : Spelling),
        Spelling.convertAll (earlier ++ [last]) text = last.convert text) ∧
      ((∀ operator : Operator, text ≠ operator.symbol ∧ text ≠ operator.token) →
        tokenOfSymbol text = text ∧ symbolOfToken text = text ∧
          compiledToken text = if text = "<>" then equal.token else text) ∧
      (text ≠ "<>" → ∀ operator : Operator,
        ofToken? (compiledToken text) = some operator ↔
          text = operator.symbol ∨
            text = operator.token ∧ ∀ other : Operator, text ≠ other.symbol) := by
  have absorbs : ∀ later earlier : Spelling,
      later.convert (earlier.convert (later.convert text)) = later.convert text := by
    intro later earlier
    rw [Spelling.convert_convert, Spelling.convert_convert]
  refine ⟨⟨absorbs .symbol .token, absorbs .token .symbol⟩, ?_, ?_, ?_⟩
  · intro earlier last
    exact Spelling.convertAll_concat earlier last text
  · intro unknown
    have isUnknown : ∀ (given : Spelling) (operator : Operator), text ≠ given.name operator := by
      intro given operator
      cases given with
      | symbol => exact (unknown operator).1
      | token => exact (unknown operator).2
    have toToken : tokenOfSymbol text = text := Spelling.convert_of_unknown isUnknown .token
    refine ⟨toToken, Spelling.convert_of_unknown isUnknown .symbol, ?_⟩
    rw [compiledToken, toToken]
    rfl
  · intro notLegacy operator
    rw [compiledToken_of_ne notLegacy]
    exact ofToken?_tokenOfSymbol_eq_some_iff

/-- A text of neither column, and one of both. -/
theorem conversions_of_text_overlap :
    (∀ operator : Operator, "nin" ≠ operator.symbol ∧ "nin" ≠ operator.token) ∧
      compiledToken "nin" = "nin" ∧ "nin" ≠ "<>" ∧ ofToken? (compiledToken "nin") = none ∧
      "in" ≠ "<>" ∧ ofToken? (compiledToken "in") = some oneOf := by
  have unknown : ∀ operator : Operator, "nin" ≠ operator.symbol ∧ "nin" ≠ operator.token := by
    intro operator
    cases operator <;> decide
  rcases conversions_of_text "nin" with ⟨-, -, passes, reads⟩
  refine ⟨unknown, (passes unknown).2.2, by decide, ?_, by decide, ?_⟩
  · apply Option.eq_none_iff_forall_ne_some.mpr
    intro operator isRead
    rcases (reads (by decide) operator).mp isRead with isSymbol | ⟨isToken, -⟩
    · exact (unknown operator).1 isSymbol
    · exact (unknown operator).2 isToken
  · exact ((conversions_of_text "in").2.2.2 (by decide) oneOf).mpr (.inl rfl)

end RestQuery.Operator
