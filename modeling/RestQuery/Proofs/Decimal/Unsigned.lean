import RestQuery.Proofs.Decimal.Numerals
import RestQuery.Proofs.Text.Trimming

/-!
# Paging values

A number is written as decimal digits, with a plus sign in front or without one. `WritesCount` says
so for a text with blanks around it, and `readUnsigned?_trimChars_eq_some_iff` that paging values
are read exactly then: leading zeros do not count, and neither an empty text nor a number beyond
64 bits is one. A number that was written by the program itself is read as itself, which is what
ties the directives of a query to the numbers of a builder.
-/

namespace RestQuery

/-- The digits write a number: there is at least one, and they give it in base ten. -/
structure IsNumeralOf (number : Nat) (digits : List Char) : Prop where
  nonempty : digits ≠ []
  areDigits : ∀ digit ∈ digits, digit.isDigit
  value : Nat.ofDigitChars 10 digits 0 = number

/-- Blanks around a number of 64 bits, which may have a plus sign in front. -/
inductive WritesCount (count : UInt64) (chars : List Char) : Prop where
  | unsigned {digits : List Char} (trims : Text.TrimsTo chars digits)
      (numeral : IsNumeralOf count.toNat digits)
  | signed {digits : List Char} (trims : Text.TrimsTo chars ('+' :: digits))
      (numeral : IsNumeralOf count.toNat digits)

/-- Digits below the bound of 64 bits write the number that they are read as. -/
theorem isNumeralOf_iff {digits : List Char} {count : UInt64} :
    IsNumeralOf count.toNat digits ↔
      (isDigits digits && digitsValue digits < UInt64.size) = true ∧
        UInt64.ofNat (digitsValue digits) = count := by
  simp only [Bool.and_eq_true, decide_eq_true_eq, isDigits_iff]
  constructor
  · rintro ⟨nonempty, areDigits, value⟩
    have sameValue : digitsValue digits = count.toNat := value
    rw [sameValue]
    exact ⟨⟨⟨nonempty, areDigits⟩, count.toNat_lt⟩, UInt64.ofNat_toNat⟩
  · rintro ⟨⟨⟨nonempty, areDigits⟩, small⟩, rfl⟩
    refine ⟨nonempty, areDigits, ?_⟩
    rw [UInt64.toNat_ofNat_of_lt' small]
    rfl

theorem readUnsigned?_eq_some_iff {chars : List Char} {count : UInt64} :
    readUnsigned? chars = some count ↔
      IsNumeralOf count.toNat chars ∨
        ∃ digits, chars = '+' :: digits ∧ IsNumeralOf count.toNat digits := by
  simp only [isNumeralOf_iff]
  unfold readUnsigned?
  split
  · rename_i digits
    have notNumeral : isDigits ('+' :: digits) = false := by
      simp [isDigits, Char.isDigit]
    simp [notNumeral]
  · rename_i notSigned
    have unsigned : ∀ digits, chars ≠ '+' :: digits := fun digits isSigned =>
      notSigned digits isSigned
    simp [unsigned]

/-- A paging value is read exactly if it is a number between blanks. -/
theorem readUnsigned?_trimChars_eq_some_iff {chars : List Char} {count : UInt64} :
    readUnsigned? (Text.trimChars chars) = some count ↔ WritesCount count chars := by
  rw [readUnsigned?_eq_some_iff]
  constructor
  · rintro (numeral | ⟨digits, isSigned, numeral⟩)
    · exact .unsigned (Text.trimsTo_trimChars chars) numeral
    · exact .signed (Text.trimsTo_iff.mpr isSigned) numeral
  · rintro (⟨trims, numeral⟩ | ⟨trims, numeral⟩)
    · rw [Text.trimChars_of_trimsTo trims]
      exact .inl numeral
    · exact .inr ⟨_, Text.trimChars_of_trimsTo trims, numeral⟩

theorem isBlank_of_isDigit {char : Char} (isDigit : char.isDigit) : Text.isBlank char = false := by
  have range : 48 ≤ char.toNat ∧ char.toNat ≤ 57 := by
    simpa [Char.isDigit, UInt32.le_iff_toNat_le] using isDigit
  simp only [Text.isBlank, Text.inRanges, Text.blankRanges, List.any_cons, List.any_nil,
    Bool.or_false, Bool.or_eq_false_iff, Bool.and_eq_false_iff, decide_eq_false_iff_not]
  omega

theorem trimsTo_of_isDigit {digits : List Char} (areDigits : ∀ digit ∈ digits, digit.isDigit) :
    Text.TrimsTo digits digits := by
  refine ⟨⟨[], [], by simp⟩, ?_, ?_⟩
  · intro nonempty
    simp [isBlank_of_isDigit (areDigits _ (List.head_mem nonempty))]
  · intro nonempty
    simp [isBlank_of_isDigit (areDigits _ (List.getLast_mem nonempty))]

theorem isNumeralOf_toDigits (number : Nat) : IsNumeralOf number (Nat.toDigits 10 number) where
  nonempty := (isDigits_iff.mp (isDigits_toDigits number)).1
  areDigits := (isDigits_iff.mp (isDigits_toDigits number)).2
  value := digitsValue_toDigits number

/-- A written number is read back. -/
theorem readUnsigned?_repr (count : UInt64) :
    readUnsigned? (Text.trimChars count.toNat.repr.toList) = some count := by
  have numeral := isNumeralOf_toDigits count.toNat
  rw [Nat.toList_repr, readUnsigned?_trimChars_eq_some_iff]
  exact .unsigned (trimsTo_of_isDigit numeral.areDigits) numeral

end RestQuery
