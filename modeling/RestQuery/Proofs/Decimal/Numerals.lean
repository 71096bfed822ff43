import RestQuery.Decimal.Integer
import RestQuery.Json.Reader

/-!
# Numerals as they are written

`Numeral.chars` writes a numeral in the one way that JSON has for it, and `readNumeral?_chars` reads
it back, whatever stands behind it, as long as that does not go on like a number. Integers are
numerals of this kind.
-/

namespace RestQuery

/-- What stands behind a number does not continue it. -/
def EndsNumber (rest : List Char) : Prop :=
  ∀ char ∈ rest.head?, char.isDigit = false ∧ char ≠ '.' ∧ char ≠ 'e' ∧ char ≠ 'E'

theorem endsNumber_nil : EndsNumber [] := by
  simp [EndsNumber]

theorem endsNumber_cons {char : Char} {rest : List Char}
    (ends : char.isDigit = false ∧ char ≠ '.' ∧ char ≠ 'e' ∧ char ≠ 'E') :
    EndsNumber (char :: rest) := by
  simpa [EndsNumber] using ends

theorem isDigits_iff {chars : List Char} :
    isDigits chars = true ↔ chars ≠ [] ∧ ∀ char ∈ chars, char.isDigit = true := by
  simp [isDigits]

namespace Numeral

/-- The part of a numeral from its point on. -/
def fractionChars (fraction : List Char) : List Char :=
  if fraction.isEmpty then [] else '.' :: fraction

/-- The exponent of a numeral, always with its sign. -/
def exponentChars : Option (Bool × List Char) → List Char
  | none => []
  | some (negative, digits) => 'e' :: (if negative then '-' else '+') :: digits

/-- A numeral as it is written. -/
def chars (numeral : Numeral) : List Char :=
  (if numeral.negative then ['-'] else []) ++
    (numeral.whole ++ (fractionChars numeral.fraction ++ exponentChars numeral.exponent))

/-- A numeral that JSON has a form for. -/
structure IsWritable (numeral : Numeral) : Prop where
  whole : isDigits numeral.whole = true
  leading : numeral.whole.length = 1 ∨ numeral.whole.head? ≠ some '0'
  fraction : ∀ char ∈ numeral.fraction, char.isDigit = true
  exponent : ∀ exponent ∈ numeral.exponent, isDigits exponent.2 = true

end Numeral

namespace Json

theorem readDigits?_append {digits rest : List Char} (areDigits : isDigits digits = true)
    (ends : ∀ char ∈ rest.head?, char.isDigit = false) :
    readDigits? (digits ++ rest) = some (digits, rest) := by
  rw [isDigits_iff] at areDigits
  have stops : rest.takeWhile Char.isDigit = [] ∧ rest.dropWhile Char.isDigit = rest := by
    cases rest with
    | nil => simp
    | cons char more =>
        have notDigit := ends char rfl
        simp [notDigit]
  have taken : (digits ++ rest).takeWhile Char.isDigit = digits := by
    rw [List.takeWhile_append_of_pos areDigits.2, stops.1, List.append_nil]
  have dropped : (digits ++ rest).dropWhile Char.isDigit = rest := by
    rw [List.dropWhile_append_of_pos areDigits.2, stops.2]
  have nonempty : digits.isEmpty = false := by
    simpa using areDigits.1
  simp only [readDigits?, taken, dropped, nonempty, Bool.false_eq_true, ↓reduceIte]

theorem readFraction?_append {fraction rest : List Char}
    (areDigits : ∀ char ∈ fraction, char.isDigit = true)
    (ends : ∀ char ∈ rest.head?, char.isDigit = false ∧ char ≠ '.') :
    readFraction? (Numeral.fractionChars fraction ++ rest) = some (fraction, rest) := by
  cases fraction with
  | nil =>
      cases rest with
      | nil => rfl
      | cons char more =>
          have notPoint := (ends char rfl).2
          simp only [Numeral.fractionChars, List.isEmpty_nil, ↓reduceIte, List.nil_append,
            readFraction?]
          split
          · rename_i same
            exact absurd (List.cons.inj same).1 notPoint
          · rfl
  | cons digit more =>
      have someDigits : isDigits (digit :: more) = true := isDigits_iff.mpr ⟨by simp, areDigits⟩
      exact readDigits?_append someDigits fun char isHead => (ends char isHead).1

theorem readExponent?_append {exponent : Option (Bool × List Char)} {rest : List Char}
    (areDigits : ∀ written ∈ exponent, isDigits written.2 = true) (ends : EndsNumber rest) :
    readExponent? (Numeral.exponentChars exponent ++ rest) = some (exponent, rest) := by
  cases exponent with
  | none =>
      cases rest with
      | nil => rfl
      | cons char more =>
          have notMark : ¬(char = 'e' ∨ char = 'E') := by
            have ended := ends char rfl
            rw [not_or]
            exact ended.2.2
          simp only [Numeral.exponentChars, List.nil_append, readExponent?, notMark, ↓reduceIte]
  | some written =>
      rcases written with ⟨negative, digits⟩
      have read := readDigits?_append (areDigits _ rfl) fun char isHead => (ends char isHead).1
      cases negative <;>
        simp [Numeral.exponentChars, readExponent?, Double.cutSign, read]

/-- A numeral is read back from its written form, whatever follows it. -/
theorem readNumeral?_chars {numeral : Numeral} (writable : numeral.IsWritable) {rest : List Char}
    (ends : EndsNumber rest) :
    readNumeral? (numeral.chars ++ rest) = some (numeral, rest) := by
  rcases numeral with ⟨negative, whole, fraction, exponent⟩
  have exponentRead := readExponent?_append writable.exponent ends
  have fractionRead : readFraction?
      (Numeral.fractionChars fraction ++ (Numeral.exponentChars exponent ++ rest)) =
        some (fraction, Numeral.exponentChars exponent ++ rest) := by
    apply readFraction?_append writable.fraction
    intro char isHead
    cases exponent with
    | none => exact ⟨(ends char isHead).1, (ends char isHead).2.1⟩
    | some written =>
        obtain rfl : 'e' = char := by simpa [Numeral.exponentChars] using isHead
        decide
  have wholeRead : readDigits? (whole ++ (Numeral.fractionChars fraction ++
      (Numeral.exponentChars exponent ++ rest))) =
        some (whole, Numeral.fractionChars fraction ++
          (Numeral.exponentChars exponent ++ rest)) := by
    apply readDigits?_append writable.whole
    intro char isHead
    cases fraction with
    | cons digit more =>
        obtain rfl : '.' = char := by simpa [Numeral.fractionChars] using isHead
        decide
    | nil =>
        cases exponent with
        | none => exact (ends char isHead).1
        | some written =>
            obtain rfl : 'e' = char := by
              simpa [Numeral.fractionChars, Numeral.exponentChars] using isHead
            decide
  have noLeadingZero : ¬(whole.length ≠ 1 ∧ whole.head? = some '0') := by
    rintro ⟨several, zero⟩
    rcases writable.leading with single | nonzero
    · exact several single
    · exact nonzero zero
  cases negative with
  | true =>
      simp only [Numeral.chars, ↓reduceIte, List.cons_append, List.nil_append, List.append_assoc,
        readNumeral?, wholeRead, Option.bind_eq_bind, Option.bind_some, noLeadingZero, fractionRead,
        exponentRead]
      rfl
  | false =>
      simp only [Numeral.chars, Bool.false_eq_true, ↓reduceIte, List.nil_append, List.append_assoc,
        readNumeral?]
      split
      -- Without a sign the text starts with a digit.
      · rename_i minus more starts
        have isHead : '-' ∈ whole := by
          rcases whole with _ | ⟨first, others⟩
          · exact absurd rfl (isDigits_iff.mp writable.whole).1
          · simp [(List.cons.inj starts).1]
        exact absurd ((isDigits_iff.mp writable.whole).2 '-' isHead) (by decide)
      · simp only [wholeRead, Option.bind_eq_bind, Option.bind_some, noLeadingZero, fractionRead,
          exponentRead]
        rfl

end Json

namespace Numeral

/-- A written numeral starts with a minus sign or a digit. -/
theorem exists_chars_eq_cons {numeral : Numeral} (writable : numeral.IsWritable) :
    ∃ first rest, numeral.chars = first :: rest ∧ (first = '-' ∨ first.isDigit = true) := by
  rcases numeral with ⟨negative, whole, fraction, exponent⟩
  cases negative with
  | true => exact ⟨'-', _, rfl, Or.inl rfl⟩
  | false =>
      rcases whole with _ | ⟨first, more⟩
      · exact absurd rfl (isDigits_iff.mp writable.whole).1
      · exact ⟨first, _, rfl, Or.inr ((isDigits_iff.mp writable.whole).2 first (by simp))⟩

/-- Different numerals are written differently. -/
theorem chars_inj {left right : Numeral} (leftWritable : left.IsWritable)
    (rightWritable : right.IsWritable) (same : left.chars = right.chars) : left = right := by
  have leftRead := Json.readNumeral?_chars leftWritable endsNumber_nil
  have rightRead := Json.readNumeral?_chars rightWritable endsNumber_nil
  rw [same, rightRead] at leftRead
  exact (Prod.mk.inj (Option.some.inj leftRead)).1.symm

end Numeral

theorem isDigits_toDigits (number : Nat) : isDigits (Nat.toDigits 10 number) = true :=
  isDigits_iff.mpr ⟨Nat.toDigits_ne_nil, fun _ charMem =>
    Nat.isDigit_of_mem_toDigits (by decide) (by decide) charMem⟩

theorem digitsValue_toDigits (number : Nat) : digitsValue (Nat.toDigits 10 number) = number :=
  Nat.ofDigitChars_toDigits (by decide) (by decide)

theorem digitChar_ne_zero {digit : Nat} (positive : 0 < digit) (small : digit < 10) :
    digit.digitChar ≠ '0' := by
  have nonzero : ∀ digit < 10, 0 < digit → digit.digitChar ≠ '0' := by decide
  exact nonzero digit small positive

theorem head?_toDigits {number : Nat} (positive : 0 < number) :
    (Nat.toDigits 10 number).head? ≠ some '0' := by
  -- The first digit stays when the last one is cut off.
  induction number using Nat.strongRecOn with
  | ind number ih =>
      rw [Nat.toDigits_eq_if (by decide)]
      split
      · rename_i small
        simpa using digitChar_ne_zero positive small
      · have fewer := ih (number / 10) (by omega) (by omega)
        rcases digits : Nat.toDigits 10 (number / 10) with _ | ⟨first, more⟩
        · exact absurd digits Nat.toDigits_ne_nil
        · simpa [digits] using fewer

theorem leading_toDigits (number : Nat) :
    (Nat.toDigits 10 number).length = 1 ∨ (Nat.toDigits 10 number).head? ≠ some '0' := by
  rcases Nat.eq_zero_or_pos number with rfl | positive
  · exact Or.inl rfl
  · exact Or.inr (head?_toDigits positive)

namespace Numeral

def ofInt (value : Int) : Numeral :=
  ⟨decide (value < 0), Nat.toDigits 10 value.natAbs, [], none⟩

theorem chars_ofInt (value : Int) : (ofInt value).chars = intChars value := by
  simp [chars, ofInt, intChars, fractionChars, exponentChars]

theorem isWritable_ofInt (value : Int) : (ofInt value).IsWritable where
  whole := isDigits_toDigits value.natAbs
  leading := leading_toDigits value.natAbs
  fraction := by simp [ofInt]
  exponent := by simp [ofInt]

theorem isWhole_ofInt (value : Int) : (ofInt value).isWhole = true := rfl

theorem digitsValue_ofInt (value : Int) : digitsValue (ofInt value).whole = value.natAbs :=
  digitsValue_toDigits value.natAbs

theorem ofInt_inj {left right : Int} (same : ofInt left = ofInt right) : left = right := by
  have sameMagnitude : left.natAbs = right.natAbs := by
    rw [← digitsValue_ofInt left, same, digitsValue_ofInt]
  have sameSign : decide (left < 0) = decide (right < 0) := congrArg Numeral.negative same
  simp only [decide_eq_decide] at sameSign
  omega

end Numeral

theorem intText_inj {left right : Int} (same : intText left = intText right) : left = right := by
  have sameChars : intChars left = intChars right := String.ofList_inj.mp same
  rw [← Numeral.chars_ofInt, ← Numeral.chars_ofInt] at sameChars
  exact Numeral.ofInt_inj
    (Numeral.chars_inj (Numeral.isWritable_ofInt left) (Numeral.isWritable_ofInt right) sameChars)

theorem intText_eq_repr (value : Int) : intText value = value.repr := by
  apply String.toList_inj.mp
  rw [intText, String.toList_ofList, intChars]
  cases value with
  | ofNat number =>
      rw [if_neg (by simp), List.nil_append, Int.repr, Nat.toList_repr]
      rfl
  | negSucc number =>
      rw [if_pos (Int.negSucc_lt_zero number), Int.repr, String.toList_append, Nat.toList_repr]
      rfl

/-- An integer of signed 64 bits is the value of its numeral. -/
theorem Json.ofNumeral?_ofInt {value : Int} (least : Int64.minValue.toInt ≤ value)
    (greatest : value ≤ Int64.maxValue.toInt) :
    Json.ofNumeral? (.ofInt value) = some (.int value) := by
  have magnitude := Numeral.digitsValue_ofInt value
  unfold Json.ofNumeral?
  rw [Numeral.isWhole_ofInt, magnitude]
  by_cases negative : value < 0
  · have sign : (Numeral.ofInt value).negative = true := decide_eq_true negative
    have nonzero : 0 < value.natAbs := by omega
    have restored : -(value.natAbs : Int) = value := by omega
    simp only [sign, nonzero, restored, least, Bool.not_true, Bool.and_true, Bool.and_false,
      Bool.false_and, Bool.false_eq_true, decide_true, ↓reduceIte]
  · have sign : (Numeral.ofInt value).negative = false := decide_eq_false negative
    have inRange : value.natAbs < UInt64.size := by
      rw [Int64.toInt_maxValue] at greatest
      unfold UInt64.size
      omega
    have restored : (value.natAbs : Int) = value := by omega
    simp only [sign, inRange, restored, Bool.not_false, Bool.and_true, decide_true, ↓reduceIte]

end RestQuery
