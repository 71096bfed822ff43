import RestQuery.Proofs.Decimal.Numerals
import RestQuery.Proofs.Decimal.Shortest

/-!
# Doubles as numerals

In JSON a finite double is a numeral that keeps a point or an exponent, so it is never taken for an
integer. The numeral stands for the shortest decimal of the double, whichever layout it has, and so
no other double is written like it. NaN and the infinities have no numeral.
-/

namespace RestQuery

theorem digitsValue_zeros_append (count : Nat) (digits : List Char) :
    digitsValue (List.replicate count '0' ++ digits) = digitsValue digits := by
  rw [digitsValue, Nat.ofDigitChars_append, Nat.ofDigitChars_replicate_zero, Nat.mul_zero,
    digitsValue]

theorem digitsValue_append_zeros (digits : List Char) (count : Nat) :
    digitsValue (digits ++ List.replicate count '0') = 10 ^ count * digitsValue digits := by
  rw [digitsValue, Nat.ofDigitChars_append, Nat.ofDigitChars_replicate_zero, digitsValue]

/-- The number that a numeral stands for, without its sign. -/
def Numeral.magnitude (numeral : Numeral) : ℚ :=
  digitsValue (numeral.whole ++ numeral.fraction) *
    (10 : ℚ) ^ (numeral.exponentValue - numeral.fraction.length)

namespace Double

/-- The numeral of digits with the point put `places` digits after their start. -/
def positionalNumeral (negative : Bool) (digits : List Char) (places : Int) : Numeral :=
  if places ≤ 0 then ⟨negative, ['0'], List.replicate (-places).toNat '0' ++ digits, none⟩
  else if (digits.length : Int) ≤ places then
    ⟨negative, digits ++ List.replicate (places - digits.length).toNat '0', ['0'], none⟩
  else ⟨negative, digits.take places.toNat, digits.drop places.toNat, none⟩

/-- The numeral of digits with the point after the first and its place as an exponent. -/
def exponentialNumeral (negative : Bool) (digits : List Char) (place : Int) : Numeral :=
  ⟨negative, digits.take 1, digits.drop 1,
    some (decide (place < 0), Nat.toDigits 10 place.natAbs)⟩

def decimalNumeral (negative : Bool) (decimal : Scaled) : Numeral :=
  let digits := Nat.toDigits 10 decimal.digits
  let place := decimal.exponent + digits.length - 1
  if jsonLayout.isPositional place then positionalNumeral negative digits (place + 1)
  else exponentialNumeral negative digits place

def finiteNumeral (negative : Bool) (significand : Nat) (exponent : Int) : Numeral :=
  if significand = 0 then ⟨negative, ['0'], ['0'], none⟩
  else decimalNumeral negative (shortest .toEven significand exponent)

/-- The numeral that a double is in JSON, if it is finite. -/
def numeral? (number : Double) : Option Numeral :=
  match number.view with
  | .finite negative significand exponent => some (finiteNumeral negative significand exponent)
  | _ => none

section Layouts

variable (negative : Bool) {digits : List Char} (areDigits : isDigits digits = true)

include areDigits in
theorem chars_positionalNumeral (places : Int) :
    (positionalNumeral negative digits places).chars =
      (if negative then ['-'] else []) ++ positional jsonLayout.wholeEnding digits places := by
  have nonempty := (isDigits_iff.mp areDigits).1
  unfold positionalNumeral positional
  split
  · simp [Numeral.chars, Numeral.fractionChars, Numeral.exponentChars, nonempty]
  · split
    · simp [Numeral.chars, Numeral.fractionChars, Numeral.exponentChars, jsonLayout]
    · have behind : digits.drop places.toNat ≠ [] := by
        rw [ne_eq, List.drop_eq_nil_iff]
        omega
      simp [Numeral.chars, Numeral.fractionChars, Numeral.exponentChars, behind]

theorem chars_exponentialNumeral (digits : List Char) (place : Int) :
    (exponentialNumeral negative digits place).chars =
      (if negative then ['-'] else []) ++ exponential digits place := by
  unfold exponentialNumeral exponential
  simp [Numeral.chars, Numeral.fractionChars, Numeral.exponentChars]

include areDigits in
theorem isWritable_positionalNumeral
    (leading : digits.head? ≠ some '0') (places : Int) :
    (positionalNumeral negative digits places).IsWritable := by
  obtain ⟨nonempty, all⟩ := isDigits_iff.mp areDigits
  unfold positionalNumeral
  split
  · refine ⟨rfl, Or.inl rfl, ?_, by simp⟩
    intro char charMem
    rcases List.mem_append.mp charMem with inZeros | inDigits
    · rw [List.eq_of_mem_replicate inZeros]
      decide
    · exact all char inDigits
  · rename_i positive
    have placesNat : places.toNat ≠ 0 := by omega
    split
    · rename_i short
      refine ⟨isDigits_iff.mpr ⟨by simp [nonempty], ?_⟩, Or.inr ?_, ?_, by simp⟩
      · intro char charMem
        rcases List.mem_append.mp charMem with inDigits | inZeros
        · exact all char inDigits
        · rw [List.eq_of_mem_replicate inZeros]
          decide
      · rcases digits with _ | ⟨first, more⟩
        · exact absurd rfl nonempty
        · exact leading
      · intro char charMem
        rw [List.mem_singleton.mp charMem]
        decide
    · refine ⟨isDigits_iff.mpr ⟨by simp [nonempty, placesNat], ?_⟩, Or.inr ?_, ?_, by simp⟩
      · intro char charMem
        exact all char (List.mem_of_mem_take charMem)
      · rwa [List.head?_take, if_neg placesNat]
      · intro char charMem
        exact all char (List.mem_of_mem_drop charMem)

include areDigits in
theorem isWritable_exponentialNumeral (place : Int) :
    (exponentialNumeral negative digits place).IsWritable := by
  obtain ⟨nonempty, all⟩ := isDigits_iff.mp areDigits
  refine ⟨isDigits_iff.mpr ⟨by simp [exponentialNumeral, nonempty], ?_⟩, ?_, ?_, ?_⟩
  · intro char charMem
    exact all char (List.mem_of_mem_take charMem)
  · left
    have positive := List.length_pos_of_ne_nil nonempty
    simp only [exponentialNumeral, List.length_take]
    omega
  · intro char charMem
    exact all char (List.mem_of_mem_drop charMem)
  · intro written isExponent
    obtain rfl := Option.some.inj isExponent
    exact isDigits_toDigits _

end Layouts

theorem magnitude_positionalNumeral (negative : Bool) (number : Nat) (places : Int) :
    (positionalNumeral negative (Nat.toDigits 10 number) places).magnitude =
      Scaled.value ⟨number, places - (Nat.toDigits 10 number).length⟩ := by
  have ten : (10 : ℚ) ≠ 0 := by norm_num
  have value := digitsValue_toDigits number
  unfold positionalNumeral
  split
  · have zeros : ['0'] ++ (List.replicate (-places).toNat '0' ++ Nat.toDigits 10 number) =
        List.replicate ((-places).toNat + 1) '0' ++ Nat.toDigits 10 number := rfl
    simp only [Numeral.magnitude, zeros, digitsValue_zeros_append, value, Numeral.exponentValue,
      Scaled.value, List.length_append, List.length_replicate]
    congr 2
    omega
  · split
    · have zeros : Nat.toDigits 10 number ++
          List.replicate (places - (Nat.toDigits 10 number).length).toNat '0' ++ ['0'] =
          Nat.toDigits 10 number ++
            List.replicate ((places - (Nat.toDigits 10 number).length).toNat + 1) '0' := by
        rw [List.append_assoc, List.replicate_succ']
      obtain ⟨count, isCount⟩ :
          ∃ count : Nat, places - (Nat.toDigits 10 number).length = count :=
        ⟨(places - (Nat.toDigits 10 number).length).toNat, by omega⟩
      rw [Numeral.magnitude, zeros, digitsValue_append_zeros, value, isCount, Scaled.value]
      simp only [Numeral.exponentValue, List.length_singleton, Int.toNat_natCast, zpow_natCast]
      push_cast
      rw [pow_succ]
      norm_num
      ring
    · simp only [Numeral.magnitude, List.take_append_drop, value, Numeral.exponentValue,
        Scaled.value, List.length_drop]
      congr 2
      omega

theorem magnitude_exponentialNumeral (negative : Bool) (number : Nat) (place : Int) :
    (exponentialNumeral negative (Nat.toDigits 10 number) place).magnitude =
      Scaled.value ⟨number, place + 1 - (Nat.toDigits 10 number).length⟩ := by
  have value := digitsValue_toDigits number
  have positive : 0 < (Nat.toDigits 10 number).length := Nat.length_toDigits_pos
  have exponent : (exponentialNumeral negative (Nat.toDigits 10 number) place).exponentValue =
      place := by
    simp only [exponentialNumeral, Numeral.exponentValue, digitsValue_toDigits, decide_eq_true_eq]
    split <;> omega
  unfold Numeral.magnitude
  rw [exponent]
  simp only [exponentialNumeral, List.take_append_drop, value, Scaled.value, List.length_drop]
  congr 2
  omega

theorem magnitude_decimalNumeral (negative : Bool) (decimal : Scaled) :
    (decimalNumeral negative decimal).magnitude = decimal.value := by
  unfold decimalNumeral
  dsimp only
  split
  · rw [magnitude_positionalNumeral]
    congr 2
    omega
  · rw [magnitude_exponentialNumeral]
    congr 2
    omega

theorem chars_decimalNumeral (negative : Bool) (decimal : Scaled) :
    let digits := Nat.toDigits 10 decimal.digits
    let place := decimal.exponent + digits.length - 1
    (decimalNumeral negative decimal).chars =
      (if negative then ['-'] else []) ++
        if jsonLayout.isPositional place then positional jsonLayout.wholeEnding digits (place + 1)
        else exponential digits place := by
  dsimp only [decimalNumeral]
  split
  · exact chars_positionalNumeral negative (isDigits_toDigits _) _
  · exact chars_exponentialNumeral negative _ _

theorem isWritable_decimalNumeral (negative : Bool) {decimal : Scaled}
    (nonzero : decimal.digits ≠ 0) : (decimalNumeral negative decimal).IsWritable := by
  have areDigits := isDigits_toDigits decimal.digits
  unfold decimalNumeral
  dsimp only
  split
  · exact isWritable_positionalNumeral negative areDigits
      (head?_toDigits (Nat.pos_of_ne_zero nonzero)) _
  · exact isWritable_exponentialNumeral negative areDigits _

theorem isWhole_decimalNumeral (negative : Bool) (decimal : Scaled) :
    (decimalNumeral negative decimal).isWhole = false := by
  have nonempty : Nat.toDigits 10 decimal.digits ≠ [] := Nat.toDigits_ne_nil
  unfold decimalNumeral positionalNumeral exponentialNumeral Numeral.isWhole
  dsimp only
  split_ifs with isPositional isSmall isLarge
  · simp [nonempty]
  · simp
  · have behind : (Nat.toDigits 10 decimal.digits).drop
        (decimal.exponent + (Nat.toDigits 10 decimal.digits).length - 1 + 1).toNat ≠ [] := by
      rw [ne_eq, List.drop_eq_nil_iff]
      omega
    rw [List.isEmpty_eq_false_iff.mpr behind, Bool.false_and]
  · simp

theorem negative_decimalNumeral (negative : Bool) (decimal : Scaled) :
    (decimalNumeral negative decimal).negative = negative := by
  unfold decimalNumeral positionalNumeral exponentialNumeral
  dsimp only
  split_ifs <;> rfl

theorem bits_of_view {number : Double} {negative : Bool} {significand : Nat} {exponent : Int}
    (isView : number.view = .finite negative significand exponent) :
    IsFinitePart significand exponent ∧
      number.bits.toNat = (if negative then signBit else 0) +
        ((exponent - leastExponent).toNat * hiddenBit + significand) := by
  have bound : number.bits.toNat < 2 ^ 64 := number.bits.toNat_lt
  unfold view isNegative at isView
  dsimp only at isView
  unfold hiddenBit leastExponent signBit at isView ⊢
  have hidden : hiddenBit = 2 ^ 52 := rfl
  have least : leastExponent = -1074 := rfl
  split_ifs at isView with isSpecial isInfinite isSubnormal
  · obtain ⟨rfl, rfl, rfl⟩ := View.finite.inj isView
    simp only [decide_eq_true_eq]
    refine ⟨⟨by omega, by omega, by omega, by omega⟩, ?_⟩
    split <;> omega
  · obtain ⟨rfl, rfl, rfl⟩ := View.finite.inj isView
    simp only [decide_eq_true_eq]
    refine ⟨⟨by omega, by omega, by omega, by omega⟩, ?_⟩
    split <;> omega

theorem eq_of_view {number other : Double} {negative : Bool} {significand : Nat} {exponent : Int}
    (isView : number.view = .finite negative significand exponent)
    (otherView : other.view = .finite negative significand exponent) : number = other := by
  have sameBits : number.bits.toNat = other.bits.toNat := by
    rw [(bits_of_view isView).2, (bits_of_view otherView).2]
  rcases number with ⟨bits⟩
  rcases other with ⟨otherBits⟩
  exact congrArg Double.mk (UInt64.toNat_inj.mp sameBits)

section Finite

theorem chars_finiteNumeral (negative : Bool) (significand : Nat) (exponent : Int) :
    (finiteNumeral negative significand exponent).chars =
      jsonLayout.finite negative significand exponent := by
  unfold finiteNumeral Layout.finite Layout.magnitude
  split
  · simp [Numeral.chars, Numeral.fractionChars, Numeral.exponentChars, jsonLayout]
  · exact chars_decimalNumeral negative _

theorem isWhole_finiteNumeral (negative : Bool) (significand : Nat) (exponent : Int) :
    (finiteNumeral negative significand exponent).isWhole = false := by
  unfold finiteNumeral
  split
  · rfl
  · exact isWhole_decimalNumeral negative _

theorem negative_finiteNumeral (negative : Bool) (significand : Nat) (exponent : Int) :
    (finiteNumeral negative significand exponent).negative = negative := by
  unfold finiteNumeral
  split
  · rfl
  · exact negative_decimalNumeral negative _

variable {significand otherSignificand : Nat} {exponent otherExponent : Int} {negative : Bool}

theorem isWritable_finiteNumeral (finite : IsFinitePart significand exponent) :
    (finiteNumeral negative significand exponent).IsWritable := by
  unfold finiteNumeral
  split
  · exact ⟨rfl, Or.inl rfl, by simp, by simp⟩
  · rename_i nonzero
    exact isWritable_decimalNumeral negative
      (finite.contains_shortest (Nat.pos_of_ne_zero nonzero) _).2

theorem magnitude_finiteNumeral (nonzero : significand ≠ 0) :
    (finiteNumeral negative significand exponent).magnitude =
      (shortest .toEven significand exponent).value := by
  rw [finiteNumeral, if_neg nonzero, magnitude_decimalNumeral]

theorem magnitude_finiteNumeral_eq_zero_iff (negative : Bool)
    (finite : IsFinitePart significand exponent) :
    (finiteNumeral negative significand exponent).magnitude = 0 ↔ significand = 0 := by
  constructor
  · intro isZero
    by_contra nonzero
    rw [magnitude_finiteNumeral nonzero, Scaled.value] at isZero
    have digits := (finite.contains_shortest (Nat.pos_of_ne_zero nonzero) .toEven).2
    exact mul_ne_zero (Nat.cast_ne_zero.mpr digits) (by positivity) isZero
  · rintro rfl
    simp [finiteNumeral, Numeral.magnitude, digitsValue, Nat.ofDigitChars]

/-- Zero has the least exponent. -/
theorem IsFinitePart.exponent_eq (finite : IsFinitePart 0 exponent) :
    exponent = leastExponent := by
  by_contra other
  have normal := finite.hiddenBit_le (lt_of_le_of_ne finite.least_le (Ne.symm other))
  exact absurd normal (by decide)

theorem eq_of_magnitude (finite : IsFinitePart significand exponent)
    (otherFinite : IsFinitePart otherSignificand otherExponent)
    (same : (finiteNumeral negative significand exponent).magnitude =
      (finiteNumeral negative otherSignificand otherExponent).magnitude) :
    significand = otherSignificand ∧ exponent = otherExponent := by
  have zeroTogether : significand = 0 ↔ otherSignificand = 0 := by
    rw [← magnitude_finiteNumeral_eq_zero_iff negative finite, same,
      magnitude_finiteNumeral_eq_zero_iff negative otherFinite]
  -- No decimal is looked for under zero, so it is no case of the shortest ones.
  by_cases zero : significand = 0
  · obtain rfl := zero
    obtain rfl := zeroTogether.mp rfl
    exact ⟨rfl, finite.exponent_eq.trans otherFinite.exponent_eq.symm⟩
  · have otherNonzero : otherSignificand ≠ 0 := fun isZero => zero (zeroTogether.mpr isZero)
    rw [magnitude_finiteNumeral zero, magnitude_finiteNumeral otherNonzero] at same
    exact eq_of_shortest finite otherFinite (Nat.pos_of_ne_zero zero)
      (Nat.pos_of_ne_zero otherNonzero) same

end Finite

section Numerals

variable {number other : Double} {numeral : Numeral}

theorem numeral?_eq_some (isNumeral : number.numeral? = some numeral) :
    ∃ negative significand exponent, number.view = .finite negative significand exponent ∧
      numeral = finiteNumeral negative significand exponent := by
  unfold numeral? at isNumeral
  split at isNumeral
  · rename_i negative significand exponent isView
    exact ⟨negative, significand, exponent, isView, (Option.some.inj isNumeral).symm⟩
  · simp at isNumeral

/-- A finite double is written as its numeral. -/
theorem jsonChars_of_numeral? (isNumeral : number.numeral? = some numeral) :
    number.jsonChars = numeral.chars := by
  rcases numeral?_eq_some isNumeral with ⟨negative, significand, exponent, isView, rfl⟩
  rw [chars_finiteNumeral, jsonChars, isView]

/-- NaN and the infinities are written as `null`. -/
theorem jsonChars_of_numeral?_eq_none (isNone : number.numeral? = none) :
    number.jsonChars = ['n', 'u', 'l', 'l'] := by
  unfold numeral? at isNone
  unfold jsonChars
  cases isView : number.view with
  | nan => rfl
  | infinite negative => rfl
  | finite negative significand exponent => simp [isView] at isNone

theorem isWritable_of_numeral? (isNumeral : number.numeral? = some numeral) :
    numeral.IsWritable := by
  rcases numeral?_eq_some isNumeral with ⟨negative, significand, exponent, isView, rfl⟩
  exact isWritable_finiteNumeral (bits_of_view isView).1

theorem isWhole_of_numeral? (isNumeral : number.numeral? = some numeral) :
    numeral.isWhole = false := by
  rcases numeral?_eq_some isNumeral with ⟨negative, significand, exponent, -, rfl⟩
  exact isWhole_finiteNumeral negative significand exponent

/-- A numeral is that of one double. -/
theorem numeral?_inj (isNumeral : number.numeral? = some numeral)
    (otherNumeral : other.numeral? = some numeral) : number = other := by
  rcases numeral?_eq_some isNumeral with ⟨negative, significand, exponent, isView, rfl⟩
  rcases numeral?_eq_some otherNumeral with
    ⟨otherNegative, otherSignificand, otherExponent, otherView, same⟩
  obtain rfl : negative = otherNegative := by
    have sameSign := congrArg Numeral.negative same
    rwa [negative_finiteNumeral, negative_finiteNumeral] at sameSign
  obtain ⟨rfl, rfl⟩ := eq_of_magnitude (bits_of_view isView).1 (bits_of_view otherView).1
    (congrArg Numeral.magnitude same)
  exact eq_of_view isView otherView

end Numerals

end Double

end RestQuery
