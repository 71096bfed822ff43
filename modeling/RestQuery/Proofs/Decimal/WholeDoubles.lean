import RestQuery.Proofs.Decimal.Numerals
import RestQuery.Proofs.Decimal.Shortest

/-!
# Whole doubles in query strings

A query string never has an exponent, so a large double is a plain run of decimal digits there: the
digits of its shortest decimal with zeros behind them. The shortest decimal of a whole number has
no digits behind the point, because the search goes through the grid of the whole numbers, which
holds the number itself, before it comes to a finer one.

Naturals from `2 ^ 63` on that fit 64 bits are rounded to doubles with a unit of `2 ^ 11`, so to
multiples of 2048. Different multiples are different doubles and have different digits.
-/

namespace RestQuery

/-- A factor of a power of ten puts zeros behind the digits. -/
theorem toDigits_mul_pow_ten {number : Nat} (positive : 0 < number) (places : Nat) :
    Nat.toDigits 10 (number * 10 ^ places) =
      Nat.toDigits 10 number ++ List.replicate places '0' := by
  induction places with
  | zero => simp
  | succ places ih =>
      have large : ¬number * 10 ^ (places + 1) < 10 := by
        have atLeast : 1 ≤ number * 10 ^ places := Nat.mul_pos positive (by positivity)
        rw [pow_succ, ← Nat.mul_assoc]
        omega
      have quotient : number * 10 ^ (places + 1) / 10 = number * 10 ^ places := by
        rw [pow_succ, ← Nat.mul_assoc, Nat.mul_div_cancel _ (by decide)]
      have remainder : number * 10 ^ (places + 1) % 10 = 0 := by
        rw [pow_succ, ← Nat.mul_assoc, Nat.mul_mod_left]
      rw [Nat.toDigits_eq_if (by decide), if_neg large, quotient, remainder, ih,
        List.replicate_succ', List.append_assoc]
      rfl

namespace Double

namespace Interval

variable {range : Interval} {grid : Int} {tie : Tie}

/-- The search does not go beyond a grid with a hit. -/
theorem le_exponent_of_firstHit? {grids steps point : Nat} {decimal : Scaled}
    (nearest : range.nearest? tie (grid - steps) = some point) (nonzero : point ≠ 0)
    (found : range.firstHit? tie grids grid = some decimal) :
    grid - steps ≤ decimal.exponent := by
  induction grids generalizing grid steps with
  | zero => simp [firstHit?] at found
  | succ grids ih =>
      have later (notHere : steps ≠ 0) (foundLater : range.firstHit? tie grids (grid - 1) =
          some decimal) : grid - steps ≤ decimal.exponent := by
        have sameGrid : grid - 1 - (steps - 1 : Nat) = grid - steps := by omega
        have bound := ih (sameGrid ▸ nearest) foundLater
        omega
      have here (first : steps = 0) : range.nearest? tie grid = some point := by
        rw [← nearest, first]
        simp
      rw [firstHit?] at found
      split at found
      · rename_i other isOther
        split at found
        · rename_i zero
          refine later (fun first => nonzero ?_) found
          rw [← zero]
          exact Option.some.inj ((here first).symm.trans isOther)
        · obtain rfl := Option.some.inj found
          dsimp only
          omega
      · rename_i nothing
        exact later (fun first => by simp [here first] at nothing) found

end Interval

variable {significand otherSignificand : Nat} {exponent otherExponent : Int}

/-- The parts of a positive double that is a multiple of four. -/
structure IsWholePart (significand : Nat) (exponent : Int) : Prop extends
    IsFinitePart significand exponent where
  whole : 2 ≤ exponent
  positive : 0 < significand

namespace IsWholePart

theorem exponent_shortest_nonneg (part : IsWholePart significand exponent) (tie : Tie) :
    0 ≤ (shortest tie significand exponent).exponent := by
  rcases part with ⟨-, whole, positive⟩
  have below := below_interval_le significand exponent
  have belowPos := below_interval_pos significand exponent
  have value : (interval significand exponent).value = 4 * significand := rfl
  have quarter : (interval significand exponent).quarter = exponent - 2 := rfl
  have fine : (interval significand exponent).scalePoint 0 1 ≤
      (interval significand exponent).scaleQuarters 0 1 := by
    have noFraction : (-(exponent - 2)).toNat = 0 := by omega
    have quarters : 1 ≤ 2 ^ (exponent - 2).toNat := Nat.one_le_two_pow
    simp only [Interval.scalePoint, Interval.scaleQuarters, quarter, noFraction]
    simpa [appendZeros_eq, Nat.shiftLeft_eq] using quarters
  have under := Interval.holds_pointUnder fine belowPos (Nat.succ_pos _) (by omega)
  rcases Interval.exists_nearest? tie under.1 under.2 with ⟨point, nearest, nonzero⟩
  have coarse : 0 ≤ (interval significand exponent).coarsest := by
    unfold Interval.coarsest
    rw [value, quarter]
    omega
  have isWhole : (interval significand exponent).coarsest -
      ((interval significand exponent).coarsest.toNat : Int) = 0 := by
    omega
  rw [shortest]
  cases found : (interval significand exponent).firstHit? tie 24
      (interval significand exponent).coarsest with
  | none => simp
  | some decimal =>
      have bound := Interval.le_exponent_of_firstHit? (isWhole.symm ▸ nearest) nonzero found
      rw [isWhole] at bound
      exact bound

end IsWholePart

/-- The natural number whose digits a whole double has in a query string. -/
def wholeMagnitude (significand : Nat) (exponent : Int) : Nat :=
  (shortest .up significand exponent).digits *
    10 ^ (shortest .up significand exponent).exponent.toNat

theorem positional_of_nonneg {digits : List Char} (nonempty : digits ≠ []) {places : Int}
    (nonneg : 0 ≤ places) :
    positional [] digits (places + digits.length) =
      digits ++ List.replicate places.toNat '0' := by
  have someDigits := List.length_pos_of_ne_nil nonempty
  rw [positional, if_neg (by omega), if_pos (by omega), List.append_nil]
  congr 2
  omega

namespace IsWholePart

theorem cast_wholeMagnitude (part : IsWholePart significand exponent) :
    (wholeMagnitude significand exponent : ℚ) = (shortest .up significand exponent).value := by
  rw [wholeMagnitude, Scaled.value]
  push_cast
  congr 1
  rw [← zpow_natCast, Int.toNat_of_nonneg (part.exponent_shortest_nonneg .up)]

/-- A whole double is written in decimal digits alone. -/
theorem magnitude_queryLayout (part : IsWholePart significand exponent) :
    queryLayout.magnitude significand exponent =
      Nat.toDigits 10 (wholeMagnitude significand exponent) := by
  let decimal := shortest .up significand exponent
  have nonzero : 0 < decimal.digits :=
    Nat.pos_of_ne_zero (part.contains_shortest part.positive .up).2
  have isPositional : queryLayout.magnitude significand exponent =
      positional [] (Nat.toDigits 10 decimal.digits)
        (decimal.exponent + (Nat.toDigits 10 decimal.digits).length - 1 + 1) := by
    rw [Layout.magnitude, if_neg part.positive.ne']
    rfl
  rw [isPositional, Int.sub_add_cancel, positional_of_nonneg Nat.toDigits_ne_nil
    (part.exponent_shortest_nonneg .up), wholeMagnitude, toDigits_mul_pow_ten nonzero]

theorem eq_of_wholeMagnitude (part : IsWholePart significand exponent)
    (otherPart : IsWholePart otherSignificand otherExponent)
    (same : wholeMagnitude significand exponent =
      wholeMagnitude otherSignificand otherExponent) :
    significand = otherSignificand ∧ exponent = otherExponent := by
  apply eq_of_shortest part.toIsFinitePart otherPart.toIsFinitePart part.positive
    otherPart.positive
  rw [← part.cast_wholeMagnitude, ← otherPart.cast_wholeMagnitude, same]

end IsWholePart

/-- The significand and exponent of `2048 * multiple`, between `2 ^ 63` and `2 ^ 64`. -/
def multipleParts (multiple : Nat) : Nat × Int :=
  if multiple < 2 ^ 53 then (multiple, 11) else (2 ^ 52, 12)

variable {number : Nat}

/-- A number is at most half a step from the multiple of 2048 that it is rounded to. -/
theorem roundQuotient_bounds (least : 2 ^ 63 ≤ number) (small : number < 2 ^ 64) :
    2 ^ 52 ≤ roundQuotient number 2048 ∧ roundQuotient number 2048 ≤ 2 ^ 53 ∧
      2048 * roundQuotient number 2048 ≤ number + 1024 ∧
      number ≤ 2048 * roundQuotient number 2048 + 1024 := by
  unfold roundQuotient
  dsimp only
  split_ifs <;> omega

/-- The double of a number is the bits of its multiple, carried over into the exponent. -/
theorem ofNat_eq (least : 2 ^ 63 ≤ number) (small : number < 2 ^ 64) :
    ofNat number = ofMagnitude false (1085 * hiddenBit + roundQuotient number 2048) := by
  have rounded := roundQuotient_bounds least small
  have bits : number.log2 = 63 := (Nat.log2_eq_iff (by omega)).mpr ⟨least, small⟩
  have ratio : log2Ratio number 1 = 63 := by
    have one : Nat.log2 1 = 0 := by decide
    rw [log2Ratio, bits, one]
    simpa using least
  have exponent : max leastExponent (log2Ratio number 1 - 52) = 11 := by
    rw [ratio]
    decide
  rw [ofNat, ofRatio, if_neg (by omega), exponent]
  have up : (11 : Int).toNat = 11 := rfl
  have down : (-11 : Int).toNat = 0 := rfl
  have steps : ((11 : Int) - leastExponent).toNat = 1085 := by decide
  simp only [up, down, steps, Nat.shiftLeft_zero, Nat.reduceShiftLeft]
  rw [Nat.min_eq_left]
  simp only [hiddenBit, infinityBits]
  omega

theorem view_of_normal {double : Double} {biased fraction : Nat}
    (isBits : double.bits.toNat = biased * hiddenBit + fraction) (normal : 0 < biased)
    (finite : biased < 2047) (small : fraction < hiddenBit) :
    double.view = .finite false (fraction + hiddenBit) (leastExponent + (biased - 1 : Nat)) := by
  unfold hiddenBit at isBits small
  have isFraction : double.bits.toNat % hiddenBit = fraction := by
    unfold hiddenBit
    omega
  have isBiased : double.bits.toNat / hiddenBit % 2048 = biased := by
    unfold hiddenBit
    omega
  have positive : double.isNegative = false := by
    rw [isNegative, signBit, decide_eq_false_iff_not]
    omega
  rw [view, isFraction, isBiased, positive, if_neg (by omega), if_neg (by omega)]

theorem view_ofNat (least : 2 ^ 63 ≤ number) (small : number < 2 ^ 64) :
    (ofNat number).view =
      .finite false (multipleParts (roundQuotient number 2048)).1
        (multipleParts (roundQuotient number 2048)).2 := by
  have rounded := roundQuotient_bounds least small
  rw [ofNat_eq least small]
  generalize roundQuotient number 2048 = multiple at rounded ⊢
  have bits : (ofMagnitude false (1085 * hiddenBit + multiple)).bits.toNat =
      1085 * hiddenBit + multiple := by
    have inRange : 1085 * hiddenBit + multiple < UInt64.size := by
      unfold hiddenBit UInt64.size
      omega
    rw [ofMagnitude, if_neg Bool.false_ne_true, Nat.zero_add, UInt64.toNat_ofNat_of_lt' inRange]
  unfold multipleParts
  split
  · have atLeast : hiddenBit ≤ multiple := rounded.1
    have parts : 1085 * hiddenBit + multiple = 1086 * hiddenBit + (multiple - hiddenBit) := by
      omega
    have small : multiple - hiddenBit < hiddenBit := by
      unfold hiddenBit
      omega
    rw [view_of_normal (bits.trans parts) (by decide) (by decide) small,
      Nat.sub_add_cancel atLeast]
    rfl
  · have parts : 1085 * hiddenBit + multiple = 1087 * hiddenBit + 0 := by
      unfold hiddenBit
      omega
    rw [view_of_normal (bits.trans parts) (by decide) (by decide) (by decide)]
    rfl

/-- The number whose digits are written for a multiple of 2048. -/
def multipleMagnitude (multiple : Nat) : Nat :=
  wholeMagnitude (multipleParts multiple).1 (multipleParts multiple).2

variable {multiple other : Nat}

theorem isWholePart_multipleParts (least : 2 ^ 52 ≤ multiple) :
    IsWholePart (multipleParts multiple).1 (multipleParts multiple).2 := by
  unfold multipleParts
  split
  · have small : multiple < 2 * hiddenBit := by
      unfold hiddenBit
      omega
    have positive : 0 < multiple := by omega
    have exponentBounds : leastExponent ≤ 11 ∧ (11 : Int) ≤ 971 := by decide
    exact ⟨⟨small, exponentBounds.1, exponentBounds.2, fun _ => least⟩, by simp, positive⟩
  · exact ⟨⟨by decide, by decide, by decide, fun _ => by decide⟩, by decide, by decide⟩

theorem queryChars_ofNat (least : 2 ^ 63 ≤ number) (small : number < 2 ^ 64) :
    (ofNat number).queryChars =
      Nat.toDigits 10 (multipleMagnitude (roundQuotient number 2048)) := by
  have part := isWholePart_multipleParts (roundQuotient_bounds least small).1
  simp only [queryChars, view_ofNat least small]
  rw [Layout.finite, if_neg Bool.false_ne_true, List.nil_append, part.magnitude_queryLayout,
    multipleMagnitude]

/-- What is written is at most half a step from the multiple, and is no signed integer. -/
theorem multipleMagnitude_bounds (least : 2 ^ 52 ≤ multiple) (greatest : multiple ≤ 2 ^ 53) :
    2 ^ 63 ≤ multipleMagnitude multiple ∧ multipleMagnitude multiple ≤ 2048 * multiple + 1024 ∧
      2048 * multiple ≤ multipleMagnitude multiple + 1024 := by
  -- The interval of `2 ^ 63` reaches below it, and `2 ^ 64` has wider steps behind it.
  by_cases isLeast : multiple = 2 ^ 52
  · subst isLeast
    decide +kernel
  by_cases isGreatest : multiple = 2 ^ 53
  · subst isGreatest
    decide +kernel
  have isParts : multipleParts multiple = (multiple, 11) := if_pos (by omega)
  have part := isWholePart_multipleParts least
  rw [multipleMagnitude]
  rw [isParts] at part ⊢
  have inside := (part.contains_shortest part.positive .up).1
  rw [← part.cast_wholeMagnitude] at inside
  have lowest := inside.lowest_le
  have highest := inside.le_highest
  have below := below_interval_le multiple 11
  have unit : (2 : ℚ) ^ ((11 : Int) - 2) = (512 : Nat) := by norm_num
  rw [lowest_interval, unit, ← Nat.cast_mul, Nat.cast_le] at lowest
  rw [highest_interval, unit, ← Nat.cast_mul, Nat.cast_le] at highest
  dsimp only at lowest highest ⊢
  omega

theorem multipleMagnitude_inj (least : 2 ^ 52 ≤ multiple) (greatest : multiple ≤ 2 ^ 53)
    (otherLeast : 2 ^ 52 ≤ other) (otherGreatest : other ≤ 2 ^ 53)
    (same : multipleMagnitude multiple = multipleMagnitude other) : multiple = other := by
  have sameParts := (isWholePart_multipleParts least).eq_of_wholeMagnitude
    (isWholePart_multipleParts otherLeast) same
  unfold multipleParts at sameParts
  split_ifs at sameParts
  · exact sameParts.1
  · simp at sameParts
  · simp at sameParts
  · omega

end Double

end RestQuery
