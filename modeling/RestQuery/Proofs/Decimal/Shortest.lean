import Mathlib.Algebra.Order.Field.Power
import Mathlib.Tactic.NormNum
import Mathlib.Tactic.Positivity
import Mathlib.Tactic.Ring
import RestQuery.Decimal.Layout

/-!
# A shortest decimal belongs to one double

The decimal that is written for a double lies in the interval of the reals that read back as it.
The intervals of two doubles share no point: at a common end only one of them is closed, because
the significands of neighbours differ by one. So the decimal tells which double it was written for.

The search goes from coarse to fine over twenty-four grids. It cannot fail: the spacing of the last
grid is below a quarter of the double's unit, and then the grid point under the value is a hit.
-/

namespace RestQuery.Double

/-- The number that a decimal stands for. -/
def Scaled.value (decimal : Scaled) : ℚ :=
  decimal.digits * (10 : ℚ) ^ decimal.exponent

/-- A significand and an exponent as a finite double has them. -/
structure IsFinitePart (significand : Nat) (exponent : Int) : Prop where
  significand_lt : significand < 2 * hiddenBit
  least_le : leastExponent ≤ exponent
  le_greatest : exponent ≤ 971
  hiddenBit_le : leastExponent < exponent → hiddenBit ≤ significand

theorem appendZeros_eq (digits zeros : Nat) : appendZeros digits zeros = digits * 10 ^ zeros :=
  rfl

theorem zpow_toNat (base : ℚ) (nonzero : base ≠ 0) (exponent : Int) :
    base ^ exponent.toNat = base ^ exponent * base ^ (-exponent).toNat := by
  rw [← zpow_natCast base exponent.toNat, ← zpow_natCast base (-exponent).toNat,
    ← zpow_add₀ nonzero]
  congr 1
  omega

namespace Interval

variable {range : Interval} {grid : Int}

def quarters (range : Interval) (count : Nat) : ℚ :=
  count * (2 : ℚ) ^ range.quarter

def lowest (range : Interval) : ℚ :=
  range.quarters (range.value - range.below)

def highest (range : Interval) : ℚ :=
  range.quarters (range.value + range.above)

/-- The number lies in the interval, which holds its ends if it is closed. -/
structure Contains (range : Interval) (number : ℚ) : Prop where
  lowest_le : range.lowest ≤ number
  le_highest : number ≤ range.highest
  closed_of_end : number = range.lowest ∨ number = range.highest → range.closed = true

theorem lowest_le_highest (range : Interval) : range.lowest ≤ range.highest := by
  have ends : ((range.value - range.below : Nat) : ℚ) ≤ (range.value + range.above : Nat) :=
    Nat.cast_le.mpr (by omega)
  exact mul_le_mul_of_nonneg_right ends (by positivity)

/-- What both sides of a comparison are multiplied by to become natural numbers. -/
def scale (range : Interval) (grid : Int) : ℚ :=
  (2 : ℚ) ^ (-range.quarter).toNat * (10 : ℚ) ^ (-grid).toNat

theorem scale_pos : 0 < range.scale grid := by
  unfold scale
  positivity

theorem cast_scaleQuarters (count : Nat) :
    (range.scaleQuarters grid count : ℚ) = range.quarters count * range.scale grid := by
  rw [scaleQuarters, appendZeros_eq, Nat.shiftLeft_eq, quarters, scale, Nat.cast_mul, Nat.cast_mul,
    Nat.cast_pow, Nat.cast_pow, Nat.cast_ofNat, Nat.cast_ofNat, zpow_toNat 2 two_ne_zero]
  ring

theorem cast_scalePoint (point : Nat) :
    (range.scalePoint grid point : ℚ) = Scaled.value ⟨point, grid⟩ * range.scale grid := by
  have ten : (10 : ℚ) ≠ 0 := by norm_num
  rw [scalePoint, appendZeros_eq, Nat.shiftLeft_eq, Scaled.value, scale, Nat.cast_mul, Nat.cast_mul,
    Nat.cast_pow, Nat.cast_pow, Nat.cast_ofNat, Nat.cast_ofNat, zpow_toNat 10 ten]
  ring

theorem contains_of_holds {point : Nat} (held : range.holds grid point = true) :
    range.Contains (Scaled.value ⟨point, grid⟩) := by
  have positive : 0 < range.scale grid := scale_pos
  simp only [holds, Bool.or_eq_true, Bool.and_eq_true, decide_eq_true_eq] at held
  rw [← Nat.cast_lt (α := ℚ), ← Nat.cast_lt (α := ℚ), ← Nat.cast_inj (R := ℚ),
    ← Nat.cast_inj (R := ℚ)] at held
  simp only [cast_scaleQuarters, cast_scalePoint, mul_lt_mul_iff_left₀ positive,
    mul_left_inj' positive.ne'] at held
  change (range.lowest < _ ∧ _ < range.highest) ∨
    range.closed = true ∧ (_ = range.lowest ∨ _ = range.highest) at held
  rcases held with ⟨above, below⟩ | ⟨closed, atLowest | atHighest⟩
  · exact ⟨above.le, below.le, fun atEnd => (atEnd.elim above.ne' below.ne).elim⟩
  · exact ⟨atLowest.ge, atLowest.trans_le range.lowest_le_highest, fun _ => closed⟩
  · exact ⟨range.lowest_le_highest.trans_eq atHighest.symm, atHighest.le, fun _ => closed⟩

end Interval

variable {significand otherSignificand : Nat} {exponent otherExponent : Int}

theorem lowest_interval (significand : Nat) (exponent : Int) :
    (interval significand exponent).lowest =
      (4 * significand - (interval significand exponent).below : Nat) * (2 : ℚ) ^ (exponent - 2) :=
  rfl

theorem highest_interval (significand : Nat) (exponent : Int) :
    (interval significand exponent).highest =
      (4 * significand + 2 : Nat) * (2 : ℚ) ^ (exponent - 2) :=
  rfl

theorem closed_interval : (interval significand exponent).closed = decide (significand % 2 = 0) :=
  rfl

/-- The intervals of two doubles meet at most in an end that one of them does not hold. -/
structure Apart (lower upper : Interval) : Prop where
  le : lower.highest ≤ upper.lowest
  open_of_eq : lower.highest = upper.lowest → lower.closed = false ∨ upper.closed = false

theorem Apart.not_contains {lower upper : Interval} (apart : Apart lower upper) {number : ℚ}
    (inLower : lower.Contains number) : ¬upper.Contains number := by
  intro inUpper
  have atHighest : number = lower.highest :=
    le_antisymm inLower.le_highest (apart.le.trans inUpper.lowest_le)
  have atLowest : number = upper.lowest :=
    le_antisymm (inLower.le_highest.trans apart.le) inUpper.lowest_le
  have lowerClosed := inLower.closed_of_end (Or.inr atHighest)
  have upperClosed := inUpper.closed_of_end (Or.inl atLowest)
  rcases apart.open_of_eq (atHighest.symm.trans atLowest) with isOpen | isOpen
  · simp [lowerClosed] at isOpen
  · simp [upperClosed] at isOpen

theorem below_interval_le (significand : Nat) (exponent : Int) :
    (interval significand exponent).below ≤ 2 := by
  unfold interval
  dsimp only
  split <;> omega

theorem below_interval_pos (significand : Nat) (exponent : Int) :
    0 < (interval significand exponent).below := by
  unfold interval
  dsimp only
  split <;> omega

/-- Both ends as numbers of one unit. -/
theorem apart_of_units {lower upper : Interval} {unit : ℚ} (positive : 0 < unit) {high low : Nat}
    (highest : lower.highest = high * unit) (lowest : upper.lowest = low * unit)
    (le : high ≤ low) (open_of_eq : high = low → lower.closed = false ∨ upper.closed = false) :
    Apart lower upper := by
  rw [← Nat.cast_le (α := ℚ)] at le
  constructor
  · rw [highest, lowest]
    exact mul_le_mul_of_nonneg_right le positive.le
  · rw [highest, lowest, mul_left_inj' positive.ne', Nat.cast_inj]
    exact open_of_eq

theorem apart_of_significand_lt (less : significand < otherSignificand) (exponent : Int) :
    Apart (interval significand exponent) (interval otherSignificand exponent) := by
  have unit : (0 : ℚ) < 2 ^ (exponent - 2) := by positivity
  have below := below_interval_le otherSignificand exponent
  apply apart_of_units unit (highest_interval _ _) (lowest_interval _ _)
  · omega
  · intro same
    simp only [closed_interval, decide_eq_false_iff_not]
    omega

theorem apart_of_exponent_lt (finite : IsFinitePart significand exponent)
    (otherFinite : IsFinitePart otherSignificand otherExponent) (less : exponent < otherExponent) :
    Apart (interval significand exponent) (interval otherSignificand otherExponent) := by
  have unit : (0 : ℚ) < 2 ^ (exponent - 2) := by positivity
  obtain ⟨steps, rfl⟩ : ∃ steps : Nat, otherExponent = exponent + (steps + 1 : Nat) :=
    ⟨(otherExponent - exponent - 1).toNat, by omega⟩
  have unitOfOther : (2 : ℚ) ^ (exponent + (steps + 1 : Nat) - 2) =
      (2 * 2 ^ steps : Nat) * 2 ^ (exponent - 2) := by
    have sum : exponent + (steps + 1 : Nat) - 2 = (steps + 1 : Nat) + (exponent - 2) := by omega
    rw [sum, zpow_add₀ two_ne_zero, zpow_natCast, pow_succ']
    push_cast
    ring
  have lowest : (interval otherSignificand (exponent + (steps + 1 : Nat))).lowest =
      ((4 * otherSignificand - (interval otherSignificand (exponent + (steps + 1 : Nat))).below) *
        (2 * 2 ^ steps) : Nat) * (2 : ℚ) ^ (exponent - 2) := by
    rw [lowest_interval, unitOfOther, ← mul_assoc, ← Nat.cast_mul]
  have least := finite.least_le
  have isNormal : leastExponent < exponent + (steps + 1 : Nat) := by omega
  have hidden := otherFinite.hiddenBit_le isNormal
  have high := finite.significand_lt
  simp only [hiddenBit] at hidden high
  -- The lower end of a power of two is only a quarter below it.
  have low : 2 ^ 54 - 1 ≤ 4 * otherSignificand -
      (interval otherSignificand (exponent + (steps + 1 : Nat))).below := by
    unfold interval
    dsimp only
    split
    · omega
    · rename_i notPower
      have notHidden : otherSignificand ≠ hiddenBit := fun same => notPower ⟨same, isNormal⟩
      simp only [hiddenBit] at notHidden
      omega
  have factor : 1 ≤ 2 ^ steps := Nat.one_le_two_pow
  have product : (2 ^ 54 - 1) * 2 ≤ (4 * otherSignificand -
      (interval otherSignificand (exponent + (steps + 1 : Nat))).below) * (2 * 2 ^ steps) :=
    Nat.mul_le_mul low (by omega)
  apply apart_of_units unit (highest_interval _ _) lowest
  · omega
  · intro same
    left
    simp only [closed_interval, decide_eq_false_iff_not]
    omega

/-- A number lies in the interval of one double at most. -/
theorem eq_of_contains (finite : IsFinitePart significand exponent)
    (otherFinite : IsFinitePart otherSignificand otherExponent) {number : ℚ}
    (inside : (interval significand exponent).Contains number)
    (insideOther : (interval otherSignificand otherExponent).Contains number) :
    significand = otherSignificand ∧ exponent = otherExponent := by
  rcases lt_trichotomy exponent otherExponent with less | rfl | greater
  · exact absurd insideOther ((apart_of_exponent_lt finite otherFinite less).not_contains inside)
  · rcases lt_trichotomy significand otherSignificand with less | rfl | greater
    · exact absurd insideOther ((apart_of_significand_lt less exponent).not_contains inside)
    · exact ⟨rfl, rfl⟩
    · exact absurd inside ((apart_of_significand_lt greater exponent).not_contains insideOther)
  · exact absurd inside ((apart_of_exponent_lt otherFinite finite greater).not_contains insideOther)

namespace Interval

variable {range : Interval} {grid : Int} {tie : Tie}

theorem scaleQuarters_eq (range : Interval) (grid : Int) (count : Nat) :
    range.scaleQuarters grid count = count * range.scaleQuarters grid 1 := by
  simp [scaleQuarters, appendZeros_eq, Nat.shiftLeft_eq, Nat.mul_assoc]

theorem scalePoint_eq (range : Interval) (grid : Int) (point : Nat) :
    range.scalePoint grid point = point * range.scalePoint grid 1 := by
  simp [scalePoint, appendZeros_eq, Nat.shiftLeft_eq, Nat.mul_assoc]

/-- The grid point under the value. -/
def pointUnder (range : Interval) (grid : Int) : Nat :=
  range.scaleQuarters grid range.value / range.scalePoint grid 1

theorem pointUnder_eq (range : Interval) (grid : Int) :
    range.pointUnder grid = range.scaleQuarters grid range.value / range.scalePoint grid 1 :=
  rfl

/-- What is found is the point under the value or the next one. -/
theorem nearest?_cases (range : Interval) (tie : Tie) (grid : Int) :
    (range.nearest? tie grid = none ∧ range.holds grid (range.pointUnder grid) = false) ∨
      (range.nearest? tie grid = some (range.pointUnder grid) ∧
        range.holds grid (range.pointUnder grid) = true) ∨
      (range.nearest? tie grid = some (range.pointUnder grid + 1) ∧
        range.holds grid (range.pointUnder grid + 1) = true) := by
  unfold nearest? pointUnder
  dsimp only
  generalize range.scaleQuarters grid range.value / range.scalePoint grid 1 = under
  cases underHeld : range.holds grid under <;> cases overHeld : range.holds grid (under + 1)
  · simp
  · simp
  · simp
  · cases tie <;> dsimp only <;> split_ifs <;> simp

theorem holds_of_nearest? {point : Nat} (found : range.nearest? tie grid = some point) :
    range.holds grid point = true := by
  rcases nearest?_cases range tie grid with ⟨other, -⟩ | ⟨other, held⟩ | ⟨other, held⟩
  · simp [other] at found
  · obtain rfl := Option.some.inj (other.symm.trans found)
    exact held
  · obtain rfl := Option.some.inj (other.symm.trans found)
    exact held

theorem exists_nearest? (tie : Tie) (positive : 0 < range.pointUnder grid)
    (held : range.holds grid (range.pointUnder grid) = true) :
    ∃ point, range.nearest? tie grid = some point ∧ point ≠ 0 := by
  rcases nearest?_cases range tie grid with ⟨-, notHeld⟩ | ⟨found, -⟩ | ⟨found, -⟩
  · simp [held] at notHeld
  · exact ⟨_, found, by omega⟩
  · exact ⟨_, found, by omega⟩

theorem holds_of_firstHit? {grids : Nat} {decimal : Scaled}
    (found : range.firstHit? tie grids grid = some decimal) :
    range.holds decimal.exponent decimal.digits = true ∧ decimal.digits ≠ 0 := by
  induction grids generalizing grid with
  | zero => simp [firstHit?] at found
  | succ grids ih =>
      rw [firstHit?] at found
      split at found
      · rename_i point nearest
        split at found
        · exact ih found
        · rename_i nonzero
          obtain rfl := Option.some.inj found
          exact ⟨holds_of_nearest? nearest, nonzero⟩
      · exact ih found

theorem exists_firstHit? {grids steps : Nat} (within : steps < grids) {point : Nat}
    (nearest : range.nearest? tie (grid - steps) = some point) (nonzero : point ≠ 0) :
    ∃ decimal, range.firstHit? tie grids grid = some decimal := by
  induction grids generalizing grid steps with
  | zero => simp at within
  | succ grids ih =>
      rw [firstHit?]
      cases steps with
      | zero =>
          rw [Int.natCast_zero, Int.sub_zero] at nearest
          simp [nearest, nonzero]
      | succ steps =>
          have later : range.nearest? tie (grid - 1 - steps) = some point := by
            rw [← nearest]
            congr 1
            omega
          have found := ih (by omega) later
          split
          · split
            · exact found
            · exact ⟨_, rfl⟩
          · exact found

/-- On a grid that is finer than a quarter, the point under the value is a hit. -/
theorem holds_pointUnder (fine : range.scalePoint grid 1 ≤ range.scaleQuarters grid 1)
    (below : 0 < range.below) (above : 0 < range.above) (enough : range.below < range.value) :
    0 < range.pointUnder grid ∧ range.holds grid (range.pointUnder grid) = true := by
  have pointPos : 0 < range.scalePoint grid 1 := by
    simp [scalePoint, appendZeros_eq]
  have quarters := scaleQuarters_eq range grid
  have points := scalePoint_eq range grid
  have least := quarters (range.value - range.below)
  have greatest := quarters (range.value + range.above)
  have value := quarters range.value
  have under := points (range.pointUnder grid)
  have division := Nat.div_add_mod (range.scaleQuarters grid range.value) (range.scalePoint grid 1)
  have remainder := Nat.mod_lt (range.scaleQuarters grid range.value) pointPos
  rw [← pointUnder_eq, Nat.mul_comm, ← under] at division
  have belowValue : range.scaleQuarters grid (range.value - range.below) +
      range.scaleQuarters grid 1 ≤ range.scaleQuarters grid range.value := by
    rw [least, value, ← Nat.succ_mul]
    exact Nat.mul_le_mul_right _ (by omega)
  have aboveValue : range.scaleQuarters grid range.value + range.scaleQuarters grid 1 ≤
      range.scaleQuarters grid (range.value + range.above) := by
    rw [greatest, value, ← Nat.succ_mul]
    exact Nat.mul_le_mul_right _ (by omega)
  have inside : range.scaleQuarters grid (range.value - range.below) <
        range.scalePoint grid (range.pointUnder grid) ∧
      range.scalePoint grid (range.pointUnder grid) <
        range.scaleQuarters grid (range.value + range.above) := by
    omega
  constructor
  · rcases Nat.eq_zero_or_pos (range.pointUnder grid) with zero | positive
    · have nothing : range.scalePoint grid (range.pointUnder grid) = 0 := by
        rw [under, zero, Nat.zero_mul]
      omega
    · exact positive
  · simp [holds, inside]

end Interval

/-- A power of ten is compared with a power of two through a common power of both. -/
theorem pow_ten_le_of_pow {parts : Nat} (bits : Nat) (nonzero : parts ≠ 0) {place exponent : Int}
    (bound : ((10 : ℚ) ^ parts) ^ place ≤ ((2 : ℚ) ^ bits) ^ place)
    (le : bits * place ≤ parts * exponent) : (10 : ℚ) ^ place ≤ 2 ^ exponent := by
  have exchange : ∀ (base : ℚ) (power : Int), (base ^ power) ^ parts = base ^ (parts * power) := by
    intro base power
    rw [← zpow_natCast, ← zpow_mul, mul_comm]
  rw [← pow_le_pow_iff_left₀ (by positivity) (by positivity) nonzero]
  calc ((10 : ℚ) ^ place) ^ parts
      = ((10 : ℚ) ^ parts) ^ place := by rw [exchange, zpow_mul, zpow_natCast]
    _ ≤ ((2 : ℚ) ^ bits) ^ place := bound
    _ = (2 : ℚ) ^ (bits * place) := by rw [zpow_mul, zpow_natCast]
    _ ≤ (2 : ℚ) ^ (parts * exponent) := zpow_le_zpow_right₀ one_le_two le
    _ = ((2 : ℚ) ^ exponent) ^ parts := (exchange 2 exponent).symm

/-- The estimate of the decimal place of a power of two is off by one bit at most. -/
theorem pow_ten_place_le (exponent : Int) (least : -2000 ≤ exponent) (greatest : exponent ≤ 2000) :
    (10 : ℚ) ^ (exponent * 30103 / 100000) ≤ 2 ^ (exponent + 1) := by
  rcases Int.lt_or_le (exponent * 30103 / 100000) 0 with negative | nonneg
  · have bound : (2 : ℚ) ^ 93 ≤ 10 ^ 28 := by norm_num
    refine pow_ten_le_of_pow 93 (by decide : 28 ≠ 0) ?_ (by omega)
    obtain ⟨place, isPlace⟩ : ∃ place : Nat, exponent * 30103 / 100000 = -(place : Int) :=
      ⟨(exponent * 30103 / 100000).natAbs, by omega⟩
    rw [isPlace, zpow_neg, zpow_neg]
    exact inv_anti₀ (by positivity) (zpow_le_zpow_left₀ (by omega) (by positivity) bound)
  · have bound : (10 : ℚ) ^ 59 ≤ 2 ^ 196 := by norm_num
    refine pow_ten_le_of_pow 196 (by decide : 59 ≠ 0) ?_ (by omega)
    exact zpow_le_zpow_left₀ nonneg (by positivity) bound

namespace IsFinitePart

theorem log2_lt (finite : IsFinitePart significand exponent) : (4 * significand).log2 < 55 := by
  have high := finite.significand_lt
  simp only [hiddenBit] at high
  rcases Nat.eq_zero_or_pos (4 * significand) with zero | positive
  · simp [zero]
  · exact (Nat.log2_lt (by omega)).mpr (by omega)

/-- The last grid of the search is finer than a quarter. -/
theorem pow_ten_le_quarter (finite : IsFinitePart significand exponent) :
    (10 : ℚ) ^ ((interval significand exponent).coarsest - (23 : Nat)) ≤
      2 ^ (interval significand exponent).quarter := by
  have bits := finite.log2_lt
  have least := finite.least_le
  have greatest := finite.le_greatest
  simp only [leastExponent] at least
  have estimate := pow_ten_place_le ((4 * significand).log2 + (exponent - 2) + 1) (by omega)
    (by omega)
  have ten : (10 : ℚ) ≠ 0 := by norm_num
  have bound : (2 : ℚ) ^ 73 ≤ 10 ^ 22 := by norm_num
  change (10 : ℚ) ^ (((4 * significand).log2 + (exponent - 2) + 1) * 30103 / 100000 + 1 - 23) ≤
    2 ^ (exponent - 2)
  generalize ((4 * significand).log2 + (exponent - 2) + 1) * 30103 / 100000 = place at estimate ⊢
  calc (10 : ℚ) ^ (place + 1 - 23)
      = 10 ^ place / 10 ^ 22 := by
        rw [show place + 1 - 23 = place - (22 : Nat) by omega, zpow_sub₀ ten, zpow_natCast]
    _ ≤ 2 ^ ((4 * significand).log2 + (exponent - 2) + 1 + 1) / 2 ^ 73 :=
        div_le_div₀ (by positivity) estimate (by positivity) bound
    _ = 2 ^ ((4 * significand).log2 + (exponent - 2) + 1 + 1 - (73 : Nat)) := by
        rw [zpow_sub₀ two_ne_zero, zpow_natCast]
    _ ≤ 2 ^ (exponent - 2) := zpow_le_zpow_right₀ one_le_two (by omega)

theorem scalePoint_le (finite : IsFinitePart significand exponent) :
    let range := interval significand exponent
    let grid := range.coarsest - (23 : Nat)
    range.scalePoint grid 1 ≤ range.scaleQuarters grid 1 := by
  intro range grid
  rw [← Nat.cast_le (α := ℚ), Interval.cast_scalePoint, Interval.cast_scaleQuarters,
    mul_le_mul_iff_left₀ Interval.scale_pos]
  have fine := finite.pow_ten_le_quarter
  simp only [Scaled.value, Interval.quarters, Nat.cast_one, one_mul]
  exact fine

/-- The shortest decimal of a positive double is a positive number in its interval. -/
theorem contains_shortest (finite : IsFinitePart significand exponent) (positive : 0 < significand)
    (tie : Tie) :
    (interval significand exponent).Contains (shortest tie significand exponent).value ∧
      (shortest tie significand exponent).digits ≠ 0 := by
  have below := below_interval_le significand exponent
  have belowPos := below_interval_pos significand exponent
  have value : (interval significand exponent).value = 4 * significand := rfl
  have under := Interval.holds_pointUnder finite.scalePoint_le belowPos (Nat.succ_pos _)
    (by omega)
  rcases Interval.exists_nearest? tie under.1 under.2 with ⟨point, nearest, nonzero⟩
  rcases Interval.exists_firstHit? (by decide : 23 < 24) nearest nonzero with ⟨decimal, found⟩
  have held := Interval.holds_of_firstHit? found
  have isDecimal : shortest tie significand exponent = decimal := by
    rw [shortest, found, Option.getD_some]
  rw [isDecimal]
  exact ⟨Interval.contains_of_holds held.1, held.2⟩

end IsFinitePart

/-- Doubles with the same shortest decimal are the same. -/
theorem eq_of_shortest (finite : IsFinitePart significand exponent)
    (otherFinite : IsFinitePart otherSignificand otherExponent) (positive : 0 < significand)
    (otherPositive : 0 < otherSignificand) {tie : Tie}
    (same : (shortest tie significand exponent).value =
      (shortest tie otherSignificand otherExponent).value) :
    significand = otherSignificand ∧ exponent = otherExponent := by
  have inside := (finite.contains_shortest positive tie).1
  rw [same] at inside
  exact eq_of_contains finite otherFinite inside (otherFinite.contains_shortest otherPositive tie).1

end RestQuery.Double
