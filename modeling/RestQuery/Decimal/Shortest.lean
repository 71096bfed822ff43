import RestQuery.Decimal.Double

/-!
# The shortest decimal of a double

A finite double is written with the fewest digits that read back the same. The reals that read
back as `m * 2 ^ q` form an interval around it that reaches half a unit to either side, a quarter
below a power of two, and holds its ends exactly when `m` is even. The grids `10 ^ k` are tried
from coarse to fine; if a point of a grid lies in the interval, so does one of the two points next
to the value, so only these two are looked at. Of two that lie in it the nearer is taken.
-/

namespace RestQuery.Double

/-- Which of two equally near decimals is taken. -/
inductive Tie where
  | toEven
  | up
deriving DecidableEq, Repr

/-- The decimal `digits * 10 ^ exponent`. -/
structure Scaled where
  digits : Nat
  exponent : Int
deriving DecidableEq, Repr

/--
The reals that read back as a double, in quarters of its unit: `value`, and its distance to the
two ends of the interval, where one quarter is `2 ^ quarter`.
-/
structure Interval where
  value : Nat
  below : Nat
  above : Nat
  closed : Bool
  quarter : Int
deriving DecidableEq, Repr

/-- The interval of a positive finite double. -/
def interval (significand : Nat) (exponent : Int) : Interval where
  value := 4 * significand
  below := if significand = hiddenBit ∧ leastExponent < exponent then 1 else 2
  above := 2
  closed := significand % 2 = 0
  quarter := exponent - 2

namespace Interval

/-- A number of quarters, multiplied so that it compares with points of the grid. -/
def scaleQuarters (range : Interval) (grid : Int) (quarters : Nat) : Nat :=
  appendZeros (quarters <<< range.quarter.toNat) (-grid).toNat

/-- A point of the grid, multiplied so that it compares with numbers of quarters. -/
def scalePoint (range : Interval) (grid : Int) (point : Nat) : Nat :=
  appendZeros point grid.toNat <<< (-range.quarter).toNat

/-- A point of the grid `10 ^ grid` lies in the interval. -/
def holds (range : Interval) (grid : Int) (point : Nat) : Bool :=
  let least := range.scaleQuarters grid (range.value - range.below)
  let greatest := range.scaleQuarters grid (range.value + range.above)
  let point := range.scalePoint grid point
  (least < point && point < greatest) ||
    (range.closed && (point = least || point = greatest))

/-- The point of a grid that lies in the interval and is nearest to the value. -/
def nearest? (range : Interval) (tie : Tie) (grid : Int) : Option Nat :=
  let value := range.scaleQuarters grid range.value
  let lower := value / range.scalePoint grid 1
  let upper := lower + 1
  match range.holds grid lower, range.holds grid upper with
  | false, false => none
  | true, false => some lower
  | false, true => some upper
  | true, true =>
      let down := value - range.scalePoint grid lower
      let up := range.scalePoint grid upper - value
      if down < up then some lower
      else if up < down then some upper
      else
        match tie with
        | .up => some upper
        | .toEven => if lower % 2 = 0 then some lower else some upper

/-- The first of a number of grids, from coarse to fine, with a point in the interval. -/
def firstHit? (range : Interval) (tie : Tie) : Nat → Int → Option Scaled
  | 0, _ => none
  | grids + 1, grid =>
      match range.nearest? tie grid with
      | some point => if point = 0 then range.firstHit? tie grids (grid - 1) else some ⟨point, grid⟩
      | none => range.firstHit? tie grids (grid - 1)

/-- A grid that is coarser than the value. -/
def coarsest (range : Interval) : Int :=
  ((range.value.log2 : Int) + range.quarter + 1) * 30103 / 100000 + 1

end Interval

/-- The shortest decimal that reads back as a positive finite double. -/
def shortest (tie : Tie) (significand : Nat) (exponent : Int) : Scaled :=
  let range := interval significand exponent
  (range.firstHit? tie 24 range.coarsest).getD ⟨0, 0⟩

end RestQuery.Double
