/-!
# Double-precision numbers

A double is its 64 bits, so equality of doubles is equality of representations: a zero differs
from the negative zero, and a NaN equals itself. Arithmetic is exact arithmetic on natural
numbers followed by one rounding, `Double.ofRatio`: to the nearest representable value, a tie to
the even significand, and to infinity beyond the largest finite value.
-/

namespace RestQuery

/-- A double-precision number, as its bits. -/
structure Double where
  bits : UInt64
deriving DecidableEq, Repr, Inhabited

namespace Double

/-- What a double stands for. -/
inductive View where
  | nan
  | infinite (negative : Bool)
  /-- The number `significand * 2 ^ exponent`, with its sign. -/
  | finite (negative : Bool) (significand : Nat) (exponent : Int)
deriving DecidableEq, Repr

/-- The exponent of the least positive double, which is a power of two. -/
def leastExponent : Int := -1074

/-- The significand of a normal double is at least this. -/
def hiddenBit : Nat := 0x10000000000000

/-- The bits of positive infinity. -/
def infinityBits : Nat := 0x7FF0000000000000

/-- The bit that holds the sign. -/
def signBit : Nat := 0x8000000000000000

def isNegative (number : Double) : Bool :=
  signBit ≤ number.bits.toNat

/-- What a double stands for. -/
def view (number : Double) : View :=
  let fraction := number.bits.toNat % hiddenBit
  let biased := number.bits.toNat / hiddenBit % 2048
  if biased = 2047 then
    if fraction = 0 then .infinite number.isNegative else .nan
  else if biased = 0 then .finite number.isNegative fraction leastExponent
  else .finite number.isNegative (fraction + hiddenBit) (leastExponent + (biased - 1 : Nat))

/-- The double of a sign and the bits of its magnitude. -/
def ofMagnitude (negative : Bool) (magnitude : Nat) : Double :=
  ⟨UInt64.ofNat ((if negative then signBit else 0) + magnitude)⟩

def zero (negative : Bool) : Double := ofMagnitude negative 0

def infinity (negative : Bool) : Double := ofMagnitude negative infinityBits

def nan : Double := ofMagnitude false (infinityBits + hiddenBit / 2)

def neg (number : Double) : Double :=
  ⟨number.bits ^^^ UInt64.ofNat signBit⟩

def isInfinite (number : Double) : Bool :=
  match number.view with
  | .infinite _ => true
  | _ => false

def isFinite (number : Double) : Bool :=
  match number.view with
  | .finite .. => true
  | _ => false

def isZero (number : Double) : Bool :=
  number.bits.toNat % signBit = 0

/-- The quotient rounded to the nearest natural number, a tie to the even one. -/
def roundQuotient (numerator denominator : Nat) : Nat :=
  let quotient := numerator / denominator
  let twice := 2 * (numerator % denominator)
  if twice < denominator then quotient
  else if twice = denominator then quotient + quotient % 2
  else quotient + 1

/-- The greatest `e` with `2 ^ e * denominator ≤ numerator`, for positive arguments. -/
def log2Ratio (numerator denominator : Nat) : Int :=
  let estimate : Int := (numerator.log2 : Int) - denominator.log2
  if denominator <<< estimate.toNat ≤ numerator <<< (-estimate).toNat then estimate
  else estimate - 1

/-- The double nearest to a signed ratio with a positive denominator. -/
def ofRatio (negative : Bool) (numerator denominator : Nat) : Double :=
  if numerator = 0 then zero negative
  else
    let exponent := max leastExponent (log2Ratio numerator denominator - 52)
    let significand :=
      roundQuotient (numerator <<< (-exponent).toNat) (denominator <<< exponent.toNat)
    let magnitude := (exponent - leastExponent).toNat * hiddenBit + significand
    ofMagnitude negative (min magnitude infinityBits)

/-- The double nearest to a natural number. -/
def ofNat (number : Nat) : Double :=
  ofRatio false number 1

/-- The number whose decimal digits are these followed by zeros. -/
def appendZeros (digits zeros : Nat) : Nat :=
  digits * Nat.pow 10 zeros

/-- The double nearest to `digits * 10 ^ exponent`. -/
def ofScaled (negative : Bool) (digits : Nat) (exponent : Int) : Double :=
  if digits = 0 then zero negative
  else if exponent + (Nat.toDigits 10 digits).length < -330 then zero negative
  else if 310 < exponent + (Nat.toDigits 10 digits).length then infinity negative
  else ofRatio negative (appendZeros digits exponent.toNat) (appendZeros 1 (-exponent).toNat)

/-- The rounded product with a power of ten that is itself rounded to a double. -/
def mulPowerOfTen (number : Double) (exponent : Nat) : Double :=
  match number.view, (ofScaled false 1 exponent).view with
  | .finite negative left leftExponent, .finite _ right rightExponent =>
      let shift := leftExponent + rightExponent
      ofRatio negative ((left * right) <<< shift.toNat) (1 <<< (-shift).toNat)
  | _, _ => number

/-- The rounded quotient by a power of ten that is itself rounded to a double. -/
def divPowerOfTen (number : Double) (exponent : Nat) : Double :=
  match number.view, (ofScaled false 1 exponent).view with
  | .finite negative left leftExponent, .finite _ right rightExponent =>
      let shift := leftExponent - rightExponent
      ofRatio negative (left <<< shift.toNat) (right <<< (-shift).toNat)
  | _, _ => number

end Double

end RestQuery
