import RestQuery.Decimal.Double
import RestQuery.Text.Split

/-!
# Reading numbers

Three readers of decimal text. `readUnsigned?` is the one for paging values: an optional plus
sign and digits below `2 ^ 64`. `Double.ofText?` reads a decimal to the nearest double.
`Double.ofNumeral?` reads a JSON numeral in two roundings: as many leading digits as fit 64 bits
become a double, which is then multiplied or divided by a rounded power of ten.
-/

namespace RestQuery

/-- The value of a run of decimal digits. -/
def digitsValue (digits : List Char) : Nat :=
  Nat.ofDigitChars 10 digits 0

/-- A non-empty run of ASCII digits. -/
def isDigits (chars : List Char) : Bool :=
  !chars.isEmpty && chars.all Char.isDigit

/-- An unsigned 64-bit number: an optional plus sign and at least one digit. -/
def readUnsigned? (chars : List Char) : Option UInt64 :=
  let digits :=
    match chars with
    | '+' :: rest => rest
    | _ => chars
  if isDigits digits && digitsValue digits < UInt64.size then
    some (UInt64.ofNat (digitsValue digits))
  else none

/-- A numeral: sign, digits before the point, digits after it, and a signed exponent. -/
structure Numeral where
  negative : Bool
  whole : List Char
  fraction : List Char
  /-- The exponent's sign, true when negative, and its digits. -/
  exponent : Option (Bool × List Char)
deriving DecidableEq, Repr, Inhabited

namespace Numeral

/-- A numeral without fraction and exponent stands for an integer. -/
def isWhole (numeral : Numeral) : Bool :=
  numeral.fraction.isEmpty && numeral.exponent.isNone

/-- The exponent as a number, zero when there is none. -/
def exponentValue (numeral : Numeral) : Int :=
  match numeral.exponent with
  | none => 0
  | some (negative, digits) => if negative then -digitsValue digits else digitsValue digits

end Numeral

namespace Double

/-- The double nearest to a numeral. -/
def ofNumeralExact (numeral : Numeral) : Double :=
  ofScaled numeral.negative (digitsValue (numeral.whole ++ numeral.fraction))
    (numeral.exponentValue - numeral.fraction.length)

/-- The sign in front of a text, true when negative, and the rest. -/
def cutSign (chars : List Char) : Bool × List Char :=
  match chars with
  | '-' :: rest => (true, rest)
  | '+' :: rest => (false, rest)
  | _ => (false, chars)

/-- A sign and the digits of an exponent. -/
def readExponent? (chars : List Char) : Option (Bool × List Char) :=
  let (negative, digits) := cutSign chars
  if isDigits digits then some (negative, digits) else none

/-- Digits with an optional point before, between or after them. -/
def readPointed? (negative : Bool) (exponent : Option (Bool × List Char)) (chars : List Char) :
    Option Numeral :=
  let (whole, fraction) := (Text.cutChars '.' chars).getD (chars, [])
  if isDigits (whole ++ fraction) then some ⟨negative, whole, fraction, exponent⟩ else none

/-- A decimal numeral with an optional exponent, after its sign. -/
def readNumeral? (negative : Bool) (chars : List Char) : Option Numeral :=
  let chars := chars.map Char.toLower
  match Text.cutChars 'e' chars with
  | none => readPointed? negative none chars
  | some (mantissa, exponent) =>
      (readExponent? exponent).bind fun exponent => readPointed? negative (some exponent) mantissa

/-- Reads a decimal, `inf`, `infinity` or `nan` in any case, with an optional sign. -/
def ofText? (text : String) : Option Double :=
  let (negative, rest) := cutSign text.toList
  let word := String.ofList (rest.map Char.toLower)
  if word = "inf" ∨ word = "infinity" then some (infinity negative)
  else if word = "nan" then some (if negative then nan.neg else nan)
  else (readNumeral? negative rest).map ofNumeralExact

/-- A significand that fits 64 bits, and the decimal exponent that goes with it. -/
structure Significand where
  value : Nat
  exponent : Int
deriving DecidableEq, Repr

/-- Takes digits before the point; once one no longer fits, the rest only raise the exponent. -/
def Significand.pushWhole (significand : Significand) : List Char → Significand
  | [] => significand
  | digit :: rest =>
      let value := significand.value * 10 + (digit.toNat - 48)
      if value < UInt64.size then Significand.pushWhole ⟨value, significand.exponent⟩ rest
      else ⟨significand.value, significand.exponent + (digit :: rest).length⟩

/-- Takes digits after the point; once one no longer fits, the rest are dropped. -/
def Significand.pushFraction (significand : Significand) : List Char → Significand
  | [] => significand
  | digit :: rest =>
      let value := significand.value * 10 + (digit.toNat - 48)
      if value < UInt64.size then Significand.pushFraction ⟨value, significand.exponent - 1⟩ rest
      else significand

/--
A double multiplied by a power of ten, in steps of at most `10 ^ 308`; nothing when the result is
too large. Dividing a 64-bit number three times by `10 ^ 308` leaves zero, so three steps are
enough.
-/
def scaleByTen? : Nat → Double → Int → Option Double
  | 0, number, _ => some number
  | steps + 1, number, exponent =>
      if exponent.natAbs ≤ 308 then
        if 0 ≤ exponent then
          let product := number.mulPowerOfTen exponent.toNat
          if product.isInfinite then none else some product
        else some (number.divPowerOfTen exponent.natAbs)
      else if number.isZero then some number
      else if 0 ≤ exponent then none
      else scaleByTen? steps (number.divPowerOfTen 308) (exponent + 308)

/-- Reads a JSON numeral that is no 64-bit integer; nothing when it is too large. -/
def ofNumeral? (numeral : Numeral) : Option Double :=
  let significand :=
    ((Significand.mk 0 0).pushWhole numeral.whole).pushFraction numeral.fraction
  let exponent := significand.exponent + numeral.exponentValue
  (scaleByTen? 4 (ofNat significand.value) exponent).map fun number =>
    if numeral.negative then number.neg else number

end Double

end RestQuery
