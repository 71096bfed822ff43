import RestQuery.Decimal.Shortest

/-!
# Written forms of a double

Two forms are written. In a query string a double is always positional: no exponent, and no
fraction when it is whole. In JSON a double is positional from `0.00001` up to sixteen digits
before the point, where a whole number keeps `.0`, and has an exponent outside that range.
-/

namespace RestQuery.Double

/-- How the digits of a double are laid out. -/
structure Layout where
  tie : Tie
  /-- Written after the digits of a whole number. -/
  wholeEnding : List Char
  /-- Whether a number whose first digit has this decimal exponent is positional. -/
  isPositional : Int → Bool

/-- Query strings: positional whatever the size, a tie upwards. -/
def queryLayout : Layout where
  tie := .up
  wholeEnding := []
  isPositional _ := true

/-- JSON: positional when the first digit stands in one of the places `10 ^ -5` to `10 ^ 15`. -/
def jsonLayout : Layout where
  tie := .toEven
  wholeEnding := ['.', '0']
  isPositional place := -5 ≤ place && place < 16

/-- Digits with the point put `places` digits after their start. -/
def positional (wholeEnding : List Char) (digits : List Char) (places : Int) : List Char :=
  if places ≤ 0 then '0' :: '.' :: (List.replicate (-places).toNat '0' ++ digits)
  else if (digits.length : Int) ≤ places then
    digits ++ List.replicate (places - digits.length).toNat '0' ++ wholeEnding
  else digits.take places.toNat ++ '.' :: digits.drop places.toNat

/-- Digits with the point after the first and the place of the first as an exponent. -/
def exponential (digits : List Char) (place : Int) : List Char :=
  let fraction := digits.drop 1
  digits.take 1 ++ (if fraction.isEmpty then [] else '.' :: fraction) ++
    ['e', if place < 0 then '-' else '+'] ++ Nat.toDigits 10 place.natAbs

/-- The magnitude of a finite double in a layout. -/
def Layout.magnitude (layout : Layout) (significand : Nat) (exponent : Int) : List Char :=
  if significand = 0 then '0' :: layout.wholeEnding
  else
    let decimal := shortest layout.tie significand exponent
    let digits := Nat.toDigits 10 decimal.digits
    let place := decimal.exponent + digits.length - 1
    if layout.isPositional place then positional layout.wholeEnding digits (place + 1)
    else exponential digits place

/-- A finite double in a layout, with its sign. -/
def Layout.finite (layout : Layout) (negative : Bool) (significand : Nat) (exponent : Int) :
    List Char :=
  (if negative then ['-'] else []) ++ layout.magnitude significand exponent

/-- A double as an operand of a query string. -/
def queryChars (number : Double) : List Char :=
  match number.view with
  | .nan => ['N', 'a', 'N']
  | .infinite negative => (if negative then ['-'] else []) ++ ['i', 'n', 'f']
  | .finite negative significand exponent => queryLayout.finite negative significand exponent

/-- A double in JSON, which has no way to write NaN and the infinities but `null`. -/
def jsonChars (number : Double) : List Char :=
  match number.view with
  | .nan | .infinite _ => ['n', 'u', 'l', 'l']
  | .finite negative significand exponent => jsonLayout.finite negative significand exponent

end RestQuery.Double
