import RestQuery.Decimal.Reading
import RestQuery.Text.Hexadecimal

/-!
# What a plain scalar means

YAML writes everything as text, and a scalar without quotes may still mean something other than
text: nothing, a truth value, or a number. The same rule serves both directions. A reader needs it
to tell texts from other values, and a printer to put quotes around a text that would otherwise be
read as something else.
-/

namespace RestQuery.Yaml

/-- What a plain scalar means. -/
inductive Meaning where
  | null
  | bool
  | number
  | text
deriving DecidableEq, Repr

/-- A spelling of nothing, besides the empty scalar. -/
def isNullWord (scalar : String) : Bool :=
  ["~", "null", "Null", "NULL"].contains scalar

/-- A spelling of a truth value. -/
def isBoolWord (scalar : String) : Bool :=
  ["true", "True", "TRUE", "false", "False", "FALSE"].contains scalar

/-- A spelling of an infinity or of NaN. -/
def isSpecialFloat (scalar : String) : Bool :=
  [".inf", ".Inf", ".INF", "+.inf", "+.Inf", "+.INF", "-.inf", "-.Inf", "-.INF", ".nan", ".NaN",
    ".NAN"].contains scalar

/-- The value of a digit in a base of at most sixteen. -/
def digitValue? (base : Nat) (char : Char) : Option Nat :=
  (Text.hexValue? char.toNat).filter (· < base)

/-- The value of digits in a base, at least one. -/
def readDigits? (base : Nat) (digits : List Char) : Option Nat :=
  if digits.isEmpty then none
  else
    digits.foldl
      (fun value? digit =>
        match value?, digitValue? base digit with
        | some value, some digit => some (value * base + digit)
        | _, _ => none)
      (some 0)

/-- A natural number with a base in front: `0x`, `0o` or `0b`. -/
def readPrefixed? (chars : List Char) : Option Nat :=
  match chars with
  | '0' :: 'x' :: digits => readDigits? 16 digits
  | '0' :: 'o' :: digits => readDigits? 8 digits
  | '0' :: 'b' :: digits => readDigits? 2 digits
  | _ => none

/-- Digits that start with a zero and go on; they are a text. -/
def isZeroPadded (chars : List Char) : Bool :=
  match (Double.cutSign chars).2 with
  | '0' :: digit :: rest => (digit :: rest).all Char.isDigit
  | _ => false

/-- The characters without a plus sign in front. -/
def dropPlus (chars : List Char) : List Char :=
  match chars with
  | '+' :: rest => rest
  | _ => chars

/-- A natural number: in a base, or in decimal digits that are not zero-padded. -/
def readNatural? (chars : List Char) : Option Nat :=
  match readPrefixed? (dropPlus chars) with
  | some value => some value
  | none => if isZeroPadded chars then none else readDigits? 10 (dropPlus chars)

/-- An integer in a base, of at most 128 bits. -/
def isPrefixedInteger (chars : List Char) : Bool :=
  match chars with
  | '-' :: rest => (readPrefixed? rest).any (· ≤ 1 <<< 127)
  | _ => (readPrefixed? (dropPlus chars)).any (· < 1 <<< 128)

/-- A decimal number that some finite double is nearest to. -/
def isFinite (scalar : String) : Bool :=
  match Double.ofText? scalar with
  | some number => number.isFinite
  | none => false

/-- A plain scalar is a decimal number; two signs in front are not allowed. -/
def isDecimal (chars : List Char) : Bool :=
  match chars with
  | '+' :: '+' :: _ => false
  | '+' :: '-' :: _ => false
  | _ => isFinite (String.ofList chars)

/-- What a plain scalar means. -/
def meaning (scalar : String) : Meaning :=
  let chars := scalar.toList
  if chars.isEmpty || isNullWord scalar then .null
  else if isBoolWord scalar then .bool
  else if isPrefixedInteger chars then .number
  else if isZeroPadded chars then .text
  else if isSpecialFloat scalar || isDecimal chars then .number
  else .text

end RestQuery.Yaml
