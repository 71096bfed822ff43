/-!
# Hexadecimal digits

Escapes in query strings, in JSON and in YAML give bytes and characters by hexadecimal digits. A
digit is read in either case; which case is written depends on the format.
-/

namespace RestQuery.Text

/-- The value of the hexadecimal digit with a code, in either case. -/
def hexValue? (code : Nat) : Option Nat :=
  if 48 ≤ code ∧ code ≤ 57 then some (code - 48)
  else if 65 ≤ code ∧ code ≤ 70 then some (code - 55)
  else if 97 ≤ code ∧ code ≤ 102 then some (code - 87)
  else none

/-- The lower-case digit of a value below sixteen. -/
def lowerHexDigit (value : Nat) : Char :=
  Nat.digitChar value

/-- The upper-case digit of a value below sixteen. -/
def upperHexDigit (value : Nat) : Char :=
  (Nat.digitChar value).toUpper

theorem hexValue?_lowerHexDigit :
    ∀ value < 16, hexValue? (lowerHexDigit value).toNat = some value := by
  decide

theorem hexValue?_upperHexDigit :
    ∀ value < 16, hexValue? (upperHexDigit value).toNat = some value := by
  decide

end RestQuery.Text
