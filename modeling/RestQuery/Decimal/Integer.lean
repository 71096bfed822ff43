/-!
# Integers in decimal digits

An integer is written in decimal digits, with a minus sign in front when it is negative.
-/

namespace RestQuery

/-- The characters of an integer with its sign. -/
def intChars (value : Int) : List Char :=
  (if value < 0 then ['-'] else []) ++ Nat.toDigits 10 value.natAbs

/-- The written form of an integer. -/
def intText (value : Int) : String :=
  String.ofList (intChars value)

end RestQuery
