import RestQuery.Text.Hexadecimal
import RestQuery.Text.Utf8

/-!
# Percent escapes

Operands travel percent-encoded: ASCII letters, digits and `-_.~` stand for themselves and every
other byte is written as `%` with two upper-case hexadecimal digits. Reading is lenient: `+` is a
space, an escape may use either case, and a `%` without two hexadecimal digits stands for itself.
-/

namespace RestQuery.Percent

/-- A character that an operand carries as itself. -/
def isUnreserved (char : Char) : Bool :=
  char.isAlphanum || char = '-' || char = '_' || char = '.' || char = '~'

/-- One byte as it is written in an operand. -/
def encodeByte (byte : UInt8) : List Char :=
  let char := Char.ofNat byte.toNat
  if byte.toNat < 128 && isUnreserved char then [char]
  else ['%', Text.upperHexDigit (byte.toNat / 16), Text.upperHexDigit (byte.toNat % 16)]

/-- A text as it is written in an operand. -/
def encodeChars (chars : List Char) : List Char :=
  (Utf8.encode chars).flatMap encodeByte

/-- The bytes after resolving the escapes. -/
def decodeBytes : List UInt8 → List UInt8
  | byte :: high :: low :: rest =>
      if byte = 37 then
        match Text.hexValue? high.toNat, Text.hexValue? low.toNat with
        | some upper, some lower => UInt8.ofNat (16 * upper + lower) :: decodeBytes rest
        | _, _ => byte :: decodeBytes (high :: low :: rest)
      else byte :: decodeBytes (high :: low :: rest)
  | short => short

/-- A plus sign stands for a space. -/
def plusToSpace (char : Char) : Char :=
  if char = '+' then ' ' else char

/-- The text that a written component stands for. -/
def decodeChars (chars : List Char) : List Char :=
  Utf8.decodeLossy (decodeBytes (Utf8.encode (chars.map plusToSpace)))

/-- Writes a text as an operand. -/
def encode (text : String) : String :=
  String.ofList (encodeChars text.toList)

/-- Reads a component: `+` is a space, escapes are resolved, ill-formed bytes become U+FFFD. -/
def decode (text : String) : String :=
  String.ofList (decodeChars text.toList)

end RestQuery.Percent
