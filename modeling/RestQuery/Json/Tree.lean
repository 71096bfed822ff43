import RestQuery.Decimal.Reading
import RestQuery.Json.Value
import RestQuery.Text.Hexadecimal
import RestQuery.Text.Split

/-!
# JSON text as a tree

Reading JSON goes in two steps. The first step only checks that the text is JSON and gives a tree
that keeps what is written: repeated keys in order, the digits of numbers, and the escaped code
units of strings. What a text means, whether its numbers are too large and whether its surrogates
are paired is decided by the second step, and only for the parts that are looked at: a record
ignores the fields that it does not know, whatever stands in them.
-/

namespace RestQuery.Json

/-- A part of a written string: a character, or a code unit given by its four digits. -/
inductive Part where
  | char (value : Char)
  | unit (value : Nat)
deriving DecidableEq, Repr

/-- JSON as it is written. -/
inductive Tree where
  | null
  | bool (value : Bool)
  | number (numeral : Numeral)
  | text (parts : List Part)
  | list (items : List Tree)
  | record (fields : List (List Part × Tree))
deriving Inhabited

/-- The rest of the text after any blanks. -/
def skipBlanks (chars : List Char) : List Char :=
  chars.dropWhile fun char => char = ' ' || char = '\n' || char = '\t' || char = '\r'

/-- The code unit written with four hexadecimal digits. -/
def codeUnit? (first second third fourth : Char) : Option Nat := do
  let first ← Text.hexValue? first.toNat
  let second ← Text.hexValue? second.toNat
  let third ← Text.hexValue? third.toNat
  let fourth ← Text.hexValue? fourth.toNat
  return ((first * 16 + second) * 16 + third) * 16 + fourth

/-- The character that a backslash and one letter stand for. -/
def unescape? (letter : Char) : Option Char :=
  if letter = '"' then some '"'
  else if letter = '\\' then some '\\'
  else if letter = '/' then some '/'
  else if letter = 'b' then some '\x08'
  else if letter = 'f' then some '\x0c'
  else if letter = 'n' then some '\n'
  else if letter = 'r' then some '\r'
  else if letter = 't' then some '\t'
  else none

/-- Puts a part in front of a string that has been read. -/
def prepend (part : Part) (string : Option (List Part × List Char)) :
    Option (List Part × List Char) :=
  string.map fun (parts, rest) => (part :: parts, rest)

/-- Reads a string after its opening quote. -/
def readParts : List Char → Option (List Part × List Char)
  | [] => none
  | char :: rest =>
      if char = '"' then some ([], rest)
      else if char = '\\' then
        match rest with
        | [] => none
        | letter :: rest =>
            if letter = 'u' then
              match rest with
              | first :: second :: third :: fourth :: rest =>
                  match codeUnit? first second third fourth with
                  | some unit => prepend (.unit unit) (readParts rest)
                  | none => none
              | _ => none
            else
              match unescape? letter with
              | some char => prepend (.char char) (readParts rest)
              | none => none
      else if char.toNat < 0x20 then none
      else prepend (.char char) (readParts rest)

/-- Reads digits, at least one. -/
def readDigits? (chars : List Char) : Option (List Char × List Char) :=
  let digits := chars.takeWhile Char.isDigit
  if digits.isEmpty then none else some (digits, chars.dropWhile Char.isDigit)

/-- Reads the part of a number from its point on; none written reads as no digits. -/
def readFraction? (chars : List Char) : Option (List Char × List Char) :=
  match chars with
  | '.' :: rest => readDigits? rest
  | _ => some ([], chars)

/-- Reads an exponent if one is written. -/
def readExponent? (chars : List Char) : Option (Option (Bool × List Char) × List Char) :=
  match chars with
  | char :: rest =>
      if char = 'e' ∨ char = 'E' then
        let (negative, rest) := Double.cutSign rest
        (readDigits? rest).map fun (digits, rest) => (some (negative, digits), rest)
      else some (none, chars)
  | [] => some (none, [])

/-- Reads a number; a whole part of several digits does not start with zero. -/
def readNumeral? (chars : List Char) : Option (Numeral × List Char) := do
  let (negative, chars) :=
    match chars with
    | '-' :: rest => (true, rest)
    | _ => (false, chars)
  let (whole, chars) ← readDigits? chars
  if whole.length ≠ 1 ∧ whole.head? = some '0' then none
  let (fraction, chars) ← readFraction? chars
  let (exponent, chars) ← readExponent? chars
  return (⟨negative, whole, fraction, exponent⟩, chars)

/-- The rest of the text after a word. -/
def readWord? (word : String) (chars : List Char) : Option (List Char) :=
  if word.toList.isPrefixOf chars then some (chars.drop word.length) else none

mutual

/-- Reads a value with any blanks before it. -/
def readTree : Nat → List Char → Option (Tree × List Char)
  | 0, _ => none
  | fuel + 1, chars =>
      match skipBlanks chars with
      | [] => none
      | char :: rest =>
          if char = '"' then (readParts rest).map fun (parts, rest) => (.text parts, rest)
          else if char = '[' then
            match skipBlanks rest with
            | ']' :: rest => some (.list [], rest)
            | _ => (readItems fuel rest).map fun (items, rest) => (.list items, rest)
          else if char = '{' then
            match skipBlanks rest with
            | '}' :: rest => some (.record [], rest)
            | _ => (readFields fuel rest).map fun (fields, rest) => (.record fields, rest)
          else if char = 'n' then (readWord? "ull" rest).map fun rest => (.null, rest)
          else if char = 't' then (readWord? "rue" rest).map fun rest => (.bool true, rest)
          else if char = 'f' then (readWord? "alse" rest).map fun rest => (.bool false, rest)
          else (readNumeral? (char :: rest)).map fun (numeral, rest) => (.number numeral, rest)

/-- Reads the items of a list up to its closing bracket, at least one. -/
def readItems : Nat → List Char → Option (List Tree × List Char)
  | 0, _ => none
  | fuel + 1, chars =>
      match readTree fuel chars with
      | none => none
      | some (item, rest) =>
          match skipBlanks rest with
          | ',' :: rest => (readItems fuel rest).map fun (items, rest) => (item :: items, rest)
          | ']' :: rest => some ([item], rest)
          | _ => none

/-- Reads the fields of an object up to its closing brace, at least one. -/
def readFields : Nat → List Char → Option (List (List Part × Tree) × List Char)
  | 0, _ => none
  | fuel + 1, chars =>
      match skipBlanks chars with
      | '"' :: rest =>
          match readParts rest with
          | none => none
          | some (key, rest) =>
              match skipBlanks rest with
              | ':' :: rest =>
                  match readTree fuel rest with
                  | none => none
                  | some (value, rest) =>
                      match skipBlanks rest with
                      | ',' :: rest =>
                          (readFields fuel rest).map fun (fields, rest) =>
                            ((key, value) :: fields, rest)
                      | '}' :: rest => some ([(key, value)], rest)
                      | _ => none
              | _ => none
      | _ => none

end

/--
Reads a whole text as one value. A value takes two calls for each of its brackets at most, so twice
the length of the text bounds the depth of the calls.
-/
def Tree.ofChars? (chars : List Char) : Option Tree :=
  match readTree (2 * chars.length + 1) chars with
  | some (tree, rest) => if (skipBlanks rest).isEmpty then some tree else none
  | none => none

/-- Reads a whole text as one value. -/
def Tree.ofText? (text : String) : Option Tree :=
  Tree.ofChars? text.toList

end RestQuery.Json
