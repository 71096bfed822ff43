import RestQuery.Decimal.Integer
import RestQuery.Decimal.Layout
import RestQuery.Json.Value
import RestQuery.Text.Hexadecimal
import RestQuery.Text.Split

/-!
# Printing JSON

The compact form has no blanks at all. The indented form puts every item on a line of its own,
two columns further in than its container, except that an empty container stays `[]` or a pair
of braces. Strings escape the quote, the backslash and the characters below U+0020, and nothing
else.
-/

namespace RestQuery.Json

/-- A character inside a written string. -/
def escapeChar (char : Char) : List Char :=
  if char = '"' then ['\\', '"']
  else if char = '\\' then ['\\', '\\']
  else if char = '\n' then ['\\', 'n']
  else if char = '\r' then ['\\', 'r']
  else if char = '\t' then ['\\', 't']
  else if char = '\x08' then ['\\', 'b']
  else if char = '\x0c' then ['\\', 'f']
  else if char.toNat < 0x20 then
    ['\\', 'u', '0', '0', Text.lowerHexDigit (char.toNat / 16),
      Text.lowerHexDigit (char.toNat % 16)]
  else [char]

/-- A text between quotes, with its special characters escaped. -/
def quoteChars (chars : List Char) : List Char :=
  '"' :: chars.flatMap escapeChar ++ ['"']

mutual

/-- The compact form of a value. -/
def chars : Json → List Char
  | .null => ['n', 'u', 'l', 'l']
  | .bool true => ['t', 'r', 'u', 'e']
  | .bool false => ['f', 'a', 'l', 's', 'e']
  | .int value => intChars value
  | .float value => value.jsonChars
  | .text value => quoteChars value.toList
  | .list items => '[' :: Text.joinChars ',' (itemChars items) ++ [']']
  | .object fields => '{' :: Text.joinChars ',' (fieldChars fields) ++ ['}']

/-- The compact forms of the items of a list. -/
def itemChars : List Json → List (List Char)
  | [] => []
  | item :: rest => chars item :: itemChars rest

/-- The compact forms of the fields of an object. -/
def fieldChars : List (String × Json) → List (List Char)
  | [] => []
  | (key, value) :: rest => (quoteChars key.toList ++ ':' :: chars value) :: fieldChars rest

end

/-- The compact form of a value as text. -/
def render (value : Json) : String :=
  String.ofList (chars value)

/-- A line break and the indentation of a nesting depth. -/
def lineBreak (depth : Nat) : List Char :=
  '\n' :: List.replicate (2 * depth) ' '

/-- Items on lines of their own between brackets, or the bare brackets when there are none. -/
def block (opening closing : Char) (depth : Nat) (items : List (List Char)) : List Char :=
  if items.isEmpty then [opening, closing]
  else
    opening :: Text.joinChars ',' (items.map (lineBreak (depth + 1) ++ ·)) ++
      lineBreak depth ++ [closing]

mutual

/-- The indented form of a value that stands at a nesting depth. -/
def prettyChars (depth : Nat) : Json → List Char
  | .list items => block '[' ']' depth (prettyItems (depth + 1) items)
  | .object fields => block '{' '}' depth (prettyFields (depth + 1) fields)
  | leaf => chars leaf

/-- The indented forms of the items of a list. -/
def prettyItems (depth : Nat) : List Json → List (List Char)
  | [] => []
  | item :: rest => prettyChars depth item :: prettyItems depth rest

/-- The indented forms of the fields of an object. -/
def prettyFields (depth : Nat) : List (String × Json) → List (List Char)
  | [] => []
  | (key, value) :: rest =>
      (quoteChars key.toList ++ ':' :: ' ' :: prettyChars depth value) :: prettyFields depth rest

end

/-- The indented form of a value as text. -/
def renderPretty (value : Json) : String :=
  String.ofList (prettyChars 0 value)

end RestQuery.Json
