import RestQuery.Text.Hexadecimal
import RestQuery.Text.Split
import RestQuery.Yaml.Scalar

/-!
# Printing YAML

Mappings and sequences are written as blocks, two columns further in for every mapping; a sequence
stands in the column of the key that it belongs to, and an empty one is a pair of brackets. A value
may carry a tag in front of it.

A text is written in the plainest style that reads back as the same text. Where its plain form would
be read as something else than text, it is put in single quotes. A text with line feeds is written
as a literal block. A text with characters that are not printable is put in double quotes, with
these characters escaped.
-/

namespace RestQuery.Yaml

/-- A value to be printed. -/
inductive Value where
  | text (value : String)
  | bool (value : Bool)
  /-- A number, as it is written. -/
  | number (written : String)
  | sequence (items : List Value)
  | mapping (entries : List (String × Value))
  | tagged (tag : String) (value : Value)
deriving Inhabited

/-- The styles in which a scalar is written. -/
inductive Style where
  | plain
  | single
  | double
  | literal
deriving DecidableEq, Repr

/-- The plain form of a text would be read as something else, or has a padded number's digits. -/
def isAmbiguous (text : String) : Bool :=
  meaning text != .text || isZeroPadded text.toList

/-- A line break inside a scalar. -/
def isScalarBreak (char : Char) : Bool :=
  char = '\n' || char = '\r' || char = '\u0085' || char = '\u2028' || char = '\u2029'

/-- A character that is written as itself. -/
def isPrintable (char : Char) : Bool :=
  char = '\n' ||
    [(0x20, 0x7E), (0xA0, 0xD7FF), (0xE000, 0xFEFE), (0xFF00, 0xFFFD), (0x10000, 0x10FFFF)].any
      fun (first, last) => first ≤ char.toNat && char.toNat ≤ last

/-- Nothing, a blank or a line break. -/
def isGapAt (chars : List Char) : Bool :=
  match chars with
  | [] => true
  | char :: _ => char = ' ' || char = '\t' || isScalarBreak char

/-- A first character that a plain scalar cannot have. -/
def isIndicator (char : Char) : Bool :=
  ['#', ',', '[', ']', '{', '}', '&', '*', '!', '|', '>', '\'', '"', '%', '@', '\x60'].contains char

/-- The first character, seen with what follows it, rules out the plain style. -/
def startsWithIndicator (chars : List Char) : Bool :=
  match chars with
  | [] => false
  | char :: rest =>
      isIndicator char || ((char = '?' || char = ':' || char = '-') && isGapAt rest) ||
        ['-', '-', '-'].isPrefixOf chars || ['.', '.', '.'].isPrefixOf chars

/-- A colon before a gap or a number sign after one, anywhere but in front. -/
def holdsIndicator : List Char → Bool
  | first :: second :: rest =>
      (second = ':' && isGapAt rest) || (second = '#' && isGapAt [first]) ||
        holdsIndicator (second :: rest)
  | _ => false

/-- Two neighbours of which the first has one property and the second another. -/
def hasNeighbours (before after : Char → Bool) : List Char → Bool
  | first :: second :: rest =>
      (before first && after second) || hasNeighbours before after (second :: rest)
  | _ => false

def isSpace (char : Char) : Bool :=
  char = ' '

/-- A space before a line break, or a character that is not printable. -/
def needsEscapes (chars : List Char) : Bool :=
  hasNeighbours isSpace isScalarBreak chars || !chars.all isPrintable

/-- The plain style keeps the text. -/
def allowsPlain (chars : List Char) : Bool :=
  !startsWithIndicator chars && !holdsIndicator chars && !chars.any isScalarBreak &&
    !chars.head?.any isSpace && !chars.getLast?.any isSpace && !needsEscapes chars

/-- Single quotes keep the text. -/
def allowsSingle (chars : List Char) : Bool :=
  !hasNeighbours isScalarBreak isSpace chars && !needsEscapes chars

/-- A literal block keeps the text. -/
def allowsLiteral (chars : List Char) : Bool :=
  !chars.getLast?.any isSpace && !needsEscapes chars

/-- The style of a text. -/
def styleOf (text : String) : Style :=
  let chars := text.toList
  if isAmbiguous text then .single
  else if chars.contains '\n' then if allowsLiteral chars then .literal else .double
  else if allowsPlain chars then .plain
  else if allowsSingle chars then .single
  else .double

/-- Columns of blanks. -/
def indentation (columns : Nat) : List Char :=
  List.replicate columns ' '

/-- The characters between single quotes; the last of several line breaks is followed by the
indentation. -/
def singleChars (indent : Nat) : List Char → List Char
  | [] => []
  | char :: rest =>
      (if char = '\'' then ['\'', '\''] else [char]) ++
        (if isScalarBreak char && !rest.head?.any isScalarBreak then indentation indent else []) ++
        singleChars indent rest

/-- An upper-case hexadecimal number of a given length. -/
def hexChars (length value : Nat) : List Char :=
  (List.range length).map fun place =>
    Text.upperHexDigit (value >>> (4 * (length - 1 - place)) % 16)

/-- A letter that stands for a character behind a backslash. -/
def escapeLetter? (char : Char) : Option Char :=
  [('\x00', '0'), ('\x07', 'a'), ('\x08', 'b'), ('\t', 't'), ('\n', 'n'), ('\x0b', 'v'),
    ('\x0c', 'f'), ('\r', 'r'), ('\x1b', 'e'), ('"', '"'), ('\\', '\\'), ('\u0085', 'N'),
    ('\u2028', 'L'), ('\u2029', 'P')].lookup char

/-- A character between double quotes. -/
def doubleChar (char : Char) : List Char :=
  match escapeLetter? char with
  | some letter => ['\\', letter]
  | none =>
      if isPrintable char then [char]
      else if char.toNat ≤ 0xFF then '\\' :: 'x' :: hexChars 2 char.toNat
      else if char.toNat ≤ 0xFFFF then '\\' :: 'u' :: hexChars 4 char.toNat
      else '\\' :: 'U' :: hexChars 8 char.toNat

/-- The lines of a literal block: every line that is not empty is indented. -/
def literalChars (indent : Nat) (fresh : Bool) : List Char → List Char
  | [] => []
  | char :: rest =>
      if isScalarBreak char then char :: literalChars indent true rest
      else (if fresh then indentation indent else []) ++ char :: literalChars indent false rest

/-- What the head of a literal block says about the end of its text. -/
def chompingHint (chars : List Char) : List Char :=
  match chars.reverse with
  | [] => ['-']
  | [last] => if isScalarBreak last then ['+'] else ['-']
  | last :: before :: _ =>
      if !isScalarBreak last then ['-'] else if isScalarBreak before then ['+'] else []

/-- The head of a literal block: its indentation is given where the text starts with a gap. -/
def literalHead (chars : List Char) : List Char :=
  '|' :: (if chars.head?.any fun char => isSpace char || isScalarBreak char then ['2'] else []) ++
    chompingHint chars

/-- A scalar whose further lines are indented, with the line feed behind it. -/
def scalarLine (indent : Nat) (text : String) : List Char :=
  let chars := text.toList
  match styleOf text with
  | .plain => chars ++ ['\n']
  | .single => '\'' :: singleChars indent chars ++ ['\'', '\n']
  | .double => '"' :: chars.flatMap doubleChar ++ ['"', '\n']
  | .literal =>
      let body := literalChars indent true chars
      literalHead chars ++ '\n' :: body ++
        (if chars.getLast?.any isScalarBreak then [] else ['\n'])

mutual

/--
A value behind a key or a dash, in a block whose keys or dashes stand in a column. `inline` says
that a mapping may start on this line.
-/
def valueChars (column : Nat) (inline : Bool) : Value → List Char
  | .text value => ' ' :: scalarLine (column + 2) value
  | .bool value => ' ' :: (if value then "true" else "false").toList ++ ['\n']
  | .number written => ' ' :: written.toList ++ ['\n']
  | .sequence [] => [' ', '[', ']', '\n']
  | .sequence items =>
      if inline then ' ' :: (itemChars (column + 2) items).drop (column + 2)
      else '\n' :: itemChars column items
  | .mapping [] => [' ', '{', '}', '\n']
  | .mapping entries =>
      if inline then ' ' :: (entryChars (column + 2) entries).drop (column + 2)
      else '\n' :: entryChars (column + 2) entries
  | .tagged tag value => ' ' :: '!' :: tag.toList ++ valueChars column false value

/-- The items of a sequence whose dashes stand in a column. -/
def itemChars (column : Nat) : List Value → List Char
  | [] => []
  | item :: rest =>
      indentation column ++ '-' :: valueChars column true item ++ itemChars column rest

/-- The entries of a mapping whose keys stand in a column. -/
def entryChars (column : Nat) : List (String × Value) → List Char
  | [] => []
  | (key, value) :: rest =>
      indentation column ++ key.toList ++ ':' :: valueChars column false value ++
        entryChars column rest

end

/-- A mapping as a whole document. -/
def renderMapping (entries : List (String × Value)) : String :=
  String.ofList (entryChars 0 entries)

end RestQuery.Yaml
