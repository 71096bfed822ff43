import RestQuery.Text.Blank

/-!
# Places in YAML text

A cursor stands in a text and knows its line and its column, which is what block structure hangs
on, and how many bytes lie before it, which limits the length of a key. Before a text is read, all
its line breaks but two are made line feeds, so that only three characters break a line.
-/

namespace RestQuery.Yaml

/-- A line break, once returns and U+0085 have become line feeds. -/
def isBreak (char : Char) : Bool :=
  char = '\n' || char = '\u2028' || char = '\u2029'

/-- A blank within a line. -/
def isInlineBlank (char : Char) : Bool :=
  char = ' ' || char = '\t'

/-- The text ends here, or a blank or a line break follows. -/
def atBlank (chars : List Char) : Bool :=
  match chars with
  | [] => true
  | char :: _ => isInlineBlank char || isBreak char

/-- A character that may stand in a YAML text. -/
def isAllowed (char : Char) : Bool :=
  char = '\t' || char = '\n' || char = '\r' || char = '\u0085' ||
    Text.inRanges [(0x20, 0x7E), (0xA0, 0xD7FF), (0xE000, 0xFFFD), (0x10000, 0x10FFFF)] char.toNat

/-- The text with every return, with or without a line feed behind it, and U+0085 as a line feed. -/
def normalizeBreaks : List Char → List Char
  | '\r' :: '\n' :: rest => '\n' :: normalizeBreaks rest
  | char :: rest =>
      (if char = '\r' ∨ char = '\u0085' then '\n' else char) :: normalizeBreaks rest
  | [] => []

/-- Where a character stands; columns count the characters of a line, offsets all bytes. -/
structure Place where
  line : Nat
  column : Nat
  offset : Nat
deriving DecidableEq, Repr

namespace Place

/-- The place of the first character. -/
def start : Place := ⟨0, 0, 0⟩

/-- The place behind a character that stands here. -/
def after (char : Char) (place : Place) : Place :=
  if isBreak char then ⟨place.line + 1, 0, place.offset + char.utf8Size⟩
  else ⟨place.line, place.column + 1, place.offset + char.utf8Size⟩

end Place

/-- A place in a text, with the characters from there on. -/
structure Cursor extends Place where
  rest : List Char
deriving DecidableEq, Repr

namespace Cursor

/-- The cursor behind the next characters. -/
def advance : Nat → Cursor → Cursor
  | count + 1, ⟨place, char :: rest⟩ => advance count ⟨place.after char, rest⟩
  | _, cursor => cursor

end Cursor

end RestQuery.Yaml
