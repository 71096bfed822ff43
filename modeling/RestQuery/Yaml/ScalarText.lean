import RestQuery.Text.Hexadecimal
import RestQuery.Yaml.Cursor

/-!
# Scalars in YAML text

Three functions read one scalar each, from a place to the place behind it: a scalar without quotes,
one in single quotes and one in double quotes. A scalar may go on over several lines. Between two
lines the blanks around the break are dropped and the break itself is folded: a single one becomes a
space, and of several the first is dropped.

A scalar without quotes has no mark at its end, so that the blanks and line breaks behind it are
passed over before its end is known. Whether a line break was among them is part of the answer.
-/

namespace RestQuery.Yaml

/-- A document marker stands here: three dashes or three points, and then a blank. -/
def atMarker (chars : List Char) : Bool :=
  match chars with
  | '-' :: '-' :: '-' :: rest => atBlank rest
  | '.' :: '.' :: '.' :: rest => atBlank rest
  | _ => false

/-- What stands between two characters of a scalar. -/
inductive Gap where
  | blanks (chars : List Char)
  /-- Line breaks: the first, unless it was escaped, and the others. -/
  | breaks (first : Option Char) (others : List Char)
deriving DecidableEq, Repr

namespace Gap

/-- Nothing between two characters. -/
def none : Gap := .blanks []

/-- The gap with another blank at its end; blanks at the start of a line are dropped. -/
def addBlank (char : Char) : Gap → Gap
  | blanks chars => blanks (chars ++ [char])
  | lines => lines

/-- The gap with another line break at its end; blanks at the end of a line are dropped. -/
def addBreak (char : Char) : Gap → Gap
  | blanks _ => breaks (some char) []
  | breaks first others => breaks first (others ++ [char])

/-- A gap with a line break in it. -/
def hasBreak : Gap → Bool
  | blanks _ => false
  | breaks _ _ => true

def isNone (gap : Gap) : Bool :=
  gap = none

/-- The characters that a gap stands for. -/
def fold : Gap → List Char
  | blanks chars => chars
  | breaks Option.none others => others
  | breaks (some first) others =>
      if first = '\n' then if others.isEmpty then [' '] else others
      else first :: others

end Gap

/-- A scalar that has been read. -/
structure WrittenScalar where
  text : String
  /-- A line break behind the scalar has been passed over. -/
  endsLine : Bool
  /-- Where reading goes on. -/
  cursor : Cursor
deriving DecidableEq, Repr

/-- The scalar of characters that were read last to first, and the gap passed over behind it. -/
def written (reversed : List Char) (gap : Gap) (cursor : Cursor) : Option WrittenScalar :=
  some ⟨String.ofList reversed.reverse, gap.hasBreak, cursor⟩

/-- The reversed characters with a gap and a character behind them. -/
def pushAfter (gap : Gap) (char : Char) (reversed : List Char) : List Char :=
  char :: (gap.fold.reverse ++ reversed)

/-- A character that ends a plain scalar between brackets. -/
def isFlowEnd (char : Char) : Bool :=
  [',', '[', ']', '{', '}'].contains char

/-- A plain scalar ends before this character: a colon and a blank, or a bracket or comma. -/
def endsPlain (brackets : Bool) (char : Char) (rest : List Char) : Bool :=
  (char = ':' && atBlank rest) || (brackets && isFlowEnd char)

/-- A colon that stands directly before a bracket, a comma or a question mark. -/
def isStrayColon (char : Char) (rest : List Char) : Bool :=
  char = ':' &&
    match rest with
    | next :: _ => next = '?' || isFlowEnd next
    | [] => false

/-- Reads on in a plain scalar, whose further lines are at least `indent` columns in. -/
def readPlainFrom (brackets : Bool) (indent : Nat) (text : List Char) (gap : Gap) (place : Place) :
    List Char → Option WrittenScalar
  | [] => written text gap ⟨place, []⟩
  | char :: rest =>
      let next := place.after char
      if isBreak char then readPlainFrom brackets indent text (gap.addBreak char) next rest
      else if isInlineBlank char then
        if gap.hasBreak && char = '\t' && place.column < indent then none
        else readPlainFrom brackets indent text (gap.addBlank char) next rest
      else if (gap.hasBreak && !brackets && place.column < indent) ||
          (place.column = 0 && atMarker (char :: rest)) || (char = '#' && !gap.isNone) then
        written text gap ⟨place, char :: rest⟩
      else if brackets && isStrayColon char rest then none
      else if endsPlain brackets char rest then written text gap ⟨place, char :: rest⟩
      else readPlainFrom brackets indent (pushAfter gap char text) .none next rest

/-- Reads a scalar without quotes. -/
def readPlain (brackets : Bool) (indent : Nat) (cursor : Cursor) : Option WrittenScalar :=
  readPlainFrom brackets indent [] .none cursor.toPlace cursor.rest

/-- Reads on in a scalar in single quotes; a quote is written twice. -/
def readSingleFrom (text : List Char) (gap : Gap) (place : Place) :
    List Char → Option WrittenScalar
  | [] => none
  | char :: rest =>
      let next := place.after char
      if isBreak char then readSingleFrom text (gap.addBreak char) next rest
      else if isInlineBlank char then readSingleFrom text (gap.addBlank char) next rest
      else if place.column = 0 && atMarker (char :: rest) then none
      else if char = '\'' then
        match rest with
        | '\'' :: rest => readSingleFrom (pushAfter gap '\'' text) .none (next.after '\'') rest
        | _ => written (gap.fold.reverse ++ text) .none ⟨next, rest⟩
      else readSingleFrom (pushAfter gap char text) .none next rest

/-- Reads a scalar in single quotes, from the opening quote on. -/
def readSingle (cursor : Cursor) : Option WrittenScalar :=
  let inside := cursor.advance 1
  readSingleFrom [] .none inside.toPlace inside.rest

/-- The character that a backslash and one character stand for. -/
def unescape? (char : Char) : Option Char :=
  [('0', '\x00'), ('a', '\x07'), ('b', '\x08'), ('t', '\t'), ('\t', '\t'), ('n', '\n'),
    ('v', '\x0b'), ('f', '\x0c'), ('r', '\r'), ('e', '\x1b'), (' ', ' '), ('"', '"'), ('/', '/'),
    ('\\', '\\'), ('N', '\u0085'), ('_', '\u00a0'), ('L', '\u2028'), ('P', '\u2029')].lookup char

/-- The number of hexadecimal digits that a letter after a backslash asks for. -/
def hexLength? (char : Char) : Option Nat :=
  [('x', 2), ('u', 4), ('U', 8)].lookup char

/-- The character with a code, unless the code is a surrogate or too large. -/
def charOfCode? (code : Nat) : Option Char :=
  if code.isValidChar then some (Char.ofNat code) else none

/-- Where the reader of a scalar in double quotes stands. -/
inductive Escape where
  | outside
  /-- After a backslash. -/
  | begun
  /-- Some hexadecimal digits are still to come. -/
  | digits (missing : Nat) (value : Nat)
deriving DecidableEq, Repr

/-- Reads on in a scalar in double quotes. -/
def readDoubleFrom (escape : Escape) (text : List Char) (gap : Gap) (place : Place) :
    List Char → Option WrittenScalar
  | [] => none
  | char :: rest =>
      let next := place.after char
      match escape with
      | .digits missing value =>
          match Text.hexValue? char.toNat with
          | none => none
          | some digit =>
              let value := value * 16 + digit
              if missing ≤ 1 then
                match charOfCode? value with
                | none => none
                | some char => readDoubleFrom .outside (char :: text) .none next rest
              else readDoubleFrom (.digits (missing - 1) value) text .none next rest
      | .begun =>
          if isBreak char then readDoubleFrom .outside text (.breaks none []) next rest
          else
            match hexLength? char, unescape? char with
            | some length, _ => readDoubleFrom (.digits length 0) text .none next rest
            | none, some char => readDoubleFrom .outside (char :: text) .none next rest
            | none, none => none
      | .outside =>
          if isBreak char then readDoubleFrom .outside text (gap.addBreak char) next rest
          else if isInlineBlank char then
            readDoubleFrom .outside text (gap.addBlank char) next rest
          else if place.column = 0 && atMarker (char :: rest) then none
          else if char = '"' then written (gap.fold.reverse ++ text) .none ⟨next, rest⟩
          else if char = '\\' then
            readDoubleFrom .begun (gap.fold.reverse ++ text) .none next rest
          else readDoubleFrom .outside (pushAfter gap char text) .none next rest

/-- Reads a scalar in double quotes, from the opening quote on. -/
def readDouble (cursor : Cursor) : Option WrittenScalar :=
  let inside := cursor.advance 1
  readDoubleFrom .outside [] .none inside.toPlace inside.rest

end RestQuery.Yaml
