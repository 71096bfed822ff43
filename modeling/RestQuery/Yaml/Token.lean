import RestQuery.Yaml.ScalarText

/-!
# Tokens of YAML text

A text is a list of tokens in which its layout is explicit: every block has a token at its start and
one at its end, and every key has one in front of it.

Whether something is a key shows only at the colon behind it. The tokens of a bracket are therefore
kept in two parts, parted at the last place where a key may have begun. Such a place is given up at
the end of its line or when it lies too far back.
-/

namespace RestQuery.Yaml

/-- How a scalar was written. -/
inductive Quoting where
  | plain
  | quoted
deriving DecidableEq, Repr

/-- The parts that a text is made of. -/
inductive Token where
  | documentStart
  | documentEnd
  | sequenceStart
  | mappingStart
  /-- The end of a block. -/
  | blockEnd
  | openBracket
  | closeBracket
  | openBrace
  | closeBrace
  | comma
  | dash
  | key
  | value
  | scalar (quoting : Quoting) (text : String)
deriving DecidableEq, Repr

/-- A place where a key may have begun, and whether nothing but a key may begin there. -/
structure KeyStart where
  place : Place
  required : Bool
deriving DecidableEq, Repr

/-- The most bytes that lie between the start of a key and its colon. -/
def maxKeyLength : Nat := 1024

/-- The colon of a key may stand at a place. -/
def KeyStart.reaches (place : Place) (start : KeyStart) : Bool :=
  start.place.line = place.line && place.offset ≤ start.place.offset + maxKeyLength

/-- The tokens that were read inside one bracket, or outside all of them; the last one is first. -/
structure Scope where
  /-- Tokens before the place where a key may have begun. -/
  settled : List Token
  keyStart : Option KeyStart
  /-- Tokens from there on. -/
  pending : List Token
deriving DecidableEq, Repr

namespace Scope

/-- Nothing has been read. -/
def empty : Scope := ⟨[], none, []⟩

/-- All tokens, the last one first. -/
def tokens (scope : Scope) : List Token :=
  scope.pending ++ scope.settled

def add (token : Token) (scope : Scope) : Scope :=
  { scope with pending := token :: scope.pending }

/-- No key has begun, which is a mistake where one is required. -/
def dropKey? (scope : Scope) : Option Scope :=
  if scope.keyStart.any (·.required) then none else some ⟨scope.tokens, none, []⟩

/-- A key may begin here, and nowhere before. -/
def markKey? (start : KeyStart) (scope : Scope) : Option Scope :=
  scope.dropKey?.map fun scope => { scope with keyStart := some start }

/-- What has begun is a key, and some tokens belong in front of it, the last one first. -/
def settleKey (front : List Token) (scope : Scope) : Scope :=
  ⟨scope.pending ++ front ++ scope.settled, none, []⟩

/-- The key that has begun is given up if its colon cannot stand at a place. -/
def reach? (place : Place) (scope : Scope) : Option Scope :=
  if scope.keyStart.all (·.reaches place) then some scope else scope.dropKey?

end Scope

end RestQuery.Yaml
