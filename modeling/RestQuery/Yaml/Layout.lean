import RestQuery.Yaml.Token

/-!
# The layout of YAML text

Tokens are read one after another, and what has been read decides what may come next.

A block opens at a dash or at a key that stands further in than the innermost open block, and closes
at the first thing that stands further out. Blocks and keys do not begin everywhere: they do so at
the start of a line, behind a dash and behind an opening bracket or a comma, but neither behind a
key's colon nor behind a finished value.
-/

namespace RestQuery.Yaml

/-- What has been read, and what may follow it. -/
structure Layout where
  /-- The columns of the open blocks, innermost first. -/
  blocks : List Nat
  /-- A block or a key may begin here. -/
  fresh : Bool
  scope : Scope
  /-- What was read outside the open brackets, innermost first. -/
  outer : List Scope
deriving DecidableEq, Repr

namespace Layout

/-- Nothing has been read. -/
def empty : Layout := ⟨[], true, .empty, []⟩

def inBrackets (layout : Layout) : Bool :=
  !layout.outer.isEmpty

/-- The first column that lies further in than the innermost open block. -/
def indent (layout : Layout) : Nat :=
  match layout.blocks with
  | [] => 0
  | column :: _ => column + 1

def add (token : Token) (layout : Layout) : Layout :=
  { layout with scope := layout.scope.add token }

/-- Closes some of the open blocks; within brackets no block closes. -/
def closeBlocks (count : Nat) (layout : Layout) : Layout :=
  if layout.inBrackets then layout
  else
    let pending := List.replicate count .blockEnd ++ layout.scope.pending
    { layout with blocks := layout.blocks.drop count, scope := { layout.scope with pending } }

/-- Closes the blocks that start behind a column. -/
def closeBeyond (column : Nat) (layout : Layout) : Layout :=
  layout.closeBlocks (layout.blocks.takeWhile (column < ·)).length

def closeAll (layout : Layout) : Layout :=
  layout.closeBlocks layout.blocks.length

/-- A block opens at a column; within brackets none does. -/
def opensBlock (column : Nat) (layout : Layout) : Bool :=
  !layout.inBrackets && layout.indent ≤ column

/-- Opens a block at a column, with a token at its start, unless it is open already. -/
def openBlock (token : Token) (column : Nat) (layout : Layout) : Layout :=
  if layout.opensBlock column then
    { layout.add token with blocks := column :: layout.blocks }
  else layout

def reach? (place : Place) (layout : Layout) : Option Layout :=
  (layout.scope.reach? place).map fun scope => { layout with scope }

def dropKey? (layout : Layout) : Option Layout :=
  layout.scope.dropKey?.map fun scope => { layout with scope }

/-- A key begins here if keys may; in the column of the innermost block there has to be one. -/
def markKey? (place : Place) (layout : Layout) : Option Layout :=
  if layout.fresh then
    let required := !layout.inBrackets && layout.blocks.head? = some place.column
    (layout.scope.markKey? ⟨place, required⟩).map fun scope => { layout with scope }
  else some layout

/-- A document starts or ends, which ends all blocks. -/
def marker? (token : Token) (layout : Layout) : Option Layout :=
  layout.closeAll.dropKey?.map fun layout => { layout.add token with fresh := false }

/-- A bracket opens, and with it a scope. -/
def openBracket? (token : Token) (place : Place) (layout : Layout) : Option Layout :=
  (layout.markKey? place).map fun layout =>
    let layout := layout.add token
    { layout with fresh := true, scope := .empty, outer := layout.scope :: layout.outer }

/-- A bracket closes, whichever was opened; what stood inside belongs to the scope around it. -/
def closeBracket? (token : Token) (layout : Layout) : Option Layout :=
  layout.dropKey?.map fun layout =>
    match layout.outer with
    | [] => { layout.add token with fresh := false }
    | scope :: outer =>
        let pending := token :: layout.scope.tokens ++ scope.pending
        { layout with fresh := false, scope := { scope with pending }, outer }

def comma? (layout : Layout) : Option Layout :=
  layout.dropKey?.map fun layout => { layout.add .comma with fresh := true }

/-- A sign that begins a block, unless one has begun: a dash, a question mark or a bare colon. -/
def blockSign? (start : Token) (column : Nat) (layout : Layout) : Option Layout :=
  if layout.inBrackets then some layout
  else if layout.fresh then some (layout.openBlock start column)
  else none

def dash? (column : Nat) (layout : Layout) : Option Layout := do
  let layout ← (← layout.blockSign? .sequenceStart column).dropKey?
  return { layout.add .dash with fresh := true }

/-- A question mark, behind which a key stands. -/
def key? (column : Nat) (layout : Layout) : Option Layout := do
  let layout ← (← layout.blockSign? .mappingStart column).dropKey?
  return { layout.add .key with fresh := !layout.inBrackets }

/-- A colon makes a key of what began where a key may, and may open a block at its column. -/
def colon? (column : Nat) (layout : Layout) : Option Layout :=
  match layout.scope.keyStart with
  | some start =>
      let opens := layout.opensBlock start.place.column
      let scope := layout.scope.settleKey (if opens then [.key, .mappingStart] else [.key])
      let blocks := if opens then start.place.column :: layout.blocks else layout.blocks
      some { layout with blocks, fresh := false, scope := scope.add .value }
  | none => do
      let layout ← layout.blockSign? .mappingStart column
      return { layout.add .value with fresh := !layout.inBrackets }

/-- A scalar, which may be a key; behind its line a block may begin. -/
def scalar? (quoting : Quoting) (place : Place) (scalar : WrittenScalar) (layout : Layout) :
    Option Layout :=
  (layout.markKey? place).map fun layout =>
    { layout.add (.scalar quoting scalar.text) with fresh := scalar.endsLine }

/-- All tokens at the end of a text, in their order; no bracket may be open. -/
def finish? (layout : Layout) : Option (List Token) :=
  if layout.inBrackets then none
  else layout.closeAll.dropKey?.map fun layout => layout.scope.tokens.reverse

end Layout

/-- Characters that do not start a plain scalar. -/
def indicators : List Char :=
  ['-', '?', ':', ',', '[', ']', '{', '}', '#', '&', '*', '!', '|', '>', '\'', '"', '%', '@',
    '\x60']

/--
A plain scalar starts with a character: one that is neither a blank nor an indicator, or a sign with
something right behind it.
-/
def startsPlain (brackets : Bool) (char : Char) (rest : List Char) : Bool :=
  !(isInlineBlank char || indicators.contains char) ||
    (!atBlank rest && (char = '-' || (!brackets && (char = '?' || char = ':'))))

/--
Passes over blanks, comments and line breaks, and says whether a block or a key may begin behind
them, as it may on a new line. A tab does not indent a block. A byte order mark may start a line.
-/
def skipFrom (brackets fresh comment : Bool) (place : Place) : List Char → Bool × Cursor
  | [] => (fresh, ⟨place, []⟩)
  | char :: rest =>
      let next := place.after char
      if isBreak char then skipFrom brackets (fresh || !brackets) false next rest
      else if comment || char = ' ' || (char = '\t' && (brackets || !fresh)) ||
          (place.column = 0 && char = '\ufeff') then
        skipFrom brackets fresh comment next rest
      else if char = '#' then skipFrom brackets fresh true next rest
      else (fresh, ⟨place, char :: rest⟩)

namespace Layout

/-- Goes on to the next character that belongs to a token. -/
def skip (cursor : Cursor) (layout : Layout) : Layout × Cursor :=
  let (fresh, cursor) :=
    skipFrom layout.inBrackets layout.fresh false cursor.toPlace cursor.rest
  ({ layout with fresh }, cursor)

/-- Reads the token that starts with a character. -/
def readToken? (char : Char) (rest : List Char) (cursor : Cursor) (layout : Layout) :
    Option (Layout × Cursor) :=
  let sign (length : Nat) (layout? : Option Layout) : Option (Layout × Cursor) :=
    layout?.map fun layout => (layout, cursor.advance length)
  let scalar (quoting : Quoting) (scalar? : Option WrittenScalar) : Option (Layout × Cursor) := do
    let scalar ← scalar?
    return (← layout.scalar? quoting cursor.toPlace scalar, scalar.cursor)
  let isSign := layout.inBrackets || atBlank rest
  if cursor.column = 0 && atMarker cursor.rest then
    sign 3 (layout.marker? (if char = '-' then .documentStart else .documentEnd))
  else if char = '[' then sign 1 (layout.openBracket? .openBracket cursor.toPlace)
  else if char = '{' then sign 1 (layout.openBracket? .openBrace cursor.toPlace)
  else if char = ']' then sign 1 (layout.closeBracket? .closeBracket)
  else if char = '}' then sign 1 (layout.closeBracket? .closeBrace)
  else if char = ',' then sign 1 layout.comma?
  else if char = '-' && atBlank rest then sign 1 (layout.dash? cursor.column)
  else if char = '?' && isSign then sign 1 (layout.key? cursor.column)
  else if char = ':' && isSign then sign 1 (layout.colon? cursor.column)
  else if char = '\'' then scalar .quoted (readSingle cursor)
  else if char = '"' then scalar .quoted (readDouble cursor)
  else if startsPlain layout.inBrackets char rest then
    scalar .plain (readPlain layout.inBrackets layout.indent cursor)
  else none

end Layout

/-- Reads tokens to the end of the text; every round consumes a character. -/
def tokensFrom? : Nat → Layout → Cursor → Option (List Token)
  | 0, _, _ => none
  | fuel + 1, layout, cursor =>
      let (layout, cursor) := layout.skip cursor
      match layout.reach? cursor.toPlace, cursor.rest with
      | none, _ => none
      | some layout, [] => layout.finish?
      | some layout, char :: rest =>
          match (layout.closeBeyond cursor.column).readToken? char rest cursor with
          | none => none
          | some (layout, cursor) => tokensFrom? fuel layout cursor

/-- The tokens of a text. Anchors, aliases, tags, directives and literal blocks are not read. -/
def Token.listOfText? (text : String) : Option (List Token) :=
  let chars := text.toList
  if chars.all isAllowed then
    tokensFrom? (chars.length + 1) .empty ⟨.start, normalizeBreaks chars⟩
  else none

end RestQuery.Yaml
