import RestQuery.Yaml.Layout

/-!
# Documents in YAML text

A text is read as one document made of scalars, sequences and mappings, written as indented blocks
or between brackets. Where an item, a key or a value is missing, an empty plain scalar stands in for
it. A sequence in the column of the key that it belongs to is no block of its own, and ends at the
first thing that is not a dash.
-/

namespace RestQuery.Yaml

/-- What a document is made of. -/
inductive Node where
  | scalar (quoting : Quoting) (text : String)
  | sequence (items : List Node)
  | mapping (entries : List (Node × Node))

/-- What stands where nothing is written. -/
def Node.empty : Node := .scalar .plain ""

/-- Where a node stands, which decides how it may be written. -/
inductive Position where
  | brackets
  | block
  /-- As a key or a value in a block, where a sequence may lack a block of its own. -/
  | entry
deriving DecidableEq, Repr

/-- One of some tokens comes next. -/
def comesNext (candidates : List Token) (tokens : List Token) : Bool :=
  tokens.head?.any candidates.contains

mutual

/-- Reads a node. -/
def readNode : Nat → Position → List Token → Option (Node × List Token)
  | 0, _, _ => none
  | fuel + 1, position, tokens =>
      let sequence (items? : Option (List Node × List Token)) : Option (Node × List Token) :=
        items?.map fun (items, rest) => (.sequence items, rest)
      let mapping (entries? : Option (List (Node × Node) × List Token)) :
          Option (Node × List Token) :=
        entries?.map fun (entries, rest) => (.mapping entries, rest)
      match tokens with
      | .scalar quoting text :: rest => some (.scalar quoting text, rest)
      | .openBracket :: rest => sequence (readBracketItems fuel rest)
      | .openBrace :: rest => mapping (readBracketEntries fuel rest)
      | .sequenceStart :: rest =>
          if position = .brackets then none else sequence (readItems fuel rest)
      | .mappingStart :: rest =>
          if position = .brackets then none else mapping (readEntries fuel rest)
      | .dash :: _ => if position = .entry then sequence (readLooseItems fuel tokens) else none
      | _ => none

/-- Reads a node, or nothing where one of the tokens comes next that may follow it. -/
def readOptional : Nat → Position → List Token → List Token → Option (Node × List Token)
  | 0, _, _, _ => none
  | fuel + 1, position, followers, tokens =>
      if comesNext followers tokens then some (.empty, tokens) else readNode fuel position tokens

/-- Reads a value behind its sign; a key without one has an empty value. -/
def readValue : Nat → Position → List Token → List Token → Option (Node × List Token)
  | 0, _, _, _ => none
  | fuel + 1, position, followers, tokens =>
      match tokens with
      | .value :: rest => readOptional fuel position followers rest
      | _ => some (.empty, tokens)

/-- Reads the items of a block up to its end. -/
def readItems : Nat → List Token → Option (List Node × List Token)
  | 0, _ => none
  | fuel + 1, tokens =>
      match tokens with
      | .blockEnd :: rest => some ([], rest)
      | .dash :: rest => do
          let (item, rest) ← readOptional fuel .block [.dash, .blockEnd] rest
          let (items, rest) ← readItems fuel rest
          return (item :: items, rest)
      | _ => none

/-- Reads the items of a sequence that is no block of its own. -/
def readLooseItems : Nat → List Token → Option (List Node × List Token)
  | 0, _ => none
  | fuel + 1, tokens =>
      match tokens with
      | .dash :: rest => do
          let (item, rest) ← readOptional fuel .block [.dash, .key, .value, .blockEnd] rest
          let (items, rest) ← readLooseItems fuel rest
          return (item :: items, rest)
      | _ => some ([], tokens)

/-- Reads the entries of a block up to its end. -/
def readEntries : Nat → List Token → Option (List (Node × Node) × List Token)
  | 0, _ => none
  | fuel + 1, tokens =>
      match tokens with
      | .blockEnd :: rest => some ([], rest)
      | .key :: rest => do
          let (key, rest) ← readOptional fuel .entry [.key, .value, .blockEnd] rest
          let (value, rest) ← readValue fuel .entry [.key, .value, .blockEnd] rest
          let (entries, rest) ← readEntries fuel rest
          return ((key, value) :: entries, rest)
      | _ => none

/-- Reads the items of a bracket, from where one may stand, up to the closing bracket. -/
def readBracketItems : Nat → List Token → Option (List Node × List Token)
  | 0, _ => none
  | fuel + 1, tokens =>
      match tokens with
      | .closeBracket :: rest => some ([], rest)
      | .key :: rest => do
          let (entry, rest) ← readPair fuel rest
          readMoreItems fuel (.mapping [entry]) rest
      | _ => do
          let (item, rest) ← readNode fuel .brackets tokens
          readMoreItems fuel item rest

/-- Reads what follows an item of a bracket. -/
def readMoreItems : Nat → Node → List Token → Option (List Node × List Token)
  | 0, _, _ => none
  | fuel + 1, item, tokens =>
      match tokens with
      | .closeBracket :: rest => some ([item], rest)
      | .comma :: rest => do
          let (items, rest) ← readBracketItems fuel rest
          return (item :: items, rest)
      | _ => none

/--
Reads the one entry of a mapping that is an item of a bracket. A missing key takes up the token that
stands in its place.
-/
def readPair : Nat → List Token → Option ((Node × Node) × List Token)
  | 0, _ => none
  | fuel + 1, tokens => do
      let (key, rest) ←
        if comesNext [.value, .comma, .closeBracket] tokens then some (.empty, tokens.drop 1)
        else readNode fuel .brackets tokens
      let (value, rest) ← readValue fuel .brackets [.comma, .closeBracket] rest
      return ((key, value), rest)

/-- Reads the entries of a brace, from where one may stand, up to the closing brace. -/
def readBracketEntries : Nat → List Token → Option (List (Node × Node) × List Token)
  | 0, _ => none
  | fuel + 1, tokens =>
      match tokens with
      | .closeBrace :: rest => some ([], rest)
      | .key :: rest => do
          let (key, rest) ← readOptional fuel .brackets [.value, .comma, .closeBrace] rest
          let (value, rest) ← readValue fuel .brackets [.comma, .closeBrace] rest
          readMoreEntries fuel (key, value) rest
      | _ => do
          let (key, rest) ← readNode fuel .brackets tokens
          readMoreEntries fuel (key, .empty) rest

/-- Reads what follows an entry of a brace. -/
def readMoreEntries :
    Nat → Node × Node → List Token → Option (List (Node × Node) × List Token)
  | 0, _, _ => none
  | fuel + 1, entry, tokens =>
      match tokens with
      | .closeBrace :: rest => some ([entry], rest)
      | .comma :: rest => do
          let (entries, rest) ← readBracketEntries fuel rest
          return (entry :: entries, rest)
      | _ => none

end

/-- Reads the root of a document, which may be missing behind a marker. -/
def readRoot (fuel : Nat) (tokens : List Token) : Option (Node × List Token) :=
  match tokens with
  | [] => some (.empty, [])
  | .documentStart :: rest =>
      if rest.isEmpty || comesNext [.documentStart, .documentEnd] rest then some (.empty, rest)
      else readNode fuel .block rest
  | _ => readNode fuel .block tokens

namespace Node

/--
The root of the one document that some tokens are; a text without tokens is an empty one. At most
three calls follow each other at the same token, so a multiple of their number bounds the depth.
-/
def ofTokens? (tokens : List Token) : Option Node :=
  match readRoot (4 * tokens.length + 4) tokens with
  | some (root, rest) => if rest.all (· = .documentEnd) then some root else none
  | none => none

/-- Reads a text as one document. -/
def ofText? (text : String) : Option Node :=
  (Token.listOfText? text).bind ofTokens?

end Node

end RestQuery.Yaml
