import RestQuery.Query
import RestQuery.Text.Lowercase
import RestQuery.Wire.Parameters

/-!
# Reading query strings

A key that starts with an underscore followed by another character names a directive; every other
key is a field, whose values are conditions `token:operand`. Reading is total: what cannot be
understood is dropped and reported.

Every value of a key gives a list of events, in the order in which things are met, and the outcome
is the events recorded one after another. Values are given in one of two forms. Values as written
are cut at colons and commas before their pieces are decoded, so that an escaped comma stays
inside its piece; plain values have been decoded already.
-/

namespace RestQuery

/-- Why a fragment was dropped. -/
inductive DropReason where
  /-- The condition has no colon. -/
  | missingOperator
  /-- The token is not in the operator table. -/
  | unknownOperator (token : String)
  /-- A range does not have two bounds. -/
  | betweenArity (bounds : Nat)
  /-- The ordering has no colon. -/
  | missingDirection
  /-- The directive has no known name. -/
  | unknownDirective (name : String)
deriving DecidableEq, Repr

/-- The wording of a reason. -/
def DropReason.message : DropReason → String
  | missingOperator => "missing operator"
  | unknownOperator token => "unknown operator '" ++ token ++ "'"
  | betweenArity bounds => "between needs 2 bounds, got " ++ bounds.repr
  | missingDirection => "missing direction"
  | unknownDirective name => "unknown directive '" ++ name ++ "'"

/-- A fragment that was dropped, as it was written, with the key it stood under. -/
structure DroppedFragment where
  key : String
  fragment : String
  reason : DropReason
deriving DecidableEq, Repr

/-- The outcome of reading a query string. -/
structure Parsed where
  query : Query
  dropped : List DroppedFragment
  /-- Field and directive keys that had an exclamation mark in front, which has no effect. -/
  negatedKeys : List String
deriving DecidableEq, Repr

/-- Something that is met while reading. -/
inductive Event where
  | filter (filter : FieldFilter)
  | order (key : SortKey)
  | project (columns : List String)
  | directive (kind : DirectiveKind) (value : String)
  | negatedKey (key : String)
  | drop (fragment : DroppedFragment)
deriving DecidableEq, Repr

namespace Parsed

/-- Nothing read yet. -/
def empty : Parsed := ⟨.empty, [], []⟩

/-- Records one event. -/
def record (parsed : Parsed) : Event → Parsed
  | .filter filter => { parsed with query := parsed.query.filter filter }
  | .order key => { parsed with query := parsed.query.order key }
  | .project columns => { parsed with query := parsed.query.project columns }
  | .directive kind value => { parsed with query := parsed.query.setDirective kind value }
  | .negatedKey key => { parsed with negatedKeys := parsed.negatedKeys ++ [key] }
  | .drop fragment => { parsed with dropped := parsed.dropped ++ [fragment] }

/-- Records events one after another. -/
def ofEvents (events : List Event) : Parsed :=
  events.foldl record empty

end Parsed

/-- The form in which values are given. -/
inductive ValueForm where
  /-- Percent-encoded, as in a query string. -/
  | written
  /-- Decoded already. -/
  | plain
deriving DecidableEq, Repr

/-- The text of a piece of a value. -/
def ValueForm.text (form : ValueForm) (piece : String) : String :=
  match form with
  | .written => Percent.decode piece
  | .plain => piece

/-- The operand that the part of a condition after its colon gives. -/
def readOperand (form : ValueForm) (operator : Operator) (raw : String) :
    Except DropReason Operand :=
  if operator.isList then
    .ok (.list ((Text.split ',' raw).map fun piece => .text (form.text piece)))
  else if operator.isRange then
    match Text.split ',' raw with
    | [low, high] => .ok (.pair (.text (form.text low)) (.text (form.text high)))
    | bounds => .error (.betweenArity bounds.length)
  else .ok (.single (.text (form.text raw)))

/-- The operator and operand of a condition. -/
def readCondition (form : ValueForm) (condition : String) :
    Except DropReason (Operator × Operand) :=
  match Text.cut ':' condition with
  | none => .error .missingOperator
  | some (token, raw) =>
      match Operator.ofToken? (form.text token) with
      | none => .error (.unknownOperator (form.text token))
      | some operator => (readOperand form operator raw).map fun operand => (operator, operand)

/-- The events of one value of a field. -/
def conditionEvents (form : ValueForm) (field condition : String) : List Event :=
  match readCondition form condition with
  | .error reason => [.drop ⟨field, condition, reason⟩]
  | .ok (operator, operand) =>
      match FieldFilter.build field operator operand with
      | .ok filter => [.filter filter]
      | .error _ => []

/-- The event of one ordering; what follows a second colon is ignored. -/
def orderEvent (form : ValueForm) (key segment : String) : Event :=
  match Text.split ':' segment with
  | field :: direction :: _ => .order ⟨form.text field, ⟨form.text direction⟩⟩
  | _ => .drop ⟨key, segment, .missingDirection⟩

/-- The columns without empty ones, each in its first place only. -/
def distinctColumns (columns : List String) : List String :=
  columns.foldl
    (fun kept column =>
      if column.isEmpty || kept.contains column then kept else kept ++ [column])
    []

/-- The events of one value of a directive that is known by its lower-case name. -/
def directiveEvents (form : ValueForm) (key name value : String) : List Event :=
  if name = "orderby" then (Text.split ',' value).map (orderEvent form key)
  else if name = "field" then
    [.project (distinctColumns ((Text.split ',' value).map form.text))]
  else
    match DirectiveKind.ofName? name with
    | some kind => [.directive kind (form.text value)]
    | none => [.drop ⟨key, value, .unknownDirective name⟩]

/-- The name of the directive that a key stands for, in lower case. -/
def directiveName? (key : String) : Option String :=
  match key.toList with
  | '_' :: char :: rest =>
      if char = '_' then none else some (Text.lowercase (String.ofList (char :: rest)))
  | _ => none

/-- The events of the values of a key that has no exclamation mark in front. -/
def valueEvents (form : ValueForm) (key : String) (values : List String) : List Event :=
  match directiveName? key with
  | some name => values.flatMap (directiveEvents form key name)
  | none => values.flatMap (conditionEvents form key)

/-- The events of a key and its values. -/
def keyEvents (form : ValueForm) (key : String) (values : List String) : List Event :=
  match Text.dropLeading? '!' key with
  | some bare => .negatedKey bare :: valueEvents form bare values
  | none => valueEvents form key values

namespace Parameters

/-- The events of all parameters, key by key. -/
def events (form : ValueForm) (params : Parameters) : List Event :=
  params.entries.flatMap fun (key, values) => keyEvents form key values.toList

/-- What decoded parameters mean, with a report of what was dropped. -/
def parse (params : Parameters) : Parsed :=
  .ofEvents (params.events .plain)

/-- The parameters of a query string with decoded keys and values as written. -/
def ofWritten (raw : String) : Parameters :=
  .ofPairs ((writtenPairs raw).map fun (key, value) => (Percent.decode key, value))

end Parameters

/-- What a query string means, with a report of what was dropped. -/
def parseQueryString (raw : String) : Parsed :=
  .ofEvents ((Parameters.ofWritten raw).events .written)

end RestQuery
