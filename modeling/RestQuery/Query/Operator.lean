/-!
# Comparison operators

Each operator has a symbol, used in structured queries, and a token, used in query strings. The
conversions between the two columns of the table also work on any text: what the table does not know
passes through unchanged, so that tokens newer than the table still flow from end to end.
-/

namespace RestQuery

/-- A look-up in a table by a name that tells the entries apart finds the entry with this name. -/
theorem find?_name_eq_some_iff {Entry : Type} {entries : List Entry} {name : Entry → String}
    (tellsApart : ∀ entry : Entry, entries.find? (name · = name entry) = some entry)
    {text : String} {entry : Entry} :
    entries.find? (name · = text) = some entry ↔ text = name entry := by
  constructor
  · intro found
    have sameName : name entry = text := by simpa using List.find?_some found
    exact sameName.symm
  · rintro rfl
    exact tellsApart entry

/-- A comparison operator of a field filter. -/
inductive Operator where
  | equal
  | notEqual
  | less
  | lessOrEqual
  | greater
  | greaterOrEqual
  | like
  | notLike
  | between
  | oneOf
  | noneOf
deriving DecidableEq, Repr, Inhabited

namespace Operator

/-- Every operator in the order of the table. -/
def all : List Operator :=
  [.equal, .notEqual, .less, .lessOrEqual, .greater, .greaterOrEqual, .like, .notLike, .between,
    .oneOf, .noneOf]

/-- The spelling used in structured queries. -/
def symbol : Operator → String
  | equal => "="
  | notEqual => "!="
  | less => "<"
  | lessOrEqual => "<="
  | greater => ">"
  | greaterOrEqual => ">="
  | like => "like"
  | notLike => "not like"
  | between => "between"
  | oneOf => "in"
  | noneOf => "not in"

/-- The token used in query strings. -/
def token : Operator → String
  | equal => "eq"
  | notEqual => "!eq"
  | less => "lt"
  | lessOrEqual => "lte"
  | greater => "gt"
  | greaterOrEqual => "gte"
  | like => "like"
  | notLike => "!like"
  | between => "between"
  | oneOf => "in"
  | noneOf => "!in"

/-- The operator with a symbol. -/
def ofSymbol? (symbol : String) : Option Operator :=
  all.find? (·.symbol = symbol)

/-- The operator with a token. -/
def ofToken? (token : String) : Option Operator :=
  all.find? (·.token = token)

/-- The operator that holds exactly when this one does not, where the table has one. -/
def complement? : Operator → Option Operator
  | equal => some notEqual
  | notEqual => some equal
  | less => some greaterOrEqual
  | lessOrEqual => some greater
  | greater => some lessOrEqual
  | greaterOrEqual => some less
  | like => some notLike
  | notLike => some like
  | between => none
  | oneOf => some noneOf
  | noneOf => some oneOf

/-- The operator takes a list of operands. -/
def isList : Operator → Bool
  | oneOf | noneOf => true
  | _ => false

/-- The operator takes a pair of bounds. -/
def isRange : Operator → Bool
  | between => true
  | _ => false

/-- The place of an operator in the table. -/
def index (operator : Operator) : Nat :=
  all.idxOf operator

/-- The token for a symbol; any other text passes through. -/
def tokenOfSymbol (text : String) : String :=
  match ofSymbol? text with
  | some operator => operator.token
  | none => text

/-- The symbol for a token; any other text passes through. -/
def symbolOfToken (text : String) : String :=
  match ofToken? text with
  | some operator => operator.symbol
  | none => text

/-- The token that is compiled for a builder's operator, where `<>` has always been read as `eq`. -/
def compiledToken (text : String) : String :=
  if text = "<>" then "eq" else tokenOfSymbol text

@[simp]
theorem ofSymbol?_symbol (operator : Operator) : ofSymbol? operator.symbol = some operator := by
  cases operator <;> decide

@[simp]
theorem ofToken?_token (operator : Operator) : ofToken? operator.token = some operator := by
  cases operator <;> decide

theorem ofSymbol?_eq_some_iff {symbol : String} {operator : Operator} :
    ofSymbol? symbol = some operator ↔ symbol = operator.symbol :=
  find?_name_eq_some_iff ofSymbol?_symbol

theorem ofSymbol?_eq_none_iff {symbol : String} :
    ofSymbol? symbol = none ↔ ∀ operator : Operator, symbol ≠ operator.symbol := by
  simp only [Option.eq_none_iff_forall_ne_some, ne_eq, ofSymbol?_eq_some_iff]

theorem ofToken?_eq_some_iff {token : String} {operator : Operator} :
    ofToken? token = some operator ↔ token = operator.token :=
  find?_name_eq_some_iff ofToken?_token

theorem ofToken?_eq_none_iff {token : String} :
    ofToken? token = none ↔ ∀ operator : Operator, token ≠ operator.token := by
  simp only [Option.eq_none_iff_forall_ne_some, ne_eq, ofToken?_eq_some_iff]

theorem isRange_of_isList {operator : Operator} (isList : operator.isList = true) :
    operator.isRange = false := by
  cases operator <;> simp [Operator.isList, Operator.isRange] at isList ⊢

theorem isList_of_isRange {operator : Operator} (isRange : operator.isRange = true) :
    operator.isList = false := by
  cases operator <;> simp [Operator.isList, Operator.isRange] at isRange ⊢

end Operator

end RestQuery
