import RestQuery.Text.Blank

/-!
# Sort keys

A query keeps the direction of an ordering exactly as it was written. It is resolved when the
ordering is applied: `asc` in any case and `1` ascend, and everything else descends.
-/

namespace RestQuery

/-- A sort direction. -/
inductive SortOrder where
  | ascending
  | descending
deriving DecidableEq, Repr, Inhabited

namespace SortOrder

/-- The name of a direction. -/
def name : SortOrder → String
  | ascending => "asc"
  | descending => "desc"

/-- The number that stands for a direction in a request. -/
def sign : SortOrder → Int
  | ascending => 1
  | descending => -1

/-- The written form of `sign`. -/
def signText : SortOrder → String
  | ascending => "1"
  | descending => "-1"

/-- The direction that a token stands for, blanks around it aside. -/
def ofToken (token : String) : SortOrder :=
  let trimmed := Text.trimChars token.toList
  if trimmed = ['1'] ∨ trimmed.map Char.toLower = ['a', 's', 'c'] then ascending else descending

end SortOrder

/-- A sort direction as it was written. -/
structure Direction where
  token : String
deriving DecidableEq, Repr, Inhabited

namespace Direction

/-- The direction that was meant. -/
def resolve (direction : Direction) : SortOrder :=
  .ofToken direction.token

/-- A direction in its numeric form. -/
def ofSortOrder (order : SortOrder) : Direction :=
  ⟨order.signText⟩

end Direction

/-- One ordering of a query. -/
structure SortKey where
  field : String
  direction : Direction
deriving DecidableEq, Repr, Inhabited

namespace SortKey

/-- An ascending ordering. -/
def ascending (field : String) : SortKey :=
  ⟨field, .ofSortOrder .ascending⟩

/-- A descending ordering. -/
def descending (field : String) : SortKey :=
  ⟨field, .ofSortOrder .descending⟩

end SortKey

end RestQuery
