import RestQuery.Text.Percent
import RestQuery.Text.Split

/-!
# Query parameters

The keys and values of a query string, as a multimap that remembers the order in which its keys
were introduced. A key that is given again keeps its place and collects its values.
-/

namespace RestQuery

/-- The values of a key: a single one, or a list. -/
inductive Values where
  | one (value : String)
  | many (values : List String)
deriving DecidableEq, Repr, Inhabited

namespace Values

/-- The values in order. -/
def toList : Values → List String
  | one value => [value]
  | many values => values

/-- The values followed by one more, which makes them a list. -/
def push (value : String) : Values → Values
  | one first => many [first, value]
  | many values => many (values ++ [value])

@[simp]
theorem toList_push (value : String) (values : Values) :
    (values.push value).toList = values.toList ++ [value] := by
  cases values <;> rfl

end Values

/-- The keys of a query with their values, in the order the keys were introduced. -/
structure Parameters where
  entries : List (String × Values)
deriving DecidableEq, Repr

namespace Parameters

/-- No parameters. -/
def empty : Parameters := ⟨[]⟩

instance : Inhabited Parameters := ⟨empty⟩

/-- Changes the values of a key, or introduces it with given values after the other keys. -/
def updateEntry (key : String) (update : Values → Values) (fresh : Values) :
    List (String × Values) → List (String × Values)
  | [] => [(key, fresh)]
  | (other, values) :: rest =>
      if other = key then (other, update values) :: rest
      else (other, values) :: updateEntry key update fresh rest

/-- Sets the values of a key, replacing any that it has. -/
def insert (key : String) (values : Values) (params : Parameters) : Parameters :=
  ⟨updateEntry key (fun _ => values) values params.entries⟩

/-- Adds a value to a key, keeping those that it has. -/
def append (key value : String) (params : Parameters) : Parameters :=
  ⟨updateEntry key (·.push value) (.one value) params.entries⟩

/-- The values of a key. -/
def get? (key : String) (params : Parameters) : Option Values :=
  params.entries.lookup key

/-- The number of keys. -/
def size (params : Parameters) : Nat :=
  params.entries.length

/-- Collects keys and values; repeated keys collect their values. -/
def ofPairs (pairs : List (String × String)) : Parameters :=
  pairs.foldl (fun params (key, value) => params.append key value) empty

end Parameters

/-- The query string without the question mark that may stand in front of it. -/
def dropQuestionMark (raw : String) : String :=
  (Text.dropLeading? '?' raw).getD raw

/-- The keys and values as they are written, cut at the first `=`; empty segments are skipped. -/
def writtenPairs (raw : String) : List (String × String) :=
  ((Text.split '&' (dropQuestionMark raw)).filter (!·.isEmpty)).map fun segment =>
    (Text.cut '=' segment).getD (segment, "")

/-- Decodes a query string into parameters. -/
def Parameters.ofQueryString (raw : String) : Parameters :=
  .ofPairs ((writtenPairs raw).map fun (key, value) => (Percent.decode key, Percent.decode value))

end RestQuery
