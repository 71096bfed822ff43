import RestQuery.Fields
import RestQuery.Json.Tree

/-!
# Values and records from JSON

The second step of reading JSON. `Tree.toJson?` takes the whole tree for a value: of repeated keys
the last one wins, and containers nest at most 127 deep. `Tree.fields?` takes a tree for a record of
known fields, written as an object or as a list in the order of declaration; a known field may be
given once only, and unknown ones are passed over.
-/

namespace RestQuery.Json

/-- The first unit of a surrogate pair. -/
def isHighSurrogate (unit : Nat) : Bool :=
  0xD800 ≤ unit && unit < 0xDC00

/-- The second unit of a surrogate pair. -/
def isLowSurrogate (unit : Nat) : Bool :=
  0xDC00 ≤ unit && unit < 0xE000

/-- The character of a surrogate pair. -/
def pairChar (high low : Nat) : Char :=
  Char.ofNat (0x10000 + (high - 0xD800) * 0x400 + (low - 0xDC00))

/-- The characters of a written string; surrogates come in pairs. -/
def decodeParts : List Part → Option (List Char)
  | [] => some []
  | .char char :: rest => (decodeParts rest).map (char :: ·)
  | .unit high :: .unit low :: rest =>
      if isHighSurrogate high then
        if isLowSurrogate low then (decodeParts rest).map (pairChar high low :: ·) else none
      else if isLowSurrogate high then none
      else (decodeParts (.unit low :: rest)).map (Char.ofNat high :: ·)
  | .unit unit :: rest =>
      if isHighSurrogate unit || isLowSurrogate unit then none
      else (decodeParts rest).map (Char.ofNat unit :: ·)

/-- The text of a written string. -/
def partsText? (parts : List Part) : Option String :=
  (decodeParts parts).map String.ofList

/--
The value of a number: an integer from `-2 ^ 63` to `2 ^ 64 - 1` as such, any other as a double. The
integer `-0` is the negative zero among the doubles.
-/
def ofNumeral? (numeral : Numeral) : Option Json :=
  let magnitude := digitsValue numeral.whole
  if numeral.isWhole && !numeral.negative && magnitude < UInt64.size then some (.int magnitude)
  else if numeral.isWhole && numeral.negative && 0 < magnitude &&
      Int64.minValue.toInt ≤ -magnitude then
    some (.int (-magnitude))
  else (Double.ofNumeral? numeral).map .float

namespace Tree

mutual

/-- The value of a tree whose containers nest at most `levels` deep. -/
def toJson? (levels : Nat) : Tree → Option Json
  | .null => some .null
  | .bool value => some (.bool value)
  | .number numeral => ofNumeral? numeral
  | .text parts => (partsText? parts).map .text
  | .list items =>
      match levels with
      | 0 => none
      | levels + 1 => (itemsToJson? levels items).map .list
  | .record fields =>
      match levels with
      | 0 => none
      | levels + 1 => (fieldsToJson? levels [] fields).map .object

/-- The values of the items of a list. -/
def itemsToJson? (levels : Nat) : List Tree → Option (List Json)
  | [] => some []
  | item :: rest =>
      match toJson? levels item with
      | none => none
      | some value => (itemsToJson? levels rest).map (value :: ·)

/-- The fields of an object, put into those that came before them. -/
def fieldsToJson? (levels : Nat) (present : List (String × Json)) :
    List (List Part × Tree) → Option (List (String × Json))
  | [] => some present
  | (key, tree) :: rest =>
      match partsText? key, toJson? levels tree with
      | some key, some value => fieldsToJson? levels (insertField key value present) rest
      | _, _ => none

end

/-- The text of a tree that is a string. -/
def text? : Tree → Option String
  | .text parts => partsText? parts
  | _ => none

/-- The items of a tree that is a list. -/
def items? : Tree → Option (List Tree)
  | .list items => some items
  | _ => none

/-- A tree that is a truth value. -/
def bool? : Tree → Option Bool
  | .bool value => some value
  | _ => none

/-- The values of a list whose items can all be read. -/
def listOf? {Value : Type} (read? : Tree → Option Value) (tree : Tree) : Option (List Value) :=
  tree.items?.bind (·.mapM read?)

/-- A value, or none for `null`. -/
def optionOf? {Value : Type} (read? : Tree → Option Value) : Tree → Option (Option Value)
  | .null => some none
  | tree => (read? tree).map some

/--
The fields of a record in the order of their declaration, each with the names that it goes by. A
field that is not given is none.
-/
def fields? (names : List (List String)) : Tree → Option (Fields.Slots Tree)
  | .record fields =>
      fields.foldlM
        (fun slots (key, value) =>
          (partsText? key).bind fun key => Fields.fill? names key value slots)
        (Fields.free names)
  | .list items =>
      if items.length ≤ names.length then
        some (items.map some ++ List.replicate (names.length - items.length) none)
      else none
  | _ => none

/-- The name of an alternative without content: a string, or an object that gives it `null`. -/
def unitName? : Tree → Option String
  | .text parts => partsText? parts
  | .record [(key, .null)] => partsText? key
  | _ => none

/-- The name of an alternative and its content: an object with a single key. -/
def variant? : Tree → Option (String × Tree)
  | .record [(key, content)] => (partsText? key).map fun name => (name, content)
  | _ => none

end Tree

/-- The greatest depth of nested containers in a value. -/
def maxDepth : Nat := 127

/-- Reads a text as a value. -/
def read? (text : String) : Option Json :=
  (Tree.ofText? text).bind (·.toJson? maxDepth)

end RestQuery.Json
