/-!
# Cutting and joining text

The wire grammar is made of pieces between separators: segments between `&`, a key before the
first `=`, list members between commas. Each rule is stated once on lists of characters, where
it is a plain recursion, and lifted to `String`.

A split never loses anything: joining the pieces with the separator gives the text back, so the
number of pieces is one more than the number of separators. In particular the empty text has one
piece, which is empty.
-/

namespace RestQuery.Text

/-- The pieces between the occurrences of a separator. -/
def splitChars (separator : Char) : List Char → List (List Char)
  | [] => [[]]
  | char :: rest =>
      if char = separator then [] :: splitChars separator rest
      else
        match splitChars separator rest with
        | [] => [[char]]
        | piece :: pieces => (char :: piece) :: pieces

/-- What stands before and after the first occurrence of a separator. -/
def cutChars (separator : Char) : List Char → Option (List Char × List Char)
  | [] => none
  | char :: rest =>
      if char = separator then some ([], rest)
      else (cutChars separator rest).map fun (before, after) => (char :: before, after)

/-- The pieces with a separator between neighbours. -/
def joinChars (separator : Char) : List (List Char) → List Char
  | [] => []
  | [piece] => piece
  | piece :: next :: rest => piece ++ separator :: joinChars separator (next :: rest)

/-- The pieces of a text between the occurrences of a separator. -/
def split (separator : Char) (text : String) : List String :=
  (splitChars separator text.toList).map String.ofList

/-- What stands before and after the first occurrence of a separator in a text. -/
def cut (separator : Char) (text : String) : Option (String × String) :=
  (cutChars separator text.toList).map fun (before, after) =>
    (String.ofList before, String.ofList after)

/-- The pieces with a separator between neighbours, as one text. -/
def join (separator : Char) (pieces : List String) : String :=
  String.ofList (joinChars separator (pieces.map String.toList))

/-- The text without a leading character, if it starts with that character. -/
def dropLeading? (char : Char) (text : String) : Option String :=
  match text.toList with
  | [] => none
  | first :: rest => if first = char then some (String.ofList rest) else none

/-- The text without a leading part, if it starts with that part. -/
def dropStart? (start : String) (text : String) : Option String :=
  if start.toList.isPrefixOf text.toList then
    some (String.ofList (text.toList.drop start.length))
  else none

theorem splitChars_ne_nil (separator : Char) (chars : List Char) :
    splitChars separator chars ≠ [] := by
  cases chars with
  | nil => simp [splitChars]
  | cons char rest =>
      simp only [splitChars]
      split
      · simp
      · split <;> simp

@[simp]
theorem joinChars_splitChars (separator : Char) (chars : List Char) :
    joinChars separator (splitChars separator chars) = chars := by
  induction chars with
  | nil => rfl
  | cons char rest ih =>
      rw [splitChars]
      split
      · rename_i isSeparator
        cases pieces : splitChars separator rest with
        | nil => exact absurd pieces (splitChars_ne_nil separator rest)
        | cons piece more =>
            rw [pieces] at ih
            simp [joinChars, ih, isSeparator]
      · cases pieces : splitChars separator rest with
        | nil => exact absurd pieces (splitChars_ne_nil separator rest)
        | cons piece more =>
            rw [pieces] at ih
            cases more with
            | nil =>
                simp only [joinChars] at ih
                simp [joinChars, ih]
            | cons next others =>
                simp only [joinChars] at ih
                simp [joinChars, ih]

end RestQuery.Text
