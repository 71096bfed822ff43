import RestQuery.Text.Blank
import RestQuery.Text.CaseTable

/-!
# Lower-case text

Directive names are matched in lower case. The rule is Unicode's full lower-casing without any
language's exceptions: a character goes to its lower-case letter, capital I with a dot above goes
to two characters, and capital sigma takes its final form at the end of a word.
-/

namespace RestQuery.Text

/-- The lower-case form of a character regardless of its neighbours. -/
def lowerChar (char : Char) : List Char :=
  if char.toNat < 0x80 then [char.toLower]
  else if char = '\u0130' then ['i', '\u0307']
  else
    match lowerRuns.findSome? (·.map? char.toNat) with
    | some code => [Char.ofNat code]
    | none => [char]

/-- The nearest character that is not passed over has case. -/
def reachesCased (chars : List Char) : Bool :=
  match chars.dropWhile (fun char => inRanges caseIgnorableRanges char.toNat) with
  | [] => false
  | char :: _ => inRanges casedRanges char.toNat

/-- The small sigma between the characters before it, nearest first, and those after it. -/
def lowerSigma (before after : List Char) : Char :=
  if reachesCased before && !reachesCased after then 'ς' else 'σ'

/-- The lower-case form of characters that follow others, which are given nearest first. -/
def lowerFrom (before : List Char) : List Char → List Char
  | [] => []
  | char :: rest =>
      (if char = 'Σ' then [lowerSigma before rest] else lowerChar char) ++
        lowerFrom (char :: before) rest

/-- The lower-case form of a text. -/
def lowercase (text : String) : String :=
  String.ofList (lowerFrom [] text.toList)

end RestQuery.Text
