import Mathlib.Data.List.DropRight
import RestQuery.Text.Blank

/-!
# What trimming leaves

Directions and paging values are read from what is left of a text without the blanks around it.
`TrimsTo` says what that is without saying how it is found: the text is blanks, the core and blanks
again, and the core neither begins nor ends with one. `trimsTo_iff` shows that every text has
exactly one core, the one that `trimChars` finds.
-/

namespace RestQuery.Text

/-- The core is what is left of the characters without the blanks at either end. -/
structure TrimsTo (chars core : List Char) : Prop where
  around : ∃ before after, chars = before ++ core ++ after ∧
    (∀ char ∈ before, isBlank char) ∧ ∀ char ∈ after, isBlank char
  begins : ∀ nonempty : core ≠ [], ¬ isBlank (core.head nonempty)
  ends : ∀ nonempty : core ≠ [], ¬ isBlank (core.getLast nonempty)

variable {chars core : List Char}

theorem trimChars_eq_rdropWhile (chars : List Char) :
    trimChars chars = (chars.dropWhile isBlank).rdropWhile isBlank := rfl

theorem dropWhile_isBlank_of_head (nonempty : core ≠ []) (begins : ¬ isBlank (core.head nonempty))
    (after : List Char) : (core ++ after).dropWhile isBlank = core ++ after := by
  rcases core with _ | ⟨first, rest⟩
  · exact absurd rfl nonempty
  · exact List.dropWhile_cons_of_neg begins

theorem trimChars_of_trimsTo (trims : TrimsTo chars core) : trimChars chars = core := by
  rcases trims with ⟨⟨before, after, rfl, beforeBlank, afterBlank⟩, begins, ends⟩
  have afterReversed : ∀ char ∈ after.reverse, isBlank char := by simpa using afterBlank
  rw [trimChars_eq_rdropWhile, List.append_assoc, List.dropWhile_append_of_pos beforeBlank]
  by_cases isEmpty : core = []
  · subst isEmpty
    have noneLeft : after.dropWhile isBlank = [] := List.dropWhile_eq_nil_iff.mpr afterBlank
    rw [List.nil_append, noneLeft, List.rdropWhile_nil]
  · have keptAtEnd : core.rdropWhile isBlank = core := List.rdropWhile_eq_self_iff.mpr ends
    rw [dropWhile_isBlank_of_head isEmpty (begins isEmpty), List.rdropWhile, List.reverse_append,
      List.dropWhile_append_of_pos afterReversed]
    exact keptAtEnd

theorem trimsTo_trimChars (chars : List Char) : TrimsTo chars (trimChars chars) := by
  rw [trimChars_eq_rdropWhile]
  refine ⟨⟨chars.takeWhile isBlank, (chars.dropWhile isBlank).rtakeWhile isBlank, ?_, ?_, ?_⟩,
    ?_, ?_⟩
  · rw [List.append_assoc, List.rdropWhile_append_rtakeWhile, List.takeWhile_append_dropWhile]
  · intro char charMem
    exact List.mem_takeWhile_imp charMem
  · intro char charMem
    exact List.mem_rtakeWhile_imp charMem
  · intro nonempty
    -- The core begins as what is left after the blanks in front.
    have isPrefix := List.rdropWhile_prefix isBlank (chars.dropWhile isBlank)
    have keptNonempty : chars.dropWhile isBlank ≠ [] := isPrefix.ne_nil nonempty
    rw [isPrefix.head nonempty, List.head_dropWhile_not isBlank keptNonempty]
    decide
  · exact List.rdropWhile_last_not isBlank _

/-- Every text has exactly one core. -/
theorem trimsTo_iff : TrimsTo chars core ↔ trimChars chars = core := by
  constructor
  · exact trimChars_of_trimsTo
  · rintro rfl
    exact trimsTo_trimChars chars

end RestQuery.Text
