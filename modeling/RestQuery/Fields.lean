/-!
# Fields of records

A record is read by filling one slot for each field that it declares. A field may go by several
names, is given once at most, and one that no name knows is passed over. When all of a record has
been read, a slot that is still free stands for a field that was left out.
-/

namespace RestQuery.Fields

variable {Source Value : Type}

/-- What has been read of each declared field. -/
abbrev Slots (Source : Type) := List (Option Source)

/-- No field has been read. -/
def free (names : List (List String)) : Slots Source :=
  names.map fun _ => none

/-- Puts what stands under a key into the slot of its field, which must be free. -/
def fill? (names : List (List String)) (key : String) (source : Source) (slots : Slots Source) :
    Option (Slots Source) :=
  match names.findIdx? (·.contains key) with
  | none => some slots
  | some index =>
      match slots[index]? with
      | some none => some (slots.set index (some source))
      | _ => none

/-- A field that must be given. -/
def required? (read? : Source → Option Value) (slot : Option Source) : Option Value :=
  slot.bind read?

/-- A field that may be left out. -/
def defaulted? (fallback : Value) (read? : Source → Option Value) (slot : Option Source) :
    Option Value :=
  match slot with
  | none => some fallback
  | some source => read? source

end RestQuery.Fields
