import RestQuery.Proofs.Wire.WrittenPairs

/-!
# Decoding before or after reading

A query string can be read as it is written, where values are cut first and their pieces decoded
afterwards, or from parameters that were decoded as a whole. An escaped colon or comma tells the
two apart. Without one, decoding and cutting commute down to every piece, so both give the same
events; only the fragments that are reported as dropped are decoded in one and not in the other.
-/

namespace RestQuery

/-- A value without an escape that stands for a colon or a comma. -/
def LacksCutEscapes (value : String) : Prop :=
  ∀ escape ∈ ["%3A", "%3a", "%2C", "%2c"], ¬ escape.toList <:+: value.toList

instance (value : String) : Decidable (LacksCutEscapes value) :=
  inferInstanceAs (Decidable (∀ escape ∈ ["%3A", "%3a", "%2C", "%2c"],
    ¬ escape.toList <:+: value.toList))

namespace Percent

/-- An escape of a byte whose second digit is a letter is one of two. -/
theorem digits_of_escapedByte? {high low : Char} {code : Nat} (small : code < 160)
    (letter : 10 ≤ code % 16) (escaped : escapedByte? high low = some (UInt8.ofNat code)) :
    high.toNat = code / 16 + 48 ∧ (low.toNat = code % 16 + 55 ∨ low.toNat = code % 16 + 87) := by
  rcases hexValue?_of_escapedByte? (by omega) escaped with ⟨highValue, lowValue⟩
  have highCases := hexValue?_eq_some highValue
  have lowCases := hexValue?_eq_some lowValue
  omega

theorem lacksEscape_colon {value : String} (lacks : LacksCutEscapes value) :
    LacksEscape ':' value.toList := by
  intro high low isPart escaped
  rcases digits_of_escapedByte? (by decide) (by decide) escaped with ⟨isThree, isLetter⟩
  obtain rfl : high = '3' := Char.toNat_inj.mp isThree
  rcases isLetter with isUpper | isLower
  · obtain rfl : low = 'A' := Char.toNat_inj.mp isUpper
    exact lacks "%3A" (by decide) isPart
  · obtain rfl : low = 'a' := Char.toNat_inj.mp isLower
    exact lacks "%3a" (by decide) isPart

theorem lacksEscape_comma {value : String} (lacks : LacksCutEscapes value) :
    LacksEscape ',' value.toList := by
  intro high low isPart escaped
  rcases digits_of_escapedByte? (by decide) (by decide) escaped with ⟨isTwo, isLetter⟩
  obtain rfl : high = '2' := Char.toNat_inj.mp isTwo
  rcases isLetter with isUpper | isLower
  · obtain rfl : low = 'C' := Char.toNat_inj.mp isUpper
    exact lacks "%2C" (by decide) isPart
  · obtain rfl : low = 'c' := Char.toNat_inj.mp isLower
    exact lacks "%2c" (by decide) isPart

end Percent

namespace LacksCutEscapes

variable {value : String}

theorem of_isInfix {part : String} (lacks : LacksCutEscapes value)
    (isPart : part.toList <:+: value.toList) : LacksCutEscapes part :=
  fun escape escapeMem inPart => lacks escape escapeMem (inPart.trans isPart)

theorem cut_decode (lacks : LacksCutEscapes value) :
    Text.cut ':' (Percent.decode value) =
      (Text.cut ':' value).map fun (before, after) =>
        (Percent.decode before, Percent.decode after) :=
  Percent.cut_decode Percent.isSeparator_colon (by decide) (Percent.lacksEscape_colon lacks)

theorem split_colon_decode (lacks : LacksCutEscapes value) :
    Text.split ':' (Percent.decode value) = (Text.split ':' value).map Percent.decode :=
  Percent.split_decode Percent.isSeparator_colon (by decide) (Percent.lacksEscape_colon lacks)

theorem split_comma_decode (lacks : LacksCutEscapes value) :
    Text.split ',' (Percent.decode value) = (Text.split ',' value).map Percent.decode :=
  Percent.split_decode Percent.isSeparator_comma (by decide) (Percent.lacksEscape_comma lacks)

end LacksCutEscapes

def DroppedFragment.decoded (dropped : DroppedFragment) : DroppedFragment :=
  { dropped with fragment := Percent.decode dropped.fragment }

/-- The event that is met when values have been decoded before they are read. -/
def Event.decoded : Event → Event
  | .drop fragment => .drop fragment.decoded
  | event => event

theorem readOperand_decode {raw : String} (lacks : LacksCutEscapes raw) (operator : Operator) :
    readOperand .plain operator (Percent.decode raw) = readOperand .written operator raw := by
  unfold readOperand
  rw [lacks.split_comma_decode, List.map_map]
  split
  · rfl
  · split
    · rcases Text.split ',' raw with _ | ⟨low, _ | ⟨high, _ | ⟨third, more⟩⟩⟩ <;>
        simp [ValueForm.text]
    · rfl

theorem readCondition_decode {condition : String} (lacks : LacksCutEscapes condition) :
    readCondition .plain (Percent.decode condition) = readCondition .written condition := by
  unfold readCondition
  rw [lacks.cut_decode]
  cases isCut : Text.cut ':' condition with
  | none => rfl
  | some parts =>
      rcases parts with ⟨token, raw⟩
      have rawLacks := lacks.of_isInfix (Text.isSuffix_of_cut isCut).isInfix
      simp only [Option.map_some, ValueForm.text]
      cases Operator.ofToken? (Percent.decode token) with
      | none => rfl
      | some operator => simp only [readOperand_decode rawLacks]

theorem conditionEvents_decode {condition : String} (lacks : LacksCutEscapes condition)
    (field : String) :
    conditionEvents .plain field (Percent.decode condition) =
      (conditionEvents .written field condition).map Event.decoded := by
  unfold conditionEvents
  rw [readCondition_decode lacks]
  cases readCondition .written condition with
  | error reason => rfl
  | ok read =>
      rcases read with ⟨operator, operand⟩
      cases built : FieldFilter.build field operator operand <;> simp [built, Event.decoded]

theorem orderEvent_decode {segment : String} (lacks : LacksCutEscapes segment) (key : String) :
    orderEvent .plain key (Percent.decode segment) =
      (orderEvent .written key segment).decoded := by
  unfold orderEvent
  rw [lacks.split_colon_decode]
  rcases Text.split ':' segment with _ | ⟨field, _ | ⟨direction, more⟩⟩ <;> rfl

theorem directiveEvents_decode {value : String} (lacks : LacksCutEscapes value)
    (key name : String) :
    directiveEvents .plain key name (Percent.decode value) =
      (directiveEvents .written key name value).map Event.decoded := by
  have sameText : ValueForm.text .plain ∘ Percent.decode = ValueForm.text .written := rfl
  unfold directiveEvents
  rw [lacks.split_comma_decode]
  split
  · rw [List.map_map, List.map_map]
    apply List.map_congr_left
    intro segment segmentMem
    have segmentLacks := lacks.of_isInfix (Text.isInfix_of_mem_split segmentMem)
    rw [Function.comp_apply, Function.comp_apply, orderEvent_decode segmentLacks]
  · split
    · rw [List.map_map, sameText]
      rfl
    · cases DirectiveKind.ofName? name <;> rfl

/-- Values that were decoded first give the same events, up to how a dropped fragment is shown. -/
theorem pairEvents_decode {value : String} (lacks : LacksCutEscapes value) (key : String) :
    pairEvents .plain key (Percent.decode value) =
      (pairEvents .written key value).map Event.decoded := by
  unfold pairEvents
  cases directiveName? key with
  | none => exact conditionEvents_decode lacks key
  | some name => exact directiveEvents_decode lacks key name

theorem map_decoded_markEvents (key : String) :
    (markEvents key).map Event.decoded = markEvents key := by
  unfold markEvents
  cases Text.dropLeading? '!' key <;> rfl

theorem ofQueryString_eq (raw : String) :
    Parameters.ofQueryString raw =
      .ofPairs ((decodedPairs raw).map fun pair => (pair.1, Percent.decode pair.2)) := by
  rw [Parameters.ofQueryString, decodedPairs, List.map_map]
  rfl

theorem givenFor_map_decode (key : String) (pairs : List (String × String)) :
    givenFor key (pairs.map fun pair => (pair.1, Percent.decode pair.2)) =
      (givenFor key pairs).map Percent.decode := by
  rw [givenFor, givenFor, List.filter_map, List.map_map, List.map_map]
  rfl

theorem events_decode {pairs : List (String × String)}
    (lacks : ∀ pair ∈ pairs, LacksCutEscapes pair.2) :
    (Parameters.ofPairs (pairs.map fun pair => (pair.1, Percent.decode pair.2))).events .plain =
      ((Parameters.ofPairs pairs).events .written).map Event.decoded := by
  have sameKeys : (pairs.map fun pair => (pair.1, Percent.decode pair.2)).map Prod.fst =
      pairs.map Prod.fst := by
    rw [List.map_map]
    rfl
  rw [Parameters.events_ofPairs, Parameters.events_ofPairs, sameKeys, List.map_flatMap]
  apply List.flatMap_congr
  intro key _
  rw [List.map_append, map_decoded_markEvents, givenFor_map_decode, List.flatMap_map,
    List.map_flatMap]
  congr 1
  apply List.flatMap_congr
  intro value valueMem
  rcases List.mem_map.mp valueMem with ⟨pair, pairMem, rfl⟩
  exact pairEvents_decode (lacks pair (List.mem_of_mem_filter pairMem)) (bareKey key)

/-- Decoded events have the same outcome, with decoded fragments. -/
theorem Parsed.ofEvents_map_decoded (events : List Event) :
    Parsed.ofEvents (events.map Event.decoded) =
      { Parsed.ofEvents events with
        dropped := (Parsed.ofEvents events).dropped.map DroppedFragment.decoded } := by
  have sameSelection {Selected : Type} {select : Event → Option Selected}
      (noDrop : ∀ fragment, select (.drop fragment) = none) :
      (events.map Event.decoded).filterMap select = events.filterMap select := by
    rw [List.filterMap_map]
    apply List.filterMap_congr
    intro event _
    cases event with
    | drop fragment => rw [Function.comp_apply, Event.decoded, noDrop, noDrop]
    | _ => rfl
  have droppedDecoded : (events.map Event.decoded).filterMap Event.dropped? =
      (events.filterMap Event.dropped?).map DroppedFragment.decoded := by
    rw [List.filterMap_map, List.map_filterMap]
    apply List.filterMap_congr
    intro event _
    cases event <;> rfl
  have noFilter : ∀ fragment, Event.filter? (.drop fragment) = none := fun _ => rfl
  have noOrder : ∀ fragment, Event.order? (.drop fragment) = none := fun _ => rfl
  have noProjection : ∀ fragment, Event.projection? (.drop fragment) = none := fun _ => rfl
  have noDirective : ∀ fragment, Event.directive? (.drop fragment) = none := fun _ => rfl
  have noKey : ∀ fragment, Event.negatedKey? (.drop fragment) = none := fun _ => rfl
  rw [ofEvents_eq, ofEvents_eq, droppedDecoded, sameSelection noFilter, sameSelection noOrder,
    sameSelection noProjection, sameSelection noDirective, sameSelection noKey]

/-- Without escaped colons and commas it does not matter when values are decoded. -/
theorem parse_ofQueryString {raw : String}
    (lacks : ∀ pair ∈ writtenPairs raw, LacksCutEscapes pair.2) :
    (Parameters.ofQueryString raw).parse =
      { parseQueryString raw with
        dropped := (parseQueryString raw).dropped.map DroppedFragment.decoded } := by
  have lacksDecoded : ∀ pair ∈ decodedPairs raw, LacksCutEscapes pair.2 := by
    intro pair pairMem
    rcases List.mem_map.mp pairMem with ⟨written, writtenMem, rfl⟩
    exact lacks written writtenMem
  rw [Parameters.parse, ofQueryString_eq, events_decode lacksDecoded,
    Parsed.ofEvents_map_decoded, ← parseQueryString_eq]

/-- Broken and truncated escapes next to the separators of a list, an ordering and a condition. -/
def brokenEscapes : String :=
  "a=in:%2,%C3,b%&_orderBy=%2:1,x&c=+%ZZ"

theorem lacksCutEscapes_brokenEscapes :
    ∀ pair ∈ writtenPairs brokenEscapes, LacksCutEscapes pair.2 := by
  decide +kernel

theorem parse_ofQueryString_brokenEscapes :
    (∀ pair ∈ writtenPairs brokenEscapes, LacksCutEscapes pair.2) ∧
      (Parameters.ofQueryString brokenEscapes).parse =
        { parseQueryString brokenEscapes with
          dropped := (parseQueryString brokenEscapes).dropped.map DroppedFragment.decoded } :=
  ⟨lacksCutEscapes_brokenEscapes, parse_ofQueryString lacksCutEscapes_brokenEscapes⟩

end RestQuery
