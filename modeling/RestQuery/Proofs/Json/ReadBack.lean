import RestQuery.Json.Printer
import RestQuery.Json.Reader
import RestQuery.Proofs.Decimal.WrittenDoubles

/-!
# Written values are read back

`Json.toTree` is the tree of a value as it is written. The compact and the indented form both read
back as it, whatever the value: `Tree.ofText?_render` and `Tree.ofText?_renderPretty`. Only NaN and
the infinities lose anything by that, since they are written as `null`.

A text that is read for a tree is so whatever stands behind it, as long as a number does not go on
there; `Reads` says this together with the fuel that is enough, and is closed under the forms of
lists and records.
-/

namespace RestQuery.Json

/-- The part that a character of a written string is read as. -/
def Part.ofChar (char : Char) : Part :=
  if char.toNat < 0x20 ∧ char ∉ ['\n', '\r', '\t', '\x08', '\x0c'] then .unit char.toNat
  else .char char

def textParts (text : String) : List Part :=
  text.toList.map Part.ofChar

theorem decodeParts_ofChar (char : Char) (parts : List Part) :
    decodeParts (.ofChar char :: parts) = (decodeParts parts).map (char :: ·) := by
  unfold Part.ofChar
  split
  · rename_i control
    have notHigh : isHighSurrogate char.toNat = false := by
      simp only [isHighSurrogate, Bool.and_eq_false_iff, decide_eq_false_iff_not]
      omega
    have notLow : isLowSurrogate char.toNat = false := by
      simp only [isLowSurrogate, Bool.and_eq_false_iff, decide_eq_false_iff_not]
      omega
    rcases parts with _ | ⟨_ | low, rest⟩ <;>
      simp [decodeParts, notHigh, notLow, Char.ofNat_toNat]
  · rfl

@[simp]
theorem partsText?_textParts (text : String) : partsText? (textParts text) = some text := by
  have decoded : ∀ chars : List Char, decodeParts (chars.map Part.ofChar) = some chars := by
    intro chars
    induction chars with
    | nil => rfl
    | cons char rest ih => rw [List.map_cons, decodeParts_ofChar, ih, Option.map_some]
  rw [partsText?, textParts, decoded, Option.map_some, String.ofList_toList]

theorem textParts_inj {left right : String} (same : textParts left = textParts right) :
    left = right := by
  have sameText := congrArg partsText? same
  rw [partsText?_textParts, partsText?_textParts] at sameText
  exact Option.some.inj sameText

theorem readParts_quote (rest : List Char) : readParts ('"' :: rest) = some ([], rest) := by
  rw [readParts.eq_def]
  rfl

theorem readParts_plain {char : Char} (notQuote : char ≠ '"') (notBackslash : char ≠ '\\')
    (notControl : ¬char.toNat < 0x20) (rest : List Char) :
    readParts (char :: rest) = prepend (.char char) (readParts rest) := by
  rw [readParts.eq_def]
  simp only [notQuote, notBackslash, notControl, ↓reduceIte]

theorem readParts_letter {letter char : Char} (notUnit : letter ≠ 'u')
    (escapes : unescape? letter = some char) (rest : List Char) :
    readParts ('\\' :: letter :: rest) = prepend (.char char) (readParts rest) := by
  rw [readParts.eq_def]
  simp [notUnit, escapes]

theorem readParts_unit {first second third fourth : Char} {unit : Nat}
    (isUnit : codeUnit? first second third fourth = some unit) (rest : List Char) :
    readParts ('\\' :: 'u' :: first :: second :: third :: fourth :: rest) =
      prepend (.unit unit) (readParts rest) := by
  rw [readParts.eq_def]
  simp [isUnit]

theorem codeUnit?_control {code : Nat} (control : code < 0x20) :
    codeUnit? '0' '0' (Text.lowerHexDigit (code / 16)) (Text.lowerHexDigit (code % 16)) =
      some code := by
  have high := Text.hexValue?_lowerHexDigit (code / 16) (by omega)
  have low := Text.hexValue?_lowerHexDigit (code % 16) (by omega)
  have zero : Text.hexValue? 48 = some 0 := rfl
  have restored : code / 16 * 16 + code % 16 = code := by omega
  simp [codeUnit?, high, low, zero, restored]

/-- Each character is read back, as the part that it is written for. -/
theorem readParts_escapeChar (char : Char) (rest : List Char) :
    readParts (escapeChar char ++ rest) = prepend (.ofChar char) (readParts rest) := by
  by_cases special : char ∈ ['"', '\\', '\n', '\r', '\t', '\x08', '\x0c']
  · simp only [List.mem_cons, List.not_mem_nil, or_false] at special
    rcases special with rfl | rfl | rfl | rfl | rfl | rfl | rfl <;>
      exact readParts_letter (by decide) rfl rest
  · simp only [List.mem_cons, List.not_mem_nil, or_false, not_or] at special
    rcases special with ⟨quote, backslash, newline, return', tab, backspace, formFeed⟩
    by_cases control : char.toNat < 0x20
    · have isUnit : Part.ofChar char = .unit char.toNat := by
        simp [Part.ofChar, control, newline, return', tab, backspace, formFeed]
      have escaped : escapeChar char = ['\\', 'u', '0', '0',
          Text.lowerHexDigit (char.toNat / 16), Text.lowerHexDigit (char.toNat % 16)] := by
        simp [escapeChar, control, quote, backslash, newline, return', tab, backspace, formFeed]
      rw [isUnit, escaped]
      exact readParts_unit (codeUnit?_control control) rest
    · have isChar : Part.ofChar char = .char char := by
        simp [Part.ofChar, control]
      have escaped : escapeChar char = [char] := by
        simp [escapeChar, control, quote, backslash, newline, return', tab, backspace, formFeed]
      rw [isChar, escaped]
      exact readParts_plain quote backslash control rest

theorem readParts_escaped (chars rest : List Char) :
    readParts (chars.flatMap escapeChar ++ '"' :: rest) = some (chars.map Part.ofChar, rest) := by
  induction chars with
  | nil => exact readParts_quote rest
  | cons char more ih =>
      rw [List.flatMap_cons, List.append_assoc, readParts_escapeChar, ih]
      rfl

mutual

/-- The tree of a value as it is written. -/
def toTree : Json → Tree
  | .null => .null
  | .bool value => .bool value
  | .int value => .number (.ofInt value)
  | .float value =>
      match value.numeral? with
      | some numeral => .number numeral
      | none => .null
  | .text value => .text (textParts value)
  | .list items => .list (itemTrees items)
  | .object fields => .record (fieldTrees fields)

def itemTrees : List Json → List Tree
  | [] => []
  | item :: rest => item.toTree :: itemTrees rest

def fieldTrees : List (String × Json) → List (List Part × Tree)
  | [] => []
  | (key, value) :: rest => (textParts key, value.toTree) :: fieldTrees rest

end

theorem itemTrees_eq_map (items : List Json) : itemTrees items = items.map toTree := by
  induction items with
  | nil => rfl
  | cons item rest ih => rw [itemTrees, ih, List.map_cons]

/-- Nothing but blanks, which may stand between any two tokens. -/
def IsBlanks (chars : List Char) : Prop :=
  ∀ char ∈ chars, char = ' ' ∨ char = '\n' ∨ char = '\t' ∨ char = '\r'

theorem isBlanks_nil : IsBlanks [] := by
  simp [IsBlanks]

theorem isBlanks_space : IsBlanks [' '] := by
  simp [IsBlanks]

theorem skipBlanks_append {blanks : List Char} (isBlanks : IsBlanks blanks) (rest : List Char) :
    skipBlanks (blanks ++ rest) = skipBlanks rest := by
  apply List.dropWhile_append_of_pos
  intro char charMem
  rcases isBlanks char charMem with rfl | rfl | rfl | rfl <;> rfl

theorem skipBlanks_cons {char : Char}
    (notBlank : char ≠ ' ' ∧ char ≠ '\n' ∧ char ≠ '\t' ∧ char ≠ '\r') (rest : List Char) :
    skipBlanks (char :: rest) = char :: rest := by
  simp [skipBlanks, notBlank]

theorem skipBlanks_append_cons {blanks : List Char} (isBlanks : IsBlanks blanks) {char : Char}
    (notBlank : char ≠ ' ' ∧ char ≠ '\n' ∧ char ≠ '\t' ∧ char ≠ '\r') (rest : List Char) :
    skipBlanks (blanks ++ char :: rest) = char :: rest := by
  rw [skipBlanks_append isBlanks, skipBlanks_cons notBlank]

theorem endsNumber_blanks {blanks : List Char} (isBlanks : IsBlanks blanks) {rest : List Char}
    (ends : EndsNumber rest) : EndsNumber (blanks ++ rest) := by
  rcases blanks with _ | ⟨blank, more⟩
  · exact ends
  · apply endsNumber_cons
    rcases isBlanks blank List.mem_cons_self with rfl | rfl | rfl | rfl <;> decide

theorem readWord?_append (word : String) (rest : List Char) :
    readWord? word (word.toList ++ rest) = some rest := by
  have isStart : word.toList.isPrefixOf (word.toList ++ rest) = true :=
    List.isPrefixOf_iff_prefix.mpr (List.prefix_append _ _)
  rw [readWord?, if_pos isStart, ← String.length_toList, List.drop_left]

/-- The reader takes the text for the tree and leaves what stands behind it. -/
def Reads (text : List Char) (tree : Tree) : Prop :=
  ∀ (rest : List Char) (fuel : Nat), text.length < fuel → EndsNumber rest →
    readTree fuel (text ++ rest) = some (tree, rest)

/-- A key, a colon and a text that is read for the value, with blanks in front of both. -/
inductive ReadsField : List Char → List Part × Tree → Prop where
  | mk {blanks : List Char} (isBlanks : IsBlanks blanks) (key : String) {text : List Char}
      {tree : Tree} (value : Reads text tree) :
      ReadsField (blanks ++ (quoteChars key.toList ++ ':' :: text)) (textParts key, tree)

theorem ReadsField.ofBlanks {blanks text : List Char} {field : List Part × Tree}
    (isBlanks : IsBlanks blanks) (isField : ReadsField text field) :
    ReadsField (blanks ++ text) field := by
  rcases isField with ⟨innerBlanks, key, value⟩
  rw [← List.append_assoc]
  refine .mk ?_ key value
  intro char charMem
  rcases List.mem_append.mp charMem with inOuter | inInner
  · exact isBlanks char inOuter
  · exact innerBlanks char inInner

namespace Reads

variable {text : List Char} {tree : Tree}

theorem ofBlanks {blanks : List Char} (isBlanks : IsBlanks blanks) (reads : Reads text tree) :
    Reads (blanks ++ text) tree := by
  intro rest fuel enough ends
  rw [List.length_append] at enough
  have read := reads _ _ (by omega : text.length < fuel) ends
  cases fuel with
  | zero => omega
  | succ fuel =>
      rw [readTree, List.append_assoc, skipBlanks_append isBlanks]
      rwa [readTree] at read

theorem ofNull : Reads ['n', 'u', 'l', 'l'] .null := by
  intro rest fuel enough _
  have read := readWord?_append "ull" rest
  cases fuel with
  | zero => simp at enough
  | succ fuel =>
      rw [readTree, List.cons_append, skipBlanks_cons (by decide)]
      exact congrArg (Option.map fun rest => (Tree.null, rest)) read

theorem ofBool (value : Bool) : Reads (chars (.bool value)) (.bool value) := by
  intro rest fuel enough _
  have readTrue := readWord?_append "rue" rest
  have readFalse := readWord?_append "alse" rest
  cases fuel with
  | zero => omega
  | succ fuel =>
      cases value with
      | true =>
          rw [readTree, chars, List.cons_append, skipBlanks_cons (by decide)]
          exact congrArg (Option.map fun rest => (Tree.bool true, rest)) readTrue
      | false =>
          rw [readTree, chars, List.cons_append, skipBlanks_cons (by decide)]
          exact congrArg (Option.map fun rest => (Tree.bool false, rest)) readFalse

theorem ofText (value : String) : Reads (quoteChars value.toList) (.text (textParts value)) := by
  intro rest fuel enough _
  have read := readParts_escaped value.toList rest
  cases fuel with
  | zero => simp at enough
  | succ fuel =>
      rw [quoteChars, List.cons_append, List.cons_append, readTree, skipBlanks_cons (by decide)]
      simp [read, textParts]

theorem ofNumeral {numeral : Numeral} (writable : numeral.IsWritable) :
    Reads numeral.chars (.number numeral) := by
  intro rest fuel enough ends
  rcases numeral.exists_chars_eq_cons writable with ⟨first, more, starts, isStart⟩
  have read := readNumeral?_chars writable ends
  have notOther : (first ≠ ' ' ∧ first ≠ '\n' ∧ first ≠ '\t' ∧ first ≠ '\r') ∧ first ≠ '"' ∧
      first ≠ '[' ∧ first ≠ '{' ∧ first ≠ 'n' ∧ first ≠ 't' ∧ first ≠ 'f' := by
    refine ⟨⟨?_, ?_, ?_, ?_⟩, ?_, ?_, ?_, ?_, ?_, ?_⟩ <;>
      (rintro rfl; rcases isStart with isStart | isStart <;> exact absurd isStart (by decide))
  cases fuel with
  | zero => omega
  | succ fuel =>
      rw [starts, List.cons_append] at read ⊢
      rw [readTree, skipBlanks_cons notOther.1]
      simp [notOther, read]

end Reads

/--
A reader of items that are separated by commas, up to the closing character. It needs an item, so
the character does not close where it starts.
-/
structure ReadsSequence {Item : Type} (closing : Char) (ReadsItem : List Char → Item → Prop)
    (read : Nat → List Char → Option (List Item × List Char)) : Prop where
  last : ∀ {text blanks : List Char} {item : Item} {fuel : Nat}, ReadsItem text item →
    text.length < fuel → IsBlanks blanks → ∀ rest,
      read (fuel + 1) (text ++ (blanks ++ closing :: rest)) = some ([item], rest)
  next : ∀ {text more rest : List Char} {item : Item} {items : List Item} {fuel : Nat},
    ReadsItem text item → text.length < fuel → read fuel more = some (items, rest) →
      read (fuel + 1) (text ++ ',' :: more) = some (item :: items, rest)
  nonempty : ∀ {chars rest : List Char}, skipBlanks chars = closing :: rest → ∀ fuel,
    read fuel chars = none

theorem readsSequence_items : ReadsSequence ']' Reads readItems where
  last := by
    intro text blanks item fuel reads enough isBlanks rest
    have itemRead := reads (blanks ++ ']' :: rest) _ enough
      (endsNumber_blanks isBlanks (endsNumber_cons (by decide)))
    have closes := skipBlanks_append_cons isBlanks (by decide : ']' ≠ ' ' ∧ _) rest
    simp only [readItems, itemRead, closes]
  next := by
    intro text more rest item items fuel reads enough moreRead
    have itemRead := reads (',' :: more) _ enough (endsNumber_cons (by decide))
    have separates := skipBlanks_cons (by decide : ',' ≠ ' ' ∧ _) more
    simp only [readItems, itemRead, separates, moreRead, Option.map_some]
  nonempty := by
    intro chars rest closes fuel
    rcases fuel with _ | _ | fuel <;>
      simp [readItems, readTree, closes, readNumeral?, readDigits?]

/-- What the reader of fields meets at a field: its key in quotes, a colon and its value. -/
theorem ReadsField.exists_value {text : List Char} {field : List Part × Tree}
    (isField : ReadsField text field) :
    ∃ value : List Char, value.length ≤ text.length ∧ Reads value field.2 ∧
      ∀ rest, ∃ key, skipBlanks (text ++ rest) = '"' :: key ∧
        readParts key = some (field.1, ':' :: (value ++ rest)) := by
  rcases isField with ⟨isBlanks, key, reads⟩
  rename_i blanks value tree
  refine ⟨value, by simp; omega, reads, fun rest => ?_⟩
  refine ⟨key.toList.flatMap escapeChar ++ '"' :: ':' :: (value ++ rest), ?_,
    readParts_escaped key.toList _⟩
  rw [← skipBlanks_append_cons isBlanks (by decide : '"' ≠ ' ' ∧ _)]
  simp [quoteChars]

theorem readsSequence_fields : ReadsSequence '}' ReadsField readFields where
  last := by
    intro text blanks field fuel isField enough isBlanks rest
    rcases isField.exists_value with ⟨value, length, reads, starts⟩
    rcases starts (blanks ++ '}' :: rest) with ⟨key, opens, keyRead⟩
    have colon := skipBlanks_cons (by decide : ':' ≠ ' ' ∧ _) (value ++ (blanks ++ '}' :: rest))
    have valueRead := reads (blanks ++ '}' :: rest) fuel (by omega)
      (endsNumber_blanks isBlanks (endsNumber_cons (by decide)))
    have closes := skipBlanks_append_cons isBlanks (by decide : '}' ≠ ' ' ∧ _) rest
    simp only [readFields, opens, keyRead, colon, valueRead, closes]
  next := by
    intro text more rest field fields fuel isField enough moreRead
    rcases isField.exists_value with ⟨value, length, reads, starts⟩
    rcases starts (',' :: more) with ⟨key, opens, keyRead⟩
    have colon := skipBlanks_cons (by decide : ':' ≠ ' ' ∧ _) (value ++ ',' :: more)
    have valueRead := reads (',' :: more) fuel (by omega) (endsNumber_cons (by decide))
    have separates := skipBlanks_cons (by decide : ',' ≠ ' ' ∧ _) more
    simp only [readFields, opens, keyRead, colon, valueRead, separates, moreRead, Option.map_some]
  nonempty := by
    intro chars rest closes fuel
    cases fuel <;> simp [readFields, closes]

namespace ReadsSequence

variable {Item : Type} {closing : Char} {ReadsItem : List Char → Item → Prop}
  {read : Nat → List Char → Option (List Item × List Char)}
  (sequence : ReadsSequence closing ReadsItem read)
  {texts : List (List Char)} {items : List Item} (areItems : List.Forall₂ ReadsItem texts items)
  (nonempty : texts ≠ []) {blanks : List Char} (isBlanks : IsBlanks blanks) (rest : List Char)

include sequence areItems nonempty isBlanks in
theorem joinChars {fuel : Nat} (enough : (Text.joinChars ',' texts).length + 1 < fuel) :
    read fuel (Text.joinChars ',' texts ++ (blanks ++ closing :: rest)) = some (items, rest) := by
  induction areItems generalizing fuel with
  | nil => exact absurd rfl nonempty
  | @cons text item moreTexts moreItems isItem more ih =>
      rcases fuel with _ | fuel
      · omega
      cases more with
      | nil =>
          rw [Text.joinChars] at enough ⊢
          exact sequence.last isItem (by omega) isBlanks rest
      | cons nextItem others =>
          rw [Text.joinChars] at enough ⊢
          rw [List.length_append, List.length_cons] at enough
          rw [List.append_assoc, List.cons_append]
          exact sequence.next isItem (by omega) (ih (by simp) (by omega))

include sequence areItems nonempty isBlanks in
theorem not_closing (more : List Char) :
    skipBlanks (Text.joinChars ',' texts ++ (blanks ++ closing :: rest)) ≠ closing :: more := by
  intro closes
  have read := sequence.joinChars areItems nonempty isBlanks rest (Nat.lt_succ_self _)
  rw [sequence.nonempty closes] at read
  cases read

end ReadsSequence

namespace Reads

theorem ofList {texts : List (List Char)} {trees : List Tree}
    (items : List.Forall₂ Reads texts trees) {blanks : List Char} (isBlanks : IsBlanks blanks) :
    Reads ('[' :: Text.joinChars ',' texts ++ (blanks ++ [']'])) (.list trees) := by
  intro rest fuel enough ends
  rcases fuel with _ | fuel
  · omega
  have shape : '[' :: Text.joinChars ',' texts ++ (blanks ++ [']']) ++ rest =
      '[' :: (Text.joinChars ',' texts ++ (blanks ++ ']' :: rest)) := by
    simp
  have enoughForItems : (Text.joinChars ',' texts).length + 1 < fuel := by
    simp at enough
    omega
  rw [shape, readTree, skipBlanks_cons (by decide)]
  by_cases isEmpty : texts = []
  · obtain rfl := isEmpty
    obtain rfl := List.forall₂_nil_left_iff.mp items
    have closes := skipBlanks_append_cons isBlanks (by decide : ']' ≠ ' ' ∧ _) rest
    simp [Text.joinChars, closes]
  · -- The reader has seen by `opens` that the list is not empty.
    have opens := readsSequence_items.not_closing items isEmpty isBlanks rest
    have read := readsSequence_items.joinChars items isEmpty isBlanks rest enoughForItems
    simp [read]

theorem ofRecord {texts : List (List Char)} {fields : List (List Part × Tree)}
    (areFields : List.Forall₂ ReadsField texts fields) {blanks : List Char}
    (isBlanks : IsBlanks blanks) :
    Reads ('{' :: Text.joinChars ',' texts ++ (blanks ++ ['}'])) (.record fields) := by
  intro rest fuel enough ends
  rcases fuel with _ | fuel
  · omega
  have shape : '{' :: Text.joinChars ',' texts ++ (blanks ++ ['}']) ++ rest =
      '{' :: (Text.joinChars ',' texts ++ (blanks ++ '}' :: rest)) := by
    simp
  have enoughForFields : (Text.joinChars ',' texts).length + 1 < fuel := by
    simp at enough
    omega
  rw [shape, readTree, skipBlanks_cons (by decide)]
  by_cases isEmpty : texts = []
  · obtain rfl := isEmpty
    obtain rfl := List.forall₂_nil_left_iff.mp areFields
    have closes := skipBlanks_append_cons isBlanks (by decide : '}' ≠ ' ' ∧ _) rest
    simp [Text.joinChars, closes]
  · have opens := readsSequence_fields.not_closing areFields isEmpty isBlanks rest
    have read := readsSequence_fields.joinChars areFields isEmpty isBlanks rest enoughForFields
    simp [read]

end Reads

theorem Reads.ofFloat (value : Double) : Reads value.jsonChars (toTree (.float value)) := by
  rw [toTree]
  cases isNumeral : value.numeral? with
  | none =>
      rw [Double.jsonChars_of_numeral?_eq_none isNumeral]
      exact Reads.ofNull
  | some numeral =>
      rw [Double.jsonChars_of_numeral? isNumeral]
      exact Reads.ofNumeral (Double.isWritable_of_numeral? isNumeral)

mutual

theorem reads_chars : ∀ value : Json, Reads (chars value) value.toTree
  | .null => Reads.ofNull
  | .bool value => Reads.ofBool value
  | .int value => by
      rw [chars, ← Numeral.chars_ofInt]
      exact Reads.ofNumeral (Numeral.isWritable_ofInt value)
  | .float value => Reads.ofFloat value
  | .text value => Reads.ofText value
  | .list items => Reads.ofList (reads_itemChars items) isBlanks_nil
  | .object fields => Reads.ofRecord (reads_fieldChars fields) isBlanks_nil

theorem reads_itemChars : ∀ items : List Json,
    List.Forall₂ Reads (itemChars items) (itemTrees items)
  | [] => .nil
  | item :: rest => .cons (reads_chars item) (reads_itemChars rest)

theorem reads_fieldChars : ∀ fields : List (String × Json),
    List.Forall₂ ReadsField (fieldChars fields) (fieldTrees fields)
  | [] => .nil
  | (key, value) :: rest =>
      .cons (.mk isBlanks_nil key (reads_chars value)) (reads_fieldChars rest)

end

theorem isBlanks_lineBreak (depth : Nat) : IsBlanks (lineBreak depth) := by
  intro char charMem
  rcases List.mem_cons.mp charMem with rfl | inSpaces
  · exact Or.inr (Or.inl rfl)
  · exact Or.inl (List.eq_of_mem_replicate inSpaces)

theorem Reads.ofListBlock {texts : List (List Char)} {trees : List Tree}
    (items : List.Forall₂ Reads texts trees) (depth : Nat) :
    Reads (block '[' ']' depth texts) (.list trees) := by
  unfold block
  split
  · rename_i isEmpty
    obtain rfl := List.isEmpty_iff.mp isEmpty
    obtain rfl := List.forall₂_nil_left_iff.mp items
    exact Reads.ofList .nil isBlanks_nil
  · rw [List.append_assoc]
    refine Reads.ofList ?_ (isBlanks_lineBreak depth)
    apply List.forall₂_map_left_iff.mpr
    exact items.imp fun _ _ reads => .ofBlanks (isBlanks_lineBreak (depth + 1)) reads

theorem Reads.ofRecordBlock {texts : List (List Char)} {fields : List (List Part × Tree)}
    (areFields : List.Forall₂ ReadsField texts fields) (depth : Nat) :
    Reads (block '{' '}' depth texts) (.record fields) := by
  unfold block
  split
  · rename_i isEmpty
    obtain rfl := List.isEmpty_iff.mp isEmpty
    obtain rfl := List.forall₂_nil_left_iff.mp areFields
    exact Reads.ofRecord .nil isBlanks_nil
  · rw [List.append_assoc]
    refine Reads.ofRecord ?_ (isBlanks_lineBreak depth)
    apply List.forall₂_map_left_iff.mpr
    exact areFields.imp fun _ _ isField => .ofBlanks (isBlanks_lineBreak (depth + 1)) isField

mutual

theorem reads_prettyChars : ∀ (depth : Nat) (value : Json),
    Reads (prettyChars depth value) value.toTree
  | _, .null => reads_chars .null
  | _, .bool value => reads_chars (.bool value)
  | _, .int value => reads_chars (.int value)
  | _, .float value => reads_chars (.float value)
  | _, .text value => reads_chars (.text value)
  | depth, .list items => Reads.ofListBlock (reads_prettyItems (depth + 1) items) depth
  | depth, .object fields => Reads.ofRecordBlock (reads_prettyFields (depth + 1) fields) depth

theorem reads_prettyItems : ∀ (depth : Nat) (items : List Json),
    List.Forall₂ Reads (prettyItems depth items) (itemTrees items)
  | _, [] => .nil
  | depth, item :: rest => .cons (reads_prettyChars depth item) (reads_prettyItems depth rest)

theorem reads_prettyFields : ∀ (depth : Nat) (fields : List (String × Json)),
    List.Forall₂ ReadsField (prettyFields depth fields) (fieldTrees fields)
  | _, [] => .nil
  | depth, (key, value) :: rest =>
      .cons (.mk isBlanks_nil key (.ofBlanks isBlanks_space (reads_prettyChars depth value)))
        (reads_prettyFields depth rest)

end

theorem Tree.ofChars?_of_reads {text : List Char} {tree : Tree} (reads : Reads text tree) :
    Tree.ofChars? text = some tree := by
  have read := reads [] (2 * text.length + 1) (by omega) endsNumber_nil
  rw [List.append_nil] at read
  rw [Tree.ofChars?, read]
  rfl

/-- The compact form of a value is read back. -/
theorem Tree.ofText?_render (value : Json) : Tree.ofText? value.render = some value.toTree := by
  rw [Tree.ofText?, render, String.toList_ofList]
  exact Tree.ofChars?_of_reads (reads_chars value)

/-- The indented form of a value is read back. -/
theorem Tree.ofText?_renderPretty (value : Json) :
    Tree.ofText? value.renderPretty = some value.toTree := by
  rw [Tree.ofText?, renderPretty, String.toList_ofList]
  exact Tree.ofChars?_of_reads (reads_prettyChars 0 value)

end RestQuery.Json
