import RestQuery.Proofs.Text.Splitting
import RestQuery.Proofs.Text.Utf8
import RestQuery.Text.Percent

/-!
# Percent escapes undone

Decoding works on bytes, while everything that is cut out of a query string is cut between
characters. `unescape` says character by character which bytes a component stands for, and
`decodeChars_eq` that this is what decoding reads. From it come the laws the wire grammar rests
on: decoding gives back what was encoded, leaves a text alone that has neither `+` nor `%`, and
is compatible with cutting at a separator, whatever broken escapes or truncated characters stand
next to it.
-/

namespace RestQuery.Percent

/-- The byte that an escape with two digits stands for. -/
def escapedByte? (high low : Char) : Option UInt8 :=
  match Text.hexValue? high.toNat, Text.hexValue? low.toNat with
  | some upper, some lower => some (UInt8.ofNat (16 * upper + lower))
  | _, _ => none

/-- The bytes that the characters of a written component stand for. -/
def unescape (chars : List Char) : List UInt8 :=
  decodeBytes (Utf8.encode (chars.map plusToSpace))

/-- No escape can begin with a percent sign in front of these characters. -/
def LacksDigits (chars : List Char) : Prop :=
  ∀ high low rest, chars = high :: low :: rest → escapedByte? high low = none

theorem lt_of_hexValue? {code value : Nat} (isDigit : Text.hexValue? code = some value) :
    code < 0x80 := by
  unfold Text.hexValue? at isDigit
  repeat' split at isDigit
  all_goals first | omega | simp at isDigit

theorem hexValue?_of_le {code : Nat} (beyondAscii : 0x80 ≤ code) :
    Text.hexValue? code = none := by
  cases value : Text.hexValue? code with
  | none => rfl
  | some _ => exact absurd (lt_of_hexValue? value) (by omega)

theorem plusToSpace_of_ne {char : Char} (other : char ≠ '+') : plusToSpace char = char := by
  simp [plusToSpace, other]

theorem hexValue?_plusToSpace (char : Char) :
    Text.hexValue? (plusToSpace char).toNat = Text.hexValue? char.toNat := by
  by_cases isPlus : char = '+'
  · subst isPlus
    decide
  · rw [plusToSpace_of_ne isPlus]

/-- The first byte of a character is a hexadecimal digit exactly if the character is. -/
theorem utf8EncodeChar_hex (char : Char) :
    ∃ byte more, String.utf8EncodeChar char = byte :: more ∧
      Text.hexValue? byte.toNat = Text.hexValue? char.toNat ∧
      ((Text.hexValue? char.toNat).isSome → more = []) := by
  by_cases ascii : char.toNat < 0x80
  · refine ⟨UInt8.ofNat char.toNat, [], Utf8.utf8EncodeChar_ascii ascii, ?_, fun _ => rfl⟩
    rw [UInt8.toNat_ofNat', Nat.mod_eq_of_lt (by omega)]
  · cases bytes : String.utf8EncodeChar char with
    | nil => exact absurd bytes String.utf8EncodeChar_ne_nil
    | cons byte more =>
        have byteBound : 0x80 ≤ byte.toNat :=
          Utf8.le_of_mem_utf8EncodeChar (by omega) (bytes ▸ List.mem_cons_self)
        refine ⟨byte, more, rfl, ?_, ?_⟩
        · rw [hexValue?_of_le byteBound, hexValue?_of_le (by omega)]
        · rw [hexValue?_of_le (by omega)]
          simp

theorem notMem_utf8EncodeChar {char : Char} (notPercent : char ≠ '%') :
    (37 : UInt8) ∉ String.utf8EncodeChar char := by
  intro byteMem
  by_cases ascii : char.toNat < 0x80
  · rw [Utf8.utf8EncodeChar_ascii ascii, List.mem_singleton] at byteMem
    have sameCode : char.toNat = 37 := by
      have byteCode := congrArg UInt8.toNat byteMem
      rw [UInt8.toNat_ofNat', Nat.mod_eq_of_lt (by omega)] at byteCode
      exact byteCode.symm
    exact notPercent (Char.toNat_inj.mp sameCode)
  · have beyondAscii := Utf8.le_of_mem_utf8EncodeChar (by omega) byteMem
    exact absurd beyondAscii (by decide)

theorem decodeBytes_cons {byte : UInt8} (notPercent : byte ≠ 37) (rest : List UInt8) :
    decodeBytes (byte :: rest) = byte :: decodeBytes rest := by
  rcases rest with _ | ⟨next, _ | ⟨after, more⟩⟩ <;> simp [decodeBytes, notPercent]

theorem decodeBytes_append {left : List UInt8} (absent : 37 ∉ left) (right : List UInt8) :
    decodeBytes (left ++ right) = left ++ decodeBytes right := by
  induction left with
  | nil => rfl
  | cons byte rest ih =>
      simp only [List.mem_cons, not_or] at absent
      rw [List.cons_append, decodeBytes_cons (Ne.symm absent.1), ih absent.2, List.cons_append]

/-- A percent sign without two digits behind it stands for itself. -/
theorem decodeBytes_percent {rest : List UInt8}
    (noDigits : ∀ high low more, rest = high :: low :: more →
      Text.hexValue? high.toNat = none ∨ Text.hexValue? low.toNat = none) :
    decodeBytes (37 :: rest) = 37 :: decodeBytes rest := by
  rcases rest with _ | ⟨high, _ | ⟨low, more⟩⟩
  · rfl
  · rfl
  · rcases noDigits high low more rfl with highOther | lowOther
    · simp [decodeBytes, highOther]
    · cases value : Text.hexValue? high.toNat <;> simp [decodeBytes, lowOther, value]

theorem spaced_cons (char : Char) (rest : List Char) :
    Utf8.encode ((char :: rest).map plusToSpace) =
      String.utf8EncodeChar (plusToSpace char) ++ Utf8.encode (rest.map plusToSpace) := by
  simp [Utf8.encode]

@[simp]
theorem unescape_nil : unescape [] = [] := rfl

theorem unescape_of_ne {char : Char} (notPercent : char ≠ '%') (rest : List Char) :
    unescape (char :: rest) = String.utf8EncodeChar (plusToSpace char) ++ unescape rest := by
  have spacedOther : plusToSpace char ≠ '%' := by
    unfold plusToSpace
    split
    · decide
    · exact notPercent
  rw [unescape, spaced_cons, decodeBytes_append (notMem_utf8EncodeChar spacedOther), unescape]

/-- An escape in the characters is an escape in the bytes. -/
theorem unescape_escape {high low : Char} {byte : UInt8}
    (escaped : escapedByte? high low = some byte) (rest : List Char) :
    unescape ('%' :: high :: low :: rest) = byte :: unescape rest := by
  unfold escapedByte? at escaped
  split at escaped
  · rename_i upper lower highValue lowValue
    simp only [Option.some.injEq] at escaped
    rcases utf8EncodeChar_hex (plusToSpace high) with ⟨first, tail, highBytes, highHex, highEnd⟩
    rcases utf8EncodeChar_hex (plusToSpace low) with ⟨second, more, lowBytes, lowHex, lowEnd⟩
    rw [hexValue?_plusToSpace, highValue] at highHex highEnd
    rw [hexValue?_plusToSpace, lowValue] at lowHex lowEnd
    rw [unescape, spaced_cons, spaced_cons, spaced_cons, highBytes, lowBytes, highEnd rfl,
      lowEnd rfl, show String.utf8EncodeChar (plusToSpace '%') = [37] from rfl]
    simp [decodeBytes, highHex, lowHex, escaped, unescape]
  · simp at escaped

/-- A percent sign that begins no escape in the characters begins none in the bytes. -/
theorem unescape_percent {rest : List Char} (lacksDigits : LacksDigits rest) :
    unescape ('%' :: rest) = 37 :: unescape rest := by
  rw [unescape, spaced_cons, show String.utf8EncodeChar (plusToSpace '%') = [37] from rfl,
    List.singleton_append]
  apply decodeBytes_percent
  intro first second more bytesEq
  rcases rest with _ | ⟨high, others⟩
  · simp at bytesEq
  · rcases utf8EncodeChar_hex (plusToSpace high) with ⟨byte, tail, highBytes, highHex, highEnd⟩
    rw [hexValue?_plusToSpace] at highHex highEnd
    rw [spaced_cons, highBytes, List.cons_append, List.cons.injEq] at bytesEq
    rcases bytesEq with ⟨rfl, restEq⟩
    rw [highHex]
    cases highValue : Text.hexValue? high.toNat with
    | none => exact Or.inl rfl
    | some upper =>
        right
        rw [highValue] at highEnd
        rw [highEnd rfl, List.nil_append] at restEq
        rcases others with _ | ⟨low, final⟩
        · simp at restEq
        · rcases utf8EncodeChar_hex (plusToSpace low) with ⟨next, lowTail, lowBytes, lowHex, -⟩
          rw [spaced_cons, lowBytes, List.cons_append, List.cons.injEq] at restEq
          rw [← restEq.1, lowHex, hexValue?_plusToSpace]
          have broken := lacksDigits high low final rfl
          unfold escapedByte? at broken
          rw [highValue] at broken
          cases lowValue : Text.hexValue? low.toNat with
          | none => rfl
          | some lower => simp [lowValue] at broken

/-- Induction over a written component: a plain character, an escape or a bare percent sign. -/
theorem escape_induction {motive : List Char → Prop} (nil : motive [])
    (plain : ∀ char rest, char ≠ '%' → motive rest → motive (char :: rest))
    (escape : ∀ high low rest byte, escapedByte? high low = some byte → motive rest →
      motive ('%' :: high :: low :: rest))
    (bare : ∀ rest, LacksDigits rest → motive rest → motive ('%' :: rest)) :
    ∀ chars, motive chars := by
  intro chars
  induction size : chars.length using Nat.strongRecOn generalizing chars with
  | ind count ih =>
      rcases chars with _ | ⟨char, rest⟩
      · exact nil
      have restHolds : motive rest := ih rest.length (by simp [← size]) rest rfl
      by_cases isPercent : char = '%'
      · subst isPercent
        rcases rest with _ | ⟨high, _ | ⟨low, more⟩⟩
        · exact bare [] (by simp [LacksDigits]) restHolds
        · exact bare [high] (by simp [LacksDigits]) restHolds
        · cases escaped : escapedByte? high low with
          | none => exact bare (high :: low :: more) (by simpa [LacksDigits]) restHolds
          | some byte =>
              exact escape high low more byte escaped
                (ih more.length (by simp [← size]; omega) more rfl)
      · exact plain char rest isPercent restHolds

/-- A character that can be no part of an escape and is not read as another one. -/
structure StandsForItself (char : Char) : Prop where
  notPercent : char ≠ '%'
  notPlus : char ≠ '+'
  notDigit : Text.hexValue? char.toNat = none

/-- An ASCII character that can be no part of an escape and stands for itself. -/
structure IsSeparator (char : Char) : Prop where
  ascii : char.toNat < 0x80
  notPercent : char ≠ '%'
  notPlus : char ≠ '+'
  notDigit : Text.hexValue? char.toNat = none

theorem IsSeparator.standsForItself {char : Char} (isSeparator : IsSeparator char) :
    StandsForItself char :=
  ⟨isSeparator.notPercent, isSeparator.notPlus, isSeparator.notDigit⟩

theorem isSeparator_colon : IsSeparator ':' :=
  ⟨by decide, by decide, by decide, by decide⟩

theorem isSeparator_comma : IsSeparator ',' :=
  ⟨by decide, by decide, by decide, by decide⟩

section StandsForItself

variable {separator : Char} (itself : StandsForItself separator)

include itself

theorem unescape_separator (rest : List Char) :
    unescape (separator :: rest) = String.utf8EncodeChar separator ++ unescape rest := by
  rw [unescape_of_ne itself.notPercent, plusToSpace_of_ne itself.notPlus]

theorem lacksDigits_append {left : List Char} (lacksDigits : LacksDigits left)
    (right : List Char) : LacksDigits (left ++ separator :: right) := by
  intro high low rest charsEq
  rcases left with _ | ⟨first, _ | ⟨second, more⟩⟩
  · rw [List.nil_append, List.cons.injEq] at charsEq
    rw [← charsEq.1, escapedByte?, itself.notDigit]
  · simp only [List.cons_append, List.nil_append, List.cons.injEq] at charsEq
    rw [← charsEq.2.1, escapedByte?, itself.notDigit]
    cases Text.hexValue? high.toNat <;> rfl
  · simp only [List.cons_append, List.cons.injEq] at charsEq
    exact lacksDigits high low more (by rw [charsEq.1, charsEq.2.1])

theorem unescape_append (left right : List Char) :
    unescape (left ++ separator :: right) =
      unescape left ++ String.utf8EncodeChar separator ++ unescape right := by
  induction left using escape_induction with
  | nil => simp [unescape_separator itself]
  | plain char rest notPercent ih =>
      simp [unescape_of_ne notPercent, ih]
  | escape high low rest byte escaped ih =>
      simp [unescape_escape escaped, ih]
  | bare rest lacksDigits ih =>
      rw [List.cons_append, unescape_percent (lacksDigits_append itself lacksDigits right), ih,
        unescape_percent lacksDigits, List.cons_append, List.cons_append]

/--
Decoding is compatible with cutting at a separator. The part before it may end in a broken escape
or in the middle of a character.
-/
theorem decodeChars_append (left right : List Char) :
    decodeChars (left ++ separator :: right) =
      decodeChars left ++ separator :: decodeChars right := by
  rw [decodeChars, ← unescape, unescape_append itself, Utf8.decodeLossy_append_encodeChar]
  rfl

end StandsForItself

theorem toNat_ofNat_toNat {char : Char} (ascii : char.toNat < 0x80) :
    (UInt8.ofNat char.toNat).toNat = char.toNat := by
  rw [UInt8.toNat_ofNat', Nat.mod_eq_of_lt (by omega)]

/-- A byte below 0x80 that is decoded was written as itself or as an escape. -/
theorem mem_unescape {chars : List Char} {byte : UInt8} (byteMem : byte ∈ unescape chars)
    (ascii : byte.toNat < 0x80) :
    (∃ char ∈ chars, (plusToSpace char).toNat = byte.toNat) ∨
      ∃ high low, ['%', high, low] <:+: chars ∧ escapedByte? high low = some byte := by
  induction chars using escape_induction with
  | nil => simp at byteMem
  | plain char rest notPercent ih =>
      rw [unescape_of_ne notPercent, List.mem_append] at byteMem
      rcases byteMem with charBytes | restBytes
      · left
        refine ⟨char, by simp, ?_⟩
        by_cases charAscii : (plusToSpace char).toNat < 0x80
        · rw [Utf8.utf8EncodeChar_ascii charAscii, List.mem_singleton] at charBytes
          rw [charBytes, toNat_ofNat_toNat charAscii]
        · have beyondAscii := Utf8.le_of_mem_utf8EncodeChar (by omega) charBytes
          omega
      · rcases ih restBytes with ⟨found, foundMem, same⟩ | ⟨high, low, infix_rest, escaped⟩
        · exact Or.inl ⟨found, List.mem_cons_of_mem _ foundMem, same⟩
        · exact Or.inr ⟨high, low, infix_rest.trans (List.suffix_cons _ _).isInfix, escaped⟩
  | escape high low rest written escaped ih =>
      rw [unescape_escape escaped, List.mem_cons] at byteMem
      rcases byteMem with rfl | restBytes
      · exact Or.inr ⟨high, low, ⟨[], rest, rfl⟩, escaped⟩
      · rcases ih restBytes with ⟨found, foundMem, same⟩ | ⟨first, second, infix_rest, other⟩
        · exact Or.inl ⟨found, by simp [foundMem], same⟩
        · refine Or.inr ⟨first, second, infix_rest.trans ?_, other⟩
          exact List.IsSuffix.isInfix ⟨['%', high, low], rfl⟩
  | bare rest lacksDigits ih =>
      rw [unescape_percent lacksDigits, List.mem_cons] at byteMem
      rcases byteMem with rfl | restBytes
      · exact Or.inl ⟨'%', by simp, rfl⟩
      · rcases ih restBytes with ⟨found, foundMem, same⟩ | ⟨high, low, infix_rest, escaped⟩
        · exact Or.inl ⟨found, List.mem_cons_of_mem _ foundMem, same⟩
        · exact Or.inr ⟨high, low, infix_rest.trans (List.suffix_cons _ _).isInfix, escaped⟩

theorem mem_decodeChars {separator : Char} (isSeparator : IsSeparator separator)
    (visible : 0x20 < separator.toNat) {chars : List Char}
    (charMem : separator ∈ decodeChars chars) :
    separator ∈ chars ∨
      ∃ high low, ['%', high, low] <:+: chars ∧
        escapedByte? high low = some (UInt8.ofNat separator.toNat) := by
  have notNul : 0 < separator.toNat := by omega
  rcases Utf8.mem_decodeFrom_ascii Utf8.start_isReachable charMem notNul isSeparator.ascii with
    ⟨byte, byteMem, sameCode⟩
  have byteEq : byte = UInt8.ofNat separator.toNat := by
    rw [← sameCode, UInt8.ofNat_toNat]
  rcases mem_unescape byteMem (sameCode ▸ isSeparator.ascii) with ⟨char, found, same⟩ | escaped
  · left
    have spaced : plusToSpace char = separator := Char.toNat_inj.mp (same.trans sameCode)
    unfold plusToSpace at spaced
    split at spaced
    · exact absurd (spaced ▸ visible) (by decide)
    · exact spaced ▸ found
  · rw [byteEq] at escaped
    exact Or.inr escaped

theorem lt_of_hexValue?_eq {code value : Nat} (isDigit : Text.hexValue? code = some value) :
    value < 16 := by
  unfold Text.hexValue? at isDigit
  repeat' split at isDigit
  all_goals simp only [Option.some.injEq, reduceCtorEq] at isDigit
  all_goals omega

theorem hexValue?_of_escapedByte? {high low : Char} {code : Nat} (small : code < 256)
    (escaped : escapedByte? high low = some (UInt8.ofNat code)) :
    Text.hexValue? high.toNat = some (code / 16) ∧ Text.hexValue? low.toNat = some (code % 16) := by
  unfold escapedByte? at escaped
  split at escaped
  · rename_i upper lower highValue lowValue
    have upperBound := lt_of_hexValue?_eq highValue
    have lowerBound := lt_of_hexValue?_eq lowValue
    have sameByte := congrArg UInt8.toNat (Option.some.inj escaped)
    rw [UInt8.toNat_ofNat', UInt8.toNat_ofNat', Nat.mod_eq_of_lt (by omega),
      Nat.mod_eq_of_lt (by omega)] at sameByte
    rw [highValue, lowValue]
    constructor <;> congr 1 <;> omega
  · simp at escaped

theorem hexValue?_eq_some {code value : Nat} (isDigit : Text.hexValue? code = some value) :
    code = value + 48 ∧ value ≤ 9 ∨ code = value + 55 ∧ 10 ≤ value ∨
      code = value + 87 ∧ 10 ≤ value := by
  unfold Text.hexValue? at isDigit
  repeat' split at isDigit
  all_goals simp only [Option.some.injEq, reduceCtorEq] at isDigit
  all_goals omega

theorem unescape_encodeByte (byte : UInt8) (rest : List Char) :
    unescape (encodeByte byte ++ rest) = byte :: unescape rest := by
  have byteBound : byte.toNat < 256 := byte.toNat_lt
  rw [encodeByte]
  split
  · rename_i isPlain
    simp only [Bool.and_eq_true, decide_eq_true_eq] at isPlain
    rcases isPlain with ⟨ascii, unreserved⟩
    have sameCode : (Char.ofNat byte.toNat).toNat = byte.toNat :=
      Utf8.toNat_ofNat_of_ascii (by omega)
    have notPercent : Char.ofNat byte.toNat ≠ '%' := by
      intro isPercent
      rw [isPercent] at unreserved
      exact absurd unreserved (by decide)
    have notPlus : Char.ofNat byte.toNat ≠ '+' := by
      intro isPlus
      rw [isPlus] at unreserved
      exact absurd unreserved (by decide)
    rw [List.singleton_append, unescape_of_ne notPercent, plusToSpace_of_ne notPlus,
      Utf8.utf8EncodeChar_ascii (by omega), sameCode, UInt8.ofNat_toNat, List.singleton_append]
  · have escaped : escapedByte? (Text.upperHexDigit (byte.toNat / 16))
        (Text.upperHexDigit (byte.toNat % 16)) = some byte := by
      rw [escapedByte?, Text.hexValue?_upperHexDigit _ (by omega),
        Text.hexValue?_upperHexDigit _ (by omega)]
      simp only [Nat.div_add_mod, UInt8.ofNat_toNat]
    simp [unescape_escape escaped]

theorem unescape_flatMap_encodeByte (bytes : List UInt8) :
    unescape (bytes.flatMap encodeByte) = bytes := by
  induction bytes with
  | nil => rfl
  | cons byte rest ih => rw [List.flatMap_cons, unescape_encodeByte, ih]

theorem decodeChars_encodeChars (chars : List Char) : decodeChars (encodeChars chars) = chars := by
  rw [decodeChars, ← unescape, encodeChars, unescape_flatMap_encodeByte, Utf8.decodeLossy_encode]

theorem decodeChars_of_plain {chars : List Char} (noPlus : '+' ∉ chars) (noPercent : '%' ∉ chars) :
    decodeChars chars = chars := by
  have bytesEq : unescape chars = Utf8.encode chars := by
    induction chars with
    | nil => rfl
    | cons char rest ih =>
        simp only [List.mem_cons, not_or] at noPlus noPercent
        rw [unescape_of_ne (Ne.symm noPercent.1), plusToSpace_of_ne (Ne.symm noPlus.1),
          ih noPlus.2 noPercent.2, Utf8.encode_cons]
  rw [decodeChars, ← unescape, bytesEq, Utf8.decodeLossy_encode]

/-- An ASCII letter, a digit or one of four marks. -/
def IsPlain (char : Char) : Prop :=
  'A' ≤ char ∧ char ≤ 'Z' ∨ 'a' ≤ char ∧ char ≤ 'z' ∨ '0' ≤ char ∧ char ≤ '9' ∨
    char ∈ ['-', '_', '.', '~']

theorem isPlain_of_isUnreserved {char : Char} (unreserved : isUnreserved char = true) :
    IsPlain char := by
  simp only [isUnreserved, Bool.or_eq_true, decide_eq_true_eq] at unreserved
  rcases unreserved with (((alphanum | rfl) | rfl) | rfl) | rfl
  · change ((decide ('A' ≤ char ∧ char ≤ 'Z') || decide ('a' ≤ char) && decide (char ≤ 'z')) ||
      decide ('0' ≤ char) && decide (char ≤ '9')) = true at alphanum
    simp only [Bool.or_eq_true, Bool.and_eq_true, decide_eq_true_eq] at alphanum
    rcases alphanum with (upper | lower) | digit
    · exact Or.inl upper
    · exact Or.inr (Or.inl lower)
    · exact Or.inr (Or.inr (Or.inl digit))
  all_goals simp [IsPlain]

theorem IsPlain.toNat_lt {char : Char} (isPlain : IsPlain char) : char.toNat < 0x80 := by
  have below {greatest : Char} (le : char ≤ greatest) (ascii : greatest.toNat < 0x80) :
      char.toNat < 0x80 :=
    Nat.lt_of_le_of_lt le ascii
  have marks : ∀ mark ∈ ['-', '_', '.', '~'], mark.toNat < 0x80 := by simp
  rcases isPlain with ⟨-, upper⟩ | ⟨-, lower⟩ | ⟨-, digit⟩ | isMark
  · exact below upper (by decide)
  · exact below lower (by decide)
  · exact below digit (by decide)
  · exact marks char isMark

theorem encodeChars_of_isUnreserved {chars : List Char}
    (unreserved : ∀ char ∈ chars, isUnreserved char = true) : encodeChars chars = chars := by
  induction chars with
  | nil => rfl
  | cons char rest ih =>
      simp only [List.mem_cons, forall_eq_or_imp] at unreserved
      have ascii := (isPlain_of_isUnreserved unreserved.1).toNat_lt
      have single : encodeByte (UInt8.ofNat char.toNat) = [char] := by
        simp [encodeByte, toNat_ofNat_toNat ascii, ascii, unreserved.1]
      have restSame := ih unreserved.2
      rw [encodeChars] at restSame ⊢
      rw [Utf8.encode_cons, Utf8.utf8EncodeChar_ascii ascii, List.flatMap_append, restSame,
        List.flatMap_singleton, single, List.singleton_append]

theorem mem_encodeByte {byte : UInt8} {char : Char} (charMem : char ∈ encodeByte byte) :
    isUnreserved char = true ∨ char = '%' := by
  have digitUnreserved : ∀ value < 16, isUnreserved (Text.upperHexDigit value) = true := by
    decide
  have byteBound : byte.toNat < 256 := byte.toNat_lt
  rw [encodeByte] at charMem
  split at charMem
  · rename_i isPlain
    simp only [List.mem_singleton] at charMem
    simp only [Bool.and_eq_true, decide_eq_true_eq] at isPlain
    exact Or.inl (charMem ▸ isPlain.2)
  · simp only [List.mem_cons, List.not_mem_nil, or_false] at charMem
    rcases charMem with rfl | rfl | rfl
    · exact Or.inr rfl
    · exact Or.inl (digitUnreserved _ (by omega))
    · exact Or.inl (digitUnreserved _ (by omega))

@[simp]
theorem decode_encode (text : String) : decode (encode text) = text := by
  simp [decode, encode, decodeChars_encodeChars]

theorem encode_of_isUnreserved {text : String}
    (unreserved : ∀ char ∈ text.toList, isUnreserved char = true) : encode text = text := by
  simp [encode, encodeChars_of_isUnreserved unreserved]

theorem decode_of_plain {text : String} (noPlus : '+' ∉ text.toList)
    (noPercent : '%' ∉ text.toList) : decode text = text := by
  simp [decode, decodeChars_of_plain noPlus noPercent]

theorem notMem_encode {char : Char} (reserved : isUnreserved char = false)
    (notPercent : char ≠ '%') (text : String) : char ∉ (encode text).toList := by
  intro charMem
  rw [encode, String.toList_ofList, encodeChars, List.mem_flatMap] at charMem
  rcases charMem with ⟨byte, -, byteMem⟩
  rcases mem_encodeByte byteMem with unreserved | isPercent
  · simp [reserved] at unreserved
  · exact notPercent isPercent

/-- No escape in a written component stands for a character. -/
def LacksEscape (char : Char) (chars : List Char) : Prop :=
  ∀ high low, ['%', high, low] <:+: chars →
    escapedByte? high low ≠ some (UInt8.ofNat char.toNat)

theorem LacksEscape.of_infix {char : Char} {part whole : List Char}
    (lacksEscape : LacksEscape char whole) (isPart : part <:+: whole) : LacksEscape char part :=
  fun high low escape => lacksEscape high low (escape.trans isPart)

theorem notMem_decodeChars {separator : Char} (isSeparator : IsSeparator separator)
    (visible : 0x20 < separator.toNat) {chars : List Char}
    (lacksEscape : LacksEscape separator chars) (absent : separator ∉ chars) :
    separator ∉ decodeChars chars := by
  intro charMem
  rcases mem_decodeChars isSeparator visible charMem with present | ⟨high, low, isPart, escaped⟩
  · exact absent present
  · exact lacksEscape high low isPart escaped

theorem cutChars_decodeChars {separator : Char} (isSeparator : IsSeparator separator)
    (visible : 0x20 < separator.toNat) {chars : List Char}
    (lacksEscape : LacksEscape separator chars) :
    Text.cutChars separator (decodeChars chars) =
      (Text.cutChars separator chars).map fun (before, after) =>
        (decodeChars before, decodeChars after) := by
  by_cases present : separator ∈ chars
  · rcases Text.exists_append_of_mem present with ⟨left, right, absent, rfl⟩
    have leftLacks := lacksEscape.of_infix (List.prefix_append left _).isInfix
    rw [decodeChars_append isSeparator.standsForItself, Text.cutChars_append absent,
      Text.cutChars_append (notMem_decodeChars isSeparator visible leftLacks absent)]
    rfl
  · rw [Text.cutChars_of_notMem present,
      Text.cutChars_of_notMem (notMem_decodeChars isSeparator visible lacksEscape present)]
    rfl

theorem splitChars_decodeChars {separator : Char} (isSeparator : IsSeparator separator)
    (visible : 0x20 < separator.toNat) {chars : List Char}
    (lacksEscape : LacksEscape separator chars) :
    Text.splitChars separator (decodeChars chars) =
      (Text.splitChars separator chars).map decodeChars := by
  -- Decoding shortens what it reads, so the cut is made before decoding and on both sides at once.
  induction size : chars.length using Nat.strongRecOn generalizing chars with
  | ind count ih =>
      by_cases present : separator ∈ chars
      · rcases Text.exists_append_of_mem present with ⟨left, right, absent, rfl⟩
        have leftLacks := lacksEscape.of_infix (List.prefix_append left _).isInfix
        have rightLacks : LacksEscape separator right :=
          lacksEscape.of_infix ⟨left ++ [separator], [], by simp⟩
        have rightSplit := ih right.length (by simp [← size]; omega) rightLacks rfl
        rw [decodeChars_append isSeparator.standsForItself, Text.splitChars_append,
          Text.splitChars_append, Text.splitChars_of_notMem absent, rightSplit,
          Text.splitChars_of_notMem (notMem_decodeChars isSeparator visible leftLacks absent)]
        rfl
      · rw [Text.splitChars_of_notMem present,
          Text.splitChars_of_notMem (notMem_decodeChars isSeparator visible lacksEscape present)]
        rfl

theorem cut_decode {separator : Char} (isSeparator : IsSeparator separator)
    (visible : 0x20 < separator.toNat) {text : String}
    (lacksEscape : LacksEscape separator text.toList) :
    Text.cut separator (decode text) =
      (Text.cut separator text).map fun (before, after) => (decode before, decode after) := by
  simp only [Text.cut, decode, String.toList_ofList,
    cutChars_decodeChars isSeparator visible lacksEscape, Option.map_map]
  congr 1
  funext parts
  simp

theorem split_decode {separator : Char} (isSeparator : IsSeparator separator)
    (visible : 0x20 < separator.toNat) {text : String}
    (lacksEscape : LacksEscape separator text.toList) :
    Text.split separator (decode text) = (Text.split separator text).map decode := by
  simp only [Text.split, decode, String.toList_ofList,
    splitChars_decodeChars isSeparator visible lacksEscape, List.map_map]
  congr 1
  funext piece
  simp [decode]

end RestQuery.Percent
