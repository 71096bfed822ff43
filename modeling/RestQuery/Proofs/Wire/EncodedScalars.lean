import RestQuery.Proofs.Text.Percent
import RestQuery.Query.Operand

/-!
# Encoded scalars

Query strings are cut into pieces before the pieces are decoded. Two facts make this harmless. A
scalar is written with letters, digits, four marks and escapes only (`IsEscaped`), so that nothing
is cut within it, and it is decoded to the very text that it stands for. And it makes no difference
whether a text is decoded before or after it is cut at a character, unless escapes or spaces are
written with that character (`decodeChars_append_iff`). This holds also of a piece that ends within
an escape, or whose bytes end within a character: it is decoded as if nothing came after it.
-/

namespace RestQuery.Percent

/-- A hexadecimal digit whose letters are in upper case. -/
def IsUpperHexDigit (char : Char) : Prop :=
  '0' ≤ char ∧ char ≤ '9' ∨ 'A' ≤ char ∧ char ≤ 'F'

instance (char : Char) : Decidable (IsUpperHexDigit char) :=
  inferInstanceAs (Decidable (_ ∨ _))

/-- The texts that consist of plain characters and of escapes with two upper-case digits. -/
inductive IsEscaped : List Char → Prop where
  | nil : IsEscaped []
  | plain {char : Char} {rest : List Char} (isPlain : IsPlain char) (escaped : IsEscaped rest) :
      IsEscaped (char :: rest)
  | escape {high low : Char} {rest : List Char} (highDigit : IsUpperHexDigit high)
      (lowDigit : IsUpperHexDigit low) (escaped : IsEscaped rest) :
      IsEscaped ('%' :: high :: low :: rest)

theorem isUpperHexDigit_upperHexDigit :
    ∀ value < 16, IsUpperHexDigit (Text.upperHexDigit value) := by
  decide

theorem IsEscaped.encodeByte_append {rest : List Char} (escaped : IsEscaped rest) (byte : UInt8) :
    IsEscaped (encodeByte byte ++ rest) := by
  have byteBound : byte.toNat < 256 := byte.toNat_lt
  rw [encodeByte]
  split
  · rename_i isPlain
    rw [Bool.and_eq_true] at isPlain
    exact .plain (isPlain_of_isUnreserved isPlain.2) escaped
  · exact .escape (isUpperHexDigit_upperHexDigit _ (by omega))
      (isUpperHexDigit_upperHexDigit _ (by omega)) escaped

theorem isEscaped_encode (text : String) : IsEscaped (encode text).toList := by
  rw [encode, String.toList_ofList, encodeChars]
  induction Utf8.encode text.toList with
  | nil => exact .nil
  | cons byte rest ih => exact ih.encodeByte_append byte

theorem encode_inj {left right : String} : encode left = encode right ↔ left = right :=
  (Function.LeftInverse.injective decode_encode).eq_iff

/-- The characters that escapes and spaces are written with. -/
def escapeAlphabet : List Char :=
  "%+0123456789ABCDEFabcdef".toList

theorem mem_escapeAlphabet_of_hexValue? {char : Char} {value : Nat}
    (isDigit : Text.hexValue? char.toNat = some value) : char ∈ escapeAlphabet := by
  have listed : ∀ code < 0x80, Text.hexValue? code ≠ none → Char.ofNat code ∈ escapeAlphabet := by
    decide
  rw [← Char.ofNat_toNat char]
  exact listed _ (lt_of_hexValue? isDigit) (by simp [isDigit])

theorem standsForItself_of_notMem {char : Char} (notMem : char ∉ escapeAlphabet) :
    StandsForItself char where
  notPercent := by
    rintro rfl
    exact notMem (by decide)
  notPlus := by
    rintro rfl
    exact notMem (by decide)
  notDigit := by
    cases isDigit : Text.hexValue? char.toNat with
    | none => rfl
    | some value => exact absurd (mem_escapeAlphabet_of_hexValue? isDigit) notMem

/-- Decoding and cutting at a character commute exactly if no escape or space is written with it. -/
theorem decodeChars_append_iff {separator : Char} :
    (∀ left right : List Char,
        decodeChars (left ++ separator :: right) =
          decodeChars left ++ separator :: decodeChars right) ↔
      separator ∉ escapeAlphabet := by
  constructor
  · -- A percent sign in front and two digits behind tell each of these characters from a separator.
    have allDiffer : escapeAlphabet.all (fun char =>
        decodeChars (['%'] ++ char :: ['4', '1']) ≠
          decodeChars ['%'] ++ char :: decodeChars ['4', '1']) = true := by
      decide
    intro commutes isMem
    have differs := of_decide_eq_true (List.all_eq_true.mp allDiffer separator isMem)
    exact differs (commutes ['%'] ['4', '1'])
  · intro notMem left right
    exact decodeChars_append (standsForItself_of_notMem notMem) left right

theorem decode_append_iff {separator : Char} :
    (∀ left right : String,
        decode (left ++ String.singleton separator ++ right) =
          decode left ++ String.singleton separator ++ decode right) ↔
      separator ∉ escapeAlphabet := by
  have onChars (left right : String) :
      decode (left ++ String.singleton separator ++ right) =
          decode left ++ String.singleton separator ++ decode right ↔
        decodeChars (left.toList ++ separator :: right.toList) =
          decodeChars left.toList ++ separator :: decodeChars right.toList := by
    rw [← String.toList_inj]
    simp [decode]
  simp only [onChars, ← decodeChars_append_iff]
  constructor
  · intro commutes left right
    simpa using commutes (String.ofList left) (String.ofList right)
  · intro commutes left right
    exact commutes left.toList right.toList

/-- An escape that is cut off and a character that is cut off both end at the comma. -/
example : decode "caf%C3%2,%A9" = "caf\uFFFD%2,\uFFFD" := by
  decide

end RestQuery.Percent

namespace RestQuery

/--
What a scalar is written with is plain characters and upper-case escapes. It is decoded to the text
of the scalar, so two scalars are written alike exactly if they have the same text. Decoding and
cutting at a character commute for all texts around it, also for those that break off within an
escape or a character, exactly if the character is neither `%` nor `+` nor a hexadecimal digit.
-/
theorem decode_of_encode_and_cut (scalar other : Scalar) (separator : Char) :
    Percent.IsEscaped scalar.encode.toList ∧
      Percent.decode scalar.encode = scalar.display ∧
      (scalar.encode = other.encode ↔ scalar.display = other.display) ∧
      ((∀ left right : String,
          Percent.decode (left ++ String.singleton separator ++ right) =
            Percent.decode left ++ String.singleton separator ++ Percent.decode right) ↔
        separator ∉ Percent.escapeAlphabet) := by
  refine ⟨Percent.isEscaped_encode _, Percent.decode_encode _, Percent.encode_inj, ?_⟩
  exact Percent.decode_append_iff

end RestQuery
