import RestQuery.Text.Utf8

/-!
# Reading UTF-8

Two facts about the lossy reader carry everything that is said about percent escapes. It returns
the characters that were encoded, and an encoded character stands for itself wherever its bytes
occur: what is before them is read as if it ended there, and what is after them as if it began
there.

Both rest on what the reader's states promise. Within a character only bytes from 0x80 to 0xBF can
continue it, with none of which a character begins, and the character they complete lies beyond
ASCII.
-/

namespace RestQuery.Utf8

/-- A state that the reader can be in after some bytes. -/
def State.IsReachable : State → Prop
  | .start => True
  | .within bits least greatest further =>
      0x80 ≤ least ∧ greatest ≤ 0xBF ∧ 0x80 ≤ (bits * 64 + least % 64) <<< (6 * further)

theorem start_isReachable : State.start.IsReachable := trivial

theorem first_isReachable (byte : Nat) : (first byte).2.IsReachable := by
  unfold first
  repeat' split
  all_goals
    simp only [State.IsReachable]
    try omega

theorem step_isReachable {state : State} (reachable : state.IsReachable) (byte : Nat) :
    (step state byte).2.IsReachable := by
  cases state with
  | start => exact first_isReachable byte
  | within bits least greatest further =>
      rcases reachable with ⟨leastBound, greatestBound, beyondAscii⟩
      simp only [step]
      split
      · rename_i continues
        cases further with
        | zero => trivial
        | succ further =>
            refine ⟨by omega, by omega, Nat.le_trans beyondAscii ?_⟩
            have oneMore : 6 * (further + 1) = 6 + 6 * further := by omega
            rw [oneMore, Nat.shiftLeft_add, Nat.shiftLeft_eq _ (6 * further),
              Nat.shiftLeft_eq _ (6 * further)]
            exact Nat.mul_le_mul_right _ (by omega)
      · exact first_isReachable byte

theorem toNat_ofNat_of_isValidChar {code : Nat} (valid : code.isValidChar) :
    (Char.ofNat code).toNat = code := by
  rw [Char.ofNat, dif_pos valid]
  rfl

theorem toNat_ofNat_of_pos {code : Nat} (positive : 0 < (Char.ofNat code).toNat) :
    (Char.ofNat code).toNat = code := by
  by_cases valid : code.isValidChar
  · exact toNat_ofNat_of_isValidChar valid
  · rw [Char.ofNat, dif_neg valid] at positive
    exact absurd positive (by decide)

theorem toNat_ofNat_of_ascii {code : Nat} (ascii : code < 0x80) :
    (Char.ofNat code).toNat = code :=
  toNat_ofNat_of_isValidChar (Or.inl (by omega))

theorem mem_first_ascii {byte : Nat} {char : Char} (charMem : char ∈ (first byte).1)
    (positive : 0 < char.toNat) (ascii : char.toNat < 0x80) : byte = char.toNat := by
  have notReplacement : char ≠ replacement := by
    rintro rfl
    exact absurd ascii (by decide)
  unfold first at charMem
  repeat' split at charMem
  all_goals simp only [List.mem_singleton, List.not_mem_nil] at charMem
  · subst charMem
    exact (toNat_ofNat_of_pos positive).symm
  all_goals exact absurd charMem notReplacement

/-- An ASCII character other than NUL is only read from its own byte. -/
theorem mem_step_ascii {state : State} (reachable : state.IsReachable) {byte : Nat} {char : Char}
    (charMem : char ∈ (step state byte).1) (positive : 0 < char.toNat)
    (ascii : char.toNat < 0x80) : byte = char.toNat := by
  have notReplacement : char ≠ replacement := by
    rintro rfl
    exact absurd ascii (by decide)
  cases state with
  | start => exact mem_first_ascii charMem positive ascii
  | within bits least greatest further =>
      rcases reachable with ⟨leastBound, greatestBound, beyondAscii⟩
      simp only [step] at charMem
      split at charMem
      · rename_i continues
        cases further with
        | zero =>
            simp only [List.mem_singleton] at charMem
            subst charMem
            rw [toNat_ofNat_of_pos positive] at ascii
            omega
        | succ further => simp at charMem
      · simp only [List.mem_cons] at charMem
        rcases charMem with isReplacement | charMem
        · exact absurd isReplacement notReplacement
        · exact mem_first_ascii charMem positive ascii

theorem mem_decodeFrom_ascii {state : State} (reachable : state.IsReachable)
    {bytes : List UInt8} {char : Char} (charMem : char ∈ decodeFrom state bytes)
    (positive : 0 < char.toNat) (ascii : char.toNat < 0x80) :
    ∃ byte ∈ bytes, byte.toNat = char.toNat := by
  induction bytes generalizing state with
  | nil =>
      cases state with
      | start => simp [decodeFrom, finish] at charMem
      | within bits least greatest further =>
          simp only [decodeFrom, finish, List.mem_singleton] at charMem
          subst charMem
          exact absurd ascii (by decide)
  | cons byte rest ih =>
      simp only [decodeFrom, List.mem_append] at charMem
      rcases charMem with charMem | charMem
      · exact ⟨byte, by simp, mem_step_ascii reachable charMem positive ascii⟩
      · rcases ih (step_isReachable reachable _) charMem with ⟨found, foundMem, same⟩
        exact ⟨found, List.mem_cons_of_mem _ foundMem, same⟩

theorem first_two :
    ∀ lead < 32, 2 ≤ lead → first (lead + 0xC0) = ([], .within lead 0x80 0xBF 0) := by
  decide

/-- After a first byte of three, zero and the surrogates' lead narrow the next byte. -/
theorem first_three :
    ∀ lead < 16, first (lead + 0xE0) =
      ([], .within lead (if lead = 0 then 0xA0 else 0x80)
        (if lead = 13 then 0x9F else 0xBF) 1) := by
  decide

theorem first_four :
    ∀ lead < 5, first (lead + 0xF0) =
      ([], .within lead (if lead = 0 then 0x90 else 0x80) (if lead = 4 then 0x8F else 0xBF) 2) := by
  decide

theorem decodeFrom_last {bits least greatest : Nat} {byte : UInt8} (least_le : least ≤ byte.toNat)
    (le_greatest : byte.toNat ≤ greatest) (rest : List UInt8) :
    decodeFrom (.within bits least greatest 0) (byte :: rest) =
      Char.ofNat (bits * 64 + byte.toNat % 64) :: decodeFrom .start rest := by
  simp [decodeFrom, step, least_le, le_greatest]

theorem decodeFrom_further {bits least greatest further : Nat} {byte : UInt8}
    (least_le : least ≤ byte.toNat) (le_greatest : byte.toNat ≤ greatest) (rest : List UInt8) :
    decodeFrom (.within bits least greatest (further + 1)) (byte :: rest) =
      decodeFrom (.within (bits * 64 + byte.toNat % 64) 0x80 0xBF further) rest := by
  simp [decodeFrom, step, least_le, le_greatest]

theorem decodeFrom_encodeChar (char : Char) (rest : List UInt8) :
    decodeFrom .start (String.utf8EncodeChar char ++ rest) =
      char :: decodeFrom .start rest := by
  have valid : char.toNat < 0xD800 ∨ 0xDFFF < char.toNat ∧ char.toNat < 0x110000 := char.valid
  have charOf {code : Nat} (same : code = char.toNat) : Char.ofNat code = char := by
    rw [same, Char.ofNat_toNat]
  have byteOf {code : Nat} (small : code < 256) : (UInt8.ofNat code).toNat = code := by
    simp [Nat.mod_eq_of_lt small]
  unfold String.utf8EncodeChar
  simp only [show char.val.toNat = char.toNat from rfl]
  generalize char.toNat = code at valid charOf
  split
  · rw [List.cons_append, List.nil_append, decodeFrom, byteOf (by omega), step,
      first, if_pos (by omega), charOf rfl]
    rfl
  split
  · rw [List.cons_append, decodeFrom, step, byteOf (by omega), first_two _ (by omega) (by omega)]
    simp only [List.nil_append, List.cons_append]
    rw [decodeFrom_last (by rw [byteOf (by omega)]; omega) (by rw [byteOf (by omega)]; omega),
      byteOf (by omega), charOf (by omega)]
  split
  · rw [List.cons_append, decodeFrom, step, byteOf (by omega), first_three _ (by omega)]
    simp only [List.nil_append, List.cons_append]
    rw [decodeFrom_further (by rw [byteOf (by omega)]; split <;> omega)
        (by rw [byteOf (by omega)]; split <;> omega),
      decodeFrom_last (by rw [byteOf (by omega)]; omega) (by rw [byteOf (by omega)]; omega),
      byteOf (by omega), byteOf (by omega), charOf (by omega)]
  · rw [List.cons_append, decodeFrom, step, byteOf (by omega), first_four _ (by omega)]
    simp only [List.nil_append, List.cons_append]
    rw [decodeFrom_further (by rw [byteOf (by omega)]; split <;> omega)
        (by rw [byteOf (by omega)]; split <;> omega),
      decodeFrom_further (by rw [byteOf (by omega)]; omega) (by rw [byteOf (by omega)]; omega),
      decodeFrom_last (by rw [byteOf (by omega)]; omega) (by rw [byteOf (by omega)]; omega),
      byteOf (by omega), byteOf (by omega), byteOf (by omega), charOf (by omega)]

theorem decodeLossy_encode (chars : List Char) : decodeLossy (encode chars) = chars := by
  induction chars with
  | nil => rfl
  | cons char rest ih =>
      rw [decodeLossy, encode, List.flatMap_cons, decodeFrom_encodeChar]
      exact congrArg (char :: ·) ih

theorem encode_cons (char : Char) (rest : List Char) :
    encode (char :: rest) = String.utf8EncodeChar char ++ encode rest := by
  simp [encode]

theorem utf8EncodeChar_ascii {char : Char} (ascii : char.toNat < 0x80) :
    String.utf8EncodeChar char = [UInt8.ofNat char.toNat] := by
  have small : char.val.toNat ≤ 0x7F := Nat.le_of_lt_succ ascii
  rw [String.utf8EncodeChar, if_pos small]
  rfl

theorem le_of_mem_utf8EncodeChar {char : Char} (beyondAscii : 0x80 ≤ char.toNat) {byte : UInt8}
    (byteMem : byte ∈ String.utf8EncodeChar char) : 0x80 ≤ byte.toNat := by
  have notSmall : ¬char.val.toNat ≤ 0x7F := Nat.not_le_of_lt beyondAscii
  unfold String.utf8EncodeChar at byteMem
  simp only [notSmall, ↓reduceIte] at byteMem
  repeat' split at byteMem
  all_goals
    simp only [List.mem_cons, List.not_mem_nil, or_false] at byteMem
    rcases byteMem with rfl | rfl | rfl | rfl
  all_goals
    simp only [UInt8.toNat_ofNat']
    omega

/-- A byte that continues no character ends what was begun and is read as a first one. -/
theorem step_of_not_continues {state : State} (reachable : state.IsReachable) {byte : Nat}
    (notContinues : ¬(0x80 ≤ byte ∧ byte ≤ 0xBF)) :
    step state byte = (finish state ++ (first byte).1, (first byte).2) := by
  cases state with
  | start => rfl
  | within bits least greatest further =>
      have outside : ¬(least ≤ byte ∧ byte ≤ greatest) := by
        rcases reachable with ⟨leastBound, greatestBound, -⟩
        omega
      simp [step, finish, outside]

/-- The first byte of a character continues no other. -/
theorem exists_lead_utf8EncodeChar (char : Char) :
    ∃ lead more, String.utf8EncodeChar char = lead :: more ∧
      ¬(0x80 ≤ lead.toNat ∧ lead.toNat ≤ 0xBF) := by
  unfold String.utf8EncodeChar
  simp only
  repeat' split
  all_goals
    refine ⟨_, _, rfl, ?_⟩
    simp only [UInt8.toNat_ofNat']
    omega

theorem decodeFrom_reachable_encodeChar {state : State} (reachable : state.IsReachable)
    (char : Char) (rest : List UInt8) :
    decodeFrom state (String.utf8EncodeChar char ++ rest) =
      finish state ++ char :: decodeLossy rest := by
  have fromStart := decodeFrom_encodeChar char rest
  rcases exists_lead_utf8EncodeChar char with ⟨lead, more, bytes, notContinues⟩
  simp only [bytes, List.cons_append, decodeFrom] at fromStart ⊢
  rw [step_of_not_continues start_isReachable notContinues] at fromStart
  rw [step_of_not_continues reachable notContinues, List.append_assoc]
  exact congrArg (finish state ++ ·) fromStart

/-- Reading is compatible with cutting at a character, also where the bytes before it break off. -/
theorem decodeFrom_append_encodeChar {state : State} (reachable : state.IsReachable)
    (left : List UInt8) (char : Char) (right : List UInt8) :
    decodeFrom state (left ++ String.utf8EncodeChar char ++ right) =
      decodeFrom state left ++ char :: decodeLossy right := by
  induction left generalizing state with
  | nil => exact decodeFrom_reachable_encodeChar reachable char right
  | cons byte rest ih =>
      simp only [List.cons_append, decodeFrom]
      rw [ih (step_isReachable reachable _), List.append_assoc]

theorem decodeLossy_append_encodeChar (left : List UInt8) (char : Char) (right : List UInt8) :
    decodeLossy (left ++ String.utf8EncodeChar char ++ right) =
      decodeLossy left ++ char :: decodeLossy right :=
  decodeFrom_append_encodeChar start_isReachable left char right

end RestQuery.Utf8
