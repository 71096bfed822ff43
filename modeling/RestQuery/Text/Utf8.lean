/-!
# Bytes of text

Percent escapes name bytes, so a decoded component is a byte sequence that need not be UTF-8.
Reading it as text replaces every maximal ill-formed part by one U+FFFD: a part ends before the
first byte that cannot continue the character begun, and that byte is read afresh.

The reader is a machine that takes one byte at a time. Its state says what the next byte may be.
A byte below 0x80 always brings the machine back between characters, whatever came before it;
this is what makes decoding compatible with cutting at an ASCII separator.
-/

namespace RestQuery.Utf8

/-- The bytes of a text. -/
def encode (chars : List Char) : List UInt8 :=
  chars.flatMap String.utf8EncodeChar

/-- The character that stands for an ill-formed part. -/
def replacement : Char := '\uFFFD'

/-- Where the reader stands between two bytes. -/
inductive State where
  /-- Between characters. -/
  | start
  /--
  Within a character: the bits read so far, the least and greatest byte that may come next, and
  how many further bytes come after that one.
  -/
  | within (bits : Nat) (least greatest : Nat) (further : Nat)
deriving DecidableEq, Repr

/-- What a first byte yields, and what it makes the reader expect. -/
def first (byte : Nat) : List Char × State :=
  if byte < 0x80 then ([Char.ofNat byte], .start)
  else if byte < 0xC2 then ([replacement], .start)
  else if byte < 0xE0 then ([], .within (byte - 0xC0) 0x80 0xBF 0)
  else if byte = 0xE0 then ([], .within 0x0 0xA0 0xBF 1)
  else if byte = 0xED then ([], .within 0xD 0x80 0x9F 1)
  else if byte < 0xF0 then ([], .within (byte - 0xE0) 0x80 0xBF 1)
  else if byte = 0xF0 then ([], .within 0x0 0x90 0xBF 2)
  else if byte < 0xF4 then ([], .within (byte - 0xF0) 0x80 0xBF 2)
  else if byte = 0xF4 then ([], .within 0x4 0x80 0x8F 2)
  else ([replacement], .start)

/-- The characters that one more byte completes, and the state after it. -/
def step (state : State) (byte : Nat) : List Char × State :=
  match state with
  | .start => first byte
  | .within bits least greatest further =>
      if least ≤ byte ∧ byte ≤ greatest then
        let bits := bits * 64 + byte % 64
        match further with
        | 0 => ([Char.ofNat bits], .start)
        | further + 1 => ([], .within bits 0x80 0xBF further)
      else
        let (chars, state) := first byte
        (replacement :: chars, state)

/-- What is left to write when the bytes end in a state. -/
def finish : State → List Char
  | .start => []
  | .within .. => [replacement]

/-- The characters of a byte sequence that is read from a state on. -/
def decodeFrom (state : State) : List UInt8 → List Char
  | [] => finish state
  | byte :: rest =>
      let (chars, next) := step state byte.toNat
      chars ++ decodeFrom next rest

/-- The characters of a byte sequence, each maximal ill-formed part replaced by U+FFFD. -/
def decodeLossy (bytes : List UInt8) : List Char :=
  decodeFrom .start bytes

@[simp]
theorem encode_nil : encode [] = [] := rfl

@[simp]
theorem encode_append (left right : List Char) :
    encode (left ++ right) = encode left ++ encode right := by
  simp [encode]

end RestQuery.Utf8
