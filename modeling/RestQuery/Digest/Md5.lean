import RestQuery.Text.Hexadecimal
import RestQuery.Text.Utf8

/-!
# MD5

The digest that shortens the text of a cache key. The message is padded to whole blocks of 64
bytes, which carry its length in bits at the end; each block is mixed into four words by 64
rounds. Words are little-endian.
-/

namespace RestQuery.Md5

/-- The four words that are mixed. -/
structure Words where
  a : UInt32
  b : UInt32
  c : UInt32
  d : UInt32
deriving DecidableEq, Repr

/-- The words before the first block. -/
def initialWords : Words :=
  ⟨0x67452301, 0xEFCDAB89, 0x98BADCFE, 0x10325476⟩

/-- The constants of the rounds, the integer parts of `2 ^ 32 * |sin (round + 1)|`. -/
def constants : List UInt32 :=
  [0xD76AA478, 0xE8C7B756, 0x242070DB, 0xC1BDCEEE, 0xF57C0FAF, 0x4787C62A, 0xA8304613, 0xFD469501,
    0x698098D8, 0x8B44F7AF, 0xFFFF5BB1, 0x895CD7BE, 0x6B901122, 0xFD987193, 0xA679438E, 0x49B40821,
    0xF61E2562, 0xC040B340, 0x265E5A51, 0xE9B6C7AA, 0xD62F105D, 0x02441453, 0xD8A1E681, 0xE7D3FBC8,
    0x21E1CDE6, 0xC33707D6, 0xF4D50D87, 0x455A14ED, 0xA9E3E905, 0xFCEFA3F8, 0x676F02D9, 0x8D2A4C8A,
    0xFFFA3942, 0x8771F681, 0x6D9D6122, 0xFDE5380C, 0xA4BEEA44, 0x4BDECFA9, 0xF6BB4B60, 0xBEBFBC70,
    0x289B7EC6, 0xEAA127FA, 0xD4EF3085, 0x04881D05, 0xD9D4D039, 0xE6DB99E5, 0x1FA27CF8, 0xC4AC5665,
    0xF4292244, 0x432AFF97, 0xAB9423A7, 0xFC93A039, 0x655B59C3, 0x8F0CCC92, 0xFFEFF47D, 0x85845DD1,
    0x6FA87E4F, 0xFE2CE6E0, 0xA3014314, 0x4E0811A1, 0xF7537E82, 0xBD3AF235, 0x2AD7D2BB, 0xEB86D391]

/-- The rotations of the rounds: each group of sixteen rounds repeats four of them. -/
def rotation (round : Nat) : UInt32 :=
  let group : List UInt32 :=
    match round / 16 with
    | 0 => [7, 12, 17, 22]
    | 1 => [5, 9, 14, 20]
    | 2 => [4, 11, 16, 23]
    | _ => [6, 10, 15, 21]
  group.getD (round % 4) 0

/-- The word of the block that a round takes. -/
def wordIndex (round : Nat) : Nat :=
  match round / 16 with
  | 0 => round
  | 1 => (5 * round + 1) % 16
  | 2 => (3 * round + 5) % 16
  | _ => 7 * round % 16

/-- The mixing function of a round. -/
def mix (round : Nat) (words : Words) : UInt32 :=
  match round / 16 with
  | 0 => (words.b &&& words.c) ||| (~~~words.b &&& words.d)
  | 1 => (words.d &&& words.b) ||| (~~~words.d &&& words.c)
  | 2 => words.b ^^^ words.c ^^^ words.d
  | _ => words.c ^^^ (words.b ||| ~~~words.d)

/-- The word with its bits rotated to the left. -/
def rotateLeft (word amount : UInt32) : UInt32 :=
  (word <<< amount) ||| (word >>> (32 - amount))

/-- One round with its constant. -/
def oneRound (block : List UInt32) (words : Words) (step : Nat × UInt32) : Words :=
  let (round, constant) := step
  let sum := words.a + mix round words + constant + block.getD (wordIndex round) 0
  ⟨words.d, words.b + rotateLeft sum (rotation round), words.b, words.c⟩

/-- Mixes a block of sixteen words into the words. -/
def mixBlock (words : Words) (block : List UInt32) : Words :=
  let mixed := ((List.range 64).zip constants).foldl (oneRound block) words
  ⟨words.a + mixed.a, words.b + mixed.b, words.c + mixed.c, words.d + mixed.d⟩

/-- The low bytes of a number, the lowest first. -/
def littleEndian (count number : Nat) : List UInt8 :=
  (List.range count).map fun index => UInt8.ofNat (number >>> (8 * index))

/-- The message, a one bit, zeros up to eight bytes before the end of a block, and its length. -/
def pad (message : List UInt8) : List UInt8 :=
  message ++ 0x80 :: List.replicate ((119 - message.length % 64) % 64) 0 ++
    littleEndian 8 (8 * message.length)

/-- The words of a sequence of bytes. -/
def toWords : List UInt8 → List UInt32
  | first :: second :: third :: fourth :: rest =>
      UInt32.ofNat
        (first.toNat + 256 * second.toNat + 65536 * third.toNat + 16777216 * fourth.toNat) ::
        toWords rest
  | _ => []

/-- Mixes a number of blocks of sixteen words, one after another. -/
def mixBlocks : Nat → Words → List UInt32 → Words
  | 0, words, _ => words
  | blocks + 1, words, message =>
      mixBlocks blocks (mixBlock words (message.take 16)) (message.drop 16)

/-- The sixteen bytes of the digest. -/
def digest (message : List UInt8) : List UInt8 :=
  let padded := toWords (pad message)
  let words := mixBlocks (padded.length / 16) initialWords padded
  [words.a, words.b, words.c, words.d].flatMap fun word => littleEndian 4 word.toNat

/-- The digest of a text in lower-case hexadecimal digits. -/
def hex (text : String) : String :=
  String.ofList ((digest (Utf8.encode text.toList)).flatMap fun byte =>
    [Text.lowerHexDigit (byte.toNat / 16), Text.lowerHexDigit (byte.toNat % 16)])

end RestQuery.Md5
