/-
# Texts as bytes

Encoding a text writes each character in one to four bytes. Decoding is strict (`decode?`: any
ill-formed byte refuses the whole input) or lossy (`decodeLossy`: each maximal ill-formed run is
read as one replacement character, where a run is the longest prefix of a well-formed sequence,
or a single byte if there is none).
-/

namespace DocExamples
namespace Text

/-- The bytes of one character. -/
def encodeChar (c : Char) : List UInt8 :=
  let n := c.toNat
  if n < 0x80 then [n.toUInt8]
  else if n < 0x800 then [(0xC0 + n / 64).toUInt8, (0x80 + n % 64).toUInt8]
  else if n < 0x10000 then
    [(0xE0 + n / 4096).toUInt8, (0x80 + n / 64 % 64).toUInt8, (0x80 + n % 64).toUInt8]
  else
    [(0xF0 + n / 262144).toUInt8, (0x80 + n / 4096 % 64).toUInt8, (0x80 + n / 64 % 64).toUInt8,
      (0x80 + n % 64).toUInt8]

/-- The bytes of a text. -/
def encode (s : List Char) : List UInt8 := s.flatMap encodeChar

/-- The number of bytes of a character. -/
def charWidth (c : Char) : Nat :=
  let n := c.toNat
  if n < 0x80 then 1 else if n < 0x800 then 2 else if n < 0x10000 then 3 else 4

/-- The number of bytes of a text. -/
def width (s : List Char) : Nat := s.foldr (fun c n => charWidth c + n) 0

theorem length_encodeChar (c : Char) : (encodeChar c).length = charWidth c := by
  simp only [encodeChar, charWidth]
  repeat' split
  all_goals rfl

theorem length_encode (s : List Char) : (encode s).length = width s := by
  induction s with
  | nil => rfl
  | cons c s ih => simp_all [encode, width, length_encodeChar]

/-- How a first byte may go on: the number of further bytes, the bits it contributes, and the
range of the second byte, which rules out overlong forms, surrogates and what is above the last
code point. -/
def leadByte? (b : Nat) : Option (Nat × Nat × Nat × Nat) :=
  if b < 0x80 then some (0, b, 0, 0)
  else if 0xC2 ≤ b ∧ b ≤ 0xDF then some (1, b - 0xC0, 0x80, 0xBF)
  else if b = 0xE0 then some (2, 0, 0xA0, 0xBF)
  else if b = 0xED then some (2, 13, 0x80, 0x9F)
  else if 0xE1 ≤ b ∧ b ≤ 0xEF then some (2, b - 0xE0, 0x80, 0xBF)
  else if b = 0xF0 then some (3, 0, 0x90, 0xBF)
  else if 0xF1 ≤ b ∧ b ≤ 0xF3 then some (3, b - 0xF0, 0x80, 0xBF)
  else if b = 0xF4 then some (3, 4, 0x80, 0x8F)
  else none

/-- Reads `count` further bytes, the first of them within `lo` and `hi`, on top of `value`:
the code point, or nothing if they are ill-formed, and how many bytes were taken. -/
def continuation : (count value lo hi : Nat) → List UInt8 → Option Nat × Nat
  | 0, value, _, _, _ => (some value, 0)
  | _ + 1, _, _, _, [] => (none, 0)
  | count + 1, value, lo, hi, b :: rest =>
    if lo ≤ b.toNat ∧ b.toNat ≤ hi then
      let (r, taken) := continuation count (value * 64 + (b.toNat - 0x80)) 0x80 0xBF rest
      (r, taken + 1)
    else (none, 0)

/-- The first character of a byte string, `none` if it is ill-formed, and the bytes after it. -/
def decodeStep (b : UInt8) (rest : List UInt8) : Option Char × List UInt8 :=
  match leadByte? b.toNat with
  | none => (none, rest)
  | some (count, value, lo, hi) =>
    let (r, taken) := continuation count value lo hi rest
    (r.map Char.ofNat, rest.drop taken)

theorem decodeStep_length_le (b : UInt8) (rest : List UInt8) :
    (decodeStep b rest).2.length ≤ rest.length := by
  unfold decodeStep
  split <;> simp

/-- The characters of a byte string, `none` for each ill-formed run. -/
def decodeRuns : List UInt8 → List (Option Char)
  | [] => []
  | b :: rest => (decodeStep b rest).1 :: decodeRuns (decodeStep b rest).2
termination_by bytes => bytes.length
decreasing_by
  have := decodeStep_length_le b rest
  simp only [List.length_cons]; omega

/-- The text of a well-formed byte string. -/
def decode? (bytes : List UInt8) : Option (List Char) := (decodeRuns bytes).mapM id

/-- The text of a byte string, each ill-formed run read as one replacement character. -/
def decodeLossy (bytes : List UInt8) : List Char :=
  (decodeRuns bytes).map fun c => c.getD (Char.ofNat 0xFFFD)

/-- Each byte as the character of its number. -/
def bytesAsChars (bytes : List UInt8) : List Char := bytes.map fun b => Char.ofNat b.toNat

/-- The bytes whose numbers characters have. -/
def charsAsBytes (cs : List Char) : List UInt8 := cs.map fun c => UInt8.ofNat c.toNat

end Text
end DocExamples
