/-
# Runs of characters as runs of bytes

The characters of a run are written as bytes by a few rows of byte ranges: a row stands for all
byte strings with one byte from each of its ranges. To get there a run is cut wherever the number
of bytes changes, and further until every byte but those that all its characters share takes
either one value or all that it can take.
-/

import DocExamples.Text.Utf8

namespace DocExamples
namespace Text

/-- The runs of characters that are written with one number of bytes. -/
def widthRuns : List (Nat × Nat) :=
  [(0, 0x7F), (0x80, 0x7FF), (0x800, 0xD7FF), (0xE000, 0xFFFF), (0x10000, 0x10FFFF)]

/-- The last code point of the first part if the run has to be cut at a block of code points. -/
def cutWithin? (lo hi block : Nat) : Option Nat :=
  if lo / block = hi / block then none
  else if lo % block ≠ 0 then some (lo / block * block + block - 1)
  else if hi % block ≠ block - 1 then some (hi / block * block - 1)
  else none

/-- Cuts a run of one width, at the smallest blocks first. Six cuts are all there can be on the
way to a part. A run of single bytes needs none. -/
def alignedRuns : (fuel : Nat) → (lo hi : Nat) → List (Nat × Nat)
  | 0, lo, hi => [(lo, hi)]
  | fuel + 1, lo, hi =>
    if hi < 128 then [(lo, hi)]
    else
      match [64, 4096, 262144].findSome? (cutWithin? lo hi) with
      | some last => alignedRuns fuel lo last ++ alignedRuns fuel (last + 1) hi
      | none => [(lo, hi)]

/-- The rows of byte ranges of a run, in order of code points. -/
def byteRuns (run : Nat × Nat) : List (List (Nat × Nat)) :=
  let (lo, hi) := run
  let cut := widthRuns.filterMap fun (first, last) =>
    if max lo first ≤ min hi last then some (max lo first, min hi last) else none
  (cut.flatMap fun (lo, hi) => alignedRuns 8 lo hi).map fun (lo, hi) =>
    ((encodeChar (Char.ofNat lo)).map UInt8.toNat).zip
      ((encodeChar (Char.ofNat hi)).map UInt8.toNat)

end Text
end DocExamples
