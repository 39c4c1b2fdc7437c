/-
# Sets of characters

A set is given by its edges: the code points where membership changes, in ascending order. A
code point is in the set exactly if an odd number of edges are at most it, so one sweep over the
edges of two sets gives their union, their intersection and the like. Surrogates may lie between
two edges; no character is one of them.
-/

import DocExamples.Text.Blank

namespace DocExamples

/-- A set of characters by its edges. -/
structure CharSet where
  edges : List Nat
deriving DecidableEq, Repr

namespace CharSet

/-- Whether an odd number of ascending edges are at most `n`. -/
def within : List Nat → Nat → Bool
  | [], _ => false
  | e :: es, n => if n < e then false else !within es n

def mem (s : CharSet) (c : Char) : Bool := within s.edges c.toNat

/-- No character. -/
def empty : CharSet := ⟨[]⟩

/-- Every character. -/
def full : CharSet := ⟨[0]⟩

/-- The code points from `lo` to `hi`. -/
def ofCodes (lo hi : Nat) : CharSet :=
  if hi < lo then empty else if hi < 0x10FFFF then ⟨[lo, hi + 1]⟩ else ⟨[lo]⟩

/-- The characters from `lo` to `hi`. -/
def range (lo hi : Char) : CharSet := ofCodes lo.toNat hi.toNat

/-- One character. -/
def single (c : Char) : CharSet := range c c

/-- What is not in the set. -/
def compl (s : CharSet) : CharSet :=
  match s.edges with
  | 0 :: es => ⟨es⟩
  | es => ⟨0 :: es⟩

/-- `s`, or what is not in it. -/
def complIf (negated : Bool) (s : CharSet) : CharSet := if negated then s.compl else s

/-- The lesser of the first edges of two lists. -/
def nextEdge? : List Nat → List Nat → Option Nat
  | [], [] => none
  | [], e :: _ => some e
  | d :: _, [] => some d
  | d :: _, e :: _ => some (if d < e then d else e)

/-- Whether an edge comes first, and the edges without it. -/
def take (e : Nat) : List Nat → Bool × List Nat
  | [] => (false, [])
  | d :: es => if d = e then (true, es) else (false, d :: es)

/-- The edges of the set of all code points for which `op` holds of the membership in two sets.
`p` and `q` say whether the code points before the edges are in the one and in the other. -/
def sweep (op : Bool → Bool → Bool) : (fuel : Nat) → (p q : Bool) → List Nat → List Nat → List Nat
  | 0, _, _, _, _ => []
  | fuel + 1, p, q, ds, es =>
    match nextEdge? ds es with
    | none => []
    | some e =>
      let (inLeft, ds) := take e ds
      let (inRight, es) := take e es
      let rest := sweep op fuel (p != inLeft) (q != inRight) ds es
      if op (p != inLeft) (q != inRight) == op p q then rest else e :: rest

/-- The set of all characters for which `op` holds of the membership in two sets. -/
def combine (op : Bool → Bool → Bool) (s t : CharSet) : CharSet :=
  ⟨sweep op (s.edges.length + t.edges.length) false false s.edges t.edges⟩

def union (s t : CharSet) : CharSet := combine (· || ·) s t

def inter (s t : CharSet) : CharSet := combine (· && ·) s t

def diff (s t : CharSet) : CharSet := combine (fun p q => p && !q) s t

/-- The characters in exactly one of two sets. -/
def symmDiff (s t : CharSet) : CharSet := combine (· != ·) s t

/-- The characters of a list. -/
def ofList (cs : List Char) : CharSet := cs.foldr (fun c s => (single c).union s) empty

/-- The edges of ascending code points. -/
def edgesOf : List Nat → List Nat
  | [] => []
  | n :: ns =>
    match edgesOf ns with
    | [] => [n, n + 1]
    | e :: es => if e = n then e :: es else if e = n + 1 then n :: es else n :: (n + 1) :: e :: es

/-- The code points of a list in any order. -/
def ofPoints (ns : List Nat) : CharSet := ⟨edgesOf ns.mergeSort⟩

/-- The runs between edges, each with its first and its last code point. -/
def runsOf : List Nat → List (Nat × Nat)
  | [] => []
  | [lo] => [(lo, 0x10FFFF)]
  | lo :: hi :: es => (lo, hi - 1) :: runsOf es

/-- A run without surrogates at its ends, if any character is left. -/
def characters? (run : Nat × Nat) : Option (Nat × Nat) :=
  let (lo, hi) := run
  let lo := if 0xD800 ≤ lo && lo < 0xE000 then 0xE000 else lo
  let hi := if 0xD800 ≤ hi && hi < 0xE000 then 0xD7FF else hi
  if hi < lo then none else some (lo, hi)

/-- The runs of the set. -/
def runs (s : CharSet) : List (Nat × Nat) := (runsOf s.edges).filterMap characters?

/-- The code points of the set. -/
def points (s : CharSet) : List Nat := s.runs.flatMap fun (lo, hi) => List.range' lo (hi + 1 - lo)

/-- All characters that differ from one of the set at most in the case of an unaccented letter. -/
def foldAsciiCase (s : CharSet) : CharSet :=
  let upper := s.inter (range 'A' 'Z')
  let lower := s.inter (range 'a' 'z')
  s.union (union ⟨upper.edges.map (· + 32)⟩ ⟨lower.edges.map (· - 32)⟩)

/-- The blank characters. -/
def blank : CharSet :=
  ⟨[9, 14, 32, 33, 133, 134, 160, 161, 5760, 5761, 8192, 8203, 8232, 8234, 8239, 8240, 8287, 8288,
    12288, 12289]⟩

theorem mem_blank (c : Char) : blank.mem c = Text.isBlank c := by
  rw [Bool.eq_iff_iff]
  simp [mem, blank, within, Text.isBlank]
  omega

/-! ## Classes of the first 128 code points -/

/-- The word characters among the first 128 code points. -/
def asciiWord : CharSet := ⟨[48, 58, 65, 91, 95, 96, 97, 123]⟩

/-- The decimal digits from `0` to `9`. -/
def asciiDigit : CharSet := range '0' '9'

/-- The blank characters among the first 128 code points. -/
def asciiBlank : CharSet := ⟨[9, 14, 32, 33]⟩

/-- The bracketed class names, such as `alpha` in `[[:alpha:]]`. -/
def asciiClass? : String → Option CharSet
  | "alnum" => some ⟨[48, 58, 65, 91, 97, 123]⟩
  | "alpha" => some ⟨[65, 91, 97, 123]⟩
  | "ascii" => some ⟨[0, 128]⟩
  | "blank" => some ⟨[9, 10, 32, 33]⟩
  | "cntrl" => some ⟨[0, 32, 127, 128]⟩
  | "digit" => some asciiDigit
  | "graph" => some ⟨[33, 127]⟩
  | "lower" => some ⟨[97, 123]⟩
  | "print" => some ⟨[32, 127]⟩
  | "punct" => some ⟨[33, 48, 58, 65, 91, 97, 123, 127]⟩
  | "space" => some asciiBlank
  | "upper" => some ⟨[65, 91]⟩
  | "word" => some asciiWord
  | "xdigit" => some ⟨[48, 58, 65, 71, 97, 103]⟩
  | _ => none

end CharSet
end DocExamples
