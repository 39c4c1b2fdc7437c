/-
# Globs

A glob describes paths: a question mark stands for one byte, a star for any bytes, brackets for a
byte from a set, braces for one of several globs, and two stars between slashes for any
directories. Only the two stars match slashes. A backslash takes away the meaning of the character
after it. A bracket that is never closed stands for itself, and so do all brackets after it.
-/

import DocExamples.Text.Utf8

namespace DocExamples

/-- One piece of a glob. -/
inductive GlobPart where
  | literal (c : Char)
  /-- Any byte but a slash. -/
  | any
  /-- Any bytes but slashes. -/
  | run
  /-- A byte that is in one of the ranges, or in none of them. -/
  | oneOf (negated : Bool) (ranges : List (UInt8 × UInt8))
  /-- Nothing, or anything up to a slash. -/
  | leading
  /-- A slash, or anything between two slashes. -/
  | inner
  /-- A slash and anything after it. -/
  | trailing
  /-- One of several globs; nothing if there is none. -/
  | choice (alternatives : List (List GlobPart))
deriving Repr, Inhabited

abbrev Glob := List GlobPart

namespace Glob

def slash : UInt8 := 47

/-- The ends of a byte string, the whole of it first. -/
def tails : List UInt8 → List (List UInt8)
  | [] => [[]]
  | b :: rest => (b :: rest) :: tails rest

/-- What is left after any bytes but slashes. -/
def afterRun : List UInt8 → List (List UInt8)
  | [] => [[]]
  | b :: rest => (b :: rest) :: (if b == slash then [] else afterRun rest)

/-- What is left after any bytes that end in a slash. -/
def afterSlashes : List UInt8 → List (List UInt8)
  | [] => []
  | b :: rest => (if b == slash then [rest] else []) ++ afterSlashes rest

def inRanges (ranges : List (UInt8 × UInt8)) (b : UInt8) : Bool :=
  ranges.any fun (lo, hi) => lo.toNat ≤ b.toNat && b.toNat ≤ hi.toNat

/-- The bytes that a range of characters in brackets stands for: those of its first character, those
of its last one, and what lies between the last byte of the one and the first of the other. -/
def byteRanges (range : Char × Char) : List (UInt8 × UInt8) :=
  let lo := Text.encodeChar range.1
  let hi := Text.encodeChar range.2
  let alone (bytes : List UInt8) : List (UInt8 × UInt8) := bytes.map fun b => (b, b)
  if range.1 == range.2 then alone lo
  else match lo.getLast?, hi.head? with
    | some a, some b => alone lo.dropLast ++ (a, b) :: alone hi.tail
    | _, _ => []

/-- Whether a piece is a choice of nothing. -/
def isVoid : GlobPart → Bool
  | .choice alternatives => alternatives.isEmpty
  | _ => false

mutual

/-- What a piece may leave of a byte string that it matches the beginning of. -/
def residues : GlobPart → List UInt8 → List (List UInt8)
  | .literal c, bytes =>
    let encoded := Text.encodeChar c
    if encoded.isPrefixOf bytes then [bytes.drop encoded.length] else []
  | .any, b :: rest => if b == slash then [] else [rest]
  | .any, [] => []
  | .run, bytes => afterRun bytes
  | .oneOf negated ranges, b :: rest => if inRanges ranges b != negated then [rest] else []
  | .oneOf .., [] => []
  | .leading, bytes => (bytes :: afterSlashes bytes).eraseDups
  | .inner, b :: rest => if b == slash then (rest :: afterSlashes rest).eraseDups else []
  | .inner, [] => []
  | .trailing, b :: rest => if b == slash then tails rest else []
  | .trailing, [] => []
  | .choice [], bytes => [bytes]
  | .choice alternatives, bytes => (residuesOfAny alternatives bytes).eraseDups

/-- What the pieces of a glob leave, one after the other. -/
def residuesOfAll : List GlobPart → List UInt8 → List (List UInt8)
  | [], bytes => [bytes]
  | p :: rest, bytes => ((residues p bytes).flatMap (residuesOfAll rest)).eraseDups

def residuesOfAny : List (List GlobPart) → List UInt8 → List (List UInt8)
  | [], _ => []
  | g :: rest, bytes => residuesOfAll g bytes ++ residuesOfAny rest bytes

end

/-- Whether a glob matches a path. Two stars alone match every path. -/
def matchesPath (g : Glob) (path : List Char) : Bool :=
  match g with
  | [.leading] => true
  | _ => (residuesOfAll g (Text.encode path)).contains []

/-! ## Reading -/

/-- A glob being read: the pieces of the alternative at hand in reverse, and for each open brace
the alternatives before and what stands in front of it. -/
structure Reader where
  parts : List GlobPart := []
  outer : List (List (List GlobPart) × List GlobPart) := []
  /-- The character read last. -/
  last : Option Char := none
  /-- Whether a bracket was found that is never closed. -/
  plainBrackets : Bool := false

namespace Reader

def push (r : Reader) (p : GlobPart) (last : Char) : Reader :=
  { r with parts := p :: r.parts, last := some last }

/-- Two stars, with what follows them: they stand for directories only between slashes and ends,
otherwise for a star. Answers what remains to be read. -/
def doubleStar (r : Reader) (cs : List Char) : Reader × List Char :=
  let star : Reader := (r.push .run '*').push .run '*'
  match r.parts, cs with
  | [], [] => (r.push .leading '*', [])
  | [], '/' :: rest => (r.push .leading '/', rest)
  | [], _ => (star, cs)
  | before :: parts, _ =>
    if r.last != some '/' then (star, cs)
    else
      let put (p : GlobPart) (last : Char) : Reader :=
        match before with
        | .leading | .trailing => { r with last := some last }
        | _ => { r with parts := p :: parts, last := some last }
      match cs with
      | [] => (put .trailing '*', [])
      | '/' :: rest => (put .inner '/', rest)
      | c :: _ =>
        if !r.outer.isEmpty && (c == ',' || c == '\x7d') then (put .trailing '*', cs)
        else (star, cs)

/-- The ranges of a set up to its closing bracket, in reverse; a bracket that comes first belongs
to the set, and so does a hyphen that comes first or last. A range that goes down is refused; if
there is no closing bracket, the inner value is missing. -/
def ranges? : (inRange : Bool) → (read : List (Char × Char)) → List Char →
    Option (Option (List (Char × Char) × List Char))
  | _, _, [] => some none
  | inRange, read, c :: rest =>
    match read with
    | [] => ranges? false [(c, c)] rest
    | (lo, hi) :: before =>
      if c == ']' then some (some (if inRange then ('-', '-') :: read else read, rest))
      else if inRange then
        if c < lo then none else ranges? false ((lo, c) :: before) rest
      else if c == '-' then ranges? true ((lo, hi) :: before) rest
      else ranges? false ((c, c) :: read) rest

/-- Closes the innermost brace. Empty alternatives are left out. -/
def close? (r : Reader) : Option Reader :=
  match r.outer with
  | [] => none
  | (alternatives, before) :: outer =>
    let written := (r.parts.reverse :: alternatives).reverse
    some { r with
      parts := .choice (written.filter fun g => !g.all isVoid) :: before
      outer, last := some '\x7d' }

/-- Reads the first piece of a text that is not empty. -/
def step? (r : Reader) : List Char → Option (Reader × List Char)
  | [] => none
  | '?' :: rest => some (r.push .any '?', rest)
  | '*' :: '*' :: rest => some (r.doubleStar rest)
  | '*' :: rest => some (r.push .run '*', rest)
  | '[' :: rest => do
    let (negated, inside) := match rest with
      | '!' :: more | '^' :: more => (true, more)
      | _ => (false, rest)
    match ← if r.plainBrackets then some none else ranges? false [] inside with
    | some (ranges, rest) =>
      return (r.push (.oneOf negated (ranges.flatMap byteRanges)) ']', rest)
    | none => return ({ r.push (.literal '[') '[' with plainBrackets := true }, rest)
  | '\x7b' :: rest =>
    some ({ r with parts := [], outer := ([], r.parts) :: r.outer, last := some '\x7b' }, rest)
  | '\x7d' :: rest => r.close?.map (·, rest)
  | ',' :: rest =>
    match r.outer with
    | [] => some (r.push (.literal ',') ',', rest)
    | (alternatives, before) :: outer =>
      some ({ r with
        parts := [], outer := (r.parts.reverse :: alternatives, before) :: outer
        last := some ',' }, rest)
  | '\x5c' :: c :: rest => some (r.push (.literal c) c, rest)
  | ['\x5c'] => none
  | c :: rest => some (r.push (.literal c) c, rest)

def run? : (fuel : Nat) → Reader → List Char → Option Glob
  | _, r, [] => if r.outer.isEmpty then some r.parts.reverse else none
  | 0, _, _ => none
  | fuel + 1, r, cs => do
    let (r, rest) ← r.step? cs
    run? fuel r rest

end Reader

/-- The glob that a text writes down. -/
def read? (cs : List Char) : Option Glob := Reader.run? cs.length {} cs

end Glob
end DocExamples
