/-
# Wildcards

Wildcards of the shell: a star stands for any bytes, a question mark for one, and brackets for one
of a set. What is quoted stands for itself.
-/

import DocExamples.Shell.Syntax

namespace DocExamples
namespace Shell

/-- One piece of a wildcard. -/
inductive WildcardPart where
  | literal (c : Char)
  | any
  | run
  | oneOf (negated : Bool) (ranges : List (Char × Char))
deriving DecidableEq, Repr, Inhabited

abbrev Wildcard := List WildcardPart

namespace Wildcard

/-- The ranges of a class of characters. -/
def classRanges (name : String) : List (Char × Char) :=
  match name with
  | "alpha" => [('a', 'z'), ('A', 'Z')]
  | "digit" => [('0', '9')]
  | "alnum" => [('a', 'z'), ('A', 'Z'), ('0', '9')]
  | "upper" => [('A', 'Z')]
  | "lower" => [('a', 'z')]
  | "space" => [('\t', '\r'), (' ', ' ')]
  | "blank" => [('\t', '\t'), (' ', ' ')]
  | "punct" => [('!', '/'), (':', '@'), ('[', '\x60'), ('\x7b', '~')]
  | "xdigit" => [('0', '9'), ('a', 'f'), ('A', 'F')]
  | "print" => [(' ', '~')]
  | "graph" => [('!', '~')]
  | "cntrl" => [('\x00', '\x1f'), ('\x7f', '\x7f')]
  | _ => []

/-- The ranges of a set up to its closing bracket; one that comes first belongs to the set. -/
def ranges? : (fuel : Nat) → (first : Bool) → (read : List (Char × Char)) → List (Char × Bool) →
    Option (List (Char × Char) × List (Char × Bool))
  | 0, _, _, _ => none
  | _ + 1, _, _, [] => none
  | fuel + 1, first, read, (c, quoted) :: rest =>
    let named := match c, rest with
      | '[', (':', false) :: more =>
        let name := (more.map (·.1)).takeWhile Char.isAlpha
        match more.drop name.length with
        | (':', _) :: (']', _) :: after => some (classRanges (String.ofList name), after)
        | _ => none
      | _, _ => none
    if c == ']' && !quoted && !first then some (read, rest)
    else match named, rest with
      | some (found, more), _ => ranges? fuel false (found ++ read) more
      | none, ('-', false) :: (d, q) :: more =>
        if d == ']' && !q then ranges? fuel false ((c, c) :: read) rest
        else ranges? fuel false ((c, d) :: read) more
      | none, _ => ranges? fuel false ((c, c) :: read) rest

/-- The wildcard that bytes write down, each marked if it is quoted. A backslash takes the meaning
from the byte after it. -/
def ofMarked : (fuel : Nat) → List (Char × Bool) → Wildcard
  | 0, _ => []
  | _ + 1, [] => []
  | fuel + 1, (c, quoted) :: rest =>
    match quoted, c with
    | false, '*' => .run :: ofMarked fuel rest
    | false, '?' => .any :: ofMarked fuel rest
    | false, '\x5c' =>
      match rest with
      | (d, _) :: more => .literal d :: ofMarked fuel more
      | [] => [.literal c]
    | false, '[' =>
      let (negated, inner) := match rest with
        | ('!', false) :: more => (true, more)
        | _ => (false, rest)
      match ranges? (inner.length + 1) true [] inner with
      | some (ranges, more) => .oneOf negated ranges :: ofMarked fuel more
      | none => .literal c :: ofMarked fuel rest
    | _, _ => .literal c :: ofMarked fuel rest

/-- The literals of a wildcard. -/
def literal (w : Wildcard) : Bytes :=
  w.filterMap fun p =>
    match p with
    | .literal c => some c
    | _ => none

/-- Whether a wildcard has a part that is not a literal. -/
def isProper (w : Wildcard) : Bool :=
  w.any fun p =>
    match p with
    | .literal _ => false
    | _ => true

def inRanges (ranges : List (Char × Char)) (c : Char) : Bool :=
  ranges.any fun (lo, hi) => lo ≤ c && c ≤ hi

/-- The ends of a text, the whole of it first. -/
def tails : Bytes → List Bytes
  | [] => [[]]
  | c :: rest => (c :: rest) :: tails rest

/-- Whether a wildcard matches a whole text. -/
def matchesAll : Wildcard → Bytes → Bool
  | [], cs => cs.isEmpty
  | .literal c :: rest, d :: cs => c == d && matchesAll rest cs
  | .any :: rest, _ :: cs => matchesAll rest cs
  | .oneOf negated ranges :: rest, d :: cs =>
    inRanges ranges d != negated && matchesAll rest cs
  | .run :: rest, cs => (tails cs).any (matchesAll rest)
  | _ :: _, [] => false

/-- A text without its shortest or longest beginning that a wildcard matches. -/
def cutFront (w : Wildcard) (long : Bool) (cs : Bytes) : Bytes :=
  let lengths := List.range (cs.length + 1)
  match (if long then lengths.reverse else lengths).find? fun n => matchesAll w (cs.take n) with
  | some n => cs.drop n
  | none => cs

/-- A text without its shortest or longest end that a wildcard matches. -/
def cutEnd (w : Wildcard) (long : Bool) (cs : Bytes) : Bytes :=
  let lengths := List.range (cs.length + 1)
  match (if long then lengths else lengths.reverse).find? fun n => matchesAll w (cs.drop n) with
  | some n => cs.take n
  | none => cs

end Wildcard
end Shell
end DocExamples
