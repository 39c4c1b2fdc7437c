/-
# Classes in brackets

A class is a union of characters, ranges, escapes, named classes and further classes, and two
unions are combined by `&&`, `--` or two tildes. Operations are taken from the left. The reader
keeps the open classes on a stack and consumes at least one character in every step.
-/

import DocExamples.Pattern.Escape

namespace DocExamples
namespace Pattern

/-- A set with the depth to which its written form nests. -/
structure NestedSet where
  set : CharSet
  depth : Nat

/-- An open class: the items of the current union with their number and their depth, and the set
operation that waits for this union with its left side. -/
structure OpenClass where
  negated : Bool
  items : CharSet := .empty
  count : Nat := 0
  depth : Nat := 0
  pending : Option (NestedSet × (CharSet → CharSet → CharSet)) := none

namespace OpenClass

def add (k : OpenClass) (s : CharSet) (depth : Nat) : OpenClass :=
  { k with items := k.items.union s, count := k.count + 1, depth := max k.depth depth }

/-- The current union. More than one item makes it a level of its own. -/
def current (k : OpenClass) : NestedSet := ⟨k.items, if 2 ≤ k.count then k.depth + 1 else k.depth⟩

/-- The set so far, the waiting operation applied. -/
def value (f : Flags) (k : OpenClass) : NestedSet :=
  match k.pending with
  | none => k.current
  | some (left, op) =>
    ⟨op (f.fold left.set) (f.fold k.items), max left.depth k.current.depth + 1⟩

/-- Makes what stands so far the left side of an operation. -/
def operate (f : Flags) (k : OpenClass) (op : CharSet → CharSet → CharSet) : OpenClass :=
  { negated := k.negated, pending := some (k.value f, op) }

/-- The closed class, if it matches nothing but text. -/
def close? (f : Flags) (k : OpenClass) : Option NestedSet :=
  let v := k.value f
  let s := (f.fold v.set).complIf k.negated
  if f.isText s then some ⟨s, v.depth + 1⟩ else none

end OpenClass

/-- The start of a class after its bracket: a caret negates, hyphens and then one closing bracket
stand for themselves. -/
def openClass? (f : Flags) (rest : List Char) : Option (OpenClass × List Char) :=
  let rest := skipBlanks f rest
  let (negated, rest) := match rest with
    | '^' :: more => (true, skipBlanks f more)
    | _ => (false, rest)
  let (k, rest) := hyphens rest.length { negated } rest
  match rest with
  | [] => none
  | ']' :: more =>
    if k.count = 0 then some (k.add (.single ']') 0, skipBlanks f more)
    else some (k, rest)
  | _ => some (k, rest)
where
  /-- Takes the leading hyphens. -/
  hyphens : Nat → OpenClass → List Char → OpenClass × List Char
    | 0, k, rest => (k, rest)
    | n + 1, k, rest =>
      match rest with
      | '-' :: more => hyphens n (k.add (.single '-') 0) (skipBlanks f more)
      | _ => (k, rest)

/-- A class by name in brackets and colons, after its opening bracket; nothing if there is none,
and nothing inside if it is no text. -/
def namedClass? (f : Flags) (rest : List Char) : Option (Option CharSet × List Char) := do
  let rest ← Text.after? [':'] rest
  let (negated, rest) := match rest with
    | '^' :: more => (true, more)
    | _ => (false, rest)
  let name := rest.takeWhile (· != ':')
  let rest ← Text.after? [':', ']'] (rest.dropWhile (· != ':'))
  let set ← CharSet.asciiClass? (String.ofList name)
  let set := (f.fold set).complIf negated
  return (if f.isText set then some set else none, rest)

/-- One character or escape inside a class. -/
def classItem? (f : Flags) : List Char → Option (Item × List Char)
  | [] => none
  | '\x5c' :: rest => escape? f rest
  | c :: rest => some (.literal c, rest)

/-- The character after a hyphen that decides whether the hyphen is that of a range. Verbose mode
passes over blanks and the sign that begins a comment, unless nothing else follows. -/
def decider? (f : Flags) (rest : List Char) : Option Char :=
  if f.verbose then (visible? false rest).or rest.head? else rest.head?
where
  /-- The first character that is neither a blank nor the first number sign. -/
  visible? (comment : Bool) : List Char → Option Char
    | [] => none
    | c :: rest =>
      if Text.isBlank c then visible? comment rest
      else if !comment && c == '#' then visible? true rest
      else some c

/-- An item or a range inside a class. -/
def classRange? (f : Flags) (rest : List Char) : Option (CharSet × List Char) := do
  let (first, rest) ← classItem? f rest
  let rest := skipBlanks f rest
  let alone : Option (CharSet × List Char) := match first with
    | .literal c => if f.allows c then some (f.fold (.single c), rest) else none
    | .set s => some (s, rest)
    | .anchor _ | .boundary _ => none
  match rest with
  | [] => none
  | '-' :: more =>
    if decider? f more == some ']' || decider? f more == some '-' then alone
    else
      let (last, rest) ← classItem? f (skipBlanks f more)
      match first, last with
      | .literal a, .literal b =>
        guard (a.toNat ≤ b.toNat && f.allows a && f.allows b)
        return (f.fold (.range a b), rest)
      | _, _ => none
  | _ => alone

/-- Reads a class to its end. `k` is the innermost open class, `outer` those around it. -/
def classBody? (f : Flags) : (fuel : Nat) → (outer : List OpenClass) → OpenClass → List Char →
    Option (NestedSet × List Char)
  | 0, _, _, _ => none
  | fuel + 1, outer, k, rest =>
    match skipBlanks f rest with
    | [] => none
    | '[' :: more =>
      match namedClass? f more with
      | some (set, rest) => do classBody? f fuel outer (k.add (← set) 0) rest
      | none => do
        let (inner, rest) ← openClass? f more
        classBody? f fuel (k :: outer) inner rest
    | ']' :: more => do
      let closed ← k.close? f
      match outer with
      | [] => some (closed, more)
      | around :: outer => classBody? f fuel outer (around.add closed.set closed.depth) more
    | '&' :: '&' :: more => classBody? f fuel outer (k.operate f .inter) more
    | '-' :: '-' :: more => classBody? f fuel outer (k.operate f .diff) more
    | '~' :: '~' :: more => classBody? f fuel outer (k.operate f .symmDiff) more
    | rest => do
      let (s, rest) ← classRange? f rest
      classBody? f fuel outer (k.add s 0) rest

/-- A class after its opening bracket. -/
def bracketed? (f : Flags) (rest : List Char) : Option (NestedSet × List Char) := do
  let (k, more) ← openClass? f rest
  classBody? f (rest.length + 1) [] k more

end Pattern
end DocExamples
