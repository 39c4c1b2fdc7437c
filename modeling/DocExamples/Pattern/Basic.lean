/-
# Patterns and their matches

A pattern is a regular expression over characters with anchors and groups. `Pattern.ends` lists
where a match that begins at a place of a text can end, the preferred ends first: the left branch
of a choice before the right one, a greedy repetition before its end, a reluctant one after it.
No place is listed twice, so a search takes time polynomial in the length of the text.
-/

import DocExamples.Text.CharSet

namespace DocExamples

/-- Conditions on a place between two characters. -/
inductive Anchor where
  | textStart
  | textEnd
  | lineStart
  | lineEnd
  /-- Line ends are carriage returns, line feeds and both together. -/
  | anyLineStart
  | anyLineEnd
  | wordBoundary
  | insideWord
  | wordStart
  | wordEnd
  /-- No word character before. -/
  | wordStartHalf
  /-- No word character after. -/
  | wordEndHalf
deriving DecidableEq, Repr

/-- Regular expressions. -/
inductive Pattern where
  | empty
  | chars (s : CharSet)
  /-- A place with the given anchor, for the given idea of a word character. -/
  | anchor (a : Anchor) (word : CharSet)
  | seq (p q : Pattern)
  | alt (p q : Pattern)
  /-- At least `least` and at most `most` times, if there is a bound. -/
  | times (p : Pattern) (least : Nat) (most : Option Nat) (greedy : Bool)
  /-- A group whose text is captured under a number. -/
  | group (index : Nat) (p : Pattern)
deriving DecidableEq, Repr

/-- A place in a text that a match has reached, and what its groups have captured on the way:
the number of the group, where it starts and where it ends, the latest first. -/
structure Reached where
  place : Nat
  groups : List (Nat × Nat × Nat) := []

/-- Where the text captured last under a number starts and ends. -/
def Reached.capture? (r : Reached) (index : Nat) : Option (Nat × Nat) :=
  (r.groups.find? (·.1 == index)).map (·.2)

namespace Anchor

/-- Whether the anchor holds between the characters `before` and `after`, `none` being the ends
of the text. -/
def holds (word : Char → Bool) (before after : Option Char) : Anchor → Bool
  | textStart => before.isNone
  | textEnd => after.isNone
  | lineStart => before.isNone || before == some '\n'
  | lineEnd => after.isNone || after == some '\n'
  | anyLineStart =>
    before.isNone || before == some '\n' || (before == some '\r' && after != some '\n')
  | anyLineEnd =>
    after.isNone || after == some '\r' || (after == some '\n' && before != some '\r')
  | wordBoundary => before.any word != after.any word
  | insideWord => before.any word == after.any word
  | wordStart => !before.any word && after.any word
  | wordEnd => before.any word && !after.any word
  | wordStartHalf => !before.any word
  | wordEndHalf => !after.any word

end Anchor

namespace Pattern

/-- The first of the matches that reach each place outside `seen`. -/
def firstPerPlace : (seen : List Nat) → List Reached → List Reached
  | _, [] => []
  | seen, r :: rs =>
    if seen.contains r.place then firstPerPlace seen rs
    else r :: firstPerPlace (r.place :: seen) rs

/-- The places reached by one more step from each of `rs`. -/
def advance (step : Reached → List Reached) (rs : List Reached) : List Reached :=
  match rs with
  | [r] => step r
  | _ => firstPerPlace [] (rs.flatMap step)

/-- Exactly `n` steps. -/
def advanceBy (step : Reached → List Reached) : Nat → List Reached → List Reached
  | 0, rs => rs
  | n + 1, rs => if rs.isEmpty then [] else advanceBy step n (advance step rs)

/-- The places reached in at most `n` steps, grouped by the least number of steps, the fewest
first. `seen` holds the places reached before. -/
def layers (step : Reached → List Reached) : Nat → List Nat → List Reached → List (List Reached)
  | 0, _, rs => [rs]
  | n + 1, seen, rs =>
    let next := (advance step rs).filter fun r => !seen.contains r.place
    if next.isEmpty then [rs]
    else rs :: layers step n (next.map (·.place) ++ seen) next

/-- Between zero and `n` further steps from `rs`, more steps first if `greedy`. -/
def upTo (step : Reached → List Reached) (n : Nat) (greedy : Bool) (rs : List Reached) :
    List Reached :=
  let ls := layers step n (rs.map (·.place)) rs
  (if greedy then ls.reverse else ls).flatten

/-- Where a match of the pattern that begins at `r` can end, preferred ends first. -/
def ends (text : Array Char) : Pattern → Reached → List Reached
  | .empty, r => [r]
  | .chars s, r =>
    match text[r.place]? with
    | some c => if s.mem c then [{ r with place := r.place + 1 }] else []
    | none => []
  | .anchor a word, r =>
    let before := if r.place = 0 then none else text[r.place - 1]?
    if a.holds word.mem before text[r.place]? then [r] else []
  | .seq p q, r => advance (ends text q) (ends text p r)
  | .alt p q, r => firstPerPlace [] (ends text p r ++ ends text q r)
  | .times p least most greedy, r =>
    let rest := text.size - r.place + 1
    let more := match most with
      | some n => min (n - least) rest
      | none => rest
    upTo (ends text p) more greedy (advanceBy (ends text p) least [r])
  | .group index p, r =>
    (ends text p r).map fun e => { e with groups := (index, r.place, e.place) :: e.groups }

/-- The preferred match that begins at the first place where one begins. -/
def match? (p : Pattern) (text : Array Char) : Option Reached :=
  (List.range (text.size + 1)).findSome? fun i => (p.ends text { place := i }).head?

/-- Whether the pattern matches somewhere in the text. -/
def occursIn (p : Pattern) (text : String) : Bool := (p.match? text.toList.toArray).isSome

end Pattern
end DocExamples
