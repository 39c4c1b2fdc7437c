/-
# The size of a pattern

A pattern is recognised by an automaton over bytes. Its size counts thirty-two for every state,
eight for every byte range in the list of a branching state and four for every way on from a
fork. Texts are read from their start by one automaton and from their end by another, and
a pattern is too large if either of them is larger than `sizeLimit`.

States are counted, not kept. Only the states for a set of characters are known by number, since
a state that continues alike is shared, and it is found through a table in which a newer entry
displaces an older one.
-/

import Std.Data.HashMap
import DocExamples.Pattern.Form
import DocExamples.Text.ByteRuns

namespace DocExamples
namespace Pattern

/-- The largest size of an automaton. -/
def sizeLimit : Nat := 10485760

/-- What an automaton has so far: its states, and the size of the lists that they hold. -/
structure Automaton where
  states : Nat := 0
  lists : Nat := 0

namespace Automaton

def size (m : Automaton) : Nat := 32 * m.states + m.lists

/-- Whether no more can be built. -/
def isFull (m : Automaton) : Bool := sizeLimit < m.size

/-- One more state. -/
def state (m : Automaton) : Automaton := { m with states := m.states + 1 }

/-- One more state with a list of byte ranges. -/
def branching (m : Automaton) (ranges : Nat) : Automaton :=
  ⟨m.states + 1, m.lists + 8 * ranges⟩

/-- One more way on from a fork. -/
def way (m : Automaton) : Automaton := { m with lists := m.lists + 4 }

/-- One more way on if the state that has to go on is a fork. -/
def wayIf (fork : Bool) (m : Automaton) : Automaton := if fork then m.way else m

end Automaton

/-! ## Sets of characters -/

/-- A way on from a state: a byte range and the state reached. -/
structure Link where
  first : Nat
  last : Nat
  target : Nat
deriving DecidableEq

/-- The numbers mixed into a slot of a table. -/
def slot (slots : UInt64) (numbers : List Nat) : Nat :=
  let mixed := numbers.foldl
    (fun (h : UInt64) n => (h ^^^ n.toUInt64) * 1099511628211) 14695981039346656037
  (mixed % slots).toNat

/-- A state that is not complete: its links, the latest first, and the byte range of the link
whose target is not known yet. -/
structure OpenState where
  links : List Link := []
  pending : Option (Nat × Nat) := none

namespace OpenState

/-- The links once the target of the pending one is known. -/
def linksTo (o : OpenState) (target : Nat) : List Link :=
  match o.pending with
  | some (first, last) => ⟨first, last, target⟩ :: o.links
  | none => o.links

end OpenState

/-- The automaton of a set while its rows of byte ranges come in order: the states that a row
leads through stay open until a row leaves them. `table` holds complete states by slot. -/
structure SetBuilder where
  machine : Automaton
  table : Std.HashMap Nat (List Link × Nat) := {}
  opened : List OpenState := [{}]

namespace SetBuilder

/-- The number of a state with the given links, the latest first. -/
def complete (b : SetBuilder) (links : List Link) : Nat × SetBuilder :=
  let key := slot 10000 (links.reverse.flatMap fun l => [l.first, l.last, l.target])
  match b.table[key]? with
  | some (known, number) =>
    if known = links then (number, b) else addState b key links
  | none => addState b key links
where
  /-- A new state, entered into the table. -/
  addState (b : SetBuilder) (key : Nat) (links : List Link) : Nat × SetBuilder :=
    (b.machine.states,
      { b with
        machine := b.machine.branching links.length
        table := b.table.insert key (links, b.machine.states) })

/-- Completes a row of open states, each leading to the next and the last to `target`: the number
of the first, or `target` if there is none. -/
def completeAll (b : SetBuilder) (target : Nat) : List OpenState → Nat × SetBuilder
  | [] => (target, b)
  | o :: os =>
    let (next, b) := b.completeAll target os
    b.complete (o.linksTo next)

/-- Completes the open states after the first `keep + 1`. -/
def closeAfter (b : SetBuilder) (target keep : Nat) : SetBuilder :=
  let (next, b) := b.completeAll target (b.opened.drop (keep + 1))
  match b.opened[keep]? with
  | some o => { b with opened := b.opened.take keep ++ [⟨o.linksTo next, none⟩] }
  | none => b

/-- How many open states the row leads through. -/
def sharedWith : List (Nat × Nat) → List OpenState → Nat
  | r :: rs, o :: os => if o.pending = some r then sharedWith rs os + 1 else 0
  | _, _ => 0

/-- Adds a row of byte ranges. -/
def addRow (target : Nat) (b : SetBuilder) (row : List (Nat × Nat)) : SetBuilder :=
  let keep := sharedWith row b.opened
  let b := b.closeAfter target keep
  let links := ((b.opened[keep]?).map OpenState.links).getD []
  match row.drop keep with
  | [] => b
  | r :: rs =>
    { b with
      opened := b.opened.take keep ++ ⟨links, some r⟩ :: rs.map fun r => ⟨[], some r⟩ }

end SetBuilder

/-- The automaton with the states of a set, read forward. -/
def addSetForward (m : Automaton) (rows : List (List (Nat × Nat))) : Automaton :=
  let target := m.states
  let b := rows.foldl (SetBuilder.addRow target) { machine := m.state }
  (b.completeAll target b.opened).2.machine

/-- The states of one row of byte ranges that ends in `target`: where it begins. -/
def addRowBackward (m : Automaton) (table : Std.HashMap Nat (List Nat × Nat)) (target : Nat) :
    List (Nat × Nat) → Automaton × Std.HashMap Nat (List Nat × Nat)
  | [] => (m.way, table)
  | (first, last) :: rest =>
    let link := [target, first, last]
    let key := slot 1000 link
    match table[key]? with
    | some (known, number) =>
      if known = link then addRowBackward m table number rest
      else addRowBackward m.state (table.insert key (link, m.states)) m.states rest
    | none => addRowBackward m.state (table.insert key (link, m.states)) m.states rest

/-- The automaton with the states of a set, read backward: a fork to every row. -/
def addSetBackward (m : Automaton) (rows : List (List (Nat × Nat))) : Automaton :=
  let target := m.states + 1
  (rows.foldl (fun (m, table) row => addRowBackward m table target row)
    (m.state.state, (∅ : Std.HashMap Nat (List Nat × Nat)))).1

/-- The automaton with the states of a set. -/
def addSet (backward : Bool) (s : CharSet) (m : Automaton) : Automaton :=
  let runs := s.runs
  if (runs.getLast?).all fun (_, hi) => hi < 128 then m.state.branching runs.length
  else if backward then addSetBackward m (runs.flatMap Text.byteRuns)
  else addSetForward m (runs.flatMap Text.byteRuns)

/-! ## Choices between texts -/

/-- The heads of some texts, each with what follows it in the texts that begin with it. -/
def byHead : List (List UInt8) → List (UInt8 × List (List UInt8))
  | [] => []
  | [] :: ts => byHead ts
  | (c :: cs) :: ts =>
    let known := byHead ts
    match known.find? (·.1 == c) with
    | some (_, rests) => (c, cs :: rests) :: known.filter (·.1 != c)
    | none => (c, [cs]) :: known

/-- Cuts a list of texts at the empty ones. -/
def cutAtEmpty : List (List UInt8) → List (List (List UInt8))
  | [] => [[]]
  | [] :: ts => [] :: cutAtEmpty ts
  | t :: ts =>
    match cutAtEmpty ts with
    | [] => [[t]]
    | part :: parts => (t :: part) :: parts

/-- Drops the repetitions of an empty text before all others. -/
def dropRepeatedEmpty : List (List UInt8) → List (List UInt8)
  | [] :: [] :: ts => dropRepeatedEmpty ([] :: ts)
  | ts => ts

/-- The states of a tree that reads one of several texts, of which the earlier are preferred:
where a text ends, what comes before it and what comes after it stay apart. -/
def addTree : (fuel : Nat) → Automaton → List (List UInt8) → Automaton
  | 0, m, _ => m
  | fuel + 1, m, ts =>
    let parts := (cutAtEmpty (dropRepeatedEmpty ts)).map byHead
    let m := parts.flatten.foldl
      (fun m (_, rests) => if rests.all List.isEmpty then m else addTree fuel m rests) m
    let branches := parts.filter fun p => !p.isEmpty
    let m := branches.foldl
      (fun m p => if p.length = 1 then m.state else m.branching p.length) m
    let ways := branches.length + (parts.length - 1)
    if ways = 1 then m else (List.range ways).foldl (fun m _ => m.way) m.state

/-- The bytes of the texts, if all forms are texts. -/
def texts? (fs : List Form) : Option (List (List UInt8)) :=
  fs.mapM fun
    | .text cs => some (Text.encode cs)
    | _ => none

/-! ## Forms -/

/-- Adds something to an automaton, and tells whether what was added goes on from a fork. -/
abbrev Step := Automaton → Automaton × Bool

/-- One step after what was added before. -/
def Step.after (step : Step) (done : Automaton × Bool) : Automaton × Bool :=
  let (m, fork) := step done.1
  (m.wayIf done.2, fork)

/-- Some more copies of a step, until the automaton is full. -/
def moreCopies (step : Step) : Nat → Automaton × Bool → Automaton × Bool
  | 0, done => done
  | n + 1, done => if done.1.isFull then done else moreCopies step n (step.after done)

/-- Steps one after another. -/
def inRow : List Step → Step
  | [], m => (m.state, false)
  | s :: ss, m => ss.foldl (fun done s => s.after done) (s m)

/-- A fork to several steps, all of which go on at one place. -/
def either : List Step → Step
  | [], m => (m.state, false)
  | [s], m => s m
  | s :: t :: ss, m =>
    let (m, fork₁) := s m
    let (m, fork₂) := t m
    let start := ((m.state.state.way.wayIf fork₁).way).wayIf fork₂
    (ss.foldl (fun m s => let (m, fork) := s m; m.way.wayIf fork) start, false)

/-- Exactly `n` copies. -/
def exactly (step : Step) : Nat → Step
  | 0, m => (m.state, false)
  | n + 1, m => moreCopies step n (step m)

/-- At least `n` copies. The fork that repeats `step` also stands for no copy at all, unless
`step` may be empty. -/
def atLeast (step : Step) (nonempty : Bool) : Nat → Step
  | 0, m =>
    if nonempty then
      let (m, fork) := step m.state
      (m.way.wayIf fork, true)
    else
      let (m, fork) := step m
      (((m.state.wayIf fork).way.state.state).way.way.way, false)
  | n + 1, m =>
    let (m, fork) := moreCopies step n (step m)
    ((m.state.wayIf fork).way, true)

/-- Copies that may be left out, each with all after it. -/
def optionalCopies (step : Step) : Nat → Automaton × Bool → Automaton × Bool
  | 0, done => done
  | n + 1, (m, fork) =>
    if m.isFull then (m, fork)
    else
      let (m', fork') := step m.state
      optionalCopies step n ((m'.wayIf fork).way.way, fork')

/-- Between `least` and `most` copies. -/
def between (step : Step) (least most : Nat) : Step := fun m =>
  let (m, fork) := exactly step least m
  let (m, fork) := optionalCopies step (most - least) (m.state, fork)
  (m.wayIf fork, false)

/-- At most one copy. -/
def atMostOne (step : Step) : Step := fun m =>
  let (m, fork) := step m.state
  (m.state.way.way.wayIf fork, false)

mutual

/-- The states of a form. -/
def build (backward : Bool) : Form → Step
  | .empty, m | .anchor _ _, m => (m.state, false)
  | .text cs, m => ({ m with states := m.states + Text.width cs }, false)
  | .chars s, m => (addSet backward s m, false)
  | .group _ f, m =>
    if backward then build backward f m
    else
      let (m, fork) := build backward f m.state
      (m.state.wayIf fork, false)
  | .times f least most _, m =>
    let step := build backward f
    match most with
    | none => atLeast step (f.minWidth?.any (0 < ·)) least m
    | some most =>
      if least = most then exactly step least m
      else if least = 0 ∧ most = 1 then atMostOne step m
      else between step least most m
  | .row fs, m =>
    let steps := buildAll backward fs
    inRow (if backward then steps.reverse else steps) m
  | .choice fs, m =>
    match texts? fs with
    | some ts =>
      let ts := if backward then ts.map List.reverse else ts
      let longest := ts.foldr (fun t n => max t.length n) 0
      (addTree (longest + 1) m.state ts, false)
    | none => either (buildAll backward fs) m

def buildAll (backward : Bool) : List Form → List Step
  | [] => []
  | f :: fs => build backward f :: buildAll backward fs

end

namespace Form

/-- The automaton that reads texts from one side. Unless a match can only begin there, it
first passes over what comes before the match. -/
def automaton (backward : Bool) (f : Form) : Automaton :=
  let anchored := if backward then f.endsWith .textEnd else f.beginsWith .textStart
  let start : Automaton := if anchored then ⟨1, 0⟩ else ⟨3, 16⟩
  let (m, fork) := build backward (if backward then f else .group 0 f) start
  (m.state).wayIf fork

/-- Whether the form is a choice between so many texts that they are looked up one by one. -/
def isWordList : Form → Bool
  | .choice fs => 3000 ≤ fs.length && (texts? fs).isSome
  | _ => false

/-- Whether the form needs an automaton larger than `sizeLimit`. -/
def tooLarge (f : Form) : Bool :=
  !f.isWordList && ((f.automaton false).isFull || (f.automaton true).isFull)

end Form
end Pattern
end DocExamples
