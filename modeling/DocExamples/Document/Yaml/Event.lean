/-
# Events of YAML

The events of a document are its scalars and aliases and the starts and ends of its collections,
in the order of the text. An anchor gives a node a number, by which aliases refer to it: the
number of different names that were declared before. So a name that is declared again takes the
number that the next new name gets as well, and of several nodes with one number the last counts.
-/

import DocExamples.Document.Yaml.Token

namespace DocExamples
namespace Document
namespace Yaml

/-- An event, anchors being named by an `α`. -/
inductive Event (α : Type) where
  | alias (anchor : α)
  | scalar (anchor : Option α) (tag : Option (List Char)) (isPlain : Bool) (content : String)
  | sequence (anchor : Option α) (tag : Option (List Char))
  | mapping (anchor : Option α) (tag : Option (List Char))
  /-- The end of a sequence or a mapping. -/
  | close
deriving DecidableEq, Repr

/-- What is left to read of an open collection. -/
inductive Goal where
  /-- A node. A `loose` one may be a sequence whose dashes stand at the column of its key. -/
  | node (inBlock loose : Bool)
  | blockItem
  | looseItem
  | blockKey
  | blockValue
  | flowItem (isFirst : Bool)
  /-- The key, the value and the end of a mapping of one entry that is an item between brackets. -/
  | pairKey
  | pairValue
  | pairEnd
  | flowKey (isFirst : Bool)
  | flowValue
  | flowNoValue
deriving DecidableEq, Repr

/-- An empty node. -/
def emptyScalar : Event String := .scalar none none true ""

/-- What one step reads: events, and goals that come before the others. -/
structure Step where
  events : List (Event String)
  goals : List Goal
  rest : List Token

/-- Whether the next token is one of a list. -/
def startsWith (ts : List Token) (rest : List Token) : Bool := rest.head?.any ts.contains

/-- Reads a node, unless one of the `ends` shows that it is empty. -/
def nodeBefore (ends : List Token) (inBlock loose : Bool) (after : Goal) (rest : List Token) :
    Step :=
  if startsWith ends rest then ⟨[emptyScalar], [after], rest⟩
  else ⟨[], [.node inBlock loose, after], rest⟩

/-- The anchor and the tag in front of a node, in any order. -/
def properties (ts : List Token) : Option String × Option Tag × List Token :=
  match ts with
  | .anchor a :: .tag t :: rest => (some a, some t, rest)
  | .tag t :: .anchor a :: rest => (some a, some t, rest)
  | .anchor a :: rest => (some a, none, rest)
  | .tag t :: rest => (none, some t, rest)
  | rest => (none, none, rest)

/-- Reads a node after its properties. A scalar that is there has no tag of a lone mark. -/
def nodeStep? (inBlock loose : Bool) (anchor : Option String) (tag : Option (List Char))
    (ts : List Token) : Option Step :=
  match ts with
  | .scalar isPlain content :: rest =>
    let tag := if tag == some ['!'] then none else tag
    some ⟨[.scalar anchor tag isPlain content], [], rest⟩
  | .flowSequence :: rest => some ⟨[.sequence anchor tag], [.flowItem true], rest⟩
  | .flowMapping :: rest => some ⟨[.mapping anchor tag], [.flowKey true], rest⟩
  | .blockSequence :: rest =>
    if inBlock then some ⟨[.sequence anchor tag], [.blockItem], rest⟩ else empty
  | .blockMapping :: rest =>
    if inBlock then some ⟨[.mapping anchor tag], [.blockKey], rest⟩ else empty
  | .entry :: _ => if loose then some ⟨[.sequence anchor tag], [.looseItem], ts⟩ else empty
  | _ => empty
where
  /-- A node of nothing but properties. -/
  empty : Option Step :=
    if anchor.isSome || tag.isSome then some ⟨[.scalar anchor tag true ""], [], ts⟩ else none

/-- One step towards a goal. -/
def step? (handles : Handles) (goal : Goal) (ts : List Token) : Option Step :=
  match goal, ts with
  | .node .., .alias name :: rest => some ⟨[.alias name], [], rest⟩
  | .node inBlock loose, ts => do
    let (anchor, tag, rest) := properties ts
    let tag ← match tag with
      | some t => (t.resolve? handles).map some
      | none => some none
    nodeStep? inBlock loose anchor tag rest
  | .blockItem, .entry :: rest => nodeBefore [.entry, .blockEnd] true false .blockItem rest
  | .blockItem, .blockEnd :: rest => some ⟨[.close], [], rest⟩
  | .looseItem, .entry :: rest =>
    nodeBefore [.entry, .key, .value, .blockEnd] true false .looseItem rest
  | .looseItem, ts => some ⟨[.close], [], ts⟩
  | .blockKey, .key :: rest => nodeBefore [.key, .value, .blockEnd] true true .blockValue rest
  | .blockKey, .blockEnd :: rest => some ⟨[.close], [], rest⟩
  | .blockValue, .value :: rest => nodeBefore [.key, .value, .blockEnd] true true .blockKey rest
  | .blockValue, ts => some ⟨[emptyScalar], [.blockKey], ts⟩
  | .flowItem _, .flowSequenceEnd :: rest => some ⟨[.close], [], rest⟩
  | .flowItem false, .flowEntry :: .flowSequenceEnd :: rest => some ⟨[.close], [], rest⟩
  | .flowItem false, .flowEntry :: rest => flowItem rest
  | .flowItem true, ts => flowItem ts
  | .pairKey, ts =>
    let ends := [.value, .flowEntry, .flowSequenceEnd]
    nodeBefore ends false false .pairValue (if startsWith ends ts then ts.drop 1 else ts)
  | .pairValue, .value :: rest =>
    nodeBefore [.flowEntry, .flowSequenceEnd] false false .pairEnd rest
  | .pairValue, ts => some ⟨[emptyScalar], [.pairEnd], ts⟩
  | .pairEnd, ts => some ⟨[.close], [.flowItem false], ts⟩
  | .flowKey _, .flowMappingEnd :: rest => some ⟨[.close], [], rest⟩
  | .flowKey false, .flowEntry :: .flowMappingEnd :: rest => some ⟨[.close], [], rest⟩
  | .flowKey false, .flowEntry :: rest => flowKey rest
  | .flowKey true, ts => flowKey ts
  | .flowValue, .value :: rest =>
    nodeBefore [.flowEntry, .flowMappingEnd] false false (.flowKey false) rest
  | .flowValue, ts => some ⟨[emptyScalar], [.flowKey false], ts⟩
  | .flowNoValue, ts => some ⟨[emptyScalar], [.flowKey false], ts⟩
  | _, _ => none
where
  flowItem : List Token → Step
    | .key :: rest => ⟨[.mapping none none], [.pairKey], rest⟩
    | ts => ⟨[], [.node false false, .flowItem false], ts⟩
  flowKey : List Token → Step
    | .key :: rest =>
      nodeBefore [.value, .flowEntry, .flowMappingEnd] false false .flowValue rest
    | ts => ⟨[], [.node false false, .flowNoValue], ts⟩

/-- Reads until no goal is left. -/
def read? (handles : Handles) : (fuel : Nat) → List Goal → (events : List (Event String)) →
    List Token → Option (List (Event String) × List Token)
  | _, [], events, ts => some (events.reverse, ts)
  | 0, _ :: _, _, _ => none
  | fuel + 1, g :: goals, events, ts => do
    let s ← step? handles g ts
    read? handles fuel (s.goals ++ goals) (s.events.reverse ++ events) s.rest

/-- The directives in front of a document. -/
def directives : List Token → List Directive × List Token
  | .directive d :: rest => let (ds, rest) := directives rest; (d :: ds, rest)
  | rest => ([], rest)

/-- The events of the one document that the tokens make up. A mark has to follow directives; after
the document only marks that end it may come. -/
def document? (ts : List Token) : Option (List (Event String)) := do
  let (ds, rest) := directives ts
  let handles ← Handles.ofDirectives? ds
  let (isExplicit, rest) ← match ds, rest with
    | _, .documentStart :: rest => some (true, rest)
    | _ :: _, _ | _, [] => none
    | [], rest => some (false, rest)
  let isEmpty := match rest with
    | [] | .directive _ :: _ | .documentStart :: _ | .documentEnd :: _ => isExplicit
    | _ => false
  let (events, rest) ← if isEmpty then some ([emptyScalar], rest)
    else read? handles (4 * rest.length + 4) [.node true false] [] rest
  guard ((rest.dropWhile (· == .documentEnd)).isEmpty)
  return events

/-- The numbers of the names so far, and how many different names there are. -/
abbrev Numbers := List (String × Nat) × Nat

/-- Numbers the anchor of an event, which declares it anew. -/
def number (anchor : Option String) : StateT Numbers Option (Option Nat) :=
  match anchor with
  | none => pure none
  | some name => do
    let (known, count) ← get
    let isKnown := known.any (·.1 == name)
    set ((name, count) :: known, if isKnown then count else count + 1)
    return some count

/-- Replaces names by numbers. An alias has to follow an anchor of its name. -/
def numbered : Event String → StateT Numbers Option (Event Nat)
  | .alias name => do
    let (known, _) ← get
    match known.find? (·.1 == name) with
    | some (_, n) => return .alias n
    | none => failure
  | .scalar anchor tag isPlain content => return .scalar (← number anchor) tag isPlain content
  | .sequence anchor tag => return .sequence (← number anchor) tag
  | .mapping anchor tag => return .mapping (← number anchor) tag
  | .close => return .close

/-- The events of the one document in a text. -/
def events? (text : List Char) : Option (List (Event Nat)) := do
  let events ← document? (← tokens? text)
  let (events, _) ← (events.mapM numbered).run ([], 0)
  return events

end Yaml
end Document
end DocExamples
