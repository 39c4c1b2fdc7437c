/-
# Values of YAML

A node is given by the events from its start on. The type of a plain scalar is up to the reader.
Aliases are followed when a value is read; a document can be followed a hundred times for each of
its events at most. What no reader asks for is not looked at.
-/

import DocExamples.Document.Record
import DocExamples.Document.Yaml.Event
import DocExamples.Text.Utf8

namespace DocExamples
namespace Document
namespace Yaml

/-- The events from the start of a node on. -/
abbrev Node := List (Event Nat)

/-- The events after a node, `depth` collections being open. -/
def skipNode : (depth : Nat) → List (Event Nat) → List (Event Nat)
  | _, [] => []
  | depth, .sequence .. :: rest | depth, .mapping .. :: rest => skipNode (depth + 1) rest
  | depth, .close :: rest => if depth ≤ 1 then rest else skipNode (depth - 1) rest
  | depth, .alias _ :: rest | depth, .scalar .. :: rest =>
    if depth = 0 then rest else skipNode depth rest

/-- The nodes up to the end of a collection. -/
def nodes : (fuel : Nat) → List (Event Nat) → List Node
  | 0, _ => []
  | _ + 1, [] | _ + 1, .close :: _ => []
  | fuel + 1, e :: rest => (e :: rest) :: nodes fuel (skipNode 0 (e :: rest))

/-- Every second node is the value of the key before it. -/
def pairs : List Node → List (Node × Node)
  | k :: v :: rest => (k, v) :: pairs rest
  | _ => []

/-- The nodes with an anchor, and their numbers. -/
def anchored : List (Event Nat) → List (Nat × Node)
  | [] => []
  | e :: rest =>
    match e with
    | .scalar (some n) .. | .sequence (some n) _ | .mapping (some n) _ =>
      (n, e :: rest) :: anchored rest
    | _ => anchored rest

/-- Reading knows the nodes with an anchor and how many aliases may still be followed. -/
abbrev Reading := ReaderT (List (Nat × Node)) (StateT Nat Option)

/-- The node that an alias refers to; any other node itself. -/
def follow (node : Node) : Reading Node := do
  match node with
  | .alias n :: _ =>
    match (← read).reverse.find? (·.1 == n), ← get with
    | some (_, target), left + 1 =>
      set left
      return target
    | _, _ => failure
  | _ => return node

/-- Whether a plain scalar is written as no value. -/
def isNull (text : String) : Bool := ["~", "null", "Null", "NULL"].contains text

/-- The tag of no value. -/
def nullTag : List Char := "tag:yaml.org,2002:null".toList

/-- Any scalar is a text. -/
def text (node : Node) : Reading String := do
  match ← follow node with
  | .scalar _ _ _ s :: _ => return s
  | _ => failure

/-- The name in a tag that starts with an exclamation mark. -/
def wordOfTag? : Option (List Char) → Option String
  | some ('!' :: rest) =>
    let bytes := if rest.isEmpty then ['!'] else rest
    (Text.decode? (Text.charsAsBytes bytes)).map String.ofList
  | _ => none

/-- A word out of a few: a scalar, or the name in the tag of a node without a value. -/
def word (node : Node) : Reading String := do
  match ← follow node with
  | .scalar _ tag isPlain s :: _ =>
    match wordOfTag? tag with
    | none => return s
    | some w => if isPlain && (s.isEmpty || isNull s) then return w else failure
  | _ => failure

/-- A value or none. A plain scalar with a tag is one, unless the tag says that it is none; then it
has to be written so. -/
def optional {α : Type} (read : Node → Reading α) (node : Node) : Reading (Option α) := do
  let node ← follow node
  match node with
  | .scalar _ none true s :: _ =>
    if s.isEmpty || isNull s then return none else some <$> read node
  | .scalar _ (some tag) true s :: _ =>
    if tag == nullTag then
      if isNull s then return none else failure
    else some <$> read node
  | _ => some <$> read node

/-- Whether a node is a plain scalar without characters, which stands for an empty collection. -/
def isEmpty : Node → Bool
  | .scalar _ _ true "" :: _ => true
  | _ => false

def list {α : Type} (read : Node → Reading α) (node : Node) : Reading (List α) := do
  let node ← follow node
  match node with
  | .sequence .. :: rest => (nodes (rest.length + 1) rest).mapM read
  | _ => if isEmpty node then return [] else failure

def record (names : List String) (node : Node) : Reading (Record Node) := do
  let node ← follow node
  match node with
  | .mapping .. :: rest =>
    let entries ← (pairs (nodes (rest.length + 1) rest)).mapM fun (k, v) => return (← text k, v)
    let known := entries.filter fun e => names.contains e.1
    if (known.map (·.1)).eraseDups.length = known.length then return ⟨false, known⟩ else failure
  | _ => if isEmpty node then return ⟨false, []⟩ else failure

/-- Nodes as values. -/
def format : Format Node Reading where
  text := text
  word := word
  optional := optional
  list := list
  record := record

end Yaml

/-- Reads a value out of the one document in a text. -/
def ofYaml? {α : Type} (read : Format Yaml.Node Yaml.Reading → Yaml.Node → Yaml.Reading α)
    (text : String) : Option α := do
  let events ← Yaml.events? text.toList
  let (a, _) ← ((read Yaml.format events).run (Yaml.anchored events)).run (events.length * 100)
  return a

end Document
end DocExamples
