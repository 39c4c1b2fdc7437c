/-
# Walks through a tree

Following parents from a node ends at a node without a parent, and following children visits the
nodes below it, each before its children and the children in order. As no node is met twice on
either way, the number of nodes bounds the number of steps.
-/

import DocExamples.Tree.Node

namespace DocExamples
namespace TestTree

def parent? (t : TestTree) (n : NodeId) : Option NodeId := (t.node? n).bind (·.parent)

def children (t : TestTree) (n : NodeId) : List NodeId := ((t.node? n).map (·.children)).getD []

/-- At most `steps` nodes on the way up from `n`, `n` included. -/
def climb (t : TestTree) : (steps : Nat) → (n : Option NodeId) → List NodeId
  | 0, _ => []
  | _ + 1, none => []
  | steps + 1, some n => n :: climb t steps (t.parent? n)

/-- The nodes above `n`, the nearest first. -/
def ancestors (t : TestTree) (n : NodeId) : List NodeId := t.climb t.nodes.size (t.parent? n)

/-- Whether `n` is the root or below it. -/
def isReachable (t : TestTree) (n : NodeId) : Bool := n == root || (t.ancestors n).contains root

/-- Visits the nodes on a stack and what is below them, in at most `steps` steps. -/
def visit (t : TestTree) : (steps : Nat) → (stack : List NodeId) → List NodeId
  | 0, _ => []
  | _ + 1, [] => []
  | steps + 1, n :: stack =>
    match t.node? n with
    | none => visit t steps stack
    | some node => n :: visit t steps (node.children ++ stack)

/-- The nodes from `start` down, each before its children. -/
def preorder (t : TestTree) (start : NodeId) : List NodeId := t.visit (t.nodes.size + 1) [start]

/-- The nodes from `start` down that hold something of a kind. -/
def below (t : TestTree) (start : NodeId) (p : NodeKind → Bool) : List NodeId :=
  (t.preorder start).filter fun n => (t.node? n).any fun node => p node.kind

/-- The leaves from `start` down. -/
def leaves (t : TestTree) (start : NodeId) : List NodeId := t.below start NodeKind.isLeaf

/-- The suites from `start` down. -/
def suites (t : TestTree) (start : NodeId) : List NodeId := t.below start NodeKind.isSuite

/-- The names from the topmost node above `n` down to `n`. -/
def path (t : TestTree) (n : NodeId) : List String :=
  ((n :: t.ancestors n).filterMap fun a => (t.node? a).map (·.name)).reverse

/-- How far `n` is below the topmost node above it. -/
def depth (t : TestTree) (n : NodeId) : Nat := (t.path n).length - 1

end TestTree
end DocExamples
