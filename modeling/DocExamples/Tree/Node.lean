/-
# Trees of tests

The nodes of a tree are numbered in the order they were made; node 0 is the root. A group has
children, a suite owns a test case, and a leaf names one test of a suite. The index lists the
tests of all suites below the root by their ids.
-/

import DocExamples.Test.Case

namespace DocExamples

/-- The number of a node. -/
abbrev NodeId := Nat

/-- What a node holds. -/
inductive NodeKind where
  | group
  | suite (tests : TestCase)
  | leaf (suite : NodeId) (testId : String)
deriving Repr, Inhabited

namespace NodeKind

def isGroup : NodeKind → Bool
  | group => true
  | _ => false

def isSuite : NodeKind → Bool
  | suite _ => true
  | _ => false

def isLeaf : NodeKind → Bool
  | leaf .. => true
  | _ => false

/-- The case of a suite. -/
def case? : NodeKind → Option TestCase
  | suite c => some c
  | _ => none

end NodeKind

/-- A node with its links. -/
structure TreeNode where
  key : String
  name : String
  kind : NodeKind
  parent : Option NodeId := none
  children : List NodeId := []
deriving Repr, Inhabited

/-- A tree of tests, with parts that are not attached to the root. -/
structure TestTree where
  nodes : Array TreeNode := #[{ key := "root", name := "Test Root", kind := .group }]
  index : Std.ExtTreeMap String NodeId := {}

/-- Why a tree refuses an operation. -/
inductive TreeError where
  | alreadyAttached (node : NodeId)
  | unknownNode (node : NodeId)
  | notAChild (parent child : NodeId)
  | notAGroup (node : NodeId)
  | notASuite (node : NodeId)
  | cycle (parent child : NodeId)
  | duplicateTest (id : String)
  | unknownTest (id : String)
deriving DecidableEq, Repr

namespace TreeError

def nodeText (n : NodeId) : String := "NodeId(" ++ toString n ++ ")"

def message : TreeError → String
  | alreadyAttached n => "Node " ++ nodeText n ++ " already has a parent"
  | unknownNode n => "Unknown node " ++ nodeText n
  | notAChild p c => "Node " ++ nodeText c ++ " is not a child of " ++ nodeText p
  | notAGroup n => "Node " ++ nodeText n ++ " is not a group"
  | notASuite n => "Node " ++ nodeText n ++ " is not a suite"
  | cycle p c => "Attaching " ++ nodeText c ++ " under " ++ nodeText p ++ " would create a cycle"
  | duplicateTest id => "Duplicate test id: " ++ id
  | unknownTest id => "Unknown test: " ++ id

end TreeError

namespace TestTree

/-- The tree of a lone root. -/
def empty : TestTree := {}

def root : NodeId := 0

def node? (t : TestTree) (n : NodeId) : Option TreeNode := t.nodes[n]?

/-- The case of a suite. -/
def case? (t : TestTree) (n : NodeId) : Option TestCase := (t.node? n).bind (·.kind.case?)

/-- Changes one node. -/
def modify (t : TestTree) (n : NodeId) (f : TreeNode → TreeNode) : TestTree :=
  { t with nodes := t.nodes.modify n f }

/-- Changing a node leaves the others as they are. -/
theorem node?_modify (t : TestTree) (n : NodeId) (f : TreeNode → TreeNode) (k : NodeId) :
    (t.modify n f).node? k = if k = n then (t.node? k).map f else t.node? k := by
  unfold node? modify
  simp only [Array.getElem?_modify]
  by_cases h : k = n <;> simp [h, Ne.symm]

/-- Adds a node without links. -/
def push (t : TestTree) (key name : String) (kind : NodeKind) : NodeId × TestTree :=
  (t.nodes.size, { t with nodes := t.nodes.push { key, name, kind } })

/-- A node that is added gets the first free number, and the others stay as they are. -/
theorem node?_push (t : TestTree) (key name : String) (kind : NodeKind) (k : NodeId) :
    (t.push key name kind).2.node? k =
      if k = t.nodes.size then some { key, name, kind } else t.node? k := by
  unfold node? push
  simp only [Array.getElem?_push]

end TestTree
end DocExamples
