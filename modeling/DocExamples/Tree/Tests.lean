/-
# The tests of a tree

Tests are found by their ids, by the leaves that name them, or by walking the suites below the
root. The index follows links only: editing the case of an attached suite leaves it as it is.
-/

import DocExamples.Tree.Link

namespace DocExamples

/-- A suite and the id of one of its tests. -/
abbrev TestTarget := NodeId × String

namespace TestTree

/-- The first test of a suite with an id. -/
def testIn? (t : TestTree) (target : TestTarget) : Option Test :=
  (t.case? target.1).bind (·.find? target.2)

/-- The test that a leaf names. -/
def leafTarget? (t : TestTree) (leaf : NodeId) : Option TestTarget :=
  match t.node? leaf with
  | some { kind := .leaf suite id, .. } => some (suite, id)
  | _ => none

def leafTest? (t : TestTree) (leaf : NodeId) : Option Test :=
  (t.leafTarget? leaf).bind t.testIn?

/-- Changes the case of a suite. -/
def modifyCase (t : TestTree) (suite : NodeId) (f : TestCase → TestCase) : TestTree :=
  t.modify suite fun n =>
    match n.kind with
    | .suite c => { n with kind := .suite (f c) }
    | _ => n

/-- Changes the first test of a suite with an id. -/
def modifyTest (t : TestTree) (target : TestTarget) (f : Test → Test) : TestTree :=
  t.modifyCase target.1 fun c => c.modifyTest target.2 f

/-- Puts a test in the place of the first one with its id. -/
def setTest (t : TestTree) (target : TestTarget) (test : Test) : TestTree :=
  t.modifyTest target fun _ => test

/-- Where the index says that a test is. -/
def target? (t : TestTree) (id : String) : Option TestTarget := (t.index[id]?).map (·, id)

/-- The listed test with an id. -/
def test? (t : TestTree) (id : String) : Option Test := (t.target? id).bind t.testIn?

/-- The tests of the suites below the root. -/
def tests (t : TestTree) : List Test :=
  (t.suites root).flatMap fun s => ((t.case? s).map (·.tests)).getD []

/-- The number of listed tests. -/
def testCount (t : TestTree) : Nat := t.index.size

/-- Every test below the root as it was before it ran. -/
def reset (t : TestTree) : TestTree :=
  (t.suites root).foldl (fun t s => t.modifyCase s TestCase.reset) t

/-- The tests that the leaves from `start` down name, each once, in the order of the leaves. -/
def targets (t : TestTree) (start : NodeId) : List TestTarget :=
  ((t.leaves start).filterMap t.leafTarget?).foldl
    (fun found target => if found.contains target then found else found ++ [target]) []

/-- The places of all tests that `wanted` lists: their suites in the order of the nodes, and
their positions in the cases. -/
def places (t : TestTree) (wanted : List TestTarget) : List (NodeId × Nat) :=
  (List.range t.nodes.size).flatMap fun s =>
    match t.case? s with
    | none => []
    | some c => c.tests.zipIdx.filterMap fun (test, i) =>
      if wanted.contains (s, test.id) then some (s, i) else none

/-- The test at a place. -/
def testAt? (t : TestTree) (place : NodeId × Nat) : Option Test :=
  (t.case? place.1).bind fun c => c.tests[place.2]?

/-- Puts a test at a place. -/
def setTestAt (t : TestTree) (place : NodeId × Nat) (test : Test) : TestTree :=
  t.modifyCase place.1 fun c => c.modify place.2 fun _ => test

end TestTree
end DocExamples
