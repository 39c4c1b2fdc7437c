/-
# Making and linking nodes

Nodes are made without links. A node without a parent can be attached to a group, unless it is
the root or above the group, and unless it brings a test below the root whose id is there
already. An operation that is refused changes nothing.
-/

import DocExamples.Tree.Walk

namespace DocExamples
namespace TestTree

def createGroup (t : TestTree) (key name : String) : NodeId × TestTree := t.push key name .group

def createSuite (t : TestTree) (name : String) (c : TestCase) : NodeId × TestTree :=
  t.push ("suite-" ++ c.id) name (.suite c)

/-- Makes a leaf for a test of a suite. -/
def createLeaf (t : TestTree) (suite : NodeId) (testId : String) :
    Except TreeError NodeId × TestTree :=
  match t.node? suite with
  | none => (.error (.unknownNode suite), t)
  | some node =>
    match node.kind.case? with
    | none => (.error (.notASuite suite), t)
    | some c =>
      match c.find? testId with
      | none => (.error (.unknownTest testId), t)
      | some test =>
        let (n, t) := t.push testId test.name (.leaf suite testId)
        (.ok n, t)

/-- The ids of the tests from `start` down with the suites they belong to. -/
def owned (t : TestTree) (start : NodeId) : List (String × NodeId) :=
  (t.suites start).flatMap fun s =>
    ((t.case? s).map fun c => c.tests.map fun test => (test.id, s)).getD []

/-- The first id of a list that is known already or stands twice in the list. -/
def firstDuplicate? (known : String → Bool) : (seen : List String) → List String → Option String
  | _, [] => none
  | seen, id :: rest =>
    if known id || seen.contains id then some id else firstDuplicate? known (id :: seen) rest

/-- Lists the tests from `start` down in the index. -/
def register (t : TestTree) (start : NodeId) : Except TreeError TestTree :=
  let added := t.owned start
  match firstDuplicate? t.index.contains [] (added.map (·.1)) with
  | some id => .error (.duplicateTest id)
  | none => .ok { t with index := t.index.insertMany added }

/-- Whether `child` may become a child of `parent`, apart from the tests it brings. -/
def checkLink (t : TestTree) (parent child : NodeId) : Except TreeError Unit :=
  match t.node? parent with
  | none => .error (.unknownNode parent)
  | some p =>
    if !p.kind.isGroup then .error (.notAGroup parent)
    else match t.node? child with
      | none => .error (.unknownNode child)
      | some c =>
        if child == root || c.parent.isSome then .error (.alreadyAttached child)
        else if parent == child || (t.ancestors parent).contains child then
          .error (.cycle parent child)
        else .ok ()

/-- Sets both ends of a link. -/
def link (t : TestTree) (parent child : NodeId) : TestTree :=
  (t.modify child fun n => { n with parent := some parent }).modify parent
    fun n => { n with children := n.children ++ [child] }

/-- Attaches a node as the last child of a group. -/
def addChild (t : TestTree) (parent child : NodeId) : Except TreeError Unit × TestTree :=
  match t.checkLink parent child with
  | .error e => (.error e, t)
  | .ok () =>
    let registered := if t.isReachable parent then t.register child else .ok t
    match registered with
    | .error e => (.error e, t)
    | .ok r => (.ok (), r.link parent child)

/-- Takes the tests from `start` down out of the index. -/
def deregister (t : TestTree) (start : NodeId) : TestTree :=
  let gone := t.suites start
  { t with index := t.index.filter fun _ owner => !gone.contains owner }

/-- Takes both ends of a link away. -/
def unlink (t : TestTree) (parent child : NodeId) : TestTree :=
  (t.modify parent fun n => { n with children := n.children.filter (· != child) }).modify child
    fun n => { n with parent := none }

/-- Detaches a child from its parent. -/
def removeChild (t : TestTree) (parent child : NodeId) : Except TreeError Unit × TestTree :=
  match t.node? child with
  | none => (.error (.unknownNode child), t)
  | some c =>
    if c.parent != some parent then (.error (.notAChild parent child), t)
    else (.ok (), (if t.isReachable parent then t.deregister child else t).unlink parent child)

end TestTree
end DocExamples
