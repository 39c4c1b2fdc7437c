/-
# Test cases

The tests of one source file in the order of its examples. Nothing prevents two tests of a case
from having the same id; looking one up finds the first.
-/

import DocExamples.Path
import DocExamples.Run.Backend
import Std.Data.ExtTreeMap

namespace DocExamples

/-- Results by test id. -/
abbrev Results := Std.ExtTreeMap String TestResult

/-- The results of a list; of several with one id the last one counts. -/
def Results.ofList (rs : List IdResult) : Results := ({} : Results).insertMany rs

/-- The tests of a source file. -/
structure TestCase where
  /-- The path of the file. -/
  id : String
  name : String
  description : Option String := none
  tests : List Test := []
deriving DecidableEq, Repr, Inhabited

namespace TestCase

/-- The empty case of a file, named after it. -/
def ofFile (path : String) : TestCase :=
  { id := path, name := "Tests for " ++ Path.baseName path }

def add (c : TestCase) (t : Test) : TestCase := { c with tests := c.tests ++ [t] }

/-- The position of the first test with an id. -/
def position? (c : TestCase) (id : String) : Option Nat := c.tests.findIdx? (·.id == id)

/-- The first test with an id. -/
def find? (c : TestCase) (id : String) : Option Test := c.tests.find? (·.id == id)

/-- Removes the first test with an id. -/
def remove (c : TestCase) (id : String) : Option Test × TestCase :=
  (c.find? id, { c with tests := c.tests.eraseP (·.id == id) })

/-- Changes the test at a position. -/
def modify (c : TestCase) (index : Nat) (f : Test → Test) : TestCase :=
  { c with tests := c.tests.modify index f }

/-- Changes the first test with an id. -/
def modifyTest (c : TestCase) (id : String) (f : Test → Test) : TestCase :=
  match c.position? id with
  | some i => c.modify i f
  | none => c

def count (c : TestCase) (s : TestStatus) : Nat := c.tests.countP (·.status == s)

def reset (c : TestCase) : TestCase := { c with tests := c.tests.map Test.reset }

variable {m : Type → Type} [Monad m]

/-- Runs the tests in order, up to the first one that cannot be started. -/
def run (backend : Backend m) (c : TestCase) :
    m (Except InvalidTransition Results × TestCase) := do
  let (rs, tests) ← runInTurn backend c.tests
  return (rs.map Results.ofList, { c with tests })

/-- Runs the tests all at once. -/
def runParallel (backend : Backend m) (c : TestCase) :
    m (Except InvalidTransition Results × TestCase) := do
  let (rs, tests) ← runTogether backend c.tests
  return (rs.map Results.ofList, { c with tests })

end TestCase
end DocExamples
