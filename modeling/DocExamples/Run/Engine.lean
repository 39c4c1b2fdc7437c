/-
# Running a tree

A run settles every test that a leaf below the root names. The tests are reset first, so a tree
can be run again and again; those that the filter rejects are skipped without reaching the
backend. The others run one after the other in the order of the leaves, or all at once, started
in the order of the suites.
-/

import DocExamples.Run.Filter
import DocExamples.Tree.Tests

namespace DocExamples

/-- Whether tests run one after the other or all at once. -/
inductive RunMode where
  | sequential | parallel
deriving DecidableEq, Repr, Inhabited

structure RunOptions where
  mode : RunMode := .sequential
  filter : TestFilter := {}

/-- The results of a run. -/
structure RunSummary where
  results : Results

namespace RunSummary

def total (s : RunSummary) : Nat := s.results.size

/-- The number of results with a status. -/
def count (s : RunSummary) (status : TestStatus) : Nat :=
  s.results.toList.countP fun e => e.2.status == status

/-- Whether there were neither failures nor errors. -/
def isSuccess (s : RunSummary) : Bool := s.count .failed == 0 && s.count .error == 0

end RunSummary

/-- The result of running one node. -/
inductive NodeResult where
  /-- The result of the test that a leaf names. -/
  | test (r : TestResult)
  /-- The results of the tests of a suite or of those below a group. -/
  | many (rs : Results)
  /-- There is nothing to run. -/
  | empty

variable {m : Type → Type} [Monad m]

namespace TestTree

/-- Skips the targets that the filter rejects. The answer has the targets left and the results of
those skipped. -/
def sift (filter : TestFilter) : List TestTarget → TestTree →
    Except InvalidTransition (List TestTarget × List IdResult) × TestTree
  | [], t => (.ok ([], []), t)
  | target :: rest, t =>
    match t.testIn? target with
    | none => sift filter rest t
    | some test =>
      if filter.selects test then
        let (r, t) := sift filter rest t
        (r.map fun (selected, skipped) => (target :: selected, skipped), t)
      else
        match test.skip with
        | (.error e, _) => (.error e, t)
        | (.ok result, skippedTest) =>
          let (r, t) := sift filter rest (t.setTest target skippedTest)
          (r.map fun (selected, skipped) => (selected, (test.id, result) :: skipped), t)

/-- Runs targets one after the other and stops at the first one that cannot be started; `again`
says whether each is reset right before it runs. -/
def runTargets (backend : Backend m) (again : Bool) : List TestTarget → TestTree →
    m (Except InvalidTransition (List IdResult) × TestTree)
  | [], t => return (.ok [], t)
  | target :: rest, t => do
    match t.testIn? target with
    | none => runTargets backend again rest t
    | some test => do
      match ← (if again then test.reset else test).run backend with
      | (.error e, test) => return (.error e, t.setTest target test)
      | (.ok r, test) => do
        let (rs, t) ← runTargets backend again rest (t.setTest target test)
        return (rs.map ((test.id, r) :: ·), t)

/-- Runs all tests that `wanted` lists at once. -/
def runPlaces (backend : Backend m) (wanted : List TestTarget) (t : TestTree) :
    m (Except InvalidTransition (List IdResult) × TestTree) := do
  let found := (t.places wanted).filterMap fun p => (t.testAt? p).map (p, ·)
  let (rs, tests) ← runTogether backend (found.map (·.2))
  return (rs, ((found.map (·.1)).zip tests).foldl (fun t (p, test) => t.setTestAt p test) t)

/-- Runs targets that can all be started. -/
def runMode (backend : Backend m) (mode : RunMode) (targets : List TestTarget) (t : TestTree) :
    m (Except InvalidTransition (List IdResult) × TestTree) :=
  match mode with
  | .sequential => runTargets backend false targets t
  | .parallel => runPlaces backend targets t

/-- Runs every test that a leaf below the root names. -/
def run (backend : Backend m) (options : RunOptions) (t : TestTree) :
    m (Except InvalidTransition RunSummary × TestTree) := do
  let targets := t.targets root
  let t := targets.foldl (fun t target => t.modifyTest target Test.reset) t
  match sift options.filter targets t with
  | (.error e, t) => return (.error e, t)
  | (.ok (selected, skipped), t) => do
    let (rs, t) ← runMode backend options.mode selected t
    return (rs.map fun rs => ⟨.ofList (skipped ++ rs)⟩, t)

/-- Runs one node without a filter: the test of a leaf, the whole case of a suite, or the tests
that the leaves below a group name. -/
def runNode (backend : Backend m) (n : NodeId) (t : TestTree) :
    m (Except InvalidTransition NodeResult × TestTree) := do
  match t.node? n with
  | none => return (.ok .empty, t)
  | some node =>
    match node.kind with
    | .leaf suite id =>
      match t.testIn? (suite, id) with
      | none => return (.ok .empty, t)
      | some test => do
        let (r, test) ← test.reset.run backend
        return (r.map .test, t.setTest (suite, id) test)
    | .suite c => do
      let (rs, c) ← c.reset.run backend
      return (rs.map .many, t.modifyCase n fun _ => c)
    | .group =>
      if node.children.isEmpty then return (.ok .empty, t)
      else do
        let (rs, t) ← runTargets backend true (t.targets n) t
        return (rs.map fun rs => .many (.ofList rs), t)

end TestTree
end DocExamples
