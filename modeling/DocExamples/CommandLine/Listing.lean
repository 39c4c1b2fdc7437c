/-
# Listings

What the commands show as lines of text: scans, trees of tests, results and coverage.
-/

import DocExamples.Coverage.Store
import DocExamples.Run.Engine
import DocExamples.Scan.Basic
import DocExamples.Tree.Tests

namespace DocExamples
namespace Listing

/-- A text with blanks behind it up to a width. -/
def padded (width : Nat) (s : String) : String :=
  s ++ String.ofList (List.replicate (width - s.length) ' ')

/-- A text of several lines on one. -/
def onOneLine (s : String) : String :=
  String.ofList (Text.replaceChar '\n' [' ', ';', ' '] s.toList)

def declaration (d : Declaration) : String :=
  "  " ++ padded 18 d.kind.display ++ " " ++ d.name ++ " (" ++ d.location.display ++ ")"

/-- An example and the output that it expects. -/
def exampleLines (ds : List Declaration) (e : Example) : List String :=
  let parent := ((Scan.parentOf? ds e).map (·.name)).getD "-"
  ("  >>> " ++ onOneLine e.code ++ " [" ++ parent ++ "] @ " ++ e.location.display) ::
    (e.expected.map fun x => "      = " ++ onOneLine x).toList

def scan (s : Scan) : List String :=
  s.file :: (s.declarations.map declaration ++ s.examples.flatMap (exampleLines s.declarations))

/-- A node of a tree, indented by its depth. -/
def node? (t : TestTree) (n : NodeId) : Option String :=
  (t.node? n).map fun node =>
    let indent := String.ofList (List.replicate (2 * t.depth n) ' ')
    indent ++ match node.kind with
      | .group => node.name
      | .suite c => node.name ++ " (" ++ toString c.tests.length ++ " tests)"
      | .leaf .. =>
        let status := ((t.leafTest? n).map (·.status)).getD .pending
        status.symbol ++ " " ++ node.name ++ " [" ++ node.key ++ "]"

def tree (t : TestTree) : List String := (t.preorder TestTree.root).filterMap (node? t)

def duration (d : Duration) : String := "(" ++ toString d.millis ++ "ms)"

/-- A result by the name of its test, with what went wrong; if `verbose` with the output. -/
def result (t : TestTree) (verbose : Bool) (id : String) (r : TestResult) : List String :=
  let name := ((t.test? id).map (·.name)).getD id
  let time := (r.duration.map fun d => " " ++ duration d).getD ""
  [r.status.symbol ++ " " ++ name ++ time] ++
    (r.error.map ("    " ++ ·)).toList ++
    (if verbose then (r.output.map ("    Output: " ++ ·)).toList else [])

/-- The results, those that passed only if `verbose`, and their numbers. -/
def results (t : TestTree) (s : RunSummary) (time : Duration) (verbose : Bool) : List String :=
  let shown := s.results.toList.filter fun (_, r) => verbose || r.status != .passed
  let count (status : TestStatus) : String := toString (s.count status)
  shown.flatMap (fun (id, r) => result t verbose id r) ++
    ["", toString s.total ++ " tests: " ++ count .passed ++ " passed, " ++ count .failed ++
      " failed, " ++ count .error ++ " errors, " ++ count .skipped ++ " skipped " ++ duration time]

def metric (s : CoverageSummary) (m : Metric) : String :=
  let label := match m with
    | .lines => "Lines:"
    | .branches => "Branches:"
    | .functions => "Functions:"
    | .statements => "Statements:"
  let totals := s.metric m
  padded 11 label ++ " " ++ toString totals.covered ++ "/" ++ toString totals.total ++ " (" ++
    Decimal.plain totals.percentage ++ "%)"

/-- The totals of the coverage and the thresholds that are missed. -/
def coverage (s : CoverageSummary) (shortfalls : List String) : List String :=
  ["Coverage:"] ++ Metric.all.map (metric s) ++
    if shortfalls.isEmpty then ["✓ All coverage thresholds met"]
    else shortfalls.map ("✗ " ++ ·)

end Listing
end DocExamples
