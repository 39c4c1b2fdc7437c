/-
# Coverage totals and thresholds

The totals of a set of files, as counts and as percentages with two decimals, and the check of
the percentages against the least ones required. A metric without a threshold of its own has to
reach eighty percent.
-/

import DocExamples.Coverage.Record
import DocExamples.Decimal.Layout
import DocExamples.Document.Basic

namespace DocExamples

/-- What is counted. -/
inductive Metric where
  | lines | branches | functions | statements
deriving DecidableEq, Repr, Inhabited

namespace Metric

def all : List Metric := [lines, branches, functions, statements]

/-- The name of the metric in data files. -/
def key : Metric → String
  | lines => "lines"
  | branches => "branches"
  | functions => "functions"
  | statements => "statements"

/-- The name of the metric in messages. -/
def label : Metric → String
  | lines => "Line"
  | branches => "Branch"
  | functions => "Function"
  | statements => "Statement"

end Metric

/-- The share of what is covered in percent, rounded to two decimals; zero if there is nothing to
cover. -/
def percentage (covered total : Nat) : Float :=
  if total = 0 then 0.0
  else
    let raw := covered.toUInt64.toFloat / total.toUInt64.toFloat * 100.0
    (raw * 100.0).round / 100.0

/-- The totals of one metric. -/
structure MetricTotals where
  total : Nat := 0
  covered : Nat := 0
  skipped : Nat := 0
  percentage : Float := 0.0
deriving Repr, Inhabited

namespace MetricTotals

def ofCounts (total covered : Nat) : MetricTotals :=
  ⟨total, covered, 0, DocExamples.percentage covered total⟩

def toDocument (t : MetricTotals) : Document :=
  .table [
    ("total", .nat t.total),
    ("covered", .nat t.covered),
    ("skipped", .nat t.skipped),
    ("percentage", .float t.percentage)]

end MetricTotals

/-- The totals of all metrics. Statements are not measured on their own: their numbers are those
of the lines. -/
structure CoverageSummary where
  lines : MetricTotals := {}
  branches : MetricTotals := {}
  functions : MetricTotals := {}
  statements : MetricTotals := {}
deriving Repr, Inhabited

namespace CoverageSummary

def metric (s : CoverageSummary) : Metric → MetricTotals
  | .lines => s.lines
  | .branches => s.branches
  | .functions => s.functions
  | .statements => s.statements

/-- The totals over some files. -/
def ofFiles (files : List FileCoverage) : CoverageSummary :=
  let sum (count : FileCoverage → Nat) : Nat := files.foldr (fun f n => count f + n) 0
  let lines := MetricTotals.ofCounts (sum (·.lines.size)) (sum (·.coveredLines))
  { lines
    branches := .ofCounts (sum (·.branches.size)) (sum (·.coveredBranches))
    functions := .ofCounts (sum (·.functions.size)) (sum (·.coveredFunctions))
    statements := lines }

def toDocument (s : CoverageSummary) : Document :=
  .table (Metric.all.map fun m => (m.key, (s.metric m).toDocument))

end CoverageSummary

/-- The least percentages required. -/
structure Thresholds where
  lines : Option Float := none
  branches : Option Float := none
  functions : Option Float := none
  statements : Option Float := none
deriving Repr, Inhabited

namespace Thresholds

/-- The percentage required of a metric without a threshold of its own. -/
def fallback : Float := 80.0

/-- The same threshold for every metric. -/
def uniform (x : Float) : Thresholds := ⟨some x, some x, some x, some x⟩

def get? (t : Thresholds) : Metric → Option Float
  | .lines => t.lines
  | .branches => t.branches
  | .functions => t.functions
  | .statements => t.statements

/-- The percentage required of a metric. -/
def effective (t : Thresholds) (m : Metric) : Float := (t.get? m).getD fallback

/-- The thresholds that are set. -/
def configured (t : Thresholds) : List (Metric × Float) :=
  Metric.all.filterMap fun m => (t.get? m).map (m, ·)

/-- The message for a metric that misses its threshold. -/
def shortfall? (t : Thresholds) (s : CoverageSummary) (m : Metric) : Option String :=
  let actual := (s.metric m).percentage
  let least := t.effective m
  if actual < least then
    some (m.label ++ " coverage " ++ Decimal.plain actual ++ "% is below threshold " ++
      Decimal.plain least ++ "%")
  else none

/-- The messages for all metrics that miss their thresholds. -/
def failures (t : Thresholds) (s : CoverageSummary) : List String :=
  Metric.all.filterMap (t.shortfall? s)

end Thresholds
end DocExamples
