/-
# The coverage of a project

One record per file, and the totals over all of them, renewed whenever a record changes.
-/

import DocExamples.Coverage.Summary
import DocExamples.Coverage.Tracefile

namespace DocExamples

/-- The coverage of all files with its totals and thresholds. -/
structure Coverage where
  files : Tracefile.Files := {}
  summary : CoverageSummary := {}
  thresholds : Thresholds := {}

namespace Coverage

/-- The records in the order of their paths. -/
def records (c : Coverage) : List FileCoverage := c.files.toList.map (·.2)

/-- Renews the totals. -/
def refresh (c : Coverage) : Coverage := { c with summary := .ofFiles c.records }

/-- Stores the record of a path in place of the one before. -/
def put (c : Coverage) (path : String) (f : FileCoverage) : Coverage :=
  { c with files := c.files.insert path f }.refresh

theorem files_put (c : Coverage) (path : String) (f : FileCoverage) (p : String) :
    (c.put path f).files[p]? = if path = p then some f else c.files[p]? := by
  unfold put refresh
  simp [Std.ExtTreeMap.getElem?_insert]

/-- Merges a record into the one of a path; nothing if a count grows too large. -/
def merge? (c : Coverage) (path : String) (f : FileCoverage) : Option Coverage :=
  ((c.files.getD path { path }).merge? f).map fun merged => c.put path merged

/-- Stores the records of a tracefile in place of those before. -/
def ingest (c : Coverage) (text : String) : Coverage :=
  { c with files := c.files.insertMany (Tracefile.read text).toList }.refresh

def setThresholds (c : Coverage) (t : Thresholds) : Coverage := { c with thresholds := t }

/-- Drops all records and keeps the thresholds. -/
def reset (c : Coverage) : Coverage := { thresholds := c.thresholds }

/-- The messages for all metrics that miss their thresholds. -/
def failures (c : Coverage) : List String := c.thresholds.failures c.summary

/-- The records as a tracefile. -/
def toTracefile (c : Coverage) : String := Tracefile.write c.records

/-- Entries in the order of their names. -/
def sortEntries (es : List (String × Document)) : List (String × Document) :=
  es.mergeSort fun a b => a.1 ≤ b.1

def fileDocument (path : String) (f : FileCoverage) : Document :=
  .table [
    ("branches", .list (f.branches.toList.map fun (id, b) => .table [
      ("id", .text id.display),
      ("taken", .nat b.taken.toNat),
      ("total", .nat b.total.toNat)])),
    ("functions", .table (f.functions.toList.map fun (name, fn) => (name, .table [
      ("executed", .bool fn.executed),
      ("hits", .nat fn.hits.toNat),
      ("line", .nat fn.line.toNat)]))),
    ("lines", .table (sortEntries (f.lines.toList.map fun (n, hits) =>
      (toString n.toNat, .nat hits.toNat)))),
    ("path", .text path)]

/-- The totals with the names of all entries in order. -/
def summaryDocument (s : CoverageSummary) : Document :=
  .table (sortEntries (Metric.all.map fun m =>
    (m.key, .table [
      ("covered", .nat (s.metric m).covered),
      ("percentage", .float (s.metric m).percentage),
      ("skipped", .nat (s.metric m).skipped),
      ("total", .nat (s.metric m).total)])))

/-- The records and their totals as written to data files. -/
def toDocument (c : Coverage) : Document :=
  .table [
    ("files", .list (c.files.toList.map fun (path, f) => fileDocument path f)),
    ("summary", summaryDocument c.summary)]

end Coverage
end DocExamples
