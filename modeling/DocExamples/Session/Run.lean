/-
# Running a session

After every run the coverage is renewed: a tracefile is taken in if the configuration names one,
and the functions of all loaded files are recorded. A function has been executed as often as tests
attached to it have passed.
-/

import DocExamples.Run.Engine
import DocExamples.Session.Basic

namespace DocExamples
namespace Session

/-- The number of tests attached to a function of a file that have passed. -/
def passedCount (tests : List Test) (file name : String) : Nat :=
  tests.countP fun t =>
    t.status == .passed && t.sourceFile == file && t.declaration == some name

/-- The record of a file with its functions as the tests cover them. -/
def recordFunctions (tests : List Test) (file : String) (ds : List Declaration)
    (f : FileCoverage) : FileCoverage :=
  ds.foldl (fun f d =>
    let hits := UInt64.ofNat (passedCount tests file d.name)
    { f with functions := f.functions.insert d.name (.ofHits d.line hits) }) f

/-- The coverage with the functions of a scan. -/
def coverScan (tests : List Test) (c : Coverage) (path : String) (scan : Scan) : Coverage :=
  if scan.callables.isEmpty then c
  else c.put path (recordFunctions tests path scan.callables (c.files.getD path { path }))

/-- Takes in what reading the tracefile yielded; one that is missing is left out. -/
def ingestTracefile (s : Session) (read : Except ReadError String) :
    Except SessionError Unit × Session :=
  match read with
  | .ok text => (.ok (), { s with coverage := s.coverage.ingest text })
  | .error .missing => (.ok (), s)
  | .error .unreadable => (.error (.unreadable (s.config.coverage.tracefile.getD "")), s)

/-- Records the functions of all loaded files. -/
def coverScans (s : Session) : Session :=
  let tests := s.tree.tests
  let coverage := s.scans.toList.foldl (fun c e => coverScan tests c e.1 e.2) s.coverage
  { s with coverage }

/-- Renews the coverage, with what reading the tracefile yielded if there is one to be read. -/
def updateCoverage (s : Session) (read : Option (Except ReadError String)) :
    Except SessionError Unit × Session :=
  match read with
  | none => (.ok (), s.coverScans)
  | some r =>
    match s.ingestTracefile r with
    | (.error e, s) => (.error e, s)
    | (.ok (), s) => (.ok (), s.coverScans)

/-- How a session runs unless told otherwise. -/
def options (s : Session) (filter : TestFilter) : RunOptions :=
  { mode := if s.config.run.parallel then .parallel else .sequential, filter }

variable {m : Type → Type} [Monad m]

/-- Runs the loaded tests, then renews the coverage. The tracefile is read by `read`. -/
def run (backend : Backend m) (read : String → m (Except ReadError String))
    (options : RunOptions) (s : Session) : m (Except SessionError RunSummary × Session) := do
  match ← s.tree.run backend options with
  | (.error e, tree) => return (.error (.test e), { s with tree })
  | (.ok summary, tree) => do
    let trace ← match s.config.coverage.tracefile with
      | none => pure none
      | some path => some <$> read path
    let (r, s) := { s with tree }.updateCoverage trace
    return (r.map fun () => summary, s)

/-- What a session is judged by. -/
structure Verification where
  summary : RunSummary
  /-- The messages for all metrics that miss their thresholds. -/
  shortfalls : List String

/-- Whether nothing failed and every threshold is met. -/
def Verification.passed (v : Verification) : Bool := v.summary.isSuccess && v.shortfalls.isEmpty

/-- Runs all tests and checks the thresholds. -/
def verify (backend : Backend m) (read : String → m (Except ReadError String)) (s : Session) :
    m (Except SessionError Verification × Session) := do
  let (r, s) ← s.run backend read (s.options {})
  return (r.map fun summary => ⟨summary, s.coverage.failures⟩, s)

end Session
end DocExamples
