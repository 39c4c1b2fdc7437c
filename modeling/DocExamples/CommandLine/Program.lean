/-
# The program

The program reads its arguments, loads the configuration and does its task in a workshop. What it
has shown so far stays shown if something fails later. It ends with zero if all went well, with
one if something failed and with two if it was misused.
-/

import DocExamples.CommandLine.Arguments
import DocExamples.CommandLine.Listing
import DocExamples.Config.Load
import DocExamples.Files.UserRules
import DocExamples.Run.Compile
import DocExamples.Run.Report
import DocExamples.Session.Load
import DocExamples.Session.Run

namespace DocExamples

/-- What the program leaves behind. -/
structure Finished where
  code : Nat
  output : String := ""
  files : FileTree

namespace CommandLine

/-- How a task ends: with what it shows, successfully or not. -/
structure Ending where
  success : Bool
  lines : List String := []

def failure : Ending := { success := false }

abbrev InWorkshop := StateM Workshop

/-- The files of a task, none meaning those that are found. -/
def fileList (files : List String) : Option (List String) :=
  if files.isEmpty then none else some files

/-- Shows one file after the other, up to the first one that cannot be read. -/
def scanFiles (files : FileTree) (json : Bool) : List String → List Scan → Ending
  | [], read =>
    if json then ⟨true, [(Document.list (read.reverse.map Scan.toDocument)).toJson]⟩
    else ⟨true, read.reverse.flatMap Listing.scan⟩
  | path :: rest, read =>
    match files.readText path with
    | .error _ => ⟨false, if json then [] else read.reverse.flatMap Listing.scan⟩
    | .ok text => scanFiles files json rest (Scan.ofText Scan.heuristic path text :: read)

/-- A compiler and a session of a configuration, with files loaded. -/
def open? (c : Config) (w : Workshop) (paths : List String) : Option (Compiler × Session) :=
  match Session.project? w.files c, Session.ofConfig c Scan.heuristic with
  | .ok project, .ok s =>
    match s.load w.files (fileList paths) (UserRules.load w.files w.environment) with
    | (.ok _, s) =>
      let directory := (w.environment.path? "TMPDIR").getD "/tmp"
      some ({ config := c.compiler, project, directory }, s)
    | (.error _, _) => none
  | _, _ => none

/-- Loads files and does something with the session. -/
def inSession (c : Config) (paths : List String)
    (act : Backend InWorkshop → Session → InWorkshop Ending) : InWorkshop Ending := do
  match open? c (← get) paths with
  | none => return failure
  | some (compiler, s) => act compiler.backend s

def list (s : Session) (filter : Option String) : Ending :=
  match filter with
  | none => ⟨true, Listing.tree s.tree⟩
  | some pattern =>
    match s.filterTests pattern with
    | .error _ => failure
    | .ok tests => ⟨true, tests.map fun t => t.name ++ " [" ++ t.id ++ "] " ++ t.description⟩

/-- The filter of the options of a run. -/
def filterOf (pattern : Option String) (inFiles ofFunctions : List String) : Option TestFilter :=
  let base : Option TestFilter := match pattern with
    | none => some {}
    | some p => (TestFilter.ofPattern p).toOption
  base.map fun f => { f with files := inFiles, functions := ofFunctions }

def run (c : Config) (filter : TestFilter) (json : Bool) (backend : Backend InWorkshop)
    (s : Session) : InWorkshop Ending := do
  match ← s.run backend Workshop.readText (s.options filter) with
  | (.error _, _) => return failure
  | (.ok summary, s) =>
    let lines :=
      if json then [(summary.report ⟨0⟩ (some s.coverage.summary)).toJson]
      else Listing.results s.tree summary ⟨0⟩ c.run.verbose
    return ⟨summary.isSuccess, lines⟩

def verify (backend : Backend InWorkshop) (s : Session) : InWorkshop Ending := do
  match ← s.verify backend Workshop.readText with
  | (.error _, _) => return failure
  | (.ok v, s) =>
    return ⟨v.passed, Listing.results s.tree v.summary ⟨0⟩ false ++
      Listing.coverage s.coverage.summary v.shortfalls⟩

/-- Writes the coverage as a tracefile, if a path is given. -/
def writeTracefile (c : Coverage) (path : Option String) : InWorkshop Bool := do
  match path with
  | none => return true
  | some p =>
    let w ← get
    match w.files.write? p (Text.encode c.toTracefile.toList) with
    | none => return false
    | some files => do
      set { w with files }
      return true

def coverage (tracefile : Option String) (json : Bool) (backend : Backend InWorkshop)
    (s : Session) : InWorkshop Ending := do
  match ← s.run backend Workshop.readText (s.options {}) with
  | (.error _, _) => return failure
  | (.ok _, s) => do
    if !(← writeTracefile s.coverage tracefile) then return failure
    if json then return ⟨true, [s.coverage.toDocument.toJson]⟩
    else return ⟨true, Listing.coverage s.coverage.summary s.coverage.failures⟩

/-- Writes a configuration file with all defaults. -/
def init (force : Bool) : InWorkshop Ending := do
  let w ← get
  if w.files.contains Config.fileName && !force then return failure
  else match w.files.write? Config.fileName (Text.encode Config.defaultText.toList) with
    | none => return failure
    | some files => do
      set { w with files }
      return ⟨true, ["Wrote " ++ Config.fileName]⟩

/-- Does a task with a configuration. -/
def perform (c : Config) : Task → InWorkshop Ending
  | .scan files json => return scanFiles (← get).files json files []
  | .list files filter => inSession c files fun _ s => return list s filter
  | .run files parallel pattern inFiles ofFunctions json tracefile => do
    let c := { c with
      run.parallel := c.run.parallel || parallel
      coverage.tracefile := tracefile.or c.coverage.tracefile }
    match filterOf pattern inFiles ofFunctions with
    | none => return failure
    | some filter => inSession c files (run c filter json)
  | .verify files => inSession c files verify
  | .coverage files tracefile json => inSession c files (coverage tracefile json)
  | .init force => init force
  | .help => return ⟨true, ["Usage: docket [OPTIONS] <COMMAND>"]⟩

/-- Runs the program with its arguments. The configuration of the user is in the home directory. -/
def execute (args : List String) (home : String) (w : Workshop) : Finished :=
  match Invocation.ofArguments args with
  | .error () => { code := 2, files := w.files }
  | .ok call =>
    let loaded := match call.config with
      | some path => Config.fromFile w.files w.environment path
      | none => Config.load w.files w.environment home
    match call.task, loaded with
    | .help, _ => ending ((perform {} .help).run w)
    | _, .error _ => { code := 1, files := w.files }
    | task, .ok c =>
      let c := { c with run.verbose := c.run.verbose || call.verbose }
      ending ((perform c task).run w)
where
  ending (r : Ending × Workshop) : Finished := {
    code := if r.1.success then 0 else 1
    output := String.join (r.1.lines.map (· ++ "\n"))
    files := r.2.files }

end CommandLine
end DocExamples
