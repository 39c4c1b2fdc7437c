/-
# Sessions

A session holds what has been loaded: the scans of the source files, the tree of their tests and
the coverage. Its configuration and its provider of declarations never change.
-/

import DocExamples.Config.Basic
import DocExamples.Coverage.Store
import DocExamples.Project.Description
import DocExamples.Run.Filter
import DocExamples.Scan.Basic
import DocExamples.Tree.Tests

namespace DocExamples

/-- The scans of a session by the paths of their files. -/
abbrev Scans := Std.ExtTreeMap String Scan

/-- Everything that belongs to a set of loaded files. -/
structure Session where
  config : Config
  provider : Provider
  /-- Patterns of paths that are never loaded. -/
  excluded : List Pattern
  scans : Scans := {}
  tree : TestTree := .empty
  coverage : Coverage

/-- Why an operation of a session fails. -/
inductive SessionError where
  | notFound (path : String)
  | unreadable (path : String)
  | invalidExclude (pattern : String)
  /-- A directory could not be searched for sources. -/
  | walk
  | filter (e : TestFilter.InvalidPattern)
  | project (e : ProjectError)
  | tree (e : TreeError)
  | test (e : InvalidTransition)
deriving DecidableEq, Repr

/-- The message, up to the account of the cause. -/
def SessionError.message : SessionError → String
  | notFound path => "File not found: " ++ path
  | unreadable path => "Failed to read " ++ path ++ ": "
  | invalidExclude p => "Invalid exclude pattern '" ++ p ++ "': "
  | walk => "Source discovery failed: "
  | filter e => e.message
  | project e => "Project error: " ++ e.message
  | tree e => "Test tree error: " ++ e.message
  | test e => "Test state error: " ++ e.message

namespace Session

/-- The patterns that texts write down, or the first text that is no pattern. -/
def readPatterns : List String → Except SessionError (List Pattern)
  | [] => .ok []
  | p :: rest =>
    match Pattern.read p with
    | .error _ => .error (.invalidExclude p)
    | .ok pattern => (readPatterns rest).map (pattern :: ·)

/-- A session without files. -/
def ofConfig (c : Config) (provider : Provider) : Except SessionError Session :=
  (readPatterns c.source.excludePatterns).map fun excluded =>
    { config := c, provider, excluded, coverage := { thresholds := c.coverage.thresholds } }

/-- The project that the examples of a configuration are compiled in: the one that it names, or
else the one described in the build directory. -/
def project? (files : FileTree) (c : Config) : Except SessionError (Option Project) :=
  match c.compiler.projectFile.or (Project.find? files c.source.buildDirectoryOrDefault) with
  | none => .ok none
  | some path =>
    match Project.load files path with
    | .ok p => .ok (some p)
    | .error e => .error (.project e)

def isExcluded (s : Session) (path : String) : Bool := s.excluded.any (·.occursIn path)

def testCount (s : Session) : Nat := s.tree.testCount

def declarationCount (s : Session) : Nat :=
  s.scans.toList.foldr (fun e n => e.2.declarations.length + n) 0

/-- All tests as before they ran, and no coverage; what has been loaded stays. -/
def reset (s : Session) : Session :=
  { s with tree := s.tree.reset, coverage := s.coverage.reset }

/-- The tests that a pattern selects. -/
def filterTests (s : Session) (pattern : String) : Except SessionError (List Test) :=
  match TestFilter.ofPattern pattern with
  | .ok f => .ok (s.tree.tests.filter f.selects)
  | .error e => .error (.filter e)

end Session
end DocExamples
