/-
# Loading sources

Loading replaces all that was loaded before. Every file becomes a group below the root, and one
with examples has a leaf for each of them and then the suite of its tests. Files are read before
anything is replaced, so an error while reading changes nothing.
-/

import DocExamples.Files.Ignore
import DocExamples.Session.Basic

namespace DocExamples

/-- Texts by the paths of their files. -/
abbrev Sources := Std.ExtTreeMap String String

namespace Session

/-- The tests of a scan. -/
def caseOf (scan : Scan) (timeout : Duration) : TestCase :=
  { TestCase.ofFile scan.file with
    tests := scan.examples.mapIdx fun i e =>
      Test.ofExample e (Scan.parentOf? scan.declarations e) i timeout }

/-- Makes a leaf for each id and attaches it to a group. -/
def addLeaves (suite group : NodeId) :
    List String → TestTree → Except TreeError Unit × TestTree
  | [], t => (.ok (), t)
  | id :: rest, t =>
    match t.createLeaf suite id with
    | (.error e, t) => (.error e, t)
    | (.ok leaf, t) =>
      match t.addChild group leaf with
      | (.error e, t) => (.error e, t)
      | (.ok (), t) => addLeaves suite group rest t

/-- Makes the suite of a case and attaches it to a group, after the leaves of its tests. -/
def addSuite (group : NodeId) (name : String) (c : TestCase) (t : TestTree) :
    Except TreeError Unit × TestTree :=
  let (suite, t) := t.createSuite name c
  match addLeaves suite group (c.tests.map (·.id)) t with
  | (.error e, t) => (.error e, t)
  | (.ok (), t) => t.addChild group suite

/-- Adds the group of a scan to the tree. -/
def addScan (scan : Scan) (timeout : Duration) (t : TestTree) :
    Except TreeError Unit × TestTree :=
  let base := Path.baseName scan.file
  let (group, t) := t.createGroup scan.file base
  let (r, t) :=
    if scan.examples.isEmpty then (.ok (), t)
    else addSuite group ("Test Suite: " ++ base) (caseOf scan timeout) t
  match r with
  | .error e => (.error e, t)
  | .ok () => t.addChild TestTree.root group

/-- Adds files one after the other. -/
def addSources (s : Session) : List (String × String) → Except SessionError Unit × Session
  | [] => (.ok (), s)
  | (path, text) :: rest =>
    let scan := Scan.ofText s.provider path text
    match addScan scan (.ofMillis s.config.run.timeoutMillis) s.tree with
    | (.error e, tree) => (.error (.tree e), { s with tree })
    | (.ok (), tree) => addSources { s with tree, scans := s.scans.insert path scan } rest

/-- Loads texts in the order of their paths. Answers the number of tests. -/
def loadSources (s : Session) (sources : Sources) : Except SessionError Nat × Session :=
  let emptied : Session := { s with scans := {}, tree := .empty, coverage := s.coverage.reset }
  let (r, s) := emptied.addSources sources.toList
  (r.map fun () => s.testCount, s)

/-- Whether a path has one of the extensions of sources. -/
def hasSourceExtension (s : Session) (path : String) : Bool :=
  match Path.extension? path.toList with
  | some e => s.config.source.extensions.contains (String.ofList e)
  | none => false

/-- The paths of the sources below the directory of the configuration, in order. The rules of the
user are given. -/
def discover (s : Session) (files : FileTree) (common : List IgnoreRule := []) :
    Except SessionError (List String) :=
  let directory := s.config.source.directory
  if !files.contains directory then .error (.notFound directory)
  else if files.walkFails common directory then .error .walk
  else
    let found := ((files.walk common directory).filter s.hasSourceExtension).map Path.normalized
    .ok ((found.filter fun p => !s.isExcluded p).mergeSort fun a b =>
      Path.le (Path.components a.toList) (Path.components b.toList))

/-- Reads files that are not excluded, in order. -/
def readSources (s : Session) (files : FileTree) :
    List String → Sources → Except SessionError Sources
  | [], read => .ok read
  | path :: rest, read =>
    let key := Path.normalized path
    if s.isExcluded key then readSources s files rest read
    else match files.readText path with
      | .error .missing => .error (.notFound path)
      | .error .unreadable => .error (.unreadable path)
      | .ok text => readSources s files rest (read.insert key text)

/-- Loads the given files, or else all that are found. Answers the number of tests. -/
def load (s : Session) (files : FileTree) (paths : Option (List String))
    (common : List IgnoreRule := []) : Except SessionError Nat × Session :=
  let found : Except SessionError (List String) := match paths with
    | some ps => .ok ps
    | none => s.discover files common
  match found.bind fun ps => s.readSources files ps {} with
  | .error e => (.error e, s)
  | .ok sources => s.loadSources sources

end Session
end DocExamples
