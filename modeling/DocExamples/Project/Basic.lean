/-
# Build projects

A project has configurations by name, each with targets by name, and one of the configurations is
current; queries look at its targets. Lists of names have each name once, where it occurs first.
-/

import DocExamples.Project.Target

namespace DocExamples

/-- The targets of one configuration. -/
structure BuildConfiguration where
  name : String
  directory : String := ""
  targets : List Target := []
deriving DecidableEq, Repr, Inhabited

/-- A build project. -/
structure Project where
  name : String
  version : Option String := none
  sourceDirectory : String := ""
  buildDirectory : String := ""
  configurations : List BuildConfiguration := []
  /-- The name of the configuration that queries look at. -/
  current : String := "Debug"
deriving DecidableEq, Repr, Inhabited

namespace Project

def configuration? (p : Project) (name : String) : Option BuildConfiguration :=
  p.configurations.find? (·.name == name)

/-- Makes a configuration current, if there is one of that name. -/
def select (p : Project) (name : String) : Bool × Project :=
  if (p.configuration? name).isSome then (true, { p with current := name }) else (false, p)

/-- The targets of the current configuration. -/
def targets (p : Project) : List Target := ((p.configuration? p.current).map (·.targets)).getD []

def target? (p : Project) (name : String) : Option Target := p.targets.find? (·.name == name)

/-- Puts an item in the place of the first one that `same` holds of, or else at the end. -/
def putFirst {α : Type} (same : α → Bool) (x : α) : List α → List α
  | [] => [x]
  | y :: rest => if same y then x :: rest else y :: putFirst same x rest

/-- Changes the first item that `same` holds of. -/
def modifyFirst {α : Type} (same : α → Bool) (f : α → α) : List α → List α
  | [] => []
  | y :: rest => if same y then f y :: rest else y :: modifyFirst same f rest

/-- Adds a target to a configuration, the current one if none is named, in place of the target of
its name. A configuration that is missing is made. -/
def addTarget (p : Project) (t : Target) (configuration : Option String) : Project :=
  let name := configuration.getD p.current
  let c := (p.configuration? name).getD
    { name, directory := p.buildDirectory ++ "/" ++ name }
  let c := { c with targets := putFirst (·.name == t.name) t c.targets }
  { p with configurations := putFirst (·.name == name) c p.configurations }

/-- Removes the targets of a name from a configuration, the current one if none is named. -/
def removeTarget (p : Project) (name : String) (configuration : Option String) : Bool × Project :=
  let wanted := configuration.getD p.current
  let held := ((p.configuration? wanted).map (·.targets)).getD []
  let drop (c : BuildConfiguration) : BuildConfiguration :=
    { c with targets := c.targets.filter (·.name != name) }
  (held.any (·.name == name),
    { p with configurations := modifyFirst (·.name == wanted) drop p.configurations })

/-! ## Queries -/

/-- The items of a list, each where it occurs first. -/
def distinct (xs : List String) : List String :=
  (xs.foldl (fun kept x => if kept.contains x then kept else x :: kept) []).reverse

def executables (p : Project) : List Target := p.targets.filter (·.kind == .executable)

def libraries (p : Project) : List Target := p.targets.filter (·.kind.isLibrary)

def sources (p : Project) : List String := distinct (p.targets.flatMap (·.sources))

def includePaths (p : Project) : List String := distinct (p.targets.flatMap (·.includePaths))

/-- Whether a file is linked at run time, by its extension. -/
def isSharedObject (file : String) : Bool :=
  match Path.extension? file.toList with
  | some e => ["so", "dll", "dylib"].contains (String.ofList e)
  | none => false

/-- The shared libraries that the targets are, and those they link. -/
def sharedLibraries (p : Project) : List String :=
  distinct (p.targets.flatMap fun t =>
    (if t.kind == .sharedLibrary then [t.name] else []) ++ t.linkLibraries.filter isSharedObject)

/-- The names that the header of a source may have. -/
def headerNames (source : String) : List String :=
  ["h", "hpp", "hxx", "h++"].map fun e =>
    String.ofList (Path.withExtension source.toList e.toList)

/-- Every source, and after it the names that its header may have. -/
def sourcesAndHeaders (p : Project) : List String :=
  distinct (p.sources.flatMap fun s => s :: headerNames s)

/-- The first target that lists a source. -/
def targetOf? (p : Project) (source : String) : Option Target :=
  p.targets.find? (·.owns source)

def compileCommand? (p : Project) (source : String) : Option CompileCommand :=
  (p.targetOf? source).map (·.compileCommand)

end Project
end DocExamples
