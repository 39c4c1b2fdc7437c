/-
# Project descriptions

A project is described by a data file whose notation goes by the extension of its name. Without
the name of a file, the description is looked for in the build directory.
-/

import DocExamples.Document.Json
import DocExamples.Document.Yaml.Read
import DocExamples.Files.Tree
import DocExamples.Project.Basic

namespace DocExamples

/-- Why a project cannot be loaded. -/
inductive ProjectError where
  | unreadable (path : String)
  | json
  | yaml
  | unsupported (extension : String)
deriving DecidableEq, Repr

/-- The message, up to the account of the cause. -/
def ProjectError.message : ProjectError → String
  | unreadable path => "Failed to read project file " ++ path ++ ": "
  | json => "Invalid JSON project description: "
  | yaml => "Invalid YAML project description: "
  | unsupported e => "Unsupported project file format: " ++ e

namespace BuildConfiguration

def toDocument (c : BuildConfiguration) : Document :=
  .table [
    ("name", .text c.name),
    ("directory", .text c.directory),
    ("targets", .list (c.targets.map Target.toDocument))]

/-- Reads a configuration. -/
def read {V : Type} {M : Type → Type} [Monad M] [MonadExcept Unit M]
    (f : Document.Format V M) (v : V) : M BuildConfiguration := do
  let r ← f.record ["name", "directory", "targets"] v
  return {
    name := ← r.required "name" f.text
    directory := ← r.defaulted "directory" "" f.text
    targets := ← r.defaulted "targets" [] (f.list (Target.read f)) }

end BuildConfiguration

namespace Project

def toDocument (p : Project) : Document :=
  .present [
    ("name", some (.text p.name)),
    ("version", p.version.map .text),
    ("sourceDirectory", some (.text p.sourceDirectory)),
    ("buildDirectory", some (.text p.buildDirectory)),
    ("configurations", some (.list (p.configurations.map BuildConfiguration.toDocument))),
    ("currentConfiguration", some (.text p.current))]

/-- Reads a project. -/
def read {V : Type} {M : Type → Type} [Monad M] [MonadExcept Unit M]
    (f : Document.Format V M) (v : V) : M Project := do
  let r ← f.record ["name", "version", "sourceDirectory", "buildDirectory", "configurations",
    "currentConfiguration"] v
  return {
    name := ← r.required "name" f.text
    version := ← r.defaulted "version" none (f.optional f.text)
    sourceDirectory := ← r.defaulted "sourceDirectory" "" f.text
    buildDirectory := ← r.defaulted "buildDirectory" "" f.text
    configurations := ← r.defaulted "configurations" [] (f.list (BuildConfiguration.read f))
    current := ← r.defaulted "currentConfiguration" "Debug" f.text }

/-- The project that the text of a file describes. -/
def ofText (path text : String) : Except ProjectError Project :=
  let extension := String.ofList (((Path.extension? path.toList).getD []).map Char.toLower)
  match extension with
  | "json" =>
    match (Document.ofJson? text).bind (read (Document.format .exact)) with
    | some p => .ok p
    | none => .error .json
  | "yaml" | "yml" =>
    match Document.ofYaml? read text with
    | some p => .ok p
    | none => .error .yaml
  | other => .error (.unsupported other)

/-- Loads the project that a file describes. -/
def load (files : FileTree) (path : String) : Except ProjectError Project :=
  match files.readText path with
  | .error _ => .error (.unreadable path)
  | .ok text => ofText path text

/-- The names of description files, the preferred one first. -/
def fileNames : List String :=
  ["docket-project.json", "docket-project.yaml", "docket-project.yml"]

/-- The first description file in a directory. -/
def find? (files : FileTree) (directory : String) : Option String :=
  (fileNames.map fun name => String.ofList (Path.join directory.toList name.toList)).find?
    files.isFile

end Project
end DocExamples
