/-
# Compiling and running examples

A workshop is where examples are compiled: the files there, the programs and their environment, and
a number for the names of the next files. An example is written to a file of its own, compiled, and
run. Both files are removed afterwards, whatever happened.
-/

import DocExamples.Config.Basic
import DocExamples.Program
import DocExamples.Project.Basic
import DocExamples.Run.Backend
import DocExamples.Run.Process

namespace DocExamples

structure Workshop where
  files : FileTree
  environment : Environment := {}
  programs : Programs
  /-- How many examples have been compiled. -/
  used : Nat := 0

/-- How examples are compiled. -/
structure Compiler where
  config : CompilerConfig
  project : Option Project := none
  /-- Where the files of an example are written. -/
  directory : String := "/tmp"

namespace Compiler

/-- The extensions of headers. -/
def headerExtensions : List String := ["h", "hpp", "hxx"]

/-- What examples of a file include: the headers of the configuration, and the file itself if it
is a header. -/
def includesFor (c : Compiler) (files : FileTree) (source : String) : List String :=
  match Path.extension? source.toList with
  | some e =>
    if headerExtensions.contains (String.ofList e) then
      let found := (files.place? source).filter fun p => (files.nodeAt? p).isSome
      c.config.includes ++ [(found.map FileTree.absolute).getD source]
    else c.config.includes
  | none => c.config.includes

/-- The flags for examples of a file: those of the configuration, then those of its target. -/
def flagsFor (c : Compiler) (source : String) : List String :=
  c.config.flags ++ match c.project.bind (·.compileCommand? source) with
    | some command => command.arguments
    | none => []

/-- The output of a program, as texts are shown. -/
def shown (bytes : List UInt8) : String :=
  String.ofList (Text.trim (Text.decodeLossy bytes))

/-- What went on after the source was written: what it yielded, how long it took, and the files. -/
abbrev Trial := Outcome × Duration × FileTree

/-- Runs a compiled example. -/
def runBinary (programs : Programs) (files : FileTree) (env : Environment) (binary : String) :
    Trial :=
  match programs files env binary [] with
  | .error e => (.error (.io e.message), ⟨0⟩, files)
  | .ok p =>
    let outcome : Outcome :=
      if p.status.isSuccess then .ok (shown p.output)
      else
        let errors := shown p.errors
        .error (.runtime (if errors.isEmpty then "exited with " ++ p.status.display else errors))
    (outcome, p.elapsed, p.files)

/-- Compiles and runs a source. -/
def compileAndRun (c : Compiler) (programs : Programs) (files : FileTree) (env : Environment)
    (sourceFile source binary : String) : Trial :=
  match programs files env c.config.command
      (c.flagsFor sourceFile ++ ["-o", binary, source]) with
  | .error .notFound =>
    (.error (.unavailable ("compiler '" ++ c.config.command ++ "' not found")), ⟨0⟩, files)
  | .error e => (.error (.io e.message), ⟨0⟩, files)
  | .ok p =>
    if p.status.isSuccess then
      let (outcome, elapsed, files) := runBinary programs p.files env binary
      (outcome, ⟨p.elapsed.nanos + elapsed.nanos⟩, files)
    else (.error (.compile (shown p.errors)), p.elapsed, p.files)

/-- The name of the files of an example. -/
def stem (n : Nat) : String :=
  let ds := Nat.toDigits 16 n
  "docket_" ++ String.ofList (List.replicate (32 - ds.length) '0' ++ ds)

/-- Runs the code of a request. -/
def execute (c : Compiler) (r : Request) (w : Workshop) : Completion × Workshop :=
  let inside (name : String) : String :=
    String.ofList (Path.join c.directory.toList name.toList)
  let binary := inside (stem w.used)
  let source := inside (stem w.used ++ ".cpp")
  let program := Program.render r.code (c.includesFor w.files r.sourceFile)
  match w.files.write? source (Text.encode program.toList) with
  | none => (⟨⟨0⟩, .error (.io StartError.notFound.message)⟩, w)
  | some files =>
    let (outcome, elapsed, files) :=
      c.compileAndRun w.programs files w.environment r.sourceFile source binary
    let files := (files.removeFile source).removeFile binary
    (⟨elapsed, outcome⟩, { w with files, used := w.used + 1 })

/-- The backend that compiles and runs, which takes its time. -/
def backend (c : Compiler) : Backend (StateM Workshop) where
  begin _ := pure false
  finish r := do
    let (completion, w) := c.execute r (← get)
    set w
    return completion

end Compiler

/-- Reads a file of a workshop. -/
def Workshop.readText (path : String) : StateM Workshop (Except ReadError String) := do
  return (← get).files.readText path

end DocExamples
