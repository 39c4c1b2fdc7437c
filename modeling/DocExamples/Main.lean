/-
# The command line

The program works on a directory that is described on its input: a JSON table with the `files` by
their paths, each a text, and with the variables of the environment under `env`. The programs there
are shells and the tools that scripts call. What it shows goes to its output. The files that it has
written are described on the output for errors in the same way.
-/

import DocExamples.CommandLine.Program
import DocExamples.Shell.Programs

namespace DocExamples
namespace CommandLine

/-- The texts of a table by their names. -/
def textsOf (d : Document) : List (String × String) :=
  match d with
  | .table entries => entries.filterMap fun (name, x) => x.text?.map (name, ·)
  | _ => []

/-- The directory that a document describes. -/
def workshopOf (d : Document) : Workshop where
  files := (textsOf ((d.entry? "files").getD .null)).foldl
    (fun t e => t.plant e.1 (.file (Text.encode e.2.toList) false)) .scratch
  environment := .ofTexts (textsOf ((d.entry? "env").getD .null))
  programs := Shell.programs

/-- The files of the working directory that were not there before, or not with this content. -/
def changed (before after : FileTree) : Document :=
  .table (after.nodes.filterMap fun (p, n) =>
    match n with
    | .file bytes _ =>
      if after.workingDirectory.isPrefixOf p && before.nodeAt? p != some n then
        some ("/".intercalate (p.drop after.workingDirectory.length),
          .text (String.ofList (Text.decodeLossy bytes)))
      else none
    | .directory => none)

end CommandLine
end DocExamples

open DocExamples in
/-- Runs the program on the directory described on the input. -/
def main (args : List String) : IO UInt32 := do
  let description ← (← IO.getStdin).readToEnd
  let w := CommandLine.workshopOf ((Document.ofJson? description).getD .null)
  let done := CommandLine.execute args "home" w
  (← IO.getStdout).putStr done.output
  (← IO.getStderr).putStr (CommandLine.changed w.files done.files).toJson
  return UInt32.ofNat done.code
