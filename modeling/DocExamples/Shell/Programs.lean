/-
# The programs of a shell

Programs that are known: shells, and the tools that scripts call. A program is started by its name,
or by its path if that has a slash in it. These programs are what the command line runs; nothing
else depends on what they do.
-/

import DocExamples.Run.Process
import DocExamples.Shell.Run

namespace DocExamples
namespace Shell

/-- How deep commands may nest. -/
def depth : Nat := 1500

def initial (files : FileTree) (env : Environment) : State :=
  { files, name := []
    bindings := env.values.map fun (name, value) =>
      (State.bytesOf name, Text.bytesAsChars value)
    exported := env.values.map fun e => State.bytesOf e.1 }

/-- The process that a state is the end of. -/
def ofState (s : State) : Process where
  status := match s.jump with
    | some (.killed n) => .signal n
    | _ => .code s.status
  output := Text.charsAsBytes (s.captured 0)
  errors := Text.charsAsBytes (s.captured 1)
  elapsed := s.slept
  files := s.files

/-- Runs a shell with arguments. -/
def ofShell (files : FileTree) (env : Environment) (name : Bytes) (args : List Bytes) : Process :=
  match (initial files env).shellCall name args with
  | .ok (s, script, name, args) =>
    ofState (alone depth (Command.ofScript script) { s with name, arguments := args })
  | .error s => ofState s

/-- Runs a program by its name, which is known or not. -/
def ofName? (files : FileTree) (env : Environment) (name : String) (args : List Bytes) :
    Option Process :=
  if isShellName name then some (ofShell files env (State.bytesOf name) args)
  else if (programPath? name).isSome then
    some (ofState (program depth (State.bytesOf name) args (initial files env)))
  else none

/-- Starts a program and waits for its end. A file is run by the program that its first line
names. -/
def programs : Programs := fun files env program args =>
  let args := args.map State.bytesOf
  match files.node? program, program.toList.contains '/' with
  | some .directory, true => .error .refused
  | some (.file bytes executable), true =>
    let text := Text.bytesAsChars bytes
    match executable, interpreter? text with
    | true, some (name :: more) =>
      if isShellName (State.textOf name) then
        .ok (ofShell files env name (more ++ State.bytesOf program :: args))
      else
        match ofName? files env (State.textOf name) (more ++ State.bytesOf program :: args) with
        | some p => .ok p
        | none => .error .notFound
    | false, _ => .error .refused
    | true, _ => .error .unknownFormat
  | _, _ =>
    match ofName? files env program args with
    | some p => .ok p
    | none => .error .notFound

end Shell
end DocExamples
