/-
# The state of a shell

What commands read and change: files, variables, arguments, and where their output goes. Output
goes to numbered buffers or to files; the first two buffers are what the outside sees. A jump is
under way as long as commands are passed over.
-/

import DocExamples.Duration
import DocExamples.Files.Tree
import DocExamples.Shell.Syntax

namespace DocExamples
namespace Shell

/-- Where a descriptor leads. -/
inductive Sink where
  | buffer (index : Nat)
  | file (p : Place)
  /-- What is written there is gone. -/
  | nowhere
  | closed
deriving DecidableEq, Repr, Inhabited

/-- Why commands are passed over. -/
inductive Jump where
  | exit
  | killed (signal : Nat)
  /-- Out of so many loops, or on to the next round of the last of them. -/
  | leaveLoop (levels : Nat) (again : Bool)
  | leaveFunction
deriving DecidableEq, Repr, Inhabited

structure State where
  files : FileTree
  /-- The variables with their values; each name stands once. -/
  bindings : List (Bytes × Bytes) := []
  exported : List Bytes := []
  /-- The variables that cannot change any more. -/
  fixed : List Bytes := []
  functions : List (Bytes × Command) := []
  /-- What the variables of the function at hand were outside of it, the latest first. -/
  outer : List (Bytes × Option Bytes) := []
  /-- The number of functions around the command at hand. -/
  calls : Nat := 0
  /-- The name that the script was called by. -/
  name : Bytes
  /-- The command of the shell that is at work, which messages name. -/
  command : Option Bytes := none
  arguments : List Bytes := []
  /-- What is left of the input. -/
  input : Bytes := []
  sinks : List (Nat × Sink) := [(1, .buffer 0), (2, .buffer 1)]
  buffers : Array Bytes := #[[], []]
  status : Nat := 0
  jump : Option Jump := none
  /-- The time spent sleeping. -/
  slept : Duration := ⟨0⟩
  /-- The line of the command at hand. -/
  line : Nat := 1
  /-- The number of loops around the command at hand. -/
  loops : Nat := 0
  /-- What runs on a signal; zero is the end of the script. -/
  traps : List (Nat × Bytes) := []
  /-- The letters of the options that are on. -/
  options : List Char := []
  /-- Whether somebody looks at the status of the command. -/
  tested : Bool := false
  /-- The permissions that new files do not get. -/
  mask : Nat := 18
  /-- The status of the last command that nobody waited for. -/
  job : Option Nat := none
  /-- What is left of an argument with several options in it. -/
  optionsLeft : Bytes := []
deriving Inhabited

namespace State

/-- The text of bytes, as file names are shown. -/
def textOf (cs : Bytes) : String := String.ofList (Text.decodeLossy (Text.charsAsBytes cs))

/-- The bytes of a text. -/
def bytesOf (s : String) : Bytes := Text.bytesAsChars (Text.encode s.toList)

def finish (s : State) (status : Nat) : State := { s with status }

/-- Whether the option of a letter is on. -/
def has (s : State) (letter : Char) : Bool := s.options.contains letter

/-- Adds output to a sink. -/
def writeTo (s : State) (sink : Sink) (cs : Bytes) : State :=
  match sink with
  | .buffer i => { s with buffers := s.buffers.modify i (· ++ cs) }
  | .file p =>
    match s.files.nodeAt? p with
    | some (.file bytes executable) =>
      { s with files := s.files.setAt p (.file (bytes ++ Text.charsAsBytes cs) executable) }
    | _ => s
  | .nowhere | .closed => s

def sink (s : State) (descriptor : Nat) : Sink := (s.sinks.lookup descriptor).getD .closed

/-- Adds output to what a descriptor leads to. -/
def write (s : State) (descriptor : Nat) (cs : Bytes) : State :=
  s.writeTo (s.sink descriptor) cs

def print (s : State) (cs : Bytes) : State := s.write 1 cs

/-- A message on the output for errors, and the status that goes with it. -/
def complain (s : State) (message : String) (status : Nat) : State :=
  (s.write 2 (bytesOf (message ++ "\n"))).finish status

/-- A message of the shell itself, with the line that it is about and the command at work. -/
def shellError (s : State) (message : String) (status : Nat) : State :=
  let command := match s.command with
    | some c => textOf c ++ ": "
    | none => ""
  s.complain (textOf s.name ++ ": " ++ toString s.line ++ ": " ++ command ++ message) status

/-- A message of the shell that ends the script. -/
def abort (s : State) (message : String) : State :=
  { s.shellError message 2 with jump := some .exit }

/-- The values of the entries of a list, those of one name replaced by another value. -/
def assign (entries : List (Bytes × Bytes)) (name value : Bytes) : List (Bytes × Bytes) :=
  (name, value) :: entries.filter (·.1 != name)

/-- Gives a variable a value, if it can change. -/
def setVariable (s : State) (name value : Bytes) : State :=
  if s.fixed.contains name then s.abort (textOf name ++ ": is read only")
  else
    { s with
      bindings := assign s.bindings name value
      exported := if s.has 'a' then name :: s.exported else s.exported }

def removeVariable (s : State) (name : Bytes) : State :=
  { s with bindings := s.bindings.filter (·.1 != name) }

/-- What the shell uses for its own process. -/
def processId : Bytes := "4096".toList

/-- What the shell uses for the last command that nobody waited for. -/
def jobId : Bytes := "4097".toList

def decimal (n : Nat) : Bytes := (toString n).toList

/-- The letters of options, in the order in which they are shown. -/
def optionLetters : List Char := "ubaCEVvxsnmiIfe".toList

/-- The value of a variable that is a single text. -/
def value? (s : State) (name : Bytes) : Option Bytes :=
  match name with
  | ['?'] => some (decimal s.status)
  | ['#'] => some (decimal s.arguments.length)
  | ['$'] => some processId
  | ['!'] => some (if s.job.isSome then jobId else [])
  | ['-'] => some (optionLetters.filter s.has)
  | ['0'] => some s.name
  | _ =>
    if name.all Char.isDigit then
      s.arguments[name.foldl (fun n d => n * 10 + (d.toNat - 48)) 0 - 1]?
    else s.bindings.lookup name

/-- Leads a descriptor elsewhere. -/
def redirect (s : State) (descriptor : Nat) (sink : Sink) : State :=
  { s with sinks := (descriptor, sink) :: s.sinks.filter (·.1 != descriptor) }

/-- Leads the output to a new buffer, whose number is answered. -/
def capture (s : State) : Nat × State :=
  (s.buffers.size, { s with buffers := s.buffers.push [] }.redirect 1 (.buffer s.buffers.size))

/-- What has been written to a buffer. -/
def captured (s : State) (index : Nat) : Bytes := (s.buffers[index]?).getD []

/-- The bytes of a file, if it can be read. -/
def readFile? (s : State) (path : Bytes) : Option Bytes :=
  if path == "/dev/null".toList then some []
  else (s.files.bytes? (textOf path)).map Text.bytesAsChars

end State
end Shell
end DocExamples
