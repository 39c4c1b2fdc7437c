/-
# Programs from outside

Examples are compiled and run by other programs. What these do is not known: it is a parameter of
what runs them. A program that was started ends with an exit status and leaves its output and its
errors, and the files as they are then.
-/

import DocExamples.Duration
import DocExamples.Environment
import DocExamples.Files.Tree

namespace DocExamples

/-- The names of the signals, from the first on. -/
def signalNames : List String :=
  ["HUP", "INT", "QUIT", "ILL", "TRAP", "ABRT", "BUS", "FPE", "KILL", "USR1", "SEGV", "USR2",
    "PIPE", "ALRM", "TERM", "STKFLT", "CHLD", "CONT", "STOP", "TSTP", "TTIN", "TTOU", "URG",
    "XCPU", "XFSZ", "VTALRM", "PROF", "WINCH", "IO", "PWR", "SYS"]

/-- How a process ended. -/
inductive ExitStatus where
  | code (n : Nat)
  | signal (n : Nat)
deriving DecidableEq, Repr

namespace ExitStatus

def display : ExitStatus → String
  | code n => "exit status: " ++ toString n
  | signal n =>
    "signal: " ++ toString n ++
      (match signalNames[n - 1]? with
      | some name => " (SIG" ++ name ++ ")"
      | none => "")

def isSuccess (e : ExitStatus) : Bool := e == code 0

end ExitStatus

/-- Why a program cannot be started. -/
inductive StartError where
  | notFound
  /-- It is a directory, or a file that may not be run. -/
  | refused
  /-- It is a file that does not say how to run it. -/
  | unknownFormat
deriving DecidableEq, Repr

def StartError.message : StartError → String
  | notFound => "No such file or directory (os error 2)"
  | refused => "Permission denied (os error 13)"
  | unknownFormat => "Exec format error (os error 8)"

/-- A process that has ended. -/
structure Process where
  status : ExitStatus
  output : List UInt8
  errors : List UInt8
  elapsed : Duration
  files : FileTree

/-- What starting a program does, by the files there, the environment, the name or the path of the
program and its arguments. -/
abbrev Programs :=
  FileTree → Environment → (program : String) → (args : List String) → Except StartError Process

end DocExamples
