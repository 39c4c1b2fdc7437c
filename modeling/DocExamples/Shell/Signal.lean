/-
# Signals

The numbers of signals, the command that sends them, and what a shell runs when it gets one. A
process that nobody else knows of is the shell itself.
-/

import DocExamples.Run.Process
import DocExamples.Shell.Numeral
import DocExamples.Shell.State

namespace DocExamples
namespace Shell

/-- What a shell says of a program that a signal has ended. -/
def signalMessage? (n : Nat) : Option String :=
  [(1, "Hangup"), (3, "Quit"), (4, "Illegal instruction"), (5, "Trace/breakpoint trap"),
    (6, "Aborted"), (7, "Bus error"), (8, "Floating point exception"), (9, "Killed"),
    (10, "User defined signal 1"), (11, "Segmentation fault"), (12, "User defined signal 2"),
    (14, "Alarm clock"), (15, "Terminated"), (16, "Stack fault"),
    (24, "CPU time limit exceeded"), (25, "File size limit exceeded"),
    (26, "Virtual timer expired"), (27, "Profiling timer expired"), (29, "I/O possible"),
    (30, "Power failure"), (31, "Bad system call")].lookup n

/-- Signals that nobody notices: those about children, windows and going on. -/
def quietSignals : List Nat := [17, 18, 23, 28]

/-- The signal of a name or a number; zero is the end of a script. -/
def signal? (cs : Bytes) : Option Nat :=
  if !cs.isEmpty && cs.all Char.isDigit then
    let n := Decimal.ofDigits cs
    if n ≤ 64 then some n else none
  else
    let name := (State.textOf cs).toUpper
    if name == "EXIT" then some 0 else (signalNames.idxOf? name).map (· + 1)

/-- Bytes between simple quotation marks, those in them being put between double ones. -/
def quoted (cs : Bytes) : Bytes :=
  let parts := Text.splitOn '\'' cs
  let marks := "'\"'\"'".toList
  '\'' :: (marks.intercalate parts ++ ['\''])

namespace State

/-- Fails with how the command at hand is to be used. -/
def killUsage (s : State) : State :=
  s.shellError ("Usage: kill [-s sigspec | -signum | -sigspec] [pid | job]... or\n" ++
    "kill -l [exitstatus]") 2

/-- Lists the signals, or shows the name of one, also by the status of a program that it ended. -/
def listSignals (s : State) : List Bytes → State
  | [] =>
    let names := (List.range 31).map fun i => (signalNames[i]?).getD ""
    (s.print (bytesOf ("0\n" ++ "\n".intercalate names ++ "\n"))).finish 0
  | arg :: _ =>
    if arg.isEmpty || !arg.all Char.isDigit then
      s.shellError ("Illegal number: " ++ textOf arg) 2
    else
      let n := Decimal.ofDigits arg
      match signalNames[(if n > 128 then n - 128 else n) - 1]? with
      | some name =>
        if n = 0 then s.shellError "invalid signal number or exit status: 0" 2
        else (s.print (bytesOf (name ++ "\n"))).finish 0
      | none => s.shellError ("invalid signal number or exit status: " ++ textOf arg) 2

/-- Sends a signal to processes, of which there is only the shell itself. -/
def send (s : State) (n : Nat) : List Bytes → State
  | [] => s.killUsage
  | targets =>
    let number (t : Bytes) : Bytes := (Numeral.sign t).2
    match targets.find? fun t => (number t).isEmpty || !(number t).all Char.isDigit with
    | some t =>
      let what := if t.head? == some '%' then "No such job: " else "Illegal number: "
      s.shellError (what ++ textOf t) 2
    | none =>
      let s := (targets.filter (· != processId)).foldl
        (fun s _ => s.shellError "No such process\n" 1) (s.finish 0)
      if n = 0 || quietSignals.contains n || !targets.contains processId then s
      else { s with jump := some (.killed n) }

def kill (s : State) (args : List Bytes) : State :=
  match args with
  | [] => s.killUsage
  | ['-', 's'] :: name :: targets =>
    match signal? name with
    | some n => s.send n targets
    | none => s.shellError ("invalid signal number or name: " ++ textOf name) 2
  | ['-', 's'] :: [] => s.shellError "No arg for -s option" 2
  | ['-', 'l'] :: rest => s.listSignals rest
  | ('-' :: c :: name) :: targets =>
    if c :: name == ['-'] then s.send 15 targets
    else match signal? (c :: name) with
      | some n => s.send n targets
      | none => s.shellError ("Illegal option -" ++ String.singleton c) 2
  | targets => s.send 15 targets

/-- What runs on signals, in the form in which it can be set again. -/
def showTraps (s : State) : State :=
  let line (n : Nat) : Bytes :=
    match s.traps.lookup n with
    | some action =>
      "trap -- ".toList ++ quoted action ++ ' ' ::
        (if n = 0 then "EXIT" else (signalNames[n - 1]?).getD "").toList ++ ['\n']
    | none => []
  (s.print ((List.range 65).flatMap line)).finish 0

/-- Sets what runs on one signal after the other, up to one that there is not. -/
def setTraps (s : State) (action : Option Bytes) : List Bytes → State
  | [] => s.finish 0
  | name :: rest =>
    match signal? name with
    | none => s.complain ("trap: " ++ textOf name ++ ": bad trap") 1
    | some n =>
      let others := s.traps.filter (·.1 != n)
      { s with traps := (action.map fun a => (n, a)).toList ++ others }.setTraps action rest

/-- Sets what runs on signals: a script, nothing, or with a hyphen or without an action what runs by
default. -/
def trap (s : State) (args : List Bytes) : State :=
  let numeric (cs : Bytes) : Bool := !cs.isEmpty && cs.all Char.isDigit && (signal? cs).isSome
  match if args.head? == some ['-', '-'] then args.tail else args with
  | [] => s.showTraps
  | action :: names =>
    if names.isEmpty || numeric action then s.setTraps none (action :: names)
    else s.setTraps (if action == ['-'] then none else some action) names

end State
end Shell
end DocExamples
