/-
# Arguments of the command line

The arguments name a command, its options and its files. An option takes its value from the next
argument or after an equals sign; what begins with a hyphen is never a value by itself, and two
hyphens end the options. Options of the whole program may also stand after the command, and no
option stands twice unless it may have several values.
-/

import DocExamples.Text.Search

namespace DocExamples

/-- What the program is to do. -/
inductive Task where
  /-- Show what is found in files. -/
  | scan (files : List String) (json : Bool)
  /-- List the tests, or those that a pattern selects. -/
  | list (files : List String) (filter : Option String)
  /-- Run the tests, or those that are selected. -/
  | run (files : List String) (parallel : Bool) (filter : Option String)
      (inFiles ofFunctions : List String) (json : Bool) (tracefile : Option String)
  /-- Run all tests and check the thresholds. -/
  | verify (files : List String)
  /-- Run all tests and show the coverage. -/
  | coverage (files : List String) (tracefile : Option String) (json : Bool)
  /-- Write a configuration file. -/
  | init (force : Bool)
  | help
deriving DecidableEq, Repr

/-- The arguments of the program. -/
structure Invocation where
  config : Option String := none
  verbose : Bool := false
  task : Task
deriving DecidableEq, Repr

namespace Invocation

/-- How often an option may stand, and whether it takes a value. -/
inductive OptionKind where
  | flag
  | value
  /-- A value that is a path, which is not empty. -/
  | path
  | values
deriving DecidableEq, Repr

/-- The files of a command. -/
inductive Operands where
  | none | any | some
deriving DecidableEq, Repr

/-- The options and files that a command takes. -/
structure Grammar where
  options : List (String × OptionKind)
  operands : Operands

/-- The options given, with their values, and the files. -/
structure Given where
  options : List (String × String) := []
  operands : List String := []

namespace Given

def has (g : Given) (name : String) : Bool := g.options.any (·.1 == name)

def values (g : Given) (name : String) : List String :=
  (g.options.filter (·.1 == name)).map (·.2)

def value? (g : Given) (name : String) : Option String := g.options.lookup name

end Given

/-- The options of the whole program. -/
def commonOptions : List (String × OptionKind) := [("config", .path), ("verbose", .flag)]

/-- Whether an argument is one with options. -/
def isOption (arg : String) : Bool := arg.startsWith "-" && arg != "-"

/-- Adds an option, unless it stands twice or has a value that it cannot have. -/
def addOption? (grammar : Grammar) (g : Given) (name : String) (value : Option String) :
    Option Given :=
  let add (v : String) : Option Given := some { g with options := g.options ++ [(name, v)] }
  match grammar.options.lookup name, value with
  | some .flag, none => if g.has name then none else add ""
  | some .value, some v => if g.has name then none else add v
  | some .path, some v => if g.has name || v.isEmpty then none else add v
  | some .values, some v => add v
  | _, _ => none

/-- Whether an option takes a value. -/
def takesValue (grammar : Grammar) (name : String) : Bool :=
  match grammar.options.lookup name with
  | some .flag | none => false
  | _ => true

/-- The long option in an argument, and the value after an equals sign. -/
def longOption? (arg : String) : Option (String × Option String) :=
  (Text.afterText? "--" arg).map fun rest =>
    match Text.cut? '=' rest.toList with
    | some (name, value) => (String.ofList name, some (String.ofList value))
    | none => (rest, none)

/-- Adds a file, if the command takes any and the path is not empty. -/
def addOperand? (grammar : Grammar) (g : Given) (path : String) : Option Given :=
  if grammar.operands = .none || path.isEmpty then none
  else some { g with operands := g.operands ++ [path] }

/-- The request for help, if an argument is one. -/
def asksForHelp (arg : String) : Bool := arg == "--help" || arg == "-h"

/-- The arguments as they are in the end, with files if the command needs any. -/
def complete (grammar : Grammar) (g : Given) : Except Unit (Option Given) :=
  if grammar.operands = .some && g.operands.isEmpty then .error () else .ok (some g)

/-- Reads the arguments of a command; the answer is `none` if they ask for help before anything is
wrong. -/
def read (grammar : Grammar) : Given → List String → Except Unit (Option Given)
  | g, [] => complete grammar g
  | g, "--" :: rest => do complete grammar (← orUsage (rest.foldlM (addOperand? grammar) g))
  | g, arg :: rest =>
    if asksForHelp arg then .ok none
    else if arg == "-v" then do read grammar (← orUsage (addOption? grammar g "verbose" none)) rest
    else if !isOption arg then do read grammar (← orUsage (addOperand? grammar g arg)) rest
    else
      match longOption? arg with
      | none => .error ()
      | some (name, some value) => do
        read grammar (← orUsage (addOption? grammar g name (some value))) rest
      | some (name, none) =>
        if takesValue grammar name then
          match rest with
          | value :: rest =>
            if isOption value then .error ()
            else do read grammar (← orUsage (addOption? grammar g name (some value))) rest
          | [] => .error ()
        else do read grammar (← orUsage (addOption? grammar g name none)) rest
where
  orUsage (g : Option Given) : Except Unit Given :=
    match g with
    | some g => .ok g
    | none => .error ()

/-- The grammar of a command. -/
def grammar? (command : String) : Option Grammar :=
  let withCommon (options : List (String × OptionKind)) (operands : Operands) : Option Grammar :=
    some ⟨commonOptions ++ options, operands⟩
  match command with
  | "scan" => withCommon [("json", .flag)] .some
  | "list" => withCommon [("filter", .value)] .any
  | "run" => withCommon [("parallel", .flag), ("filter", .value), ("file", .values),
      ("function", .values), ("json", .flag), ("lcov", .value)] .any
  | "verify" => withCommon [] .any
  | "coverage" => withCommon [("lcov-out", .path), ("json", .flag)] .any
  | "init" => withCommon [("force", .flag)] .none
  | _ => none

/-- The task of a command. -/
def taskOf (command : String) (g : Given) : Task :=
  match command with
  | "scan" => .scan g.operands (g.has "json")
  | "list" => .list g.operands (g.value? "filter")
  | "run" => .run g.operands (g.has "parallel") (g.value? "filter") (g.values "file")
      (g.values "function") (g.has "json") (g.value? "lcov")
  | "verify" => .verify g.operands
  | "coverage" => .coverage g.operands (g.value? "lcov-out") (g.has "json")
  | "init" => .init (g.has "force")
  | _ => .help

/-- The options before the command, the command, and the arguments after it. -/
def splitCommand (before : List String) : List String → Option (List String × String × List String)
  | [] => none
  | "--" :: _ => none
  | arg :: rest =>
    if !isOption arg then some (before, arg, rest)
    else if arg == "--config" then
      match rest with
      | value :: rest => splitCommand (before ++ [arg, value]) rest
      | [] => none
    else splitCommand (before ++ [arg]) rest

/-- Whether there is help on what the arguments after `help` name: on all, or on one command. -/
def hasHelp : List String → Bool
  | [] => true
  | [command] => command == "help" || (grammar? command).isSome
  | _ => false

/-- Reads all arguments; the answer is an error if they are misused. -/
def ofArguments (args : List String) : Except Unit Invocation :=
  let general : Grammar := ⟨commonOptions, .none⟩
  match splitCommand [] args with
  | none =>
    match read general {} args with
    | .ok none => .ok { task := .help }
    | _ => .error ()
  | some (before, command, after) => do
    match ← read general {} before with
    | none => return { task := .help }
    | some g =>
      if command == "help" then
        if hasHelp after then return { task := .help } else .error ()
      else match grammar? command with
        | none => .error ()
        | some grammar =>
          match ← read grammar {} after with
          | none => return { task := .help }
          | some own =>
            return {
              config := (own.value? "config").or (g.value? "config")
              verbose := g.has "verbose" || own.has "verbose"
              task := taskOf command own }

end Invocation
end DocExamples
