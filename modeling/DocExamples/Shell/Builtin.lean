/-
# Commands of the shell itself

Commands that change the state of the shell: its variables, arguments and options, its working
directory, and what it does on signals. A jump that they begin passes over the commands after
them. The special ones among them end a script where they fail.
-/

import DocExamples.Shell.Signal
import DocExamples.Shell.Tool

namespace DocExamples
namespace Shell

def isBlank (c : Char) : Bool := c == ' ' || c == '\t' || c == '\n'

/-- Commands that end a script where they fail, and that keep the assignments in front of them. -/
def specialNames : List String :=
  [":", ".", "break", "continue", "eval", "exec", "exit", "export", "local", "readonly", "return",
    "set", "shift", "times", "trap", "unset"]

/-- The other commands of the shell. -/
def ordinaryNames : List String :=
  ["[", "bg", "cd", "command", "echo", "false", "fg", "getopts", "hash", "jobs", "kill", "printf",
    "pwd", "read", "test", "true", "type", "ulimit", "umask", "wait"]

namespace State

/-! ## Input -/

/-- The characters that separate fields. -/
def separators (s : State) : Bytes := (s.bindings.lookup "IFS".toList).getD [' ', '\t', '\n']

/-- A byte of a line, and whether it stands for itself alone. -/
abbrev LineByte := Char × Bool

def separates (s : State) (b : LineByte) : Bool := !b.2 && s.separators.contains b.1

/-- Whether a byte separates fields and several of its kind do so like one. -/
def isGap (s : State) (b : LineByte) : Bool := s.separates b && isBlank b.1

/-- The value of the last variable of a line: all that is left, without the blanks at its end, or
the last field if there is nothing but a separator after it. -/
def lastField (s : State) (line : List LineByte) : Bytes :=
  let line := line.dropWhile s.isGap
  let field := line.takeWhile (!s.separates ·)
  let rest := (line.drop field.length).dropWhile s.isGap
  let all := (line.reverse.dropWhile s.isGap).reverse
  let alone := match rest with
    | [] => true
    | b :: after => s.separates b && after.all s.isGap
  (if alone then field else all).map (·.1)

/-- Stores the fields of a line in variables, the last of which takes what is left. -/
def storeFields (s : State) (line : List LineByte) : List Bytes → State
  | [] => s
  | [name] => s.setVariable name (s.lastField line)
  | name :: more =>
    let line := line.dropWhile s.isGap
    let field := line.takeWhile (!s.separates ·)
    let rest := (line.drop field.length).dropWhile s.isGap
    let rest := match rest with
      | b :: after => if s.separates b then after.dropWhile s.isGap else rest
      | [] => []
    (s.setVariable name (field.map (·.1))).storeFields rest more

/-- The next line of a text, what is left of the text, and whether the line has its end. A backslash
takes the meaning from the next byte unless the line is `raw`. -/
def lineOf (raw : Bool) : Bytes → List LineByte × Bytes × Bool
  | [] => ([], [], false)
  | '\n' :: rest => ([], rest, true)
  | '\x5c' :: c :: rest =>
    if raw then
      let (line, left, complete) := lineOf raw (c :: rest)
      (('\x5c', false) :: line, left, complete)
    else
      let (line, left, complete) := lineOf raw rest
      (if c == '\n' then line else (c, true) :: line, left, complete)
  | c :: rest =>
    let (line, left, complete) := lineOf raw rest
    ((c, false) :: line, left, complete)

/-- Reads a line into variables. It succeeds if the line has its end. -/
def readLine (raw : Bool) (s : State) (args : List Bytes) : State :=
  match args with
  | ['-', 'r'] :: rest => readLine true s rest
  | ['-', 'p'] :: _ :: rest => readLine raw s rest
  | [] => s.shellError "arg count" 2
  | name :: _ =>
    match name with
    | '-' :: c :: _ => s.shellError ("Illegal option -" ++ String.singleton c) 2
    | _ =>
      match args.find? fun n => !isName n with
      | some n => s.shellError (textOf n ++ ": bad variable name") 2
      | none =>
        let (line, input, complete) := lineOf raw s.input
        let s := { s with input }.finish (if complete then 0 else 1)
        s.storeFields line args

/-! ## Options and arguments -/

/-- The options with their letters, in the order in which they are listed. -/
def optionNames : List (String × Char) :=
  [("errexit", 'e'), ("noglob", 'f'), ("ignoreeof", 'I'), ("interactive", 'i'), ("monitor", 'm'),
    ("noexec", 'n'), ("stdin", 's'), ("xtrace", 'x'), ("verbose", 'v'), ("vi", 'V'),
    ("emacs", 'E'), ("noclobber", 'C'), ("allexport", 'a'), ("notify", 'b'), ("nounset", 'u'),
    ("privileged", 'p'), ("nolog", 'L'), ("debug", 'D')]

/-- Switches an option on or off. -/
def switch (s : State) (letter : Char) (value : Bool) : State :=
  let others := s.options.filter (· != letter)
  { s with options := if value then letter :: others else others }

/-- Switches the option of a letter on or off, if there is one. -/
def switch? (s : State) (letter : Char) (value : Bool) : Option State :=
  if (optionNames.map (·.2)).contains letter then some (s.switch letter value) else none

/-- Shows the options, as a table or as commands. -/
def showOptions (s : State) (asCommands : Bool) : State :=
  let line (name : String) (letter : Char) : String :=
    let on := s.has letter
    if asCommands then "set " ++ (if on then "-o " else "+o ") ++ name ++ "\n"
    else name ++ String.ofList (List.replicate (16 - name.length) ' ') ++
      (if on then "on\n" else "off\n")
  (s.print (bytesOf ((if asCommands then "" else "Current option settings\n") ++
    String.join (optionNames.map fun (n, l) => line n l)))).finish 0

/-- Shows variables with their values, sorted by name. -/
def showVariables (s : State) (lead : String) (names : List Bytes) : State :=
  let sorted := names.eraseDups.mergeSort fun a b => String.ofList a ≤ String.ofList b
  (s.print (sorted.flatMap fun n =>
    lead.toList ++ n ++ (match s.bindings.lookup n with
      | some v => '=' :: quoted v
      | none => []) ++ ['\n'])).finish 0

def setArguments (s : State) (arguments : List Bytes) : State :=
  { s with arguments, optionsLeft := [], status := 0
           bindings := assign s.bindings "OPTIND".toList ['1'] }

/-- Switches the options of an argument on or off, up to one that there is not. -/
def switchAll (s : State) (value : Bool) : Bytes → Except Char State
  | [] => .ok s
  | letter :: rest =>
    match s.switch? letter value with
    | some s => s.switchAll value rest
    | none => .error letter

/-- Sets options and arguments, or shows the variables. -/
def set (s : State) (args : List Bytes) : State :=
  if args.isEmpty then s.showVariables "" (s.bindings.map (·.1)) else go s args
where
  go (s : State) : List Bytes → State
    | [] => s.finish 0
    | ['-', '-'] :: rest => s.setArguments rest
    | ['-', 'o'] :: name :: rest | ['+', 'o'] :: name :: rest =>
      match optionNames.lookup (textOf name) with
      | some letter => go (s.switch letter (args.head? == some ['-', 'o'])) rest
      | none => s.abort ("Illegal option -o " ++ textOf name)
    | [['-', 'o']] => s.showOptions false
    | [['+', 'o']] => s.showOptions true
    | ['-'] :: rest =>
      let s := (s.switch 'x' false).switch 'v' false
      if rest.isEmpty then s.finish 0 else s.setArguments rest
    | ('-' :: letters) :: rest =>
      match s.switchAll true letters with
      | .ok s => go s rest
      | .error c => s.abort ("Illegal option -" ++ String.singleton c)
    | ('+' :: letters) :: rest =>
      match s.switchAll false letters with
      | .ok s => go s rest
      | .error c => s.abort ("Illegal option -" ++ String.singleton c)
    | rest => s.setArguments rest

/-- The next of the options that a script takes, or what is wrong with it. The options are letters,
each followed by a colon if it takes a value; a colon in front of all keeps messages back. -/
def nextOption (s : State) (letters name : Bytes) (args : List Bytes) : State :=
  let number := Decimal.ofDigits ((s.bindings.lookup "OPTIND".toList).getD ['1'])
  let quiet := letters.head? == some ':'
  let set (s : State) (name value : String) : State := s.setVariable name.toList value.toList
  let ended (index : Nat) (s : State) : State :=
    ((set s "OPTIND" (toString index)).setVariable name ['?']).finish 1
  let fresh := number ≤ 1 || s.optionsLeft.isEmpty
  let word := (args[number - 1]?).getD []
  let index := max number 1
  if fresh && (word.length < 2 || word.head? != some '-') then
    ended index { s with optionsLeft := [] }
  else if fresh && word == ['-', '-'] then ended (index + 1) { s with optionsLeft := [] }
  else
    let (letter, left, index) := match if fresh then word.tail else s.optionsLeft with
      | c :: left => (c, left, if fresh then index + 1 else index)
      | [] => ('?', [], index)
    let s := { s with optionsLeft := left }
    let finished (s : State) (index : Nat) (shown : Char) : State :=
      ((set s "OPTIND" (toString index)).setVariable name [shown]).finish 0
    match (letters.dropWhile (· != letter)) with
    | [] =>
      let s := if quiet then s.setVariable "OPTARG".toList [letter]
        else (s.complain ("Illegal option -" ++ textOf [letter]) 0).removeVariable
          "OPTARG".toList
      finished s index '?'
    | _ :: ':' :: _ =>
      let s := { s with optionsLeft := [] }
      if !left.isEmpty then finished (s.setVariable "OPTARG".toList left) index letter
      else match args[index - 1]? with
        | some value => finished (s.setVariable "OPTARG".toList value) (index + 1) letter
        | none =>
          if quiet then finished (s.setVariable "OPTARG".toList [letter]) index ':'
          else
            let s := s.complain ("No arg for -" ++ textOf [letter] ++ " option") 0
            finished (s.removeVariable "OPTARG".toList) index '?'
    | _ => finished (s.setVariable "OPTARG".toList []) index letter

/-- The options in front of the arguments of a shell, one letter each, and the arguments after
them; a hyphen alone and two of them end the options. -/
def leadingOptions : List Bytes → List (Bool × Char) × List Bytes
  | ['-'] :: rest | ['-', '-'] :: rest => ([], rest)
  | ['-', 'o'] :: name :: rest =>
    let (more, rest) := leadingOptions rest
    ((true, (optionNames.lookup (textOf name)).getD 'o') :: more, rest)
  | ('-' :: letters) :: rest =>
    let (more, rest) := leadingOptions rest
    (letters.map (true, ·) ++ more, rest)
  | ('+' :: letters) :: rest =>
    let (more, rest) := leadingOptions rest
    (letters.map (false, ·) ++ more, rest)
  | args => ([], args)

/-- What a shell of a name does with its arguments: the script that it runs, the name of the script
and its arguments. The script is an argument, a file or the input. -/
def shellCall (s : State) (name : Bytes) (args : List Bytes) :
    Except State (State × Bytes × Bytes × List Bytes) :=
  let (options, rest) := leadingOptions args
  let complaint (message : String) : Except State (State × Bytes × Bytes × List Bytes) :=
    .error (s.complain (textOf name ++ ": 0: " ++ message) 2)
  let known := 'c' :: optionNames.map (·.2)
  match options.find? fun o => !known.contains o.2 with
  | some (_, letter) => complaint ("Illegal option -" ++ String.singleton letter)
  | none =>
    let switched := options.foldl
      (fun s (value, letter) => if letter == 'c' then s else s.switch letter value)
      { s with options := [] }
    let asks (letter : Char) : Bool := options.any (·.2 == letter)
    if asks 'c' then
      match rest with
      | script :: rest => .ok (switched, script, rest.headD name, rest.tail)
      | [] => complaint "-c requires an argument"
    else if asks 's' || rest.isEmpty then
      .ok ({ switched with input := [] }.switch 's' true, s.input, name, rest)
    else match s.readFile? (rest.headD []) with
      | some script => .ok (switched, script, rest.headD [], rest.tail)
      | none => complaint ("cannot open " ++ textOf (rest.headD []) ++ ": No such file")

/-! ## Variables -/

/-- Does something with the variable of each declaration, after it has got the value that is
declared. -/
def declareAll (s : State) (change : Bytes → State → State) (declarations : List Bytes) : State :=
  declarations.foldl (fun s d =>
    let (name, value) := match Text.cut? '=' d with
      | some (name, value) => (name, some value)
      | none => (d, none)
    if s.jump.isSome then s
    else if !isName name then s.abort (textOf name ++ ": bad variable name")
    else
      let s := match value with
        | some v => s.setVariable name v
        | none => s
      if s.jump.isSome then s else change name s) (s.finish 0)

/-- Marks variables as exported or as fixed, or shows those that are. -/
def markAll (s : State) (command : String) (args : List Bytes) : State :=
  let fix := command == "readonly"
  let names := if args.head? == some ['-', 'p'] || args.head? == some ['-', '-'] then args.tail
    else args
  if names.isEmpty then
    s.showVariables (command ++ " ") (if fix then s.fixed else s.exported)
  else
    s.declareAll (fun name s =>
      if fix then { s with fixed := name :: s.fixed }
      else { s with exported := name :: s.exported }) names

/-- Declares variables of a function, with values or as they are. -/
def declareLocal (s : State) (args : List Bytes) : State :=
  if s.calls = 0 then s.abort "not in a function"
  else
    args.foldl (fun s d =>
      let name := d.takeWhile (· != '=')
      { s with outer := (name, s.bindings.lookup name) :: s.outer }.declareAll (fun _ s => s) [d])
      (s.finish 0)

/-- Gives variables back the values that they had before a function. -/
def restore (s : State) (values : List (Bytes × Option Bytes)) : State :=
  values.foldl (fun s (name, value) =>
    match value with
    | some v => { s with bindings := assign s.bindings name v }
    | none => s.removeVariable name) s

/-- Removes variables, or functions if asked to. -/
def unset (s : State) (args : List Bytes) : State :=
  match args with
  | ['-', 'f'] :: names =>
    { s with functions := s.functions.filter fun f => !names.contains f.1, status := 0 }
  | _ =>
    let names := if args.head? == some ['-', 'v'] then args.tail else args
    names.foldl (fun s n =>
      if s.jump.isSome then s
      else if !isName n then s.abort (textOf n ++ ": bad variable name")
      else if s.fixed.contains n then s.abort (textOf n ++ ": is read only")
      else { s.removeVariable n with exported := s.exported.filter (· != n) }) (s.finish 0)

/-! ## Directories, loops and jobs -/

/-- Changes the working directory, with a hyphen to the one before. -/
def changeDirectory (s : State) (args : List Bytes) : State :=
  let before := "OLDPWD".toList
  let back := args.head? == some ['-']
  let path := if back then (s.bindings.lookup before).getD []
    else args.headD ((s.value? "HOME".toList).getD [])
  let here := bytesOf (FileTree.absolute s.files.workingDirectory)
  if path.isEmpty then s.finish 0
  else match s.files.place? (textOf path) with
    | some p =>
      if s.files.isDirectoryAt p then
        let s := { s with files := { s.files with workingDirectory := p } }
        let now := bytesOf (FileTree.absolute p)
        let s := (s.setVariable before here).setVariable "PWD".toList now
        (if back then s.print (now ++ ['\n']) else s).finish 0
      else s.shellError ("can't cd to " ++ textOf path) 2
    | none => s.shellError ("can't cd to " ++ textOf path) 2

/-- Goes on with the number in the first argument, or with another one if there is no argument. -/
def withNumber (s : State) (fallback : Nat) (args : List Bytes) (next : Nat → State) : State :=
  match args with
  | [] => next fallback
  | a :: _ =>
    if a.isEmpty || !a.all Char.isDigit then s.abort ("Illegal number: " ++ textOf a)
    else next (Decimal.ofDigits a)

/-- Leaves a number of loops, or goes on with the next round of the last of them. -/
def leaveLoops (s : State) (again : Bool) (levels : Nat) : State :=
  if levels = 0 then s.abort "Illegal number: 0"
  else if s.loops = 0 then s.finish 0
  else { s with status := 0, jump := some (.leaveLoop (min levels s.loops) again) }

/-- The permissions that are left of three bits of the mask. -/
def permissions (bits : Nat) : String :=
  (if bits / 4 % 2 = 0 then "r" else "") ++ (if bits / 2 % 2 = 0 then "w" else "") ++
    (if bits % 2 = 0 then "x" else "")

/-- Shows or sets the permissions that new files do not get. -/
def maskOf (s : State) (args : List Bytes) : State :=
  match args with
  | [] =>
    let ds := Nat.toDigits 8 s.mask
    (s.print (List.replicate (4 - ds.length) '0' ++ ds ++ ['\n'])).finish 0
  | ['-', 'S'] :: _ =>
    (s.print (bytesOf ("u=" ++ permissions (s.mask / 64) ++ ",g=" ++ permissions (s.mask / 8) ++
      ",o=" ++ permissions s.mask ++ "\n"))).finish 0
  | mode :: _ =>
    if mode.head?.any Char.isDigit then
      if mode.all Numeral.isOctal then { s with mask := Numeral.inBase 8 mode % 512, status := 0 }
      else s.shellError ("Illegal number: " ++ textOf mode) 2
    else s.shellError ("Illegal mode: " ++ textOf mode) 2

/-- Waits for commands that nobody has waited for. -/
def wait (s : State) (args : List Bytes) : State :=
  match args.getLast? with
  | none => s.finish 0
  | some id =>
    if id.head? == some '%' then s.shellError ("No such job: " ++ textOf id) 2
    else if id.isEmpty || !id.all Char.isDigit then
      s.shellError ("Illegal number: " ++ textOf id) 2
    else if id == jobId then s.finish (s.job.getD 127)
    else s.finish 127

end State

/-- A command of the shell that needs nothing but the state. -/
def builtin? (name : String) (args : List Bytes) (s : State) : Option State :=
  match name with
  | ":" | "ulimit" | "jobs" => some (s.finish 0)
  | "exit" =>
    some (s.withNumber s.status args fun n => { s with status := n % 256, jump := some .exit })
  | "return" =>
    some (s.withNumber s.status args fun n =>
      { s with status := n % 256, jump := some .leaveFunction })
  | "break" => some (s.withNumber 1 args (s.leaveLoops false))
  | "continue" => some (s.withNumber 1 args (s.leaveLoops true))
  | "shift" =>
    some (s.withNumber 1 args fun n =>
      if n > s.arguments.length then s.abort "can't shift that many"
      else { s with arguments := s.arguments.drop n, status := 0 })
  | "set" => some (s.set args)
  | "trap" => some (s.trap args)
  | "export" | "readonly" => some (s.markAll name args)
  | "local" => some (s.declareLocal args)
  | "unset" => some (s.unset args)
  | "cd" => some (s.changeDirectory args)
  | "pwd" =>
    some ((s.print (State.bytesOf (FileTree.absolute s.files.workingDirectory) ++ ['\n'])).finish 0)
  | "read" => some (s.readLine false args)
  | "kill" => some (s.kill args)
  | "umask" => some (s.maskOf args)
  | "wait" => some (s.wait args)
  | "times" =>
    let zero := "0m0.000000s 0m0.000000s\n"
    some ((s.print (zero ++ zero).toList).finish 0)
  | "fg" | "bg" =>
    some (match args with
      | [] => s.shellError "No current job" 2
      | job :: _ => s.shellError ("No such job: " ++ State.textOf job) 2)
  | "getopts" =>
    some (match args with
      | letters :: target :: rest =>
        s.nextOption letters target (if rest.isEmpty then s.arguments else rest)
      | _ => s.shellError "Usage: getopts optstring var [arg...]" 2)
  | _ => none

end Shell
end DocExamples
