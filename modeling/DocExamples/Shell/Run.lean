/-
# Running shell commands

Words are expanded to fields: variables, the values of expressions and the output of commands are
put in. Commands then change the state one after the other, until a jump passes over the rest. The
fuel bounds how deep commands nest; a loop of very many rounds is taken to run forever.
-/

import DocExamples.Shell.Arithmetic
import DocExamples.Shell.Batch
import DocExamples.Shell.Builtin
import DocExamples.Shell.Expression
import DocExamples.Shell.Field
import DocExamples.Shell.FileTool
import DocExamples.Shell.Parse
import DocExamples.Shell.TextTool

namespace DocExamples
namespace Shell

namespace State

/-- The state after a command that ran in a shell of its own. -/
def leave (outer inner : State) : State :=
  { outer with
    files := { inner.files with workingDirectory := outer.files.workingDirectory }
    buffers := inner.buffers
    slept := inner.slept
    input := inner.input
    status := inner.status
    jump := match inner.jump with
      | some (.killed n) => some (.killed n)
      | _ => none }

/-- Leads a descriptor to a file, or takes the input from one. -/
def follow (s : State) (descriptor : Nat) (direction : Direction) (target : Bytes) :
    Except State State :=
  let path := textOf target
  match direction with
  | .here => .ok { s with input := target }
  | .input =>
    match s.readFile? target with
    | some text => .ok (if descriptor = 0 then { s with input := text } else s)
    | none => .error (s.shellError ("cannot open " ++ path ++ ": No such file") 2)
  | .duplicate =>
    if target == ['-'] then .ok (s.redirect descriptor .closed)
    else if target.length != 1 || !target.all Char.isDigit then
      .error (s.abort "Syntax error: Bad fd number")
    else if target == ['0'] then .ok s
    else match s.sink (Decimal.ofDigits target) with
      | .closed => .error (s.shellError (path ++ ": Bad file descriptor") 2)
      | sink => .ok (s.redirect descriptor sink)
  | .output | .overwrite | .append =>
    match path with
    | "/dev/null" => .ok (s.redirect descriptor .nowhere)
    | "/dev/stdout" => .ok (s.redirect descriptor (s.sink 1))
    | "/dev/stderr" => .ok (s.redirect descriptor (s.sink 2))
    | _ =>
      let kept := if direction == .append then (s.files.bytes? path).getD [] else []
      let kept? := if direction == .output && s.has 'C' && s.files.isFile path then none
        else s.files.write? path kept
      match kept?, s.files.place? path with
      | some files, some p => .ok ({ s with files }.redirect descriptor (.file p))
      | _, _ =>
        let why := if s.files.isDirectory path then "Is a directory"
          else if s.files.isFile path then "File exists"
          else "Directory nonexistent"
        .error (s.shellError ("cannot create " ++ path ++ ": " ++ why) 2)

/-- The value of an expression, or a message that ends the script. -/
def calculate (s : State) (text : Bytes) : Bytes × State :=
  match Arithmetic.valueOf s text with
  | .ok (n, s) => (Arithmetic.ofInt64 n, s)
  | .error e => ([], s.abort (e.message text))

/-- A word with the home directory put in for a tilde in front. -/
def atHome (s : State) (w : Word) : Word :=
  match w with
  | .text false ('~' :: cs) :: rest =>
    let user := cs.takeWhile (· != '/')
    let home := match String.ofList user with
      | "" => s.bindings.lookup "HOME".toList
      | "root" => some "/root".toList
      | _ => none
    match home with
    | some h =>
      if user.length = cs.length && !rest.isEmpty then w
      else .text true h :: .text false (cs.drop user.length) :: rest
    | none => w
  | _ => w

/-- The arguments in one text, the first separator between them if they are quoted as a whole. -/
def argumentText (s : State) (name : Bytes) : Bytes :=
  let mark := if name == ['*'] then
      (s.bindings.lookup "IFS".toList).elim [' '] fun v => v.take 1
    else [' ']
  mark.intercalate s.arguments

/-- Shows a command before it runs, if that is asked for. -/
def trace (s : State) (words : List Bytes) : State :=
  if s.has 'x' then
    let lead := (s.bindings.lookup "PS4".toList).getD ['+', ' ']
    s.write 2 (lead ++ [' '].intercalate words ++ ['\n'])
  else s

/-- The end of a command: one that fails may end the script. -/
def checked (s : State) : State :=
  if s.has 'e' && !s.tested && s.status != 0 && s.jump.isNone then { s with jump := some .exit }
  else s

/-- What a shell notices of a program that has ended. -/
def noticed (s : State) : State :=
  match s.jump with
  | some (.killed n) =>
    let s := match signalMessage? n with
      | some message => s.complain message 0
      | none => s
    { s with jump := none, status := 128 + n }
  | _ => s

end State

/-! ## Programs -/

/-- The name of a tool without the directory of tools. -/
def toolName (name : String) : String :=
  ((Text.afterText? "/usr/bin/" name).or (Text.afterText? "/bin/" name)).getD name

def isShellName (name : String) : Bool := ["sh", "dash", "bash"].contains (toolName name)

/-- The tool of a name. -/
def tool? (name : String) : Option Tool.Run :=
  match toolName name with
  | "echo" => some Tool.echoProgram
  | "expr" => some Expression.run
  | name => (TextTool.named? name).or ((FileTool.named? name).or (Tool.named? name))

/-- The tools that run programs. -/
def runnerNames : List String := ["env", "nice", "nohup", "timeout", "xargs", "which"]

/-- Where a program is found, if it is known. -/
def programPath? (name : String) : Option String :=
  if (tool? name).isSome || isShellName name || runnerNames.contains (toolName name) then
    some (if name.contains '/' then name else "/usr/bin/" ++ name)
  else none

/-- What a name stands for as a command, in words. -/
def description (s : State) (name : Bytes) : Option String :=
  let text := State.textOf name
  if Token.keywords.contains text then some (text ++ " is a shell keyword")
  else if (s.functions.lookup name).isSome then some (text ++ " is a shell function")
  else if specialNames.contains text then some (text ++ " is a special shell builtin")
  else if ordinaryNames.contains text then some (text ++ " is a shell builtin")
  else if name.contains '/' && (s.files.isFile text) && Tool.isExecutable text s then
    some (text ++ " is " ++ text)
  else (programPath? text).map fun path => text ++ " is " ++ path

/-- Where a command is found: the shell itself, or the directory of tools. -/
def whereabouts? (s : State) (name : Bytes) : Option String :=
  (description s name).map fun d =>
    let text := State.textOf name
    (Text.afterText? (text ++ " is /") d).elim text ("/" ++ ·)

/-- Says what names stand for. -/
def describeAll (names : List Bytes) (s : State) : State :=
  names.foldl (fun s n =>
    match description s n with
    | some d => s.print (State.bytesOf (d ++ "\n"))
    | none => (s.print (n ++ ": not found\n".toList)).finish 127) (s.finish 0)

/-- What the first line of a program names to run it, if it does, in words. -/
def interpreter? (text : Bytes) : Option (List Bytes) :=
  match text with
  | '#' :: '!' :: rest =>
    let words := (Fields.addSplit {} [' ', '\t'] (rest.takeWhile (· != '\n'))).toList.map unmarked
    match words with
    | name :: more => if toolName (State.textOf name) == "env" then some more else some words
    | [] => none
  | _ => none

/-! ## Loops -/

/-- The time that a loop without end is taken to last: some thirty years. -/
def endless : Duration := ⟨1000000000000000000⟩

/-- Repeats a step until it has ended the loop. -/
def rounds (step : State → State × Bool) : (fuel : Nat) → State → State
  | 0, s => { s with slept := endless, jump := some .exit }
  | fuel + 1, s =>
    match step s with
    | (s, true) => rounds step fuel s
    | (s, false) => s

/-- The state after one round of a loop, and whether there is another one. -/
def State.afterRound (s : State) : State × Bool :=
  match s.jump with
  | none => (s, true)
  | some (.leaveLoop n again) =>
    if n ≤ 1 then ({ s with jump := none }, again)
    else ({ s with jump := some (.leaveLoop (n - 1) again) }, false)
  | some _ => (s, false)

mutual

/-- The value of a variable after its edit, none if the word of the edit stands in its place. -/
def edited : (fuel : Nat) → (name : Bytes) → Edit → Word → State → Option Bytes × State
  | 0, _, _, _, s => (none, s)
  | fuel + 1, name, how, word, s =>
    let all := name == ['@'] || name == ['*']
    let value := if all then
        if s.arguments.isEmpty then none else some (s.argumentText name)
      else s.value? name
    let has (colon : Bool) : Bool := value.any fun v => !(colon && v.isEmpty)
    let text := some (value.getD [])
    let cut (f : Wildcard → Bytes → Bytes) : Option Bytes × State :=
      let (m, s) := joined fuel word s
      (some (f (wildcardOf m) (value.getD [])), s)
    let needed := value.isNone && s.has 'u' && !all
    match how with
    | .none | .length | .cutFront _ | .cutEnd _ =>
      if needed then (text, s.abort (State.textOf name ++ ": parameter not set"))
      else match how with
        | .length => (some (State.decimal (value.getD []).length), s)
        | .cutFront long => cut fun w v => w.cutFront long v
        | .cutEnd long => cut fun w v => w.cutEnd long v
        | _ => (text, s)
    | .fallback colon => if has colon then (text, s) else (none, s)
    | .assign colon =>
      if has colon then (text, s)
      else if !isName name then (text, s.abort (State.textOf name ++ ": bad variable name"))
      else
        let (m, s) := joined fuel word s
        (some (unmarked m), s.setVariable name (unmarked m))
    | .alternative colon => if has colon then (none, s) else (some [], s)
    | .demand colon =>
      if has colon then (text, s)
      else
        let (m, s) := joined fuel word s
        let message := if !m.isEmpty then State.textOf (unmarked m)
          else if colon then "parameter not set or null" else "parameter not set"
        (text, s.abort (State.textOf name ++ ": " ++ message))
    | .invalid => (text, s.abort "Bad substitution")

/-- The output of a command without the line ends behind it. -/
def outputOf : (fuel : Nat) → Command → State → Bytes × State
  | 0, _, s => ([], s)
  | fuel + 1, c, s =>
    let (i, inner) := s.capture
    let inner := alone fuel c inner
    ((inner.captured i).reverse.dropWhile (· == '\n') |>.reverse, s.leave inner)

/-- Runs a command as a shell of its own, with what it has set to run at its end. -/
def alone : (fuel : Nat) → Command → State → State
  | 0, _, s => s
  | fuel + 1, c, s =>
    let inner := run fuel c { s with traps := s.traps.filter fun t => t.2.isEmpty, loops := 0 }
    match inner.jump, inner.traps.lookup 0 with
    | some (.killed _), _ | _, none => inner
    | _, some script =>
      let after := run fuel (Command.ofScript script) { inner with jump := none, command := none }
      if after.jump.isSome then after else after.finish inner.status

/-- The fields of a word. Inside of an edit bare text is cut as well. -/
def expand : (fuel : Nat) → (inEdit : Bool) → Word → Fields → State → Fields × State
  | 0, _, _, f, s => (f, s)
  | _ + 1, _, [], f, s => (f, s)
  | fuel + 1, inEdit, p :: rest, f, s =>
    let put (quoted : Bool) (cs : Bytes) (f : Fields) : Fields :=
      if quoted then f.add (marked true cs) else f.addSplit s.separators cs
    match p with
    | .text quoted cs =>
      let f := if inEdit && !quoted then f.addSplit s.separators cs else f.add (marked quoted cs)
      expand fuel inEdit rest f s
    | .variable quoted name how word =>
      if name == ['@'] && how == .none || name == ['*'] && how == .none && !quoted then
        let f := s.arguments.zipIdx.foldl (fun f (a, i) =>
          put quoted a (if i = 0 then f else f.cut)) f
        expand fuel inEdit rest f s
      else match edited fuel name how word s with
        | (some value, s) => expand fuel inEdit rest (put quoted value f) s
        | (none, s) =>
          let (f, s) := expand fuel true word (if quoted then f.add [] else f) s
          expand fuel inEdit rest f s
    | .output quoted c =>
      let (value, s) := outputOf fuel c s
      expand fuel inEdit rest (put quoted value f) s
    | .arithmetic quoted w =>
      let (m, s) := joined fuel w s
      let (value, s) := s.calculate (unmarked m)
      expand fuel inEdit rest (put quoted value f) s

/-- A word as a single field. -/
def joined : (fuel : Nat) → Word → State → Marked × State
  | 0, _, s => ([], s)
  | _ + 1, [], s => ([], s)
  | fuel + 1, p :: rest, s =>
    let (m, s) : Marked × State := match p with
      | .text quoted cs => (marked quoted cs, s)
      | .variable quoted name how word =>
        match edited fuel name how word s with
        | (some value, s) => (marked quoted value, s)
        | (none, s) => joined fuel word s
      | .output quoted c => let (value, s) := outputOf fuel c s; (marked quoted value, s)
      | .arithmetic quoted w =>
        let (text, s) := joined fuel w s
        let (value, s) := s.calculate (unmarked text)
        (marked quoted value, s)
    let (more, s) := joined fuel rest s
    (m ++ more, s)

/-- The arguments that words stand for. -/
def arguments : (fuel : Nat) → List Word → State → List Bytes × State
  | 0, _, s => ([], s)
  | _ + 1, [], s => ([], s)
  | fuel + 1, w :: rest, s =>
    let (f, s) := expand fuel false (s.atHome w) {} s
    let (more, s) := arguments fuel rest s
    let found := if s.has 'f' then f.toList.map unmarked
      else f.toList.flatMap (argumentsOf s.files)
    (found ++ more, s)

/-- Assigns values to variables, and answers the assignments as they are shown. -/
def assignAll : (fuel : Nat) → List (Bytes × Word) → State → List Bytes × State
  | 0, _, s => ([], s)
  | _ + 1, [], s => ([], s)
  | fuel + 1, (name, w) :: rest, s =>
    if s.jump.isSome then ([], s)
    else
      let (m, s) := joined fuel (s.atHome w) s
      let (more, s) := assignAll fuel rest (s.setVariable name (unmarked m))
      ((name ++ '=' :: unmarked m) :: more, s)

/-- Redirects the descriptors, up to the first redirection that fails. -/
def redirectAll : (fuel : Nat) → List Redirect → State → Except State State
  | 0, _, s => .ok s
  | _ + 1, [], s => .ok s
  | fuel + 1, .mk descriptor direction target :: rest, s =>
    let (m, s) := joined fuel (s.atHome target) s
    if s.jump.isSome then .error s
    else match s.follow descriptor direction (unmarked m) with
      | .ok s => redirectAll fuel rest s
      | .error s => .error s

/-- Runs a script in a shell of its own. -/
def runScript : (fuel : Nat) → (script name : Bytes) → List Bytes → State → State
  | 0, _, _, _, s => s
  | fuel + 1, script, name, args, s =>
    let inner := alone fuel (Command.ofScript script) { s with
      bindings := s.bindings.filter fun v => s.exported.contains v.1
      fixed := [], functions := [], calls := 0, name, command := none, arguments := args
      tested := false, line := 1, status := 0, job := none }
    (s.leave inner).noticed

/-- Runs the commands of a text in the shell at hand. -/
def runText : (fuel : Nat) → (script : Bytes) → State → State
  | 0, _, s => s
  | fuel + 1, script, s => run fuel (Command.ofScript script) (s.finish 0)

/-- Runs a program by its path. -/
def runFile : (fuel : Nat) → (path : Bytes) → List Bytes → State → State
  | 0, _, _, s => s
  | fuel + 1, path, args, s =>
    let shown := State.textOf path
    match s.files.node? shown with
    | none => s.shellError (shown ++ ": not found") 127
    | some .directory => s.shellError (shown ++ ": Permission denied") 126
    | some (.file bytes executable) =>
      if !executable then s.shellError (shown ++ ": Permission denied") 126
      else
        let text := Text.bytesAsChars bytes
        match interpreter? text with
        | some words =>
          let name := words.headD []
          if (programPath? (State.textOf name)).isSome then
            program fuel name (words.tail ++ path :: args) s
          else s.shellError (shown ++ ": not found") 127
        | none =>
          { runScript fuel text path args { s with options := [] } with options := s.options }

/-- Runs a program by its name. -/
def program : (fuel : Nat) → (name : Bytes) → List Bytes → State → State
  | 0, _, _, s => s
  | fuel + 1, name, args, s =>
    let text := State.textOf name
    if isShellName text then
      match s.shellCall name args with
      | .error s => s
      | .ok (inner, script, name, args) =>
        { runScript fuel script name args inner with
          options := s.options, input := if inner.has 's' then [] else s.input }
    else match toolName text with
      | "env" => runEnv fuel args s
      | "nice" =>
        match args with
        | ['-', 'n'] :: _ :: command => launch fuel "nice" command s
        | command => launch fuel "nice" command s
      | "nohup" => launch fuel "nohup" args s
      | "timeout" => runLimited fuel args s
      | "xargs" => runBatch fuel args s
      | "which" =>
        let found := args.map fun a => programPath? (State.textOf a)
        (s.print (withEnds (found.filterMap fun p => p.map State.bytesOf))).finish
          (if found.all Option.isSome && !found.isEmpty then 0 else 1)
      | _ =>
        match tool? text with
        | some tool => tool args (s.finish 0)
        | none =>
          if name.contains '/' then runFile fuel name args s
          else s.shellError (text ++ ": not found") 127

/-- Runs a program for a tool, which says if there is no such program. -/
def launch : (fuel : Nat) → (tool : String) → List Bytes → State → State
  | 0, _, _, s => s
  | _ + 1, tool, [], s => Tool.usage tool "missing operand" 125 s
  | fuel + 1, tool, name :: args, s =>
    let text := State.textOf name
    let known := (programPath? text).isSome || name.contains '/' && s.files.contains text
    if known then program fuel name args s
    else
      let shown := if tool == "xargs" then text else "'" ++ text ++ "'"
      let shown := if tool == "env" || tool == "xargs" then shown
        else "failed to run command " ++ shown
      s.complain (tool ++ ": " ++ shown ++ ": No such file or directory") 127

/-- Runs a command again and again with items of the input. -/
def runBatch : (fuel : Nat) → List Bytes → State → State
  | 0, _, s => s
  | fuel + 1, args, s =>
    match Batch.read args with
    | .error message => Tool.usage "xargs" message 1 s
    | .ok b =>
      let one (acc : State × Bool) (command : List Bytes) : State × Bool :=
        let (s, stopped) := acc
        if stopped || s.jump.isSome then acc
        else
          let before := s.status
          let s := if b.traced then s.write 2 ([' '].intercalate command ++ ['\n']) else s
          let s := launch fuel "xargs" command { s with input := [] }
          let (status, stops) := Batch.status before s.status
          let s := if s.status = 255 then
              s.complain ("xargs: " ++ State.textOf (command.headD []) ++
                ": exited with status 255; aborting") status
            else s.finish status
          (s, stops)
      ((b.commands s.input).foldl one (({ s with input := [] } : State).finish 0, false)).1

/-- Runs a program with other variables, or shows the variables that programs get. -/
def runEnv : (fuel : Nat) → List Bytes → State → State
  | 0, _, s => s
  | fuel + 1, args, s =>
    match Tool.Options.read "env" "i0v" "uC" args with
    | .error message => Tool.usage "env" message 125 s
    | .ok o =>
      let bare := o.operands.head? == some ['-']
      let words := if bare then o.operands.tail else o.operands
      let kept := if bare || o.has 'i' then []
        else s.exported.filter fun n => !(o.values 'u').contains n
      let assigned := words.takeWhile fun w => w.contains '='
      let inner := assigned.foldl (fun (s : State) w =>
        match Text.cut? '=' w with
        | some (name, value) =>
          { s with
            bindings := State.assign s.bindings name value
            exported := name :: s.exported.filter (· != name) }
        | none => s) { s with exported := kept }
      match words.drop assigned.length with
      | [] =>
        let shown := inner.exported.eraseDups.reverse.filterMap fun n =>
          (inner.bindings.lookup n).map fun v => n ++ '=' :: v
        (s.print (withEnds shown)).finish 0
      | command =>
        { launch fuel "env" command inner with bindings := s.bindings, exported := s.exported }

/-- Runs a program for a limited time. -/
def runLimited : (fuel : Nat) → List Bytes → State → State
  | 0, _, s => s
  | fuel + 1, args, s =>
    match Tool.Options.read "timeout" "v" "ks" args with
    | .error message => Tool.usage "timeout" message 125 s
    | .ok o =>
      match o.operands with
      | limit :: name :: args =>
        match Tool.sleepTime? limit with
        | none =>
          Tool.usage "timeout" ("invalid time interval '" ++ State.textOf limit ++ "'") 125 s
        | some t =>
          let after := launch fuel "timeout" (name :: args) s
          if t.nanos = 0 || after.slept.nanos ≤ s.slept.nanos + t.nanos then after
          else { after with slept := ⟨s.slept.nanos + t.nanos⟩ }.finish 124
      | _ => s.complain "Try 'timeout --help' for more information." 125

/-- Runs a command of the shell itself that runs others. -/
def callIndirect? : (fuel : Nat) → (name : String) → List Bytes → State → Option State
  | 0, _, _, _ => none
  | fuel + 1, name, args, s =>
    let inner := { s with command := some (State.bytesOf name) }
    match name, args with
    | "eval", _ => some (runText fuel ([' '].intercalate args) inner)
    | ".", path :: _ =>
      some (match path.contains '/', s.readFile? path with
        | true, some script => runText fuel script { s with command := some path }
        | true, none => inner.abort ("cannot open " ++ State.textOf path ++ ": No such file")
        | false, _ => inner.abort (State.textOf path ++ ": not found"))
    | ".", [] => some (s.finish 0)
    | "command", ['-', 'v'] :: wanted :: _ =>
      some (match whereabouts? s wanted with
        | some found => (s.print (State.bytesOf (found ++ "\n"))).finish 0
        | none => s.finish 127)
    | "command", ['-', 'V'] :: names => some (describeAll names s)
    | "command", ['-', 'p'] :: name :: args | "command", ['-', '-'] :: name :: args =>
      some { call fuel name args { s with functions := [] } with functions := s.functions }
    | "command", name :: args =>
      match name with
      | '-' :: c :: _ =>
        some (inner.shellError ("Illegal option -" ++ String.singleton c) 2)
      | _ => some { call fuel name args { s with functions := [] } with functions := s.functions }
    | "command", [] => some (s.finish 0)
    | "type", names => some (describeAll names s)
    | "hash", names =>
      match names.find? fun n => n.head? != some '-' && (description s n).isNone with
      | some n => some (inner.shellError (State.textOf n ++ ": not found") 1)
      | none => some (s.finish 0)
    | "exec", name :: args =>
      some { program fuel name args { inner with traps := [] } with
        jump := some .exit, traps := [] }
    | "exec", [] => some (s.finish 0)
    | _, _ => none

/-- Runs a command by its name. -/
def call : (fuel : Nat) → (name : Bytes) → List Bytes → State → State
  | 0, _, _, s => s
  | fuel + 1, name, args, s =>
    match s.functions.lookup name with
    | some body =>
      let inner := run fuel body { s with
        arguments := args, status := 0, loops := 0, outer := [], calls := s.calls + 1 }
      { inner.restore inner.outer with
        arguments := s.arguments, loops := s.loops, outer := s.outer, calls := s.calls
        jump := if inner.jump == some .leaveFunction then none else inner.jump }
    | none =>
      let text := State.textOf name
      match callIndirect? fuel text args s with
      | some after => { after with command := s.command }
      | none =>
        let special := specialNames.contains text
        if !special && !ordinaryNames.contains text then program fuel name args s
        else
          let inner := { s with command := some name }
          let after := ((builtin? text args inner).or
            ((Tool.named? text).map fun tool => tool args (inner.finish 0))).getD inner
          let after := { after with command := s.command }
          match after.jump with
          | some (.killed n) =>
            match if n = 9 then none else s.traps.lookup n with
            | some script =>
              let ended := runText fuel script { after with jump := none }
              if ended.jump.isSome then ended else ended.finish after.status
            | none => after
          | some .exit => if special then after else { after with jump := none }
          | _ => after

/-- Runs a command. -/
def run : (fuel : Nat) → Command → State → State
  | 0, _, s => s
  | fuel + 1, c, s =>
    if s.jump.isSome || s.has 'n' && !c.isRow then s
    else
      let tested (c : Command) (s : State) : State :=
        { run fuel c { s with tested := true } with tested := s.tested }
      let fromFile (redirects : List Redirect) : Bool :=
        redirects.any fun (.mk n d _) => n = 0 && (d == .input || d == .here)
      match c with
      | .nothing => s
      | .faulty fault =>
        { s with line := fault.line }.abort ("Syntax error: " ++ fault.flaw.message)
      | .sequence first second => run fuel second (run fuel first s)
      | .simple line assignments words redirects =>
        let before := s
        let s := { s with line }
        let (args, s) := arguments fuel words s
        if s.jump.isSome then s
        else match args with
        | [] =>
          match redirectAll fuel redirects s with
          | .error t => { t with sinks := s.sinks, input := s.input }.checked
          | .ok t =>
            let runsCommand := (assignments.map (·.2) ++ words).any fun w => w.any fun p =>
              match p with
              | .output .. => true
              | _ => false
            let (shown, t) := assignAll fuel assignments t
            let t := if runsCommand || t.jump.isSome then t else t.finish 0
            let t := if shown.isEmpty || t.jump.isSome then t else t.trace shown
            { t with sinks := s.sinks, input := s.input }.checked
        | name :: args =>
          let special := specialNames.contains (State.textOf name) &&
            (s.functions.lookup name).isNone
          match redirectAll fuel redirects s with
          | .error t =>
            { t with
              sinks := s.sinks, input := s.input
              jump := if special then some .exit else t.jump }.checked
          | .ok s =>
            let (shown, s) := assignAll fuel assignments s
            if s.jump.isSome then { s with sinks := before.sinks, input := before.input }
            else
            let sinks := s.sinks
            let s := { { s with sinks := before.sinks }.trace (shown ++ name :: args) with sinks }
            if name == "exec".toList && args.isEmpty then s.finish 0
            else
              let s := call fuel name args
                { s with exported := assignments.map (·.1) ++ s.exported }
              let kept := assignments.isEmpty || special
              let bindings :=
                if kept then s.bindings
                else
                  before.bindings.filter (fun v => (assignments.lookup v.1).isSome) ++
                  s.bindings.filter (fun v => (assignments.lookup v.1).isNone)
              { s with
                sinks := before.sinks, bindings
                exported := if assignments.isEmpty then s.exported else before.exported
                input := if fromFile redirects then before.input else s.input }.checked
      | .pipe first second =>
        let (i, inner) := s.capture
        let left := s.leave (alone fuel first inner)
        let right := alone fuel second { left with input := left.captured i }
        { left.leave right with input := s.input }.checked
      | .whenever succeeded first second =>
        let s := tested first s
        if s.jump.isNone && (s.status == 0) == succeeded then run fuel second s else s
      | .negation c =>
        let s := tested c s
        if s.jump.isSome then s else s.finish (if s.status = 0 then 1 else 0)
      | .subshell c => (s.leave (alone fuel c s)).checked
      | .background c =>
        let inner := (s.leave (alone fuel c { s with input := [], tested := false })).noticed
        { inner with input := s.input, status := 0, job := some inner.status }
      | .redirected line c redirects =>
        match redirectAll fuel redirects { s with line } with
        | .error t => { t with sinks := s.sinks, input := s.input }.checked
        | .ok inner =>
          let after := run fuel c inner
          { after with
            sinks := s.sinks, input := if fromFile redirects then s.input else after.input }
      | .choice test first second =>
        let s := tested test s
        if s.jump.isSome then s
        else if s.status = 0 then run fuel first s
        else run fuel second (s.finish 0)
      | .loop succeeds test body =>
        let round (s : State) : State × Bool :=
          let status := s.status
          let s := tested test s
          if s.jump.isSome then s.afterRound
          else if (s.status == 0) == succeeds then (run fuel body s).afterRound
          else (s.finish status, false)
        { rounds round 10000 { s with status := 0, loops := s.loops + 1 } with loops := s.loops }
      | .each line name words body =>
        let s := { s with line }
        let (values, s) := match words with
          | some ws => arguments fuel ws s
          | none => (s.arguments, s)
        let round (st : State × Bool) (v : Bytes) : State × Bool :=
          if st.2 then
            let s := st.1.setVariable name v
            if s.jump.isSome then (s, false) else (run fuel body s).afterRound
          else st
        if s.jump.isSome then s
        else
          let start := { s with status := 0, loops := s.loops + 1 }
          { (values.foldl round (start, true)).1 with loops := s.loops }
      | .select line word clauses =>
        let (m, s) := joined fuel (s.atHome word) { s with line }
        if s.jump.isSome then s
        else selectClause fuel (unmarked m) clauses (s.finish 0)
      | .define name body => { s with functions := (name, body) :: s.functions, status := 0 }

/-- Runs the first clause of which a wildcard matches. -/
def selectClause : (fuel : Nat) → Bytes → List (List Word × Command) → State → State
  | 0, _, _, s => s
  | _ + 1, _, [], s => s
  | fuel + 1, cs, (wildcards, body) :: rest, s =>
    let (found, s) := wildcards.foldl (fun (acc : Bool × State) w =>
      if acc.1 then acc
      else
        let (m, s) := joined fuel (acc.2.atHome w) acc.2
        (Wildcard.matchesAll (wildcardOf m) cs, s)) (false, s)
    if found then run fuel body s else selectClause fuel cs rest s

end

end Shell
end DocExamples
