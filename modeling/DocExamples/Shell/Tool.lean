/-
# Tools

Programs that scripts call: they read files and the input, write to the output, change files, and
end with a status, which is zero if all went well. Options may stand between the other arguments,
several letters in one of them, and the value of an option in the same argument or in the next one.
-/

import DocExamples.Shell.Condition
import DocExamples.Text.Search

namespace DocExamples
namespace Shell

/-- The lines of a text, and whether the last one has its line end. -/
def linesOf (cs : Bytes) : List Bytes × Bool :=
  let ls := Text.splitOn '\n' cs
  if ls.getLast? == some [] then (ls.dropLast, true) else (ls, false)

/-- Lines with their ends. -/
def withEnds (ls : List Bytes) : Bytes := ls.flatMap fun l => l ++ ['\n']

/-- Lines as they stood in a text, the last one without its end if it had none. -/
def rejoined (lines : List Bytes) (complete : Bool) : Bytes :=
  if complete then withEnds lines else ['\n'].intercalate lines

namespace Tool

/-- A tool is given its arguments. -/
abbrev Run := List Bytes → State → State

def str (cs : Bytes) : String := State.textOf cs

/-! ## Options -/

/-- The options of a tool: the letters without and with values, and the names of some of them. -/
structure Known where
  plain : List Char
  valued : List Char
  names : List (String × Char) := []
  /-- Whether the first operand, which may be a negative number, ends the options. -/
  inOrder : Bool := false

/-- The option of a name, which may be cut short as long as it is clear. -/
def Known.letter? (k : Known) (name : String) : Option Char :=
  match k.names.lookup name with
  | some c => some c
  | none =>
    match k.names.filter fun n => (Text.afterText? name n.1).isSome with
    | [(_, c)] => some c
    | _ => none

/-- The names of the options of tools. -/
def optionNames (tool : String) : List (String × Char) :=
  match tool with
  | "grep" =>
    [("invert-match", 'v'), ("count", 'c'), ("line-number", 'n'), ("only-matching", 'o'),
      ("files-with-matches", 'l'), ("files-without-match", 'L'), ("no-filename", 'h'),
      ("with-filename", 'H'), ("line-regexp", 'x'), ("word-regexp", 'w'), ("fixed-strings", 'F'),
      ("extended-regexp", 'E'), ("basic-regexp", 'G'), ("ignore-case", 'i'), ("quiet", 'q'),
      ("silent", 'q'), ("no-messages", 's'), ("text", 'a'), ("regexp", 'e'), ("file", 'f'),
      ("max-count", 'm'), ("after-context", 'A'), ("before-context", 'B'), ("context", 'C')]
  | "sed" =>
    [("quiet", 'n'), ("silent", 'n'), ("expression", 'e'), ("file", 'f'),
      ("regexp-extended", 'E'), ("in-place", 'i'), ("separate", 's')]
  | "sort" =>
    [("reverse", 'r'), ("unique", 'u'), ("numeric-sort", 'n'), ("general-numeric-sort", 'g'),
      ("key", 'k'), ("field-separator", 't'), ("ignore-case", 'f'), ("stable", 's'),
      ("check", 'c'), ("output", 'o'), ("ignore-leading-blanks", 'b')]
  | "uniq" =>
    [("count", 'c'), ("repeated", 'd'), ("unique", 'u'), ("ignore-case", 'i'),
      ("skip-fields", 'f'), ("skip-chars", 's'), ("check-chars", 'w')]
  | "head" | "tail" => [("lines", 'n'), ("bytes", 'c'), ("quiet", 'q'), ("silent", 'q'),
      ("verbose", 'v')]
  | "wc" =>
    [("lines", 'l'), ("words", 'w'), ("bytes", 'c'), ("chars", 'm'), ("max-line-length", 'L')]
  | "cat" =>
    [("number", 'n'), ("number-nonblank", 'b'), ("show-ends", 'E'), ("show-tabs", 'T'),
      ("show-all", 'A'), ("squeeze-blank", 's'), ("show-nonprinting", 'v')]
  | "cut" =>
    [("bytes", 'b'), ("characters", 'c'), ("fields", 'f'), ("delimiter", 'd'),
      ("only-delimited", 's'), ("output-delimiter", 'O'), ("complement", 'C')]
  | "tr" => [("delete", 'd'), ("squeeze-repeats", 's'), ("complement", 'c'), ("truncate-set1", 't')]
  | "paste" => [("delimiters", 'd'), ("serial", 's')]
  | "fold" => [("width", 'w'), ("bytes", 'b'), ("spaces", 's')]
  | "seq" => [("separator", 's'), ("equal-width", 'w'), ("format", 'f')]
  | "rm" => [("force", 'f'), ("recursive", 'r'), ("verbose", 'v'), ("dir", 'd')]
  | "mkdir" => [("parents", 'p'), ("verbose", 'v'), ("mode", 'm')]
  | "rmdir" => [("parents", 'p'), ("verbose", 'v')]
  | "cp" => [("recursive", 'r'), ("force", 'f'), ("archive", 'a'), ("verbose", 'v')]
  | "mv" => [("force", 'f'), ("verbose", 'v'), ("no-clobber", 'n')]
  | "ls" => [("all", 'a'), ("almost-all", 'A'), ("directory", 'd'), ("reverse", 'r')]
  | "touch" => [("no-create", 'c')]
  | "tee" => [("append", 'a'), ("ignore-interrupts", 'i')]
  | "basename" => [("multiple", 'a'), ("suffix", 's')]
  | "cmp" => [("silent", 's'), ("quiet", 's')]
  | _ => []

structure Options where
  /-- The letters of the options, each with its value, which is empty if it takes none. -/
  chosen : List (Char × Bytes) := []
  operands : List Bytes := []

namespace Options

def has (o : Options) (letter : Char) : Bool := o.chosen.any (·.1 == letter)

def values (o : Options) (letter : Char) : List Bytes :=
  o.chosen.filterMap fun (c, v) => if c == letter then some v else none

/-- The last value of an option. -/
def value? (o : Options) (letter : Char) : Option Bytes := (o.values letter).getLast?

def choose (o : Options) (letter : Char) (value : Bytes) : Options :=
  { o with chosen := (letter, value) :: o.chosen }

/-- Reads the letters of an argument. The last one may take its value from the next argument, and is
answered if it needs one. -/
def letters (k : Known) : Bytes → Options → Except String (Options × Option Char)
  | [], o => .ok (o, none)
  | c :: rest, o =>
    if k.valued.contains c then
      .ok (if rest.isEmpty then (o, some c) else (o.choose c rest, none))
    else if k.plain.contains c then letters k rest (o.choose c [])
    else .error ("invalid option -- '" ++ String.singleton c ++ "'")

/-- Reads a named option, which may have a value behind an equals sign. -/
def named (k : Known) (text : Bytes) (o : Options) : Except String (Options × Option Char) :=
  let (name, value) := match Text.cut? '=' text with
    | some (name, value) => (name, some value)
    | none => (text, none)
  match k.letter? (str name), value with
  | none, _ => .error ("unrecognized option '--" ++ str text ++ "'")
  | some c, none => .ok (if k.valued.contains c then (o, some c) else (o.choose c [], none))
  | some c, some value =>
    if k.valued.contains c then .ok (o.choose c value, none)
    else .error ("option '--" ++ str name ++ "' doesn't allow an argument")

/-- Reads arguments, in which certain options are known. The options and the operands are answered
in reverse. -/
def readAll (k : Known) : List Bytes → Options → Except String Options
  | [], o => .ok o
  | a :: rest, o =>
    let taken (found : Except String (Options × Option Char)) (missing : Char → String) :
        Except String Options :=
      match found with
      | .error e => .error e
      | .ok (o, none) => readAll k rest o
      | .ok (o, some c) =>
        match rest with
        | value :: rest => readAll k rest (o.choose c value)
        | [] => .error (missing c)
    match a with
    | '-' :: '-' :: name =>
      if name.isEmpty then .ok { o with operands := rest.reverse ++ o.operands }
      else taken (named k name o) fun _ => "option '" ++ str a ++ "' requires an argument"
    | '-' :: c :: more =>
      if k.inOrder && (c.isDigit || c == '.') && !k.plain.contains c then
        .ok { o with operands := (a :: rest).reverse ++ o.operands }
      else taken (letters k (c :: more) o) fun c =>
        "option requires an argument -- '" ++ String.singleton c ++ "'"
    | _ =>
      if k.inOrder then .ok { o with operands := (a :: rest).reverse ++ o.operands }
      else readAll k rest { o with operands := a :: o.operands }

/-- The options and the operands of a tool, in order. -/
def read (tool plain valued : String) (args : List Bytes) : Except String Options :=
  let inOrder := ["seq", "xargs", "env", "nice", "timeout"].contains tool
  (readAll ⟨plain.toList, valued.toList, optionNames tool, inOrder⟩ args {}).map fun o =>
    { chosen := o.chosen.reverse, operands := o.operands.reverse }

end Options

/-- A message on how a tool is called, and where to read more. -/
def usage (tool message : String) (status : Nat) (s : State) : State :=
  s.complain (tool ++ ": " ++ message ++ "\nTry '" ++ tool ++ " --help' for more information.")
    status

/-- A tool with options, which ends with a status if they are wrong. -/
def withOptions (tool plain valued : String) (failure : Nat)
    (f : Options → State → State) : Run :=
  fun args s =>
    match Options.read tool plain valued args with
    | .ok o => f o (s.finish 0)
    | .error message => usage tool message failure s

/-! ## Files -/

/-- Does something with each argument. -/
def each (args : List Bytes) (f : Bytes → State → State) (s : State) : State :=
  args.foldl (fun s a => f a s) s

/-- Why a file cannot be read. -/
def unreadable (path : Bytes) (s : State) : String :=
  if s.files.isDirectory (str path) then "Is a directory" else "No such file or directory"

/-- The texts of files, a hyphen being the input; the input alone if none is named. What is missing
is complained about. -/
def inputsOr (complaint : Bytes → State → State) (args : List Bytes) (s : State) :
    List (Bytes × Bytes) × State :=
  if args.isEmpty then ([(['-'], s.input)], { s with input := [] })
  else
    args.foldl (fun (found, s) a =>
      if a == ['-'] then (found ++ [(a, s.input)], { s with input := [] })
      else match s.readFile? a with
        | some text => (found ++ [(a, text)], s)
        | none => (found, complaint a s)) ([], s)

/-- The same with the usual message. -/
def inputs (tool : String) (args : List Bytes) (s : State) : List (Bytes × Bytes) × State :=
  inputsOr (fun a s => s.complain (tool ++ ": " ++ str a ++ ": " ++ unreadable a s) 1) args s

/-- Shows what becomes of each file in turn. -/
def showEach (tool : String) (f : Bytes → Bytes) (args : List Bytes) (s : State) : State :=
  each (if args.isEmpty then [['-']] else args) (fun a s =>
    let (texts, s) := inputs tool [a] s
    s.print (texts.flatMap fun t => f t.2)) s

/-- Writes a file as a whole. -/
def replaceFile (path : Bytes) (text : Bytes) (s : State) : Option State :=
  (s.files.write? (str path) (Text.charsAsBytes text)).map fun files => { s with files }

def isExecutable (path : String) (s : State) : Bool :=
  match s.files.node? path with
  | some (.file _ executable) => executable
  | _ => false

/-! ## Printing and testing -/

/-- Finds out whether a condition holds. -/
def test : Run := fun args s =>
  match Condition.holds s (args.length + 1) false args with
  | .ok b => s.finish (if b then 0 else 1)
  | .error e => s.shellError e 2

/-- Writes to the output, which may be closed. -/
def put (text : Bytes) (s : State) : State :=
  if s.sink 1 == .closed && !text.isEmpty then
    s.shellError (str (s.command.getD []) ++ ": I/O error") 1
  else s.print text

def echo : Run := fun args s => put (Printing.echo args) s

/-- The program of that name, in which escapes count only if that is asked for. -/
def echoProgram : Run := fun args s =>
  let isOption (a : Bytes) : Bool :=
    match a with
    | '-' :: c :: cs => (c :: cs).all fun c => c == 'n' || c == 'e' || c == 'E'
    | _ => false
  let letters := (args.takeWhile isOption).flatten
  let text := [' '].intercalate (args.dropWhile isOption)
  let (out, stop) := if letters.contains 'e' then Printing.unescaped (text.length + 1) text
    else (text, false)
  (s.finish 0).print (if stop || letters.contains 'n' then out else out ++ ['\n'])

def printf : Run := fun args s =>
  let (ended, args) := if args.head? == some ['-', '-'] then (true, args.tail) else (false, args)
  match args with
  | [] => s.shellError "usage: printf format [arg ...]" 2
  | format :: args =>
    let option := if ended then none else match format with
      | '-' :: c :: _ => some c
      | _ => none
    match option with
    | some c => s.shellError ("Illegal option -" ++ String.singleton c) 2
    | none =>
      let p := Printing.printf format args
      let s := p.warnings.foldl (fun s w => s.shellError w 1) s
      match p.stop.bind Printing.Stop.message? with
      | some message => put p.out (s.shellError message 2)
      | none => put p.out s

/-! ## Time -/

/-- The time that an argument means: a number with decimals and a unit, which is a second if it is
left out. -/
def sleepTime? (arg : Bytes) : Option Duration := do
  let whole := arg.takeWhile Char.isDigit
  let rest := arg.drop whole.length
  let (decimals, rest) := match rest with
    | '.' :: more => (more.takeWhile Char.isDigit, more.dropWhile Char.isDigit)
    | _ => ([], rest)
  if whole.isEmpty && decimals.isEmpty then none
  let seconds ← match rest with
    | [] | ['s'] => some 1
    | ['m'] => some 60
    | ['h'] => some 3600
    | ['d'] => some 86400
    | _ => none
  return ⟨seconds * (Decimal.ofDigits whole * 1000000000 +
    Decimal.ofDigits ((decimals ++ List.replicate 9 '0').take 9))⟩

def sleep : Run := withOptions "sleep" "" "" 1 fun o s =>
  match o.operands, o.operands.find? fun a => (sleepTime? a).isNone with
  | [], _ => usage "sleep" "missing operand" 1 s
  | _, some a => usage "sleep" ("invalid time interval '" ++ str a ++ "'") 1 s
  | args, none =>
    let time := (args.filterMap sleepTime?).foldl (fun t d => t + d.nanos) 0
    { s with slept := ⟨s.slept.nanos + time⟩ }

/-- The tool of a name. -/
def named? (name : String) : Option Run :=
  match name with
  | "echo" => some echo
  | "printf" => some printf
  | "sleep" => some sleep
  | "test" => some test
  | "[" => some fun args s =>
    if args.getLast? == some [']'] then test args.dropLast s else s.shellError "missing ]" 2
  | "true" => some fun _ s => s.finish 0
  | "false" => some fun _ s => s.finish 1
  | _ => none

end Tool
end Shell
end DocExamples
