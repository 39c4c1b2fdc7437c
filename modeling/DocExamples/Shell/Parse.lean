/-
# Reading shell scripts

A script is read line by line, a line going on as long as a command on it is not complete. The fuel
given to the readers bounds the nesting and the number of steps, and the length of the script always
suffices. A fault ends the script, but only after the lines before it have run.
-/

import DocExamples.Decimal.Read
import DocExamples.Shell.Word

namespace DocExamples
namespace Shell

namespace Parse

open Reader (accept blanks lines lineEnd pass token)

/-- The sign of a redirection, after a digit for its descriptor if there is one. -/
def redirection : Reader (Nat × Direction) := do
  let digits := (← Reader.rest).take 1 |>.filter Char.isDigit
  Reader.skip digits.length
  let descriptor (fallback : Nat) : Nat :=
    if digits.isEmpty then fallback else Decimal.ofDigits digits
  let signs : List (String × Nat × Direction) :=
    [(">>", 1, .append), (">&", 1, .duplicate), (">|", 1, .overwrite), (">", 1, .output),
      ("<<", 0, .here), ("<&", 0, .duplicate), ("<>", 0, .input), ("<", 0, .input)]
  for (sign, fallback, direction) in signs do
    if ← accept sign.toList then return (descriptor fallback, direction)
  return (descriptor 0, .input)

/-- The name and the value of an assignment, if one stands here. -/
def assignment? (cs : Bytes) : Option (Bytes × Bytes) :=
  match cs with
  | c :: _ =>
    if isNameStart c then
      match cs.dropWhile isNameChar with
      | '=' :: rest => some (cs.takeWhile isNameChar, rest)
      | _ => none
    else none
  | [] => none

/-- The lines of a text in the script, up to the line that consists of a mark. Tabs at the start of
the lines are dropped if they are `indented`. -/
def linesUpTo (mark : Bytes) (indented : Bool) : (fuel : Nat) → Bytes → Bytes × Bytes
  | 0, cs => ([], cs)
  | fuel + 1, cs =>
    let whole := cs.takeWhile (· != '\n')
    let rest := (cs.drop whole.length).drop 1
    let line := if indented then whole.dropWhile (· == '\t') else whole
    if cs.isEmpty || line == mark then ([], rest)
    else
      let (more, rest) := linesUpTo mark indented fuel rest
      (line ++ '\n' :: more, rest)

/-- Takes a text from below the line at hand, and answers the number of its first line too. -/
def textBelow (mark : Bytes) (indented : Bool) : Reader (Nat × Bytes) := do
  let s ← get
  let below := (s.rest.dropWhile (· != '\n')).drop 1
  let free := below.drop s.taken
  let (text, after) := linesUpTo mark indented free.length free
  set { s with taken := s.taken + (free.length - after.length) }
  return (s.line + 1 + (below.take s.taken).count '\n', text)

/-- The names that no function can have. -/
def reservedNames : List String :=
  ["break", ":", "continue", ".", "eval", "exec", "exit", "export", "readonly", "return", "set",
    "shift", "times", "trap", "unset"]

mutual

/-- The commands inside of a word. -/
def substituted : (fuel : Nat) → (closed : Bool) → Reader Command
  | 0, _ => return .nothing
  | fuel + 1, closed => do
    let c ← list fuel true
    if closed then Reader.expect (substituted fuel) ")"
    return c

/-- A redirection with its target. -/
def redirect : (fuel : Nat) → Reader Redirect
  | 0 => return .mk 0 .input []
  | fuel + 1 => do
    let (descriptor, direction) ← redirection
    let indented ← if direction == .here then accept ['-'] else pure false
    if (← token false) != .word then Reader.unexpected (substituted fuel) false none
    let target ← Word.read (substituted fuel)
    if direction != .here then return .mk descriptor direction target
    let (line, text) ← textBelow (Word.plain target) indented
    if Word.isQuoted target then return .mk descriptor .here [.text true text]
    else
      return .mk descriptor .here
        (← Reader.inside line text (Word.part (substituted fuel) .textBelow))

/-- A command with the redirections after it, added to those read in reverse. -/
def redirected : (fuel line : Nat) → Command → (read : List Redirect) → Reader Command
  | 0, _, c, _ => return c
  | fuel + 1, line, c, read => do
    if (← token true) == .redirection then redirected fuel line c ((← redirect fuel) :: read)
    else return if read.isEmpty then c else .redirected line c read.reverse

/-- A simple command after the parts read, which stand in reverse. Its line is the one on which its
first part ends. -/
def simple : (fuel : Nat) → (line : Option Nat) → (assignments : List (Bytes × Word)) →
    (words : List Word) → (redirects : List Redirect) → Reader Command
  | 0, _, _, _, _ => return .nothing
  | fuel + 1, line, assignments, words, redirects => do
    match ← token false with
    | .redirection =>
      let r ← redirect fuel
      simple fuel (line.getD (← get).line) assignments words (r :: redirects)
    | .word =>
      match words, assignment? (← Reader.rest) with
      | [], some (name, rest) =>
        modify fun s => { s with rest }
        let w ← Word.read (substituted fuel)
        simple fuel (line.getD (← get).line) ((name, w) :: assignments) words redirects
      | _, _ =>
        let w ← Word.read (substituted fuel)
        simple fuel (line.getD (← get).line) assignments (w :: words) redirects
    | found =>
      match found, words, assignments, redirects with
      | .sign "(", [w], [], [] =>
        pass found
        if (← token false) == .sign ")" then pass (.sign ")")
        else Reader.unexpected (substituted fuel) false (some (.sign ")"))
        match Word.bareName? w with
        | none => Reader.fail .functionName
        | some name =>
          if reservedNames.contains (String.ofList name) then Reader.fail .functionName
          lines
          return .define name (← command fuel)
      | _, _, _, _ =>
        return .simple (line.getD 1) assignments.reverse words.reverse redirects.reverse

/-- What follows the test of a choice: its branches and the closing word. -/
def branches : (fuel : Nat) → Reader Command
  | 0 => return .nothing
  | fuel + 1 => do
    let test ← list fuel false
    Reader.expect (substituted fuel) "then"
    let first ← list fuel false
    match ← token true with
    | .sign "elif" =>
      pass (.sign "elif")
      return .choice test first (← branches fuel)
    | .sign "else" =>
      pass (.sign "else")
      let second ← list fuel false
      Reader.expect (substituted fuel) "fi"
      return .choice test first second
    | _ =>
      Reader.expect (substituted fuel) "fi"
      return .choice test first .nothing

/-- Commands between two words. -/
def enclosed : (fuel : Nat) → (opening closing : String) → Reader Command
  | 0, _, _ => return .nothing
  | fuel + 1, opening, closing => do
    Reader.expect (substituted fuel) opening
    let c ← list fuel false
    Reader.expect (substituted fuel) closing
    return c

/-- Words up to another token, added to those read in reverse. -/
def words : (fuel : Nat) → (read : List Word) → Reader (List Word)
  | 0, read => return read.reverse
  | fuel + 1, read => do
    if (← token false) == .word then words fuel ((← Word.read (substituted fuel)) :: read)
    else return read.reverse

/-- A loop over words, after the word that opens it. -/
def each : (fuel line : Nat) → Reader Command
  | 0, _ => return .nothing
  | fuel + 1, line => do
    let found ← token false
    if found != .word then
      pass found
      Reader.fail .loopVariable
    match Word.bareName? (← Word.read (substituted fuel)) with
    | none => Reader.fail .loopVariable
    | some name =>
      lines
      let mut values : Option (List Word) := none
      if (← token true) == .sign "in" then
        pass (.sign "in")
        values := some (← words fuel [])
        let after ← token false
        if after == .newline || after == .sign ";" then pass after
        else Reader.unexpected (substituted fuel) false none
      else if ← accept [';'] then pure ()
      lines
      return .each line name values (← enclosed fuel "do" "done")

/-- The wildcards of a clause, up to the closing parenthesis, added to those read in reverse. -/
def wildcards : (fuel : Nat) → (read : List Word) → Reader (List Word)
  | 0, read => return read.reverse
  | fuel + 1, read => do
    let found ← token false
    let w ← if found == .word then Word.read (substituted fuel) else (do pass found; return [])
    match ← token false with
    | .sign "|" =>
      pass (.sign "|")
      wildcards fuel (w :: read)
    | .sign ")" =>
      pass (.sign ")")
      return (w :: read).reverse
    | _ => Reader.unexpected (substituted fuel) false (some (.sign ")"))

/-- The clauses of a selection, added to those read in reverse. -/
def clauses : (fuel : Nat) → (read : List (List Word × Command)) →
    Reader (List (List Word × Command))
  | 0, read => return read.reverse
  | fuel + 1, read => do
    lines
    let found ← token true
    if found == .sign "esac" then
      pass found
      return read.reverse
    if found == .sign "(" then pass found
    let ws ← wildcards fuel []
    let c ← list fuel true
    lines
    if (← token true) == .sign "esac" then
      pass (.sign "esac")
      return ((ws, c) :: read).reverse
    Reader.expect (substituted fuel) ";;"
    clauses fuel ((ws, c) :: read)

/-- A command other than a pipeline. -/
def command : (fuel : Nat) → Reader Command
  | 0 => return .nothing
  | fuel + 1 => do
    let found ← token true
    let line := (← get).line
    let compound (r : Reader Command) : Reader Command := do
      redirected fuel line (← r) []
    match found with
    | .word | .redirection => simple fuel none [] [] []
    | .sign "\x7b" => compound (enclosed fuel "\x7b" "\x7d")
    | .sign "(" => compound do return .subshell (← enclosed fuel "(" ")")
    | .sign "if" =>
      pass found
      compound (branches fuel)
    | .sign "while" | .sign "until" =>
      pass found
      let test ← list fuel false
      compound do return .loop (found == .sign "while") test (← enclosed fuel "do" "done")
    | .sign "for" =>
      pass found
      compound (each fuel line)
    | .sign "case" =>
      pass found
      if (← token false) != .word then Reader.unexpected (substituted fuel) false (some .word)
      let w ← Word.read (substituted fuel)
      lines
      Reader.expect (substituted fuel) "in"
      compound do return .select line w (← clauses fuel [])
    | _ => Reader.unexpected (substituted fuel) true none

/-- Commands with bars between them. -/
def bars : (fuel : Nat) → Reader Command
  | 0 => return .nothing
  | fuel + 1 => do
    let c ← command fuel
    if (← token true) == .sign "|" then
      pass (.sign "|")
      lines
      return .pipe c (← bars fuel)
    else return c

/-- Commands with bars between them, which may be negated together. -/
def pipeline : (fuel : Nat) → Reader Command
  | 0 => return .nothing
  | fuel + 1 => do
    if (← token true) == .sign "!" then
      pass (.sign "!")
      return .negation (← bars fuel)
    else bars fuel

/-- Pipelines of which each decides whether the next one runs. -/
def conditional : (fuel : Nat) → (before : Option (Bool × Command)) → Reader Command
  | 0, _ => return .nothing
  | fuel + 1, before => do
    let c ← pipeline fuel
    let c := match before with
      | none => c
      | some (succeeded, first) => .whenever succeeded first c
    let found ← token true
    if found == .sign "&&" || found == .sign "||" then
      pass found
      lines
      conditional fuel (some (found == .sign "&&", c))
    else return c

/-- Commands one after the other, up to something that closes them. There is at least one of them
unless they are `optional`. -/
def list : (fuel : Nat) → (optional : Bool) → Reader Command
  | 0, _ => return .nothing
  | fuel + 1, optional => do
    lines
    let found ← token true
    if found == .endOfScript || optional && found.closes then return .nothing
    let c ← conditional fuel none
    match ← token true with
    | .sign ";" =>
      pass (.sign ";")
      return .sequence c (← list fuel true)
    | .sign "&" =>
      pass (.sign "&")
      return .sequence (.background c) (← list fuel true)
    | .newline => return .sequence c (← list fuel true)
    | _ => return c

end

/-- The commands up to the end of a line. -/
def line : (fuel : Nat) → Reader Command
  | 0 => return .nothing
  | fuel + 1 => do
    match ← token true with
    | .newline =>
      lineEnd
      return .nothing
    | .endOfScript => return .nothing
    | _ =>
      let c ← conditional fuel none
      match ← token true with
      | .sign ";" =>
        pass (.sign ";")
        return .sequence c (← line fuel)
      | .sign "&" =>
        pass (.sign "&")
        return .sequence (.background c) (← line fuel)
      | .newline =>
        lineEnd
        return c
      | .endOfScript => return c
      | _ => Reader.unexpected (substituted fuel) true none

/-- The commands of a script, a fault standing in place of what cannot be read. -/
def script : (fuel : Nat) → Source → Command
  | 0, _ => .nothing
  | fuel + 1, s =>
    if s.rest.isEmpty then .nothing
    else match (line (16 * s.rest.length + 16)).run s with
      | .ok (.nothing, s) => script fuel s
      | .ok (c, s) => .sequence c (script fuel s)
      | .error fault => .faulty fault

end Parse

/-- The command that a script consists of. Bytes of value zero in it mean nothing. -/
def Command.ofScript (script : Bytes) : Command :=
  let rest := script.filter (· != '\x00')
  Parse.script (rest.length + 1) { rest }

end Shell
end DocExamples
