/-
# Tokens of shell scripts

A script is a row of words and of signs that hold commands together. A reader takes them from the
front of what is left of the script and counts its lines. What cannot be read is a fault with the
line at which it was noticed.
-/

namespace DocExamples
namespace Shell

/-- Bytes, each as the character of its number. -/
abbrev Bytes := List Char

inductive Token where
  | word
  | redirection
  | newline
  | endOfScript
  /-- An operator, or a word that opens, divides or closes commands. -/
  | sign (s : String)
deriving DecidableEq, Repr, Inhabited

def Token.display : Token → String
  | word => "word"
  | redirection => "redirection"
  | newline => "newline"
  | endOfScript => "end of file"
  | sign s => "\"" ++ s ++ "\""

/-- Why a script cannot be read. -/
inductive Flaw where
  | unexpected (found : Token) (wanted : Option Token)
  | openQuotation
  | openBackquote
  | missing (closing : String)
  /-- A loop over words has no proper variable. -/
  | loopVariable
  | functionName
deriving DecidableEq, Repr, Inhabited

def Flaw.message : Flaw → String
  | unexpected found none => found.display ++ " unexpected"
  | unexpected found (some wanted) =>
    found.display ++ " unexpected (expecting " ++ wanted.display ++ ")"
  | openQuotation => "Unterminated quoted string"
  | openBackquote => "EOF in backquote substitution"
  | missing closing => "Missing '" ++ closing ++ "'"
  | loopVariable => "Bad for loop variable"
  | functionName => "Bad function name"

structure Fault where
  flaw : Flaw
  line : Nat
deriving DecidableEq, Repr, Inhabited

/-- What is left of a script. -/
structure Source where
  rest : Bytes
  /-- The number of the line at hand. -/
  line : Nat := 1
  /-- How many bytes after the line at hand are texts that a command on it has taken. -/
  taken : Nat := 0
deriving Inhabited

abbrev Reader := StateT Source (Except Fault)

namespace Reader

def fail {α : Type} (flaw : Flaw) : Reader α := do throw ⟨flaw, (← get).line⟩

def rest : Reader Bytes := return (← get).rest

/-- Passes over some bytes, none of which ends a line. -/
def skip (n : Nat) : Reader Unit := modify fun s => { s with rest := s.rest.drop n }

/-- The next byte. -/
def next? : Reader (Option Char) := do
  match ← rest with
  | [] => return none
  | c :: more =>
    modify fun s => { s with rest := more, line := if c == '\n' then s.line + 1 else s.line }
    return some c

/-- Passes over some bytes if they come next. -/
def accept (cs : Bytes) : Reader Bool := do
  if cs.isPrefixOf (← rest) then
    skip cs.length
    return true
  else return false

/-- Passes over the end of a line and over the texts below it that belong to it. -/
def lineEnd : Reader Unit := modify fun s =>
  let below := s.rest.drop 1
  { rest := below.drop s.taken, line := s.line + 1 + (below.take s.taken).count '\n' }

/-- What is left after blanks and comments within a line, and the number of lines joined on the
way. -/
def afterBlanks : (joined : Nat) → Bytes → Bytes × Nat
  | n, ' ' :: more | n, '\t' :: more => afterBlanks n more
  | n, '\x5c' :: '\n' :: more => afterBlanks (n + 1) more
  | n, '#' :: more => (more.dropWhile (· != '\n'), n)
  | n, cs => (cs, n)

def blanks : Reader Unit := modify fun s =>
  let (rest, joined) := afterBlanks 0 s.rest
  { s with rest, line := s.line + joined }

/-- Passes over blanks, comments and line ends. -/
def lines : Reader Unit := do go ((← rest).length + 1)
where
  go : (fuel : Nat) → Reader Unit
  | 0 => return
  | fuel + 1 => do
    blanks
    if (← rest).head? == some '\n' then
      lineEnd
      go fuel

/-- Reads a text of its own from a line on, which does not change what is left of the script. -/
def inside {α : Type} (line : Nat) (text : Bytes) (r : Reader α) : Reader α := do
  let outer ← get
  set ({ rest := text, line } : Source)
  let a ← r
  set outer
  return a

end Reader

namespace Token

/-- A character that ends a word. -/
def endsWord (c : Char) : Bool :=
  [' ', '\t', '\n', ';', '&', '|', '<', '>', '(', ')'].contains c

def keywords : List String :=
  ["if", "then", "elif", "else", "fi", "while", "until", "do", "done", "for", "in", "case", "esac",
    "\x7b", "\x7d", "!"]

def operators : List String := [";;", "&&", "||", ";", "&", "|", "(", ")"]

/-- The token at the front of a script without blanks before it. Keywords are mere words where no
command begins. -/
def atFront (commandBegins : Bool) (cs : Bytes) : Token :=
  match cs with
  | [] => endOfScript
  | '\n' :: _ => newline
  | _ =>
    match operators.find? fun o => o.toList.isPrefixOf cs with
    | some o => sign o
    | none =>
      let bare := String.ofList (cs.takeWhile fun c => !endsWord c)
      let after := match cs with
        | d :: more => if d.isDigit then more else cs
        | [] => cs
      if after.head? == some '<' || after.head? == some '>' then redirection
      else if commandBegins && keywords.contains bare then sign bare
      else word

/-- Whether a token ends a list of commands inside of another command. -/
def closes : Token → Bool
  | endOfScript => true
  | sign s =>
    [")", ";;", "then", "elif", "else", "fi", "do", "done", "esac", "\x7d"].contains s
  | _ => false

end Token

/-- The token that comes next, blanks before it being passed over. -/
def Reader.token (commandBegins : Bool) : Reader Token := do
  blanks
  return Token.atFront commandBegins (← rest)

/-- Passes over a sign or a line end. -/
def Reader.pass : Token → Reader Unit
  | .sign s => Reader.skip s.length
  | .newline => Reader.lineEnd
  | _ => return

end Shell
end DocExamples
