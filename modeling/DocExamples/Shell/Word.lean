/-
# Words of shell scripts

A word is read piece by piece: bare text, text between quotation marks, variables, the output of
commands and expressions. What stands around a part of the word decides which bytes have a meaning
of their own there and what ends it. The commands inside of words are read by a reader that is
given.
-/

import DocExamples.Shell.Syntax

namespace DocExamples
namespace Shell

/-- What a part of a word stands in. -/
inductive Enclosure where
  | bare
  | quotation
  /-- Braces around the edit of a variable. -/
  | braces (quoted : Bool)
  /-- An expression, and so many parentheses in it. -/
  | expression (depth : Nat)
  /-- A text below the line of a command. -/
  | textBelow
deriving DecidableEq

namespace Enclosure

def quoted : Enclosure → Bool
  | bare => false
  | braces q => q
  | _ => true

/-- What is wrong if the script ends here. -/
def flaw? : Enclosure → Option Flaw
  | bare | textBelow => none
  | quotation | braces true => some .openQuotation
  | braces false => some (.missing "\x7d")
  | expression _ => some (.missing "))")

/-- Whether a backslash takes the meaning from a byte and vanishes. -/
def escapes (e : Enclosure) (c : Char) : Bool :=
  !e.quoted || ['$', '\x60', '\x5c'].contains c || c == '\x22' && e != textBelow ||
    c == '\x7d' && e == braces true

end Enclosure

namespace Word

/-- Adds bytes to the last of the pieces read, which stand in reverse. -/
def push (quoted : Bool) (cs : Bytes) (pieces : List Piece) : List Piece :=
  match pieces with
  | .text q before :: rest =>
    if q == quoted then .text q (before ++ cs) :: rest else .text quoted cs :: pieces
  | _ => .text quoted cs :: pieces

/-- The pieces in quotation marks; nothing there is an empty text. -/
def orEmpty (pieces : List Piece) : List Piece :=
  if pieces.isEmpty then [.text true []] else pieces

/-- The bytes up to the next simple quotation mark. -/
def untilQuote : Reader Bytes := do
  let s ← get
  let inner := s.rest.takeWhile (· != '\'')
  let after := s.rest.drop inner.length
  set { s with rest := after.drop 1, line := s.line + inner.count '\n' }
  if after.isEmpty then Reader.fail .openQuotation
  return inner

/-- The text of a command in backquotes, added to what was read in reverse. -/
def backquoted (inQuotation : Bool) : (fuel : Nat) → (read : Bytes) → Reader Bytes
  | 0, _ => Reader.fail .openBackquote
  | fuel + 1, read => do
    match ← Reader.next? with
    | none => Reader.fail .openBackquote
    | some '\x60' => return read.reverse
    | some '\x5c' =>
      match ← Reader.next? with
      | none => Reader.fail .openBackquote
      | some '\n' => backquoted inQuotation fuel read
      | some c =>
        if ['\x60', '\x5c', '$'].contains c || inQuotation && c == '\x22' then
          backquoted inQuotation fuel (c :: read)
        else backquoted inQuotation fuel (c :: '\x5c' :: read)
    | some c => backquoted inQuotation fuel (c :: read)

/-- How a value is edited, after the name in braces, and what is left then. -/
def edit (cs : Bytes) : Edit × Bytes :=
  match cs with
  | ':' :: '\x7d' :: rest => (.none, rest)
  | '\x7d' :: _ => (.none, cs)
  | ':' :: '-' :: rest => (.fallback true, rest)
  | '-' :: rest => (.fallback false, rest)
  | ':' :: '=' :: rest => (.assign true, rest)
  | '=' :: rest => (.assign false, rest)
  | ':' :: '+' :: rest => (.alternative true, rest)
  | '+' :: rest => (.alternative false, rest)
  | ':' :: '?' :: rest => (.demand true, rest)
  | '?' :: rest => (.demand false, rest)
  | '#' :: '#' :: rest => (.cutFront true, rest)
  | '#' :: rest => (.cutFront false, rest)
  | '%' :: '%' :: rest => (.cutEnd true, rest)
  | '%' :: rest => (.cutEnd false, rest)
  | ':' :: _ :: rest => (.invalid, rest)
  | _ :: rest => (.invalid, rest)
  | [] => (.invalid, [])

/-- A name in braces, where a number may have several digits. -/
def name? (cs : Bytes) : Option (Bytes × Bytes) :=
  match cs with
  | [] => none
  | c :: rest =>
    if isNameStart c then some (cs.takeWhile isNameChar, cs.dropWhile isNameChar)
    else if c.isDigit then some (cs.takeWhile Char.isDigit, cs.dropWhile Char.isDigit)
    else if isSpecialName c then some ([c], rest)
    else none

/-- A variable in braces: its name, how its value is edited, and what is left then. A number sign
in front asks for the length of the value, unless it is the name itself. -/
def subject (cs : Bytes) : Bytes × Edit × Bytes :=
  let plain (cs : Bytes) : Bytes × Edit × Bytes :=
    match name? cs with
    | some (name, rest) => (name, edit rest)
    | none => ([], .invalid, if cs.head? == some '\x7d' then cs else cs.drop 1)
  match cs with
  | '#' :: c :: rest =>
    let closed (cs : Bytes) : Bool := cs.head? == some '\x7d'
    match name? (c :: rest) with
    | some (name, rest) =>
      if isNameChar c then (name, if closed rest then .length else .invalid, rest)
      else if closed rest then (name, .length, rest)
      else plain cs
    | none => plain cs
  | _ => plain cs

/-- Whether a value is edited by a wildcard, which has its meaning also between quotation marks. -/
def cuts : Edit → Bool
  | .cutFront _ | .cutEnd _ => true
  | _ => false

/-! ## Pieces

`commands` reads commands inside of a word, with the parenthesis that closes them if `closed`. -/

section

variable (commands : (closed : Bool) → Reader Command)

mutual

/-- An expansion after its dollar sign. -/
def expansion : (fuel : Nat) → Enclosure → Reader Piece
  | 0, e => return .text e.quoted ['$']
  | fuel + 1, e => do
    if ← Reader.accept ['(', '('] then
      return .arithmetic e.quoted (← pieces fuel (.expression 0) [])
    else if ← Reader.accept ['('] then return .output e.quoted (← commands true)
    else if ← Reader.accept ['\x7b'] then
      let (name, how, rest) := subject (← Reader.rest)
      modify fun s => { s with rest }
      return .variable e.quoted name how (← pieces fuel (.braces (e.quoted && !cuts how)) [])
    else
      let cs ← Reader.rest
      let name := match cs with
        | [] => []
        | c :: _ =>
          if isNameStart c then cs.takeWhile isNameChar else if isSpecialName c then [c] else []
      Reader.skip name.length
      return if name.isEmpty then .text e.quoted ['$'] else .variable e.quoted name .none []

/-- The pieces of a part, added to those read in reverse. -/
def pieces : (fuel : Nat) → Enclosure → (read : List Piece) → Reader (List Piece)
  | 0, _, read => return read.reverse
  | fuel + 1, e, read => do
    if e == .bare && (← Reader.rest).head?.all Token.endsWord then return read.reverse
    match ← Reader.next? with
    | none =>
      match e.flaw? with
      | some flaw => Reader.fail flaw
      | none => return read.reverse
    | some '\x5c' =>
      match ← Reader.next? with
      | none => pieces fuel e (push true ['\x5c'] read)
      | some '\n' => pieces fuel e read
      | some c =>
        if e.escapes c then pieces fuel e (push true [c] read)
        else pieces fuel e (push true ['\x5c', c] read)
    | some '$' => pieces fuel e ((← expansion fuel e) :: read)
    | some '\x60' =>
      let text ← backquoted (e == .quotation) ((← Reader.rest).length + 1) []
      pieces fuel e (.output e.quoted (← Reader.inside 1 text (commands false)) :: read)
    | some c =>
      match c, e with
      | '\'', .bare | '\'', .braces false => pieces fuel e (push true (← untilQuote) read)
      | '\x22', .bare | '\x22', .braces false =>
        pieces fuel e ((orEmpty (← pieces fuel .quotation [])).reverse ++ read)
      | '\x22', .braces true => pieces fuel e read
      | '\x22', .quotation | '\x7d', .braces _ => return read.reverse
      | '(', .expression depth => pieces fuel (.expression (depth + 1)) (push true ['('] read)
      | ')', .expression 0 =>
        if ← Reader.accept [')'] then return read.reverse
        else pieces fuel e (push true [')'] read)
      | ')', .expression (depth + 1) => pieces fuel (.expression depth) (push true [')'] read)
      | _, _ => pieces fuel e (push e.quoted [c] read)

end

/-- The part at hand. -/
def part (e : Enclosure) : Reader (List Piece) := do
  pieces commands (4 * (← Reader.rest).length + 4) e []

/-- The word at hand. -/
def read : Reader Word := part commands .bare

end

/-- The bytes of a word whose pieces are all texts. -/
def plain (w : Word) : Bytes :=
  w.flatMap fun p =>
    match p with
    | .text _ cs => cs
    | _ => []

def isQuoted (w : Word) : Bool :=
  w.any fun p =>
    match p with
    | .text q _ => q
    | _ => false

/-- The name that a word is, if it is one and nothing of it is quoted. -/
def bareName? : Word → Option Bytes
  | [.text false cs] => if isName cs then some cs else none
  | _ => none

end Word

/-- Fails at the next token; a word is read as a whole before. -/
def Reader.unexpected {α : Type} (commands : Bool → Reader Command) (commandBegins : Bool)
    (wanted : Option Token) : Reader α := do
  let found ← Reader.token commandBegins
  if found == .word then discard (Word.read commands)
  Reader.pass found
  Reader.fail (.unexpected found wanted)

/-- Passes over a sign, which has to come next. -/
def Reader.expect (commands : Bool → Reader Command) (s : String) : Reader Unit := do
  if (← Reader.token true) == .sign s then Reader.pass (.sign s)
  else Reader.unexpected commands true (some (.sign s))

end Shell
end DocExamples
