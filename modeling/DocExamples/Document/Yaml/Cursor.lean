/-
# Places in a YAML text

A line ends at a line feed, at a carriage return with or without one, at a next-line character and
at a line or paragraph separator; all but the two separators count as a line feed. Blanks are
spaces and tabs. Between the words of a scalar there is a gap, which may go over lines: its first
line feed stands for a space unless more of them follow.
-/

namespace DocExamples
namespace Document
namespace Yaml

/-- Whether a character may stand in a text at all. -/
def isAllowed (c : Char) : Bool :=
  let n := c.toNat
  n == 9 || n == 10 || n == 13 || (32 ≤ n && n ≤ 126) || n == 0x85 || (0xA0 ≤ n && n ≤ 0xFFFD) ||
    0x10000 ≤ n

/-- The text with a line feed for each way to end a line that stands for one. -/
def normalLines : List Char → List Char
  | '\r' :: '\n' :: rest => '\n' :: normalLines rest
  | c :: rest =>
    (if c == '\r' || c.toNat == 0x85 then '\n' else c) :: normalLines rest
  | [] => []

def isBlank (c : Char) : Bool := c == ' ' || c == '\t'

/-- Whether a line ends here. -/
def isBreak (c : Char) : Bool := c == '\n' || c.toNat == 0x2028 || c.toNat == 0x2029

def isBlankOrBreak (c : Char) : Bool := isBlank c || isBreak c

/-- Whether the text ends here or goes on with a blank or a line break. -/
def endsWord : List Char → Bool
  | [] => true
  | c :: _ => isBlankOrBreak c

/-- Whether a character may stand in the name of an anchor or of a handle. -/
def isWordChar (c : Char) : Bool := c.isAlphanum || c == '-' || c == '_'

/-- A place in a text. -/
structure Cursor where
  line : Nat
  column : Nat
  /-- The characters from here on. -/
  rest : List Char

namespace Cursor

def ofText (cs : List Char) : Cursor := ⟨0, 0, cs⟩

def head? (c : Cursor) : Option Char := c.rest.head?

/-- Goes `n` characters ahead on the line. -/
def advance (c : Cursor) (n : Nat) : Cursor := ⟨c.line, c.column + n, c.rest.drop n⟩

/-- The characters that `p` holds of, and the place after them. -/
def span (c : Cursor) (p : Char → Bool) : List Char × Cursor :=
  let run := c.rest.takeWhile p
  (run, c.advance run.length)

def skip (c : Cursor) (p : Char → Bool) : Cursor := (c.span p).2

/-- The line break here, if there is one, and the start of the next line. -/
def lineBreak? (c : Cursor) : Option (Char × Cursor) :=
  match c.rest with
  | b :: rest => if isBreak b then some (b, ⟨c.line + 1, 0, rest⟩) else none
  | [] => none

/-- Whether a line starts with a mark between documents. -/
def startsMark (c : Cursor) (sign : Char) : Bool :=
  c.column == 0 && c.rest.take 3 == [sign, sign, sign] && endsWord (c.rest.drop 3)

def isMark (c : Cursor) : Bool := c.startsMark '-' || c.startsMark '.'

/-- Goes to the end of the line if there is nothing on it but blanks and a comment. -/
def endOfLine? (c : Cursor) : Option Cursor :=
  let c := c.skip isBlank
  let c := if c.head? == some '#' then c.skip (fun x => !isBreak x) else c
  match c.head? with
  | none => some c
  | some b => if isBreak b then some c else none

/-- Goes over the line break here, if there is one. -/
def nextLine (c : Cursor) : Cursor := ((c.lineBreak?).map (·.2)).getD c

end Cursor

/-- What stands between two words of a scalar. -/
structure Gap where
  /-- The blanks before the first line break. -/
  blanks : List Char
  breaks : List Char
  /-- Whether a line break before these counts for nothing. -/
  escaped : Bool

namespace Gap

def isBroken (g : Gap) : Bool := g.escaped || !g.breaks.isEmpty

/-- The characters that a gap stands for. -/
def text (g : Gap) : List Char :=
  if g.escaped then g.breaks
  else match g.breaks with
    | [] => g.blanks
    | ['\n'] => [' ']
    | '\n' :: more => more
    | breaks => breaks

/-- The blanks and line breaks from here on, added to what is there, both in reverse. On a new
line a tab may not stand left of the column `low`. -/
def read? (escaped : Bool) (low : Nat) : (blanks breaks : List Char) → (line column : Nat) →
    List Char → Option (Gap × Cursor)
  | blanks, breaks, line, column, c :: rest =>
    let broken := escaped || !breaks.isEmpty
    if isBlank c then
      if broken && c == '\t' && column < low then none
      else read? escaped low (if broken then blanks else c :: blanks) breaks line (column + 1) rest
    else if isBreak c then read? escaped low blanks (c :: breaks) (line + 1) 0 rest
    else some (⟨blanks.reverse, breaks.reverse, escaped⟩, ⟨line, column, c :: rest⟩)
  | blanks, breaks, line, column, [] =>
    some (⟨blanks.reverse, breaks.reverse, escaped⟩, ⟨line, column, []⟩)

end Gap

/-- The gap at a place. -/
def Cursor.gap? (c : Cursor) (escaped : Bool) (low : Nat) : Option (Gap × Cursor) :=
  Gap.read? escaped low [] [] c.line c.column c.rest

end Yaml
end Document
end DocExamples
