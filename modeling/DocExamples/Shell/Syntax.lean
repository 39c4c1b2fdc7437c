/-
# Shell commands

The language that compilers and compiled programs of a session are written in: words with
expansions, simple commands with redirections, and commands made of others. All texts are byte
strings with each byte as a character.
-/

import DocExamples.Shell.Token

namespace DocExamples
namespace Shell

/-- What happens to the value of a variable where it is used. -/
inductive Edit where
  | none
  /-- The number of its bytes. -/
  | length
  /-- Another word if there is no value, or if `colon` an empty one. -/
  | fallback (colon : Bool)
  /-- The same, and the variable takes that value. -/
  | assign (colon : Bool)
  /-- Another word if there is a value. -/
  | alternative (colon : Bool)
  /-- The script ends with a message if there is no value. -/
  | demand (colon : Bool)
  /-- A wildcard is cut off at the front or at the end, a short or a long match. -/
  | cutFront (long : Bool)
  | cutEnd (long : Bool)
  /-- There is no such edit, which is noticed only where it would be made. -/
  | invalid
deriving DecidableEq, Repr, Inhabited

/-- Where a redirection leads. -/
inductive Direction where
  | input
  | output
  /-- The same where files are protected. -/
  | overwrite
  | append
  /-- To where another descriptor leads. -/
  | duplicate
  /-- From a text in the script itself. -/
  | here
deriving DecidableEq, Repr, Inhabited

mutual

/-- A part of a word. Where it is quoted, blanks and wildcards have no meaning. -/
inductive Piece where
  | text (quoted : Bool) (cs : Bytes)
  | variable (quoted : Bool) (name : Bytes) (edit : Edit) (word : List Piece)
  /-- The output of a command. -/
  | output (quoted : Bool) (c : Command)
  /-- The value of an expression. -/
  | arithmetic (quoted : Bool) (expression : List Piece)

/-- A redirection of a descriptor. -/
inductive Redirect where
  | mk (descriptor : Nat) (direction : Direction) (target : List Piece)

/-- A command. Where words are expanded the line is known that messages about them name. -/
inductive Command where
  | nothing
  /-- Assignments, then the name of a command and its arguments. -/
  | simple (line : Nat) (assignments : List (Bytes × List Piece)) (words : List (List Piece))
      (redirects : List Redirect)
  /-- The output of the first is the input of the second. -/
  | pipe (first second : Command)
  | sequence (first second : Command)
  /-- The second runs if the first has, or has not, succeeded. -/
  | whenever (succeeded : Bool) (first second : Command)
  | negation (c : Command)
  /-- A command that cannot change the variables outside. -/
  | subshell (c : Command)
  /-- The same, and nobody waits for its end. -/
  | background (c : Command)
  | redirected (line : Nat) (c : Command) (redirects : List Redirect)
  | choice (test first second : Command)
  /-- The body runs as long as the test succeeds, or fails. -/
  | loop (succeeds : Bool) (test body : Command)
  /-- The body runs for each word, or for each argument. -/
  | each (line : Nat) (name : Bytes) (words : Option (List (List Piece))) (body : Command)
  /-- The first clause runs of which a wildcard matches the word. -/
  | select (line : Nat) (word : List Piece) (clauses : List (List (List Piece) × Command))
  | define (name : Bytes) (body : Command)
  /-- The script cannot be read any further. -/
  | faulty (fault : Fault)

end

instance : Inhabited Command := ⟨.nothing⟩

abbrev Word := List Piece

/-- Whether a command is only a row of others, or none at all. -/
def Command.isRow : Command → Bool
  | .nothing | .sequence .. | .faulty _ => true
  | _ => false

/-! ## Names -/

def isNameStart (c : Char) : Bool := c.isAlpha || c == '_'

def isNameChar (c : Char) : Bool := c.isAlphanum || c == '_'

/-- Whether some bytes can name a variable or a function. -/
def isName (cs : Bytes) : Bool := cs.head?.any isNameStart && cs.all isNameChar

/-- A byte that names a variable which the shell sets itself, or an argument. -/
def isSpecialName (c : Char) : Bool := c.isDigit || ['@', '*', '#', '?', '$', '!', '-'].contains c

end Shell
end DocExamples
