/-
# Programs for examples

The code of an example becomes the body of a program that prints its last line. All other lines
are statements, and so is the last one if it ends like one.
-/

import DocExamples.Text.Blank
import DocExamples.Text.Lines

namespace DocExamples
namespace Program

/-- The lines of the code that hold something, trimmed. -/
def codeLines (code : String) : List String :=
  ((Text.linesOf code).map Text.trimmed).filter (· != "")

/-- Whether a line ends a statement or a block. -/
def endsStatement (line : String) : Bool :=
  match line.toList.getLast? with
  | some c => c == ';' || c == '\x7d'
  | none => false

def statement (line : String) : String := "    " ++ line ++ "\n"

/-- The last line of the body. -/
def lastLine (line : String) : String :=
  if endsStatement line then statement line
  else statement ("std::cout << (" ++ line ++ ") << std::endl;")

/-- The lines of the body. -/
def body (lines : List String) : String :=
  match lines.getLast? with
  | none => ""
  | some last => String.join (lines.dropLast.map statement) ++ lastLine last

def includeLine (header : String) : String := "#include \"" ++ header ++ "\"\n"

/-- The program for a piece of code, with the headers it needs. -/
def render (code : String) (includes : List String) : String :=
  "#include <iostream>\n" ++ String.join (includes.map includeLine) ++
    "\nint main() \x7b\n    std::cout << std::boolalpha;\n" ++ body (codeLines code) ++
    "    return 0;\n\x7d\n"

end Program
end DocExamples
