/-
# Examples

An example is a piece of code from a comment, with the output it is expected to print. Its parent
is the position of the declaration that it documents in the list of declarations of its file.
-/

import DocExamples.Declaration

namespace DocExamples

/-- An example found in a comment. -/
structure Example where
  /-- The lines of code, with line feeds between them. -/
  code : String
  /-- The lines of output, with line feeds between them. -/
  expected : Option String
  /-- Where the marker that opens the example stands. -/
  location : Location
  parent : Option Nat := none
deriving DecidableEq, Repr, Inhabited

namespace Example

/-- The line the example starts on. -/
def line (e : Example) : UInt32 := e.location.line

def toDocument (e : Example) : Document :=
  .present [
    ("code", some (.text e.code)),
    ("expected_output", e.expected.map .text),
    ("location", some e.location.toDocument),
    ("parent", e.parent.map .nat)]

end Example
end DocExamples
