/-
# Scans

The scan of a source file holds what is declared in it and the examples in its comments, each
attached to the nearest declaration above it. Declarations come from a provider; the built-in one
tries patterns line by line.
-/

import DocExamples.Scan.Attach
import DocExamples.Scan.ExampleBlock
import DocExamples.Scan.Heuristic
import DocExamples.Text.Lines

namespace DocExamples

/-- Finds the declarations in the lines of a file. -/
abbrev Provider := (file : String) → (lines : List String) → List Declaration

/-- What is found in a source file. -/
structure Scan where
  file : String
  declarations : List Declaration
  examples : List Example
deriving Repr, Inhabited

namespace Scan

/-- Scans the text of a file. -/
def ofText (provider : Provider) (file : String) (text : String) : Scan :=
  let lines := Text.linesOf text
  let ds := provider file lines
  ⟨file, ds, attach ds (exampleBlocks file lines)⟩

def callables (s : Scan) : List Declaration := s.declarations.filter (·.kind.isCallable)

def classes (s : Scan) : List Declaration := s.declarations.filter (·.kind.isClassLike)

def namespaces (s : Scan) : List Declaration := s.declarations.filter (·.kind.isNamespace)

/-- The first declaration of a name. -/
def find? (s : Scan) (name : String) : Option Declaration :=
  s.declarations.find? (·.name == name)

/-- The scan with the numbers of what was found, as written to data files. -/
def toDocument (s : Scan) : Document :=
  .table [
    ("declarations", .list (s.declarations.map Declaration.toDocument)),
    ("docTests", .list (s.examples.map Example.toDocument)),
    ("sourceFile", .text s.file),
    ("stats", .table [
      ("classes", .nat s.classes.length),
      ("docTests", .nat s.examples.length),
      ("functions", .nat s.callables.length),
      ("namespaces", .nat s.namespaces.length),
      ("totalDeclarations", .nat s.declarations.length)])]

end Scan
end DocExamples
