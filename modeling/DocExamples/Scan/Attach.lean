/-
# Attaching examples to declarations

An example documents the nearest declaration above it. Of several at the same distance the one
found first counts, and a declaration on the line of the example itself does not.
-/

import DocExamples.Example

namespace DocExamples
namespace Scan

/-- The nearest declaration so far: its position, and its distance, which has to be undercut. -/
structure Nearest where
  index : Option Nat := none
  distance : UInt32 := 4294967295
deriving DecidableEq, Repr

/-- Takes one more declaration into account. -/
def Nearest.consider (line : UInt32) (best : Nearest) (entry : Declaration × Nat) : Nearest :=
  if entry.1.line < line ∧ line - entry.1.line < best.distance then
    ⟨some entry.2, line - entry.1.line⟩
  else best

/-- The position of the nearest declaration above a line. -/
def nearestPreceding (line : UInt32) (ds : List Declaration) : Option Nat :=
  (ds.zipIdx.foldl (Nearest.consider line) {}).index

/-- The examples with their parents. -/
def attach (ds : List Declaration) (es : List Example) : List Example :=
  es.map fun e => { e with parent := nearestPreceding e.line ds }

/-- The declaration that an example documents. -/
def parentOf? (ds : List Declaration) (e : Example) : Option Declaration :=
  e.parent.bind fun i => ds[i]?

/-- The examples whose parent has the name and kind of a declaration. -/
def examplesFor (d : Declaration) (ds : List Declaration) (es : List Example) : List Example :=
  es.filter fun e => (parentOf? ds e).any fun parent => parent.sameAs d

end Scan
end DocExamples
