/-
# Fields

What words are cut into. Values that are not quoted are cut at separators, and a field with
wildcards stands for the paths that it matches, directory by directory; those whose name begins
with a dot only where the wildcard does.
-/

import DocExamples.Files.Tree
import DocExamples.Shell.State
import DocExamples.Shell.Wildcard

namespace DocExamples
namespace Shell

/-- Bytes of a field, each marked if it is quoted. -/
abbrev Marked := List (Char × Bool)

def marked (quoted : Bool) (cs : Bytes) : Marked := cs.map (·, quoted)

def unmarked (m : Marked) : Bytes := m.map (·.1)

/-- The fields of a word so far, in reverse, and the one that is being added to, if there is one. -/
structure Fields where
  done : List Marked := []
  current : Option Marked := none

namespace Fields

/-- Adds to the field at hand, or begins one. -/
def add (f : Fields) (m : Marked) : Fields := { f with current := some (f.current.getD [] ++ m) }

/-- Ends the field at hand. -/
def cut (f : Fields) : Fields :=
  match f.current with
  | some m => { done := m :: f.done, current := none }
  | none => f

/-- Adds a value that is cut at separators: blanks among them count together, and any other one
ends a field of its own. -/
def addSplit (f : Fields) (separators : Bytes) (cs : Bytes) : Fields :=
  cs.foldl (fun f c =>
    if !separators.contains c then f.add [(c, false)]
    else if c == ' ' || c == '\t' || c == '\n' then f.cut
    else (f.add []).cut) f

def toList (f : Fields) : List Marked := f.cut.done.reverse

end Fields

/-- The marked bytes between slashes. -/
def components : Marked → List Marked
  | [] => [[]]
  | b :: rest =>
    if b.1 == '/' then [] :: components rest
    else match components rest with
      | first :: more => (b :: first) :: more
      | [] => [[b]]

/-- The wildcard that marked bytes write down. -/
def wildcardOf (m : Marked) : Wildcard := Wildcard.ofMarked (m.length + 1) m

/-- The paths that go on from `front` as components say, in order. -/
def pathsFrom (files : FileTree) (front : Bytes) : List Marked → List Bytes
  | [] => []
  | m :: rest =>
    let directory := if front.isEmpty then "." else State.textOf front
    let step (name : Bytes) : List Bytes :=
      let path := front ++ name
      if rest.isEmpty then
        if name.isEmpty && files.isDirectory directory || files.contains (State.textOf path) then
          [path]
        else []
      else pathsFrom files (path ++ ['/']) rest
    let w := wildcardOf m
    if !Wildcard.isProper w then step (Wildcard.literal w)
    else match files.place? directory with
      | none => []
      | some p =>
        let dotted := m.head?.map (·.1) == some '.'
        let names := (files.namesIn p).map State.bytesOf
        let names := if dotted then ['.'] :: ['.', '.'] :: names else names
        let found := names.filter fun n =>
          Wildcard.matchesAll w n && (dotted || n.head? != some '.')
        let inner (n : Bytes) : Bool :=
          rest.isEmpty || files.isDirectory (State.textOf (front ++ n))
        ((found.filter inner).mergeSort fun a b => String.ofList a ≤ String.ofList b).flatMap step

/-- The arguments that a field stands for. -/
def argumentsOf (files : FileTree) (m : Marked) : List Bytes :=
  if Wildcard.isProper (wildcardOf m) then
    match pathsFrom files [] (components m) with
    | [] => [unmarked m]
    | paths => paths
  else [unmarked m]

end Shell
end DocExamples
