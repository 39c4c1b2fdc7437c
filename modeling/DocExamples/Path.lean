/-
# Paths

A path is a text whose components are separated by slashes. Repeated slashes, a slash at the end
and single dots after the start add no components. The name of a file is its last component,
unless that is the root or a dot or two; its extension is what follows the last dot of the name,
unless that dot comes first.
-/

import DocExamples.Text.Search

namespace DocExamples

/-- One step of a path. -/
inductive Component where
  | root
  /-- The single dot at the start of a path. -/
  | current
  | parent
  | normal (name : List Char)
deriving DecidableEq, Repr

namespace Path

/-- The component that a piece between slashes stands for, if it stands for one. -/
def component? (piece : List Char) : Option Component :=
  match piece with
  | [] | ['.'] => none
  | ['.', '.'] => some .parent
  | name => some (.normal name)

/-- The components of a path. -/
def components (path : List Char) : List Component :=
  let start : List Component := match path, Text.splitOn '/' path with
    | '/' :: _, _ => [.root]
    | _, ['.'] :: _ => [.current]
    | _, _ => []
  start ++ (Text.splitOn '/' path).filterMap component?

/-- Whether the path starts at the root. -/
def isAbsolute (path : List Char) : Bool := path.head? == some '/'

/-- The name of the file at the end of the path. -/
def fileName? (path : List Char) : Option (List Char) :=
  match (components path).getLast? with
  | some (.normal name) => some name
  | _ => none

/-- A file name cut at the last dot, unless that is its first character. -/
def cutName (name : List Char) : List Char × Option (List Char) :=
  match Text.cutLast? '.' name with
  | some ([], _) | none => (name, none)
  | some (stem, extension) => (stem, some extension)

/-- What follows the last dot of the file name. -/
def extension? (path : List Char) : Option (List Char) :=
  (fileName? path).bind fun name => (cutName name).2

/-- The path without slashes and single dots after its last component, given in reverse. -/
def dropTail : List Char → List Char
  | '/' :: rest => dropTail rest
  | '.' :: '/' :: rest => dropTail ('/' :: rest)
  | rest => rest
termination_by cs => cs.length

/-- The path with another extension, or unchanged if it ends in no file name. -/
def withExtension (path : List Char) (extension : List Char) : List Char :=
  match fileName? path with
  | none => path
  | some name =>
    let whole := (dropTail path.reverse).reverse
    whole.take (whole.length - name.length) ++ (cutName name).1 ++ '.' :: extension

/-- Whether the components of `tail` are the last ones of `path`. -/
def endsWith (path tail : List Char) : Bool :=
  (components tail).isSuffixOf (components path)

/-- The path `tail` as seen from `base`. -/
def join (base tail : List Char) : List Char :=
  if isAbsolute tail || base.isEmpty then tail
  else if base.getLast? == some '/' then base ++ tail
  else base ++ '/' :: tail

/-- The file name of a path, or the whole path if it has none. -/
def baseName (path : String) : String :=
  ((fileName? path.toList).map String.ofList).getD path

/-- The path without one dot and slash at its start. -/
def normalized (path : String) : String := (Text.afterText? "./" path).getD path

/-- The place of a component in the order of components of different sorts. -/
def Component.rank : Component → Nat
  | .root => 0
  | .current => 1
  | .parent => 2
  | .normal _ => 3

/-- Whether one component comes before another. -/
def componentLt (a b : Component) : Bool :=
  match a, b with
  | .normal x, .normal y => x < y
  | a, b => Component.rank a < Component.rank b

/-- Whether one path does not come after another, component by component. -/
def le : List Component → List Component → Bool
  | [], _ => true
  | _ :: _, [] => false
  | a :: as, b :: bs => componentLt a b || (!componentLt b a && le as bs)

end Path
end DocExamples
