/-
# File trees

The files and directories that a program sees, with the directory it works in. A path is followed
from there, or from the root if it is absolute; all nodes on the way have to be directories.
-/

import DocExamples.Path
import DocExamples.Text.Utf8

namespace DocExamples

/-- A file or a directory. -/
inductive FileNode where
  | file (bytes : List UInt8) (executable : Bool)
  | directory
deriving DecidableEq, Repr, Inhabited

/-- The names from the root down to a node. A name is a text: nodes with names that are none are not
part of a tree. -/
abbrev Place := List String

/-- All nodes by their places, and the place of the working directory. -/
structure FileTree where
  nodes : List (Place × FileNode) := [([], .directory)]
  workingDirectory : Place := []
  /-- Directories that do not let their entries be listed. -/
  locked : List Place := []
deriving Repr, Inhabited

/-- Why a file cannot be read as a text. -/
inductive ReadError where
  | missing
  /-- It is a directory, or its bytes are no text. -/
  | unreadable
deriving DecidableEq, Repr

namespace FileTree

def nodeAt? (t : FileTree) (p : Place) : Option FileNode :=
  (t.nodes.find? (·.1 == p)).map (·.2)

def isDirectoryAt (t : FileTree) (p : Place) : Bool := t.nodeAt? p == some .directory

/-- Follows the pieces of a path from a place on. -/
def follow (t : FileTree) : (start : Place) → (pieces : List (List Char)) → Option Place
  | p, [] => some p
  | p, piece :: rest =>
    if !t.isDirectoryAt p then none
    else match Path.component? piece with
      | some (.normal name) => follow t (p ++ [String.ofList name]) rest
      | some .parent => follow t p.dropLast rest
      | _ => follow t p rest

/-- The place that a path leads to. There need not be a node, but its directory exists. -/
def place? (t : FileTree) (path : String) : Option Place :=
  match path.toList with
  | [] => none
  | '/' :: rest => t.follow [] (Text.splitOn '/' rest)
  | cs => t.follow t.workingDirectory (Text.splitOn '/' cs)

def node? (t : FileTree) (path : String) : Option FileNode := (t.place? path).bind t.nodeAt?

def contains (t : FileTree) (path : String) : Bool := (t.node? path).isSome

def isFile (t : FileTree) (path : String) : Bool :=
  match t.node? path with
  | some (.file ..) => true
  | _ => false

def isDirectory (t : FileTree) (path : String) : Bool := t.node? path == some .directory

def bytes? (t : FileTree) (path : String) : Option (List UInt8) :=
  match t.node? path with
  | some (.file bytes _) => some bytes
  | _ => none

/-- The text of a file. -/
def readText (t : FileTree) (path : String) : Except ReadError String :=
  match t.node? path with
  | none => .error .missing
  | some .directory => .error .unreadable
  | some (.file bytes _) =>
    match Text.decode? bytes with
    | some cs => .ok (String.ofList cs)
    | none => .error .unreadable

/-- Puts a node at a place. -/
def setAt (t : FileTree) (p : Place) (n : FileNode) : FileTree :=
  { t with nodes := (t.nodes.filter (·.1 != p)) ++ [(p, n)] }

/-- Writes a file, in place of the one there; refused if there is a directory, or none for the
file to be in. A file that was there stays executable if it was. -/
def write? (t : FileTree) (path : String) (bytes : List UInt8) : Option FileTree :=
  (t.place? path).bind fun p =>
    match t.nodeAt? p with
    | some .directory => none
    | some (.file _ executable) => some (t.setAt p (.file bytes executable))
    | none => if t.isDirectoryAt p.dropLast then some (t.setAt p (.file bytes false)) else none

/-- Removes a file. -/
def removeFile (t : FileTree) (path : String) : FileTree :=
  match t.place? path, t.isFile path with
  | some p, true => { t with nodes := t.nodes.filter (·.1 != p) }
  | _, _ => t

/-- Removes a node with everything below it. -/
def removeAll (t : FileTree) (path : String) : FileTree :=
  match t.place? path with
  | some p => { t with nodes := t.nodes.filter fun n => !p.isPrefixOf n.1 }
  | none => t

/-- Makes a file executable, or no longer so. -/
def setExecutable (t : FileTree) (path : String) (executable : Bool) : FileTree :=
  match t.place? path, t.node? path with
  | some p, some (.file bytes _) => t.setAt p (.file bytes executable)
  | _, _ => t

/-- Makes a directory where there is nothing yet. -/
def makeDirectory? (t : FileTree) (path : String) : Option FileTree :=
  (t.place? path).bind fun p =>
    if (t.nodeAt? p).isNone && t.isDirectoryAt p.dropLast then some (t.setAt p .directory)
    else none

/-- The absolute path of a place. -/
def absolute (p : Place) : String := "/" ++ "/".intercalate p

/-- Makes the directories that lead to a place. -/
def makeDirectories (t : FileTree) : (done : Place) → (rest : Place) → FileTree
  | done, [] => if (t.nodeAt? done).isSome then t else t.setAt done .directory
  | done, name :: rest =>
    let t := if (t.nodeAt? done).isSome then t else t.setAt done .directory
    makeDirectories t (done ++ [name]) rest

/-- Puts a node at a path below the working directory and makes the directories it is in. -/
def plant (t : FileTree) (path : String) (n : FileNode) : FileTree :=
  let p := t.workingDirectory ++ (Path.components path.toList).filterMap fun c =>
    match c with
    | .normal name => some (String.ofList name)
    | _ => none
  match n with
  | .directory => t.makeDirectories [] p
  | .file .. => (t.makeDirectories [] p.dropLast).setAt p n

/-- The names of the nodes in a directory. -/
def namesIn (t : FileTree) (p : Place) : List String :=
  t.nodes.filterMap fun (q, _) => if q.dropLast == p && q != [] then q.getLast? else none

/-- A tree with an empty working directory below the root. -/
def scratch : FileTree :=
  { nodes := [([], .directory), (["tmp"], .directory), (["scratch"], .directory)]
    workingDirectory := ["scratch"] }

end FileTree
end DocExamples
