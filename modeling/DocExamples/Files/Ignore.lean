/-
# Ignored files

Files named `.ignore` say what is passed over in their directory and below, one rule a line; the
last rule that matches decides. Within a repository the files `.gitignore` and its list of
exclusions do so too, but those of other names go first. A rule in a directory overrules the rules
further up, and a rule may also take something back. Rules of the user come last, and apply within
repositories only. What no rule is about is passed over if its name begins with a dot.
-/

import DocExamples.Files.Glob
import DocExamples.Files.Tree
import DocExamples.Text.Blank
import DocExamples.Text.Lines

namespace DocExamples

/-- One line of a file with rules. -/
structure IgnoreRule where
  glob : Glob
  /-- The rule takes back what others say. -/
  negated : Bool
  directoriesOnly : Bool

namespace IgnoreRule

/-- The text of a glob as it applies to whole paths: without a slash inside it matches in every
directory, and two stars at the end match what is in a directory, not the directory. -/
def globText (anchored : Bool) (text : List Char) : List Char :=
  let text :=
    if anchored || text.contains '/' || text == ['*', '*'] then text
    else '*' :: '*' :: '/' :: text
  if ['/', '*', '*'].isSuffixOf text then text ++ ['/', '*'] else text

/-- The text of a rule without a slash at its end, and whether there was one. -/
def cutSlash (text : List Char) : List Char × Bool :=
  match text.reverse with
  | '/' :: '\x5c' :: rest => (rest.reverse, true)
  | '/' :: rest => (rest.reverse, true)
  | _ => (text, false)

/-- The rule on a line; comments and empty lines hold none. -/
def ofLine? (line : List Char) : Option IgnoreRule :=
  let text := if ['\x5c', ' '].isSuffixOf line then line else Text.trimRight line
  match line.head? == some '#' || text.isEmpty with
  | true => none
  | false =>
    let (negated, anchored, text) := match text with
      | '\x5c' :: '!' :: rest => (false, false, '!' :: rest)
      | '\x5c' :: '#' :: rest => (false, false, '#' :: rest)
      | '!' :: '/' :: rest => (true, true, rest)
      | '!' :: rest => (true, false, rest)
      | '/' :: rest => (false, true, rest)
      | _ => (false, false, text)
    let (text, directoriesOnly) := cutSlash text
    (Glob.read? (globText anchored text)).map fun glob => { glob, negated, directoriesOnly }

/-- The rules of a file, up to the first line that is no text. -/
def ofBytes (bytes : List UInt8) : List IgnoreRule :=
  let readable := (Text.decodeRuns bytes).takeWhile Option.isSome
  let cs := readable.filterMap id
  let whole := (Text.decode? bytes).isSome
  let lines := Text.lines (cs.dropWhile (· == '\ufeff'))
  let complete := if whole then lines else (lines.take (cs.count '\n'))
  complete.filterMap ofLine?

/-- What rules say about a path as seen from their directory: whether it is passed over. -/
def verdict? (rules : List IgnoreRule) (path : List Char) (isDirectory : Bool) : Option Bool :=
  (rules.reverse.find? fun r =>
    (isDirectory || !r.directoriesOnly) && Glob.matchesPath r.glob path).map fun r => !r.negated

end IgnoreRule

namespace FileTree

/-- The rules in a file below a place, none if there is no such file. -/
def rulesIn (t : FileTree) (p : Place) (names : List String) : List IgnoreRule :=
  match t.nodeAt? (p ++ names) with
  | some (.file bytes _) => IgnoreRule.ofBytes bytes
  | _ => []

/-- Whether the repository of a directory is rooted there. -/
def isRepository (t : FileTree) (p : Place) : Bool :=
  [".git", ".jj"].any fun name => (t.nodeAt? (p ++ [name])).isSome

/-- The first line of a file, which is a text. -/
def firstLine? (bytes : List UInt8) : Option (List Char) := do
  guard (!bytes.isEmpty)
  let line ← Text.decode? (bytes.takeWhile (· != 10))
  return if bytes.contains 10 && line.getLast? == some '\r' then line.dropLast else line

/-- The list of exclusions of a repository. A file in the place of its directory names the
directory of a work tree, in which another file names the common one, relative to it if the name
begins with a dot. -/
def exclusions? (t : FileTree) (p : Place) : Option (List UInt8) :=
  match t.nodeAt? (p ++ [".git"]) with
  | some (.file bytes _) => do
    let worktree ← Text.after? "gitdir: ".toList (← firstLine? bytes)
    let pointer ← t.bytes? (String.ofList (Path.join worktree "commondir".toList))
    let common ← firstLine? pointer
    let directory := if common.head? == some '.' then Path.join worktree common else common
    t.bytes? (String.ofList (Path.join directory "info/exclude".toList))
  | _ =>
    match t.nodeAt? (p ++ [".git", "info", "exclude"]) with
    | some (.file bytes _) => some bytes
    | _ => none

/-- The directories from the one that holds a place up to the root. -/
def directoriesAbove (p : Place) : List Place :=
  (List.range p.length).reverse.map fun n => p.take n

/-- The directories up to the first root of a repository, none if there is no such root. -/
def directoriesInRepository (t : FileTree) (ds : List Place) : List Place :=
  if ds.any t.isRepository then
    let outside := (ds.dropWhile fun d => !t.isRepository d).drop 1
    ds.take (ds.length - outside.length)
  else []

/-- What the rules of directories say about a place, those nearest to it first. -/
def verdictOf? (t : FileTree) (ds : List Place) (rules : Place → List IgnoreRule) (p : Place) :
    Option Bool :=
  ds.findSome? fun d =>
    let path := ("/".intercalate (p.drop d.length)).toList
    IgnoreRule.verdict? (rules d) path (t.isDirectoryAt p)

/-- A path as the rules of the user see it: from the working directory, if it is in there. -/
def seen (t : FileTree) (path : List Char) : List Char :=
  let path := (Text.after? ['.', '/'] path).getD path
  (Text.after? (absolute t.workingDirectory ++ "/").toList path).getD path

/-- Whether a place is passed over by itself, met under a path. -/
def isIgnored (t : FileTree) (common : List IgnoreRule) (path : List Char) (p : Place) : Bool :=
  let ds := directoriesAbove p
  let repository := t.directoriesInRepository ds
  let own := if repository.isEmpty then none
    else IgnoreRule.verdict? common (t.seen path) (t.isDirectoryAt p)
  let excluded (d : Place) : List IgnoreRule :=
    ((t.exclusions? d).map IgnoreRule.ofBytes).getD []
  let verdict := (((t.verdictOf? ds (t.rulesIn · [".ignore"]) p).or
    (t.verdictOf? repository (t.rulesIn · [".gitignore"]) p)).or
    (t.verdictOf? repository excluded p)).or own
  verdict.getD ((p.getLast?.map fun name => name.startsWith ".").getD false)

/-- The path of a place below the directory `start`, which is reached by `path`. -/
def pathBelow (path : String) (start p : Place) : List Char :=
  Path.join path.toList ("/".intercalate (p.drop start.length)).toList

/-- Whether a place below a directory is met when walking from there: neither it nor a directory
on the way to it is ignored. -/
def isWalked (t : FileTree) (common : List IgnoreRule) (path : String) (start p : Place) : Bool :=
  start.isPrefixOf p &&
    (List.range' (start.length + 1) (p.length - start.length)).all fun n =>
      !t.isIgnored common (pathBelow path start (p.take n)) (p.take n)

/-- The paths of the files met when walking from a path; a file is met right there. The rules of
the user are given. -/
def walk (t : FileTree) (common : List IgnoreRule) (path : String) : List String :=
  match t.place? path with
  | none => []
  | some start =>
    if t.isFile path then [path]
    else t.nodes.filterMap fun (p, n) =>
      match n with
      | .directory => none
      | .file .. =>
        if t.isWalked common path start p then some (String.ofList (pathBelow path start p))
        else none

/-- Whether a walk from a path comes to a directory that it cannot list. -/
def walkFails (t : FileTree) (common : List IgnoreRule) (path : String) : Bool :=
  (t.place? path).any fun start =>
    t.locked.any fun p => t.isDirectoryAt p && t.isWalked common path start p

end FileTree
end DocExamples
