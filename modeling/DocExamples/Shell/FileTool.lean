/-
# Tools on files

The programs that make, move, list and remove files and directories.
-/

import DocExamples.Shell.Field
import DocExamples.Shell.Tool

namespace DocExamples
namespace Shell
namespace FileTool

open Tool (Run Options str withOptions usage each replaceFile)

/-- A complaint about a path that does not exist. -/
def missing (tool what : String) (path : Bytes) (s : State) : State :=
  s.complain (tool ++ ": " ++ what ++ " '" ++ str path ++ "': No such file or directory") 1

/-- Does something with each operand; at least one is needed. -/
def withOperands (tool : String) (o : Options) (f : Bytes → State → State) (s : State) : State :=
  if o.operands.isEmpty then usage tool "missing operand" 1 s else each o.operands f s

/-! ## Modes -/

/-- What one clause of a mode says about running a file: whether it may be run then, if it changes
that. -/
def clauseRuns? (clause : Bytes) : Option (Option Bool) :=
  match clause.dropWhile fun c => "ugoa".contains c with
  | sign :: letters =>
    if !(['+', '-', '='].contains sign) || !letters.all fun c => "rwxXstugo".contains c then none
    else if letters.contains 'x' then some (some (sign != '-'))
    else some (if sign == '=' then some false else none)
  | [] => none

/-- What a mode says about running a file, none if it is no mode. -/
def modeRuns? (mode : Bytes) : Option (Option Bool) :=
  if !mode.isEmpty && mode.all Numeral.isOctal then
    some (some (mode.any fun c => Numeral.digit c % 2 = 1))
  else (Text.splitOn ',' mode).foldl (fun found clause =>
    found.bind fun before => (clauseRuns? clause).map fun after => after.or before) (some none)

/-- The nodes at a path and below it. -/
def below (path : Bytes) (s : State) : List (Place × FileNode) :=
  match s.files.place? (str path) with
  | some p => s.files.nodes.filter fun n => p.isPrefixOf n.1
  | none => []

def chmod : Run := fun args s =>
  let recursive := args.contains ['-', 'R']
  let s := s.finish 0
  match args.filter fun a => !(["-R", "-v", "-f", "-c", "--"].contains (str a)) with
  | [] => usage "chmod" "missing operand" 1 s
  | [mode] => usage "chmod" ("missing operand after '" ++ str mode ++ "'") 1 s
  | mode :: files =>
    match modeRuns? mode with
    | none => usage "chmod" ("invalid mode: '" ++ str mode ++ "'") 1 s
    | some none => s
    | some (some runs) =>
      each files (fun f s =>
        if !s.files.contains (str f) then missing "chmod" "cannot access" f s
        else
          let paths := if recursive then (below f s).map fun n => FileTree.absolute n.1
            else [str f]
          { s with files := paths.foldl (·.setExecutable · runs) s.files }) s

/-! ## Removing and making -/

def rm : Run := withOptions "rm" "rRfvid" "" 1 fun o s =>
  if o.operands.isEmpty && o.has 'f' then s
  else withOperands "rm" o (fun f s =>
    let refused (why : String) : State :=
      s.complain ("rm: cannot remove '" ++ str f ++ "': " ++ why) 1
    let said (s : State) (what : String) : State :=
      if o.has 'v' then s.print (State.bytesOf ("removed " ++ what ++ "'" ++ str f ++ "'\n"))
      else s
    if !s.files.contains (str f) then
      if o.has 'f' then s else refused "No such file or directory"
    else if s.files.isDirectory (str f) then
      if o.has 'r' || o.has 'R' then
        said { s with files := s.files.removeAll (str f) } "directory "
      else refused "Is a directory"
    else said { s with files := s.files.removeFile (str f) } "") s

def rmdir : Run := withOptions "rmdir" "pv" "" 1 fun o s =>
  withOperands "rmdir" o (fun d s =>
    let refused (why : String) : State :=
      s.complain ("rmdir: failed to remove '" ++ str d ++ "': " ++ why) 1
    if !s.files.contains (str d) then refused "No such file or directory"
    else if !s.files.isDirectory (str d) then refused "Not a directory"
    else if (below d s).length > 1 then refused "Directory not empty"
    else { s with files := s.files.removeAll (str d) }) s

/-- The paths that lead to a path, the shortest first and the path itself last. -/
def leading (path : Bytes) : List Bytes :=
  let parts := Text.splitOn '/' path
  (List.range parts.length).map fun n => ['/'].intercalate (parts.take (n + 1))

def mkdir : Run := withOptions "mkdir" "pv" "m" 1 fun o s =>
  withOperands "mkdir" o (fun d s =>
    let refused (why : String) : State :=
      s.complain ("mkdir: cannot create directory '" ++ str d ++ "': " ++ why) 1
    if o.has 'p' then
      let files := (leading d).foldl (fun (files : FileTree) p =>
        (files.makeDirectory? (str p)).getD files) s.files
      if files.isDirectory (str d) then { s with files }
      else if s.files.isFile (str d) then refused "File exists"
      else refused "Not a directory"
    else match s.files.makeDirectory? (str d) with
      | some files => { s with files }
      | none =>
        if s.files.contains (str d) then refused "File exists"
        else refused "No such file or directory") s

def touch : Run := withOptions "touch" "acmfh" "dtr" 1 fun o s =>
  if o.operands.isEmpty then usage "touch" "missing file operand" 1 s
  else each o.operands (fun f s =>
    if s.files.contains (str f) || o.has 'c' then s
    else (replaceFile f [] s).getD (missing "touch" "cannot touch" f s)) s

/-! ## Copying and moving -/

/-- The path that something is copied to: inside the target if that is a directory. -/
def destination (source target : Bytes) (s : State) : Bytes :=
  if s.files.isDirectory (str target) then
    Path.join target ((Path.fileName? source).getD source)
  else target

/-- Copies a node with everything below it, if there is a place for it. -/
def copyAll? (source target : Bytes) (s : State) : Option State := do
  let p ← s.files.place? (str source)
  let q ← s.files.place? (str target)
  if !s.files.isDirectoryAt q.dropLast then none
  let copied := (below source s).map fun (r, n) => (q ++ r.drop p.length, n)
  return { s with files := copied.foldl (fun files (r, n) => files.setAt r n) s.files }

/-- Copies one source to a target. -/
def copyOne (recursive : Bool) (target source : Bytes) (s : State) : State :=
  match s.files.node? (str source) with
  | none => missing "cp" "cannot stat" source s
  | some n =>
    let target := destination source target s
    if n == .directory && !recursive then
      s.complain ("cp: -r not specified; omitting directory '" ++ str source ++ "'") 1
    else if s.files.place? (str source) == s.files.place? (str target) then
      s.complain ("cp: '" ++ str source ++ "' and '" ++ str target ++ "' are the same file") 1
    else (copyAll? source target s).getD (missing "cp" "cannot create regular file" target s)

/-- Moves one source to a target. -/
def moveOne (target source : Bytes) (s : State) : State :=
  if !s.files.contains (str source) then missing "mv" "cannot stat" source s
  else
    let target := destination source target s
    if s.files.place? (str source) == s.files.place? (str target) then
      s.complain ("mv: '" ++ str source ++ "' and '" ++ str target ++ "' are the same file") 1
    else match copyAll? source target s with
      | some s => { s with files := s.files.removeAll (str source) }
      | none =>
        s.complain ("mv: cannot move '" ++ str source ++ "' to '" ++ str target ++
          "': No such file or directory") 1

/-- Does something with several sources and the last operand, which is the target. -/
def toTarget (tool : String) (f : (target source : Bytes) → State → State) (o : Options)
    (s : State) : State :=
  match o.operands.reverse with
  | [] => usage tool "missing file operand" 1 s
  | [only] => usage tool ("missing destination file operand after '" ++ str only ++ "'") 1 s
  | target :: sources =>
    if sources.length > 1 && !s.files.isDirectory (str target) then
      let why := if s.files.contains (str target) then "Not a directory"
        else "No such file or directory"
      s.complain (tool ++ ": target '" ++ str target ++ "': " ++ why) 1
    else each sources.reverse (f target) s

def cp : Run := withOptions "cp" "rRapfvinT" "t" 1 fun o s =>
  toTarget "cp" (copyOne (o.has 'r' || o.has 'R' || o.has 'a')) o s

def mv : Run := withOptions "mv" "fvinT" "t" 1 fun o s => toTarget "mv" moveOne o s

/-! ## Listing -/

def sorted (names : List Bytes) : List Bytes :=
  names.mergeSort fun a b => String.ofList a ≤ String.ofList b

/-- The names in a directory that are shown. -/
def namesShown (o : Options) (path : Bytes) (s : State) : List Bytes :=
  match s.files.place? (str path) with
  | some p =>
    let names := sorted ((s.files.namesIn p).map State.bytesOf)
    if o.has 'a' then ['.'] :: ['.', '.'] :: names
    else if o.has 'A' then names
    else names.filter fun n => n.head? != some '.'
  | none => []

def ls : Run := withOptions "ls" "1aAdlFrRtSChinpGg" "" 2 fun o s =>
  let order (names : List Bytes) : List Bytes := if o.has 'r' then names.reverse else names
  let paths := if o.operands.isEmpty then [['.']] else order (sorted o.operands)
  let (found, gone) := paths.partition fun p => s.files.contains (str p)
  let (directories, files) := found.partition fun p =>
    s.files.isDirectory (str p) && !o.has 'd'
  let s := gone.foldl (fun s p =>
    s.complain ("ls: cannot access '" ++ str p ++ "': No such file or directory") 2) s
  let marked (directory name : Bytes) : Bytes :=
    let path := str (if directory.isEmpty then name else Path.join directory name)
    if (o.has 'F' || o.has 'p') && s.files.isDirectory path then name ++ ['/']
    else if o.has 'F' && Tool.isExecutable path s then name ++ ['*']
    else name
  let listing (p : Bytes) : Bytes :=
    (if paths.length > 1 then p ++ [':', '\n'] else []) ++
      withEnds ((order (namesShown o p s)).map (marked p))
  let blocks :=
    (if files.isEmpty then [] else [withEnds (files.map (marked []))]) ++ directories.map listing
  s.print (['\n'].intercalate blocks)

/-- What is looked for among files. -/
structure Search where
  starts : List Bytes := []
  name : Option Bytes := none
  path : Option Bytes := none
  kind : Option Char := none
  depth : Option Nat := none
  least : Nat := 0

/-- A test with a value. -/
def Search.withValue? (f : Search) (name : String) (value : Bytes) : Option Search :=
  match name with
  | "-name" => some { f with name := some value }
  | "-path" => some { f with path := some value }
  | "-type" => some { f with kind := value.head? }
  | "-maxdepth" => some { f with depth := some (Decimal.ofDigits value) }
  | "-mindepth" => some { f with least := Decimal.ofDigits value }
  | _ => none

/-- A place where the search begins, or a test without a value. -/
def Search.word (f : Search) (a : Bytes) : Except String Search :=
  if str a == "-print" then .ok f
  else if a.head? == some '-' then
    if (f.withValue? (str a) []).isSome then .error ("missing argument to '" ++ str a ++ "'")
    else .error ("unknown predicate '" ++ str a ++ "'")
  else .ok { f with starts := f.starts ++ [a] }

/-- Reads what is looked for: where it begins, and then the tests. -/
def Search.read : List Bytes → Search → Except String Search
  | [], f => .ok f
  | [a], f => f.word a
  | a :: b :: rest, f =>
    match f.withValue? (str a) b with
    | some f => Search.read rest f
    | none => do Search.read (b :: rest) (← f.word a)

def find : Run := fun args s =>
  let s := s.finish 0
  match Search.read args {} with
  | .error message => s.complain ("find: " ++ message) 1
  | .ok f =>
    each (if f.starts.isEmpty then [['.']] else f.starts) (fun start s =>
      match s.files.place? (str start), s.files.contains (str start) with
      | some p, true =>
        let shown := (below start s).filterMap fun (q, n) =>
          let inner := q.drop p.length
          let path := inner.foldl (fun path name => Path.join path (State.bytesOf name)) start
          let name := (inner.getLast?.map State.bytesOf).getD start
          let matching (w : Option Bytes) (cs : Bytes) : Bool :=
            w.all fun w => Wildcard.matchesAll (wildcardOf (marked false w)) cs
          let kind := if n == .directory then 'd' else 'f'
          if matching f.name name && matching f.path path && f.kind.all (· == kind) &&
              f.depth.all (inner.length ≤ ·) && f.least ≤ inner.length then some path
          else none
        s.print (withEnds shown)
      | _, _ => s.complain ("find: '" ++ str start ++ "': No such file or directory") 1) s

/-! ## Names -/

/-- The last part of a path, without slashes behind it. -/
def lastName (path : Bytes) : Bytes :=
  let stripped := (path.reverse.dropWhile (· == '/')).reverse
  if stripped.isEmpty then path.take 1
  else (stripped.reverse.takeWhile (· != '/')).reverse

def withoutEnding (ending name : Bytes) : Bytes :=
  if ending.isSuffixOf name && ending != name then name.take (name.length - ending.length) else name

def basename : Run := withOptions "basename" "az" "s" 1 fun o s =>
  let shown (ending : Bytes) (paths : List Bytes) : State :=
    s.print (withEnds (paths.map fun p => withoutEnding ending (lastName p)))
  match o.operands with
  | [] => usage "basename" "missing operand" 1 s
  | path :: rest =>
    if o.has 'a' || o.has 's' then shown ((o.value? 's').getD []) o.operands
    else match rest with
      | [] => shown [] [path]
      | [ending] => shown ending [path]
      | _ :: extra :: _ => usage "basename" ("extra operand '" ++ str extra ++ "'") 1 s

/-- A path without its last part. -/
def directoryName (path : Bytes) : Bytes :=
  let stripped := (path.reverse.dropWhile (· == '/')).reverse
  let before := ((stripped.reverse.dropWhile (· != '/')).dropWhile (· == '/')).reverse
  if !before.isEmpty then before else if path.head? == some '/' then ['/'] else ['.']

def dirname : Run := withOptions "dirname" "z" "" 1 fun o s =>
  if o.operands.isEmpty then usage "dirname" "missing operand" 1 s
  else s.print (withEnds (o.operands.map directoryName))

/-! ## Other uses of files -/

/-- Writes the input to files and to the output. -/
def tee : Run := withOptions "tee" "aip" "" 1 fun o s =>
  let text := s.input
  let s := each o.operands (fun f s =>
    let kept := if o.has 'a' then (s.readFile? f).getD [] else []
    (replaceFile f (kept ++ text) s).getD
      (s.complain ("tee: " ++ str f ++ ": " ++ Tool.unreadable f s) 1)) s
  { s with input := [] }.print text

/-- Compares two files up to the first difference. -/
def cmp : Run := withOptions "cmp" "sbl" "n" 2 fun o s =>
  match if o.operands.length = 1 then o.operands ++ [['-']] else o.operands with
  | [a, b] =>
    let (texts, s) := Tool.inputs "cmp" [a, b] s
    match texts with
    | [(_, x), (_, y)] =>
      let same := ((x.zip y).takeWhile fun (c, d) => c == d).length
      if x == y then s
      else if o.has 's' then s.finish 1
      else if same = x.length || same = y.length then
        let shorter := if same = x.length then a else b
        let line := "line " ++ toString ((x.take same).count '\n' + 1)
        let line := if (x.take same).getLast? == some '\n' then
            "line " ++ toString ((x.take same).count '\n')
          else "in " ++ line
        s.complain ("cmp: EOF on " ++ str shorter ++
          (if same = 0 then " which is empty"
            else " after byte " ++ toString same ++ ", " ++ line)) 1
      else
        (s.print (State.bytesOf (str a ++ " " ++ str b ++ " differ: char " ++ toString (same + 1) ++
          ", line " ++ toString ((x.take same).count '\n' + 1) ++ "\n"))).finish 1
    | _ => s.finish 2
  | _ =>
    s.complain
      "cmp: missing operand after 'cmp'\ncmp: Try 'cmp --help' for more information." 2

/-- Shows the values of variables that programs get. -/
def printenv : Run := withOptions "printenv" "0" "" 2 fun o s =>
  let value (n : Bytes) : Option Bytes :=
    if s.exported.contains n then s.bindings.lookup n else none
  if o.operands.isEmpty then
    s.print (withEnds (s.exported.eraseDups.reverse.filterMap fun n =>
      (value n).map fun v => n ++ '=' :: v))
  else
    let found := o.operands.map value
    (s.print (withEnds (found.filterMap id))).finish (if found.all Option.isSome then 0 else 1)

/-- The tool of a name. -/
def named? (name : String) : Option Run :=
  match name with
  | "chmod" => some chmod
  | "rm" => some rm
  | "rmdir" => some rmdir
  | "mkdir" => some mkdir
  | "touch" => some touch
  | "cp" => some cp
  | "mv" => some mv
  | "ls" => some ls
  | "find" => some find
  | "basename" => some basename
  | "dirname" => some dirname
  | "tee" => some tee
  | "cmp" => some cmp
  | "printenv" => some printenv
  | _ => none

end FileTool
end Shell
end DocExamples
