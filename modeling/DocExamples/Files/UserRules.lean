/-
# Rules of the user

A user has a file with rules on what is passed over in all repositories. Its path is set in one of
two configuration files, the one in the home directory going first, and has a default in the
directory of configurations. A tilde in it stands for the home directory.
-/

import DocExamples.Environment
import DocExamples.Files.Ignore
import DocExamples.Pattern.Parse

namespace DocExamples
namespace UserRules

/-- The directory of configurations. -/
def directory? (env : Environment) : Option (List Char) :=
  match env.path? "XDG_CONFIG_HOME", env.path? "HOME" with
  | some "", none | none, none => none
  | some "", some home | none, some home => some (Path.join home.toList ".config".toList)
  | some d, _ => some d.toList

/-- The line that sets the path: blanks may stand around its words, and quotes around the path,
which has no blank in it. -/
def setting : String :=
  let blank := "[\\t\\n\\x0b\\x0c\\r ]"
  let other := "([^\\t\\n\\x0b\\x0c\\r ]+?)"
  "(?im)^" ++ blank ++ "*excludesfile" ++ blank ++ "*=" ++ blank ++ "*\x22?" ++ blank ++ "*" ++
    other ++ blank ++ "*\x22?" ++ blank ++ "*$"

/-- The path that a configuration file sets. -/
def pathIn? (bytes : List UInt8) : Option (List Char) := do
  let pattern ← (Pattern.read setting).toOption
  let (start, stop) ← (← pattern.match? (Text.bytesAsChars bytes).toArray).capture? 1
  Text.decode? ((bytes.drop start).take (stop - start))

/-- A path with the home directory in the place of each tilde. -/
def withHome (env : Environment) (path : List Char) : List Char :=
  match env.path? "HOME" with
  | some home => path.flatMap fun c => if c == '~' then home.toList else [c]
  | none => path

/-- The path of the file with the rules. -/
def path? (files : FileTree) (env : Environment) : Option (List Char) :=
  let configured (file : Option (List Char)) : Option (List Char) := do
    let bytes ← files.bytes? (String.ofList (← file))
    return withHome env (← pathIn? bytes)
  let inHome := (env.path? "HOME").map fun h => Path.join h.toList ".gitconfig".toList
  let directory := directory? env
  ((configured inHome).or
    (configured (directory.map fun d => Path.join d "git/config".toList))).or
    (directory.map fun d => Path.join d "git/ignore".toList)

/-- The rules of the user. -/
def load (files : FileTree) (env : Environment) : List IgnoreRule :=
  match (path? files env).bind fun p => files.bytes? (String.ofList p) with
  | some bytes => IgnoreRule.ofBytes bytes
  | none => []

end UserRules
end DocExamples
