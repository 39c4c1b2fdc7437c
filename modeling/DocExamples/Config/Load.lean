/-
# Loading configurations

A configuration comes from the first file there is: the one of the project, then the one of the
user. Without either it has all defaults.
-/

import DocExamples.Config.Basic
import DocExamples.Document.Toml
import DocExamples.Files.Tree
import DocExamples.Text.Lines

namespace DocExamples
namespace Config

/-- The name of the configuration file of a project. -/
def fileName : String := "docket.toml"

/-- The configuration file of a user with a home directory. Another directory of configurations
counts only if its path is absolute. -/
def userFile (env : Environment) (home : String) : String :=
  let directory := match env.path? "XDG_CONFIG_HOME" with
    | some d => if d.startsWith "/" then d.toList else Path.join home.toList ".config".toList
    | none => Path.join home.toList ".config".toList
  String.ofList (Path.join directory "docket/config.toml".toList)

/-- The configuration that the text of a file sets. -/
def ofText? (text : String) : Option Config := (Document.ofToml? text).bind (ofDocument? .atLeast)

/-- Loads a configuration from a file. -/
def fromFile (files : FileTree) (env : Environment) (path : String) : Except ConfigError Config :=
  match files.readText path with
  | .error _ => .error .unreadable
  | .ok text =>
    match ofText? text with
    | none => .error .malformed
    | some c => c.settle env

/-- Loads the configuration of the working directory, with a home directory. -/
def load (files : FileTree) (env : Environment) (home : String) : Except ConfigError Config :=
  let candidates := [fileName, userFile env home]
  match candidates.find? files.contains with
  | some path => fromFile files env path
  | none => ({} : Config).settle env

/-- The text of a configuration file that spells out all defaults. -/
def defaultText : String := Text.joinLines [
  "[source]",
  "dir = \".\"",
  "extensions = [",
  "    \"cpp\",",
  "    \"cxx\",",
  "    \"cc\",",
  "    \"c\",",
  "    \"hpp\",",
  "    \"hxx\",",
  "    \"h\",",
  "]",
  "exclude_patterns = ['(^|[/\\\\])build[/\\\\]']",
  "",
  "[run]",
  "timeout_ms = 10000",
  "parallel = false",
  "verbose = false",
  "",
  "[coverage]",
  "",
  "[backend]",
  "compiler = \"g++\"",
  "flags = [\"-std=c++17\"]",
  "includes = []",
  ""]

end Config
end DocExamples
