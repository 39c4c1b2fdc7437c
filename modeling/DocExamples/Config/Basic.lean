/-
# Configurations

A configuration has four sections, and whatever it leaves out has a default. Variables of the
environment override single fields. A configuration is valid if every test has some time, the
patterns of excluded paths can be read and the thresholds are percentages.
-/

import DocExamples.Coverage.Summary
import DocExamples.Decimal.Read
import DocExamples.Document.Record
import DocExamples.Environment
import DocExamples.Path
import DocExamples.Pattern.Parse

namespace DocExamples

/-- Where sources are found. -/
structure SourceConfig where
  directory : String := "."
  buildDirectory : Option String := none
  /-- Extensions of source files, without the dot. -/
  extensions : List String := ["cpp", "cxx", "cc", "c", "hpp", "hxx", "h"]
  /-- Patterns of paths that are left out. -/
  excludePatterns : List String := ["(^|[/\\\\])build[/\\\\]"]
deriving DecidableEq, Repr, Inhabited

/-- How tests are run. -/
structure RunConfig where
  timeoutMillis : Nat := 10000
  parallel : Bool := false
  verbose : Bool := false
deriving DecidableEq, Repr, Inhabited

/-- What is required of the coverage, and a tracefile that adds to it. -/
structure CoverageConfig where
  thresholds : Thresholds := {}
  tracefile : Option String := none
deriving Repr, Inhabited

/-- How examples are compiled. -/
structure CompilerConfig where
  command : String := "g++"
  flags : List String := ["-std=c++17"]
  /-- Headers that every program includes. -/
  includes : List String := []
  /-- The file that describes the project, if it has another name than the usual ones. -/
  projectFile : Option String := none
deriving DecidableEq, Repr, Inhabited

/-- The settings of a session. -/
structure Config where
  source : SourceConfig := {}
  run : RunConfig := {}
  coverage : CoverageConfig := {}
  compiler : CompilerConfig := {}
deriving Repr, Inhabited

namespace SourceConfig

/-- The build directory, below the sources unless set. -/
def buildDirectoryOrDefault (c : SourceConfig) : String :=
  c.buildDirectory.getD (String.ofList (Path.join c.directory.toList "build".toList))

def toDocument (c : SourceConfig) : Document :=
  .present [
    ("dir", some (.text c.directory)),
    ("build_dir", c.buildDirectory.map .text),
    ("extensions", some (.list (c.extensions.map .text))),
    ("exclude_patterns", some (.list (c.excludePatterns.map .text)))]

def ofDocument? (style : Document.Positional) (d : Document) : Option SourceConfig := do
  let r ← d.record? style ["dir", "build_dir", "extensions", "exclude_patterns"]
  let base : SourceConfig := {}
  return {
    directory := ← r.defaulted "dir" base.directory Document.text?
    buildDirectory := ← r.defaulted "build_dir" none (Document.optional? Document.text?)
    extensions := ← r.defaulted "extensions" base.extensions (Document.list? Document.text?)
    excludePatterns := ←
      r.defaulted "exclude_patterns" base.excludePatterns (Document.list? Document.text?) }

end SourceConfig

namespace RunConfig

def toDocument (c : RunConfig) : Document :=
  .table [
    ("timeout_ms", .nat c.timeoutMillis),
    ("parallel", .bool c.parallel),
    ("verbose", .bool c.verbose)]

def ofDocument? (style : Document.Positional) (d : Document) : Option RunConfig := do
  let r ← d.record? style ["timeout_ms", "parallel", "verbose"]
  let base : RunConfig := {}
  return {
    timeoutMillis := ← r.defaulted "timeout_ms" base.timeoutMillis (Document.bounded? UInt64.size)
    parallel := ← r.defaulted "parallel" base.parallel Document.bool?
    verbose := ← r.defaulted "verbose" base.verbose Document.bool? }

end RunConfig

namespace CoverageConfig

/-- The section as a table; no list stands for it. -/
def ofDocument? (d : Document) : Option CoverageConfig := do
  let .table _ := d | none
  let r ← d.record? .refused ("lcov" :: Metric.all.map (·.key))
  let threshold (m : Metric) : Option (Option Float) :=
    r.defaulted m.key none (Document.optional? Document.float?)
  return {
    thresholds := {
      lines := ← threshold .lines
      branches := ← threshold .branches
      functions := ← threshold .functions
      statements := ← threshold .statements }
    tracefile := ← r.defaulted "lcov" none (Document.optional? Document.text?) }

end CoverageConfig

namespace CompilerConfig

def toDocument (c : CompilerConfig) : Document :=
  .present [
    ("compiler", some (.text c.command)),
    ("flags", some (.list (c.flags.map .text))),
    ("includes", some (.list (c.includes.map .text))),
    ("project_file", c.projectFile.map .text)]

def ofDocument? (style : Document.Positional) (d : Document) : Option CompilerConfig := do
  let r ← d.record? style ["compiler", "flags", "includes", "project_file"]
  let base : CompilerConfig := {}
  return {
    command := ← r.defaulted "compiler" base.command Document.text?
    flags := ← r.defaulted "flags" base.flags (Document.list? Document.text?)
    includes := ← r.defaulted "includes" base.includes (Document.list? Document.text?)
    projectFile := ← r.defaulted "project_file" none (Document.optional? Document.text?) }

end CompilerConfig

/-- Why a configuration is refused. -/
inductive ConfigError where
  | unreadable
  | malformed
  | noTime
  | badPattern (pattern : String) (cause : PatternError)
  | badThreshold (metric : Metric) (value : Float)
deriving Repr

/-- The message, up to the account of a cause that is not told by the library itself. -/
def ConfigError.message : ConfigError → String
  | unreadable => "Failed to read config file: "
  | malformed => "Failed to parse config file: "
  | noTime => "Invalid configuration: run.timeout_ms must be positive"
  | badPattern p cause =>
    "Invalid configuration: source.exclude_patterns: " ++ p ++ ": " ++
      match cause with
      | .malformed => ""
      | .tooLarge =>
        "Compiled regex exceeds size limit of " ++ toString Pattern.sizeLimit ++ " bytes."
  | badThreshold m x =>
    "Invalid configuration: coverage." ++ m.key ++ " must be between 0 and 100, got " ++
      Decimal.plain x

namespace Config

def ofDocument? (style : Document.Positional) (d : Document) : Option Config := do
  let r ← d.record? style ["source", "run", "coverage", "backend"]
  return {
    source := ← r.defaulted "source" {} (SourceConfig.ofDocument? style)
    run := ← r.defaulted "run" {} (RunConfig.ofDocument? style)
    coverage := ← r.defaulted "coverage" {} CoverageConfig.ofDocument?
    compiler := ← r.defaulted "backend" {} (CompilerConfig.ofDocument? style) }

/-- A truth value in words. -/
def flag? (s : String) : Option Bool :=
  if s = "true" then some true else if s = "false" then some false else none

/-- The configuration with the fields that the environment sets. A variable whose value cannot be
read sets nothing. -/
def override (env : Environment) (c : Config) : Config :=
  let timeout := (env.text? "DOCKET_TIMEOUT_MS").bind fun s =>
    Decimal.bounded? UInt64.size s.toList
  let parallel := (env.text? "DOCKET_PARALLEL").bind flag?
  { c with
    source.directory := (env.text? "DOCKET_SOURCE_DIR").getD c.source.directory
    source.buildDirectory := (env.text? "DOCKET_BUILD_DIR").or c.source.buildDirectory
    run.timeoutMillis := timeout.getD c.run.timeoutMillis
    run.parallel := parallel.getD c.run.parallel
    compiler.command := (env.text? "DOCKET_COMPILER").getD c.compiler.command }

/-- Whether a number is within `0 … 100`. -/
def isPercentage (x : Float) : Bool := 0.0 ≤ x && x ≤ 100.0

/-- The first thing wrong with a configuration. -/
def fault? (c : Config) : Option ConfigError :=
  if c.run.timeoutMillis = 0 then some .noTime
  else
    (c.source.excludePatterns.findSome? fun p =>
      match Pattern.read p with
      | .ok _ => none
      | .error e => some (.badPattern p e)).or
    ((c.coverage.thresholds.configured.find? fun e => !isPercentage e.2).map fun e =>
      .badThreshold e.1 e.2)

/-- The configuration as the environment makes it, if it is valid. -/
def settle (env : Environment) (c : Config) : Except ConfigError Config :=
  let c := c.override env
  match c.fault? with
  | some e => .error e
  | none => .ok c

end Config
end DocExamples
