/-
# Where settings come from

A setting comes from its variable, else from the first configuration file there is, else it is the
default (`Prevails`). Every section keeps to this when it is read, and overriding it by the
environment comes last (`Config.Follows.override`), so the environment and the document of that file
leave no choice (`Config.Follows.unique`). The faults of a configuration are looked for after that,
so what is loaded is exactly what follows its sources and can be used (`Config.load_eq_ok_iff`).
-/

import DocExamples.Config.Load
import DocExamples.Proofs.Config.Valid
import DocExamples.Proofs.Document.Record

namespace DocExamples

/-- The document in the first file there is out of some; none if there is none of them. -/
inductive FirstDocument (files : FileTree) : List String → Option Document → Prop
  | nowhere {paths : List String} (h : ∀ path ∈ paths, files.contains path = false) :
      FirstDocument files paths none
  | first {earlier later : List String} {path text : String} {d : Document}
      (hearlier : ∀ path ∈ earlier, files.contains path = false)
      (hpath : files.contains path = true) (htext : files.readText path = .ok text)
      (hd : Document.ofToml? text = some d) :
      FirstDocument files (earlier ++ path :: later) (some d)

namespace FirstDocument

variable {files : FileTree} {paths : List String} {d : Document}

theorem none_iff :
    FirstDocument files paths none ↔ paths.find? files.contains = none := by
  rw [List.find?_eq_none]
  constructor
  · rintro ⟨h⟩
    simpa using h
  · exact fun h => .nowhere (by simpa using h)

theorem some_iff : FirstDocument files paths (some d) ↔
    ∃ path text, paths.find? files.contains = some path ∧ files.readText path = .ok text ∧
      Document.ofToml? text = some d := by
  simp only [List.find?_eq_some_iff_append]
  constructor
  · intro h
    cases h with
    | first hearlier hpath htext hd =>
        exact ⟨_, _, ⟨hpath, _, _, rfl, by simpa using hearlier⟩, htext, hd⟩
  · rintro ⟨path, text, ⟨hpath, earlier, later, rfl, hearlier⟩, htext, hd⟩
    exact .first (by simpa using hearlier) hpath htext hd

end FirstDocument

/-! ### One setting -/

/-- What the value of a setting is: that of its variable if that is set, else what is read from a
document, else the default. -/
def Prevails {α : Type} (set? : Option α) (read : Document → Option α) (given? : Option Document)
    (default value : α) : Prop :=
  match set?, given? with
  | some x, _ => value = x
  | none, some d => read d = some value
  | none, none => value = default

namespace Prevails

variable {α : Type} {read : Document → Option α} {given? : Option Document} {default value : α}
  {style : Document.Positional} {names : List String} {name : String}
  {d : Document} {r : Document.Record Document}

/-- A field that may be left out of a record has the value of its setting. -/
theorem of_defaulted (hr : d.record? style names = some r) (hname : name ∈ names)
    (h : r.defaulted name default read = some value) :
    Prevails none read (d.given? names name) default value := by
  rw [← Document.get?_of_record? hr hname]
  cases hget : r.get? name with
  | none =>
      rw [Document.Record.defaulted_eq_of_none hget] at h
      exact (Option.some.inj h).symm
  | some v => exact (Document.Record.defaulted_eq_of_some hget).symm.trans h

theorem getD (set? : Option α) (h : Prevails none read given? default value) :
    Prevails set? read given? default (set?.getD value) := by
  cases set? with
  | none => exact h
  | some x => rfl

theorem unique {value' : α} {set? : Option α} (h : Prevails set? read given? default value)
    (h' : Prevails set? read given? default value') : value = value' := by
  cases set? with
  | some x => exact h.trans h'.symm
  | none =>
      cases given? with
      | some d => exact Option.some.inj (h.symm.trans h')
      | none => exact h.trans h'.symm

end Prevails

/-! ### Sections -/

/-- The sections of a configuration. -/
inductive ConfigSection where
  | source | run | coverage | compiler

namespace ConfigSection

def key : ConfigSection → String
  | source => "source"
  | run => "run"
  | coverage => "coverage"
  | compiler => "backend"

/-- The names of the fields. -/
def fields : ConfigSection → List String
  | source => ["dir", "build_dir", "extensions", "exclude_patterns"]
  | run => ["timeout_ms", "parallel", "verbose"]
  | coverage => "lcov" :: Metric.all.map (·.key)
  | compiler => ["compiler", "flags", "includes", "project_file"]

/-- What a document gives for a field of a section. -/
def given? (document : Option Document) (part : ConfigSection) (name : String) : Option Document :=
  (document.bind (·.given? ["source", "run", "coverage", "backend"] part.key)).bind
    (·.given? part.fields name)

end ConfigSection

variable {env : Environment} {given? : String → Option Document} {style : Document.Positional}
  {d : Document}

/-- The settings of the section of sources, from the environment and a document. -/
structure SourceConfig.Follows (env : Environment) (given? : String → Option Document)
    (c : SourceConfig) : Prop where
  directory : Prevails (env.text? "DOCKET_SOURCE_DIR") Document.text? (given? "dir")
    ({} : SourceConfig).directory c.directory
  buildDirectory : Prevails ((env.text? "DOCKET_BUILD_DIR").map some)
    (Document.optional? Document.text?) (given? "build_dir") none c.buildDirectory
  extensions : Prevails none (Document.list? Document.text?) (given? "extensions")
    ({} : SourceConfig).extensions c.extensions
  excludePatterns : Prevails none (Document.list? Document.text?) (given? "exclude_patterns")
    ({} : SourceConfig).excludePatterns c.excludePatterns

/-- The settings of the section of runs. -/
structure RunConfig.Follows (env : Environment) (given? : String → Option Document)
    (c : RunConfig) : Prop where
  timeoutMillis : Prevails
    ((env.text? "DOCKET_TIMEOUT_MS").bind fun s => Decimal.bounded? UInt64.size s.toList)
    (Document.bounded? UInt64.size) (given? "timeout_ms")
    ({} : RunConfig).timeoutMillis c.timeoutMillis
  parallel : Prevails ((env.text? "DOCKET_PARALLEL").bind Config.flag?) Document.bool?
    (given? "parallel") ({} : RunConfig).parallel c.parallel
  verbose : Prevails none Document.bool? (given? "verbose") ({} : RunConfig).verbose c.verbose

/-- The settings of the section of coverage, which no variable overrides. -/
structure CoverageConfig.Follows (given? : String → Option Document) (c : CoverageConfig) :
    Prop where
  thresholds : ∀ m : Metric, Prevails none (Document.optional? Document.float?) (given? m.key)
    none (c.thresholds.get? m)
  tracefile : Prevails none (Document.optional? Document.text?) (given? "lcov") none c.tracefile

/-- The settings of the section of the compiler. -/
structure CompilerConfig.Follows (env : Environment) (given? : String → Option Document)
    (c : CompilerConfig) : Prop where
  command : Prevails (env.text? "DOCKET_COMPILER") Document.text? (given? "compiler")
    ({} : CompilerConfig).command c.command
  flags : Prevails none (Document.list? Document.text?) (given? "flags")
    ({} : CompilerConfig).flags c.flags
  includes : Prevails none (Document.list? Document.text?) (given? "includes")
    ({} : CompilerConfig).includes c.includes
  projectFile : Prevails none (Document.optional? Document.text?) (given? "project_file") none
    c.projectFile

theorem SourceConfig.follows_of_ofDocument? {c : SourceConfig} (h : ofDocument? style d = some c) :
    c.Follows {} (d.given? ConfigSection.source.fields) := by
  simp only [ofDocument?, Option.bind_eq_bind, Option.bind_eq_some_iff, Option.pure_def,
    Option.some.injEq] at h
  obtain ⟨r, hr, directory, hdirectory, build, hbuild, extensions, hextensions, patterns,
    hpatterns, rfl⟩ := h
  exact ⟨.of_defaulted hr (by decide) hdirectory, .of_defaulted hr (by decide) hbuild,
    .of_defaulted hr (by decide) hextensions, .of_defaulted hr (by decide) hpatterns⟩

theorem RunConfig.follows_of_ofDocument? {c : RunConfig} (h : ofDocument? style d = some c) :
    c.Follows {} (d.given? ConfigSection.run.fields) := by
  simp only [ofDocument?, Option.bind_eq_bind, Option.bind_eq_some_iff, Option.pure_def,
    Option.some.injEq] at h
  obtain ⟨r, hr, timeout, htimeout, parallel, hparallel, verbose, hverbose, rfl⟩ := h
  exact ⟨.of_defaulted hr (by decide) htimeout, .of_defaulted hr (by decide) hparallel,
    .of_defaulted hr (by decide) hverbose⟩

theorem CoverageConfig.follows_of_ofDocument? {c : CoverageConfig} (h : ofDocument? d = some c) :
    c.Follows (d.given? ConfigSection.coverage.fields) := by
  cases d with
  | table entries =>
      simp only [ofDocument?, Option.bind_eq_bind, Option.bind_eq_some_iff, Option.pure_def,
        Option.some.injEq] at h
      obtain ⟨r, hr, lines, hlines, branches, hbranches, functions, hfunctions, statements,
        hstatements, tracefile, htracefile, rfl⟩ := h
      refine ⟨fun m => ?_, .of_defaulted hr (by decide) htracefile⟩
      cases m with
      | lines => exact .of_defaulted hr (by decide) hlines
      | branches => exact .of_defaulted hr (by decide) hbranches
      | functions => exact .of_defaulted hr (by decide) hfunctions
      | statements => exact .of_defaulted hr (by decide) hstatements
  | _ => cases h

theorem CompilerConfig.follows_of_ofDocument? {c : CompilerConfig}
    (h : ofDocument? style d = some c) :
    c.Follows {} (d.given? ConfigSection.compiler.fields) := by
  simp only [ofDocument?, Option.bind_eq_bind, Option.bind_eq_some_iff, Option.pure_def,
    Option.some.injEq] at h
  obtain ⟨r, hr, command, hcommand, flags, hflags, includes, hincludes, project, hproject, rfl⟩ := h
  exact ⟨.of_defaulted hr (by decide) hcommand, .of_defaulted hr (by decide) hflags,
    .of_defaulted hr (by decide) hincludes, .of_defaulted hr (by decide) hproject⟩

/-! ### Only one section follows what is given -/

theorem SourceConfig.Follows.unique {c c' : SourceConfig} (h : c.Follows env given?)
    (h' : c'.Follows env given?) : c = c' := by
  cases c
  cases c'
  rw [SourceConfig.mk.injEq]
  exact ⟨h.directory.unique h'.directory, h.buildDirectory.unique h'.buildDirectory,
    h.extensions.unique h'.extensions, h.excludePatterns.unique h'.excludePatterns⟩

theorem RunConfig.Follows.unique {c c' : RunConfig} (h : c.Follows env given?)
    (h' : c'.Follows env given?) : c = c' := by
  cases c
  cases c'
  rw [RunConfig.mk.injEq]
  exact ⟨h.timeoutMillis.unique h'.timeoutMillis, h.parallel.unique h'.parallel,
    h.verbose.unique h'.verbose⟩

theorem CoverageConfig.Follows.unique {c c' : CoverageConfig} (h : c.Follows given?)
    (h' : c'.Follows given?) : c = c' := by
  have hget : ∀ m, c.thresholds.get? m = c'.thresholds.get? m := fun m =>
    (h.thresholds m).unique (h'.thresholds m)
  obtain ⟨thresholds, tracefile⟩ := c
  obtain ⟨thresholds', tracefile'⟩ := c'
  cases thresholds
  cases thresholds'
  rw [CoverageConfig.mk.injEq, Thresholds.mk.injEq]
  exact ⟨⟨hget .lines, hget .branches, hget .functions, hget .statements⟩,
    h.tracefile.unique h'.tracefile⟩

theorem CompilerConfig.Follows.unique {c c' : CompilerConfig} (h : c.Follows env given?)
    (h' : c'.Follows env given?) : c = c' := by
  cases c
  cases c'
  rw [CompilerConfig.mk.injEq]
  exact ⟨h.command.unique h'.command, h.flags.unique h'.flags, h.includes.unique h'.includes,
    h.projectFile.unique h'.projectFile⟩

namespace Config

/-- Every setting of a configuration is that of its variable, else that of a document, else the
default. -/
structure Follows (env : Environment) (document : Option Document) (c : Config) : Prop where
  source : c.source.Follows env (ConfigSection.source.given? document)
  run : c.run.Follows env (ConfigSection.run.given? document)
  coverage : c.coverage.Follows (ConfigSection.coverage.given? document)
  compiler : c.compiler.Follows env (ConfigSection.compiler.given? document)

variable {document : Option Document} {files : FileTree} {home : String} {c c' : Config}

/-- **Only one configuration** follows an environment and a document. -/
theorem Follows.unique (h : c.Follows env document) (h' : c'.Follows env document) : c = c' := by
  cases c
  cases c'
  rw [Config.mk.injEq]
  exact ⟨h.source.unique h'.source, h.run.unique h'.run, h.coverage.unique h'.coverage,
    h.compiler.unique h'.compiler⟩

/-! ### Reading and overriding -/

/-- What a document sets; without a document all settings have their defaults. -/
def ofSource? (document : Option Document) : Option Config :=
  document.elim (some {}) (ofDocument? .atLeast)

theorem follows_default : ({} : Config).Follows {} none :=
  ⟨⟨rfl, rfl, rfl, rfl⟩, ⟨rfl, rfl, rfl⟩, ⟨fun m => by cases m <;> rfl, rfl⟩, ⟨rfl, rfl, rfl, rfl⟩⟩

/-- A section that may be left out keeps to what its document gives. -/
theorem section_of_defaulted {σ : Type} {P : (String → Option Document) → σ → Prop} {default s : σ}
    {read : Document → Option σ} {r : Document.Record Document} (part : ConfigSection)
    (hnone : P (fun _ => none) default)
    (hsome : ∀ v s, read v = some s → P (v.given? part.fields) s)
    (hr : d.record? style ["source", "run", "coverage", "backend"] = some r)
    (h : r.defaulted part.key default read = some s) : P (part.given? (some d)) s := by
  have hkey : part.key ∈ ["source", "run", "coverage", "backend"] := by cases part <;> decide
  have hgiven : part.given? (some d) = fun name => (r.get? part.key).bind
      (·.given? part.fields name) := by
    rw [Document.get?_of_record? hr hkey]
    rfl
  rw [hgiven]
  cases hget : r.get? part.key with
  | none =>
      rw [Document.Record.defaulted_eq_of_none hget] at h
      exact Option.some.inj h ▸ hnone
  | some v => exact hsome v s ((Document.Record.defaulted_eq_of_some hget).symm.trans h)

/-- **What a document says** is what the configuration read from it has. -/
theorem follows_of_ofDocument? (h : ofDocument? style d = some c) : c.Follows {} (some d) := by
  simp only [ofDocument?, Option.bind_eq_bind, Option.bind_eq_some_iff, Option.pure_def,
    Option.some.injEq] at h
  obtain ⟨r, hr, source, hsource, run, hrun, coverage, hcoverage, compiler, hcompiler, rfl⟩ := h
  have hdefault := follows_default
  exact {
    source := section_of_defaulted .source hdefault.source
      (fun _ _ => SourceConfig.follows_of_ofDocument?) hr hsource
    run := section_of_defaulted .run hdefault.run
      (fun _ _ => RunConfig.follows_of_ofDocument?) hr hrun
    coverage := section_of_defaulted .coverage hdefault.coverage
      (fun _ _ => CoverageConfig.follows_of_ofDocument?) hr hcoverage
    compiler := section_of_defaulted .compiler hdefault.compiler
      (fun _ _ => CompilerConfig.follows_of_ofDocument?) hr hcompiler }

theorem follows_of_ofSource? (h : ofSource? document = some c) : c.Follows {} document := by
  cases document with
  | none => exact Option.some.inj h ▸ follows_default
  | some d => exact follows_of_ofDocument? h

/-- **The environment wins** over what a document says. -/
theorem Follows.override (h : c.Follows {} document) (env : Environment) :
    (c.override env).Follows env document := by
  have hbuild : (c.override env).source.buildDirectory =
      ((env.text? "DOCKET_BUILD_DIR").map some).getD c.source.buildDirectory := by
    rw [Config.override]
    cases env.text? "DOCKET_BUILD_DIR" <;> rfl
  exact {
    source := {
      h.source with
      directory := h.source.directory.getD _
      buildDirectory := hbuild.symm ▸ h.source.buildDirectory.getD _ }
    run := {
      h.run with
      timeoutMillis := h.run.timeoutMillis.getD _
      parallel := h.run.parallel.getD _ }
    coverage := h.coverage
    compiler := { h.compiler with command := h.compiler.command.getD _ } }

/-! ### Loading -/

theorem fromFile_eq_ok_iff {path : String} : fromFile files env path = .ok c ↔
    ∃ text d base, files.readText path = .ok text ∧ Document.ofToml? text = some d ∧
      ofDocument? .atLeast d = some base ∧ settle env base = .ok c := by
  simp only [fromFile, ofText?]
  cases files.readText path with
  | error e => simp
  | ok text =>
      cases hd : Document.ofToml? text with
      | none => simp [hd]
      | some d => cases hread : ofDocument? .atLeast d <;> simp [hd, hread]

/-- What is loaded is settled from the first file there is, or else from the defaults. -/
theorem load_eq_ok_iff_settle : load files env home = .ok c ↔
    ∃ document base, FirstDocument files [fileName, userFile env home] document ∧
      ofSource? document = some base ∧ settle env base = .ok c := by
  dsimp only [load]
  cases hfind : [fileName, userFile env home].find? files.contains with
  | none =>
      constructor
      · exact fun h => ⟨none, {}, FirstDocument.none_iff.2 hfind, rfl, h⟩
      · rintro ⟨_ | d, base, hfirst, hbase, hsettle⟩
        · exact Option.some.inj hbase ▸ hsettle
        · obtain ⟨path, text, hpath, -⟩ := FirstDocument.some_iff.1 hfirst
          cases hfind.symm.trans hpath
  | some path =>
      rw [fromFile_eq_ok_iff]
      constructor
      · rintro ⟨text, d, base, htext, hd, hbase, hsettle⟩
        exact ⟨some d, base, FirstDocument.some_iff.2 ⟨path, text, hfind, htext, hd⟩, hbase,
          hsettle⟩
      · rintro ⟨_ | d, base, hfirst, hbase, hsettle⟩
        · cases hfind.symm.trans (FirstDocument.none_iff.1 hfirst)
        · obtain ⟨path', text, hpath, htext, hd⟩ := FirstDocument.some_iff.1 hfirst
          obtain rfl := Option.some.inj (hfind.symm.trans hpath)
          exact ⟨text, d, base, htext, hd, hbase, hsettle⟩

/-- **A configuration that loads can be used**, and the environment wins. What loads is exactly the
configuration of which a session can be made, in which every test has some time and the thresholds
that are set are numbers from 0 to 100, and in which each setting is that of its variable, else that
of the first configuration file there is, else the default. A variable that is set to no text counts
as not set. -/
theorem load_eq_ok_iff : load files env home = .ok c ↔
    (∀ provider, ∃ s, Session.ofConfig c provider = .ok s) ∧
      0 < c.run.timeoutMillis ∧
      (∀ m x, c.coverage.thresholds.get? m = some x → 0.0 ≤ x ∧ x ≤ 100.0 ∧ x.isNaN = false) ∧
      ∃ document, FirstDocument files [fileName, userFile env home] document ∧
        (ofSource? document).isSome ∧ c.Follows env document := by
  rw [load_eq_ok_iff_settle]
  constructor
  · rintro ⟨document, base, hfirst, hbase, hsettle⟩
    obtain ⟨rfl, hvalid⟩ := settle_eq_ok_iff.1 hsettle
    refine ⟨fun provider => ?_, hvalid.time, fun m x hx => ?_, document, hfirst,
      Option.isSome_of_eq_some hbase, (follows_of_ofSource? hbase).override env⟩
    · exact (Session.exists_ofConfig_iff _ provider).2 hvalid.patterns
    · obtain ⟨hleast, hmost⟩ := hvalid.thresholds m x hx
      exact ⟨hleast, hmost, isNaN_eq_false_of_le hleast⟩
  · rintro ⟨hsession, htime, hthresholds, document, hfirst, hsome, hfollows⟩
    obtain ⟨base, hbase⟩ := Option.isSome_iff_exists.1 hsome
    have heq : c = base.override env :=
      hfollows.unique ((follows_of_ofSource? hbase).override env)
    have hvalid : c.Valid := {
      time := htime
      patterns := (Session.exists_ofConfig_iff c Scan.heuristic).1 (hsession _)
      thresholds := fun m x hx => ⟨(hthresholds m x hx).1, (hthresholds m x hx).2.1⟩ }
    exact ⟨document, base, hfirst, hbase, settle_eq_ok_iff.2 ⟨heq, hvalid⟩⟩

/-- A variable overrides the directory that a file sets. One that is no number leaves its time as it
is, and one that is no text its compiler. -/
example :
    let text := "[source]\ndir = \"src\"\n[run]\ntimeout_ms = 500\n[backend]\ncompiler = \"cc\"\n"
    let files := FileTree.scratch.plant fileName (.file (Text.encode text.toList) false)
    let env : Environment := { values := [("DOCKET_SOURCE_DIR", Text.encode "lib".toList),
      ("DOCKET_TIMEOUT_MS", Text.encode "soon".toList), ("DOCKET_COMPILER", [255])] }
    (load files env "/home").toOption.map (fun c =>
      (c.source.directory, c.run.timeoutMillis, c.compiler.command)) = some ("lib", 500, "cc") := by
  decide +kernel

end Config
end DocExamples
