/-
# Loading all or nothing

All files are read before anything is replaced, and reading stops at the first one that is neither
excluded nor a text (`readSources_cases`). What comes after reading never fails, whatever the texts
are. So a session either loads texts or is left as it was, and then the answer is about the file or
the directory that could not be read (`load_cases`, `load_of_error`).
-/

import DocExamples.Proofs.Session.Load

namespace DocExamples
namespace Session

variable {s : Session} {files : FileTree} {paths : Option (List String)}
  {common : List IgnoreRule} {e : SessionError}

/-- The files to be loaded: the given ones, or else those that are found. -/
def wanted (s : Session) (files : FileTree) (paths : Option (List String))
    (common : List IgnoreRule) : Except SessionError (List String) :=
  match paths with
  | some ps => .ok ps
  | none => s.discover files common

/-- Why a file cannot be loaded. A file that is excluded is not read. -/
def obstacle? (s : Session) (files : FileTree) (path : String) : Option SessionError :=
  if s.isExcluded (Path.normalized path) then none
  else match files.readText path with
    | .ok _ => none
    | .error .missing => some (.notFound path)
    | .error .unreadable => some (.unreadable path)

/-- **Reading files** ends at the first obstacle, or with texts if there is none. -/
theorem readSources_cases (s : Session) (files : FileTree) (ps : List String) (read : Sources) :
    (∃ e, ps.findSome? (s.obstacle? files) = some e ∧ s.readSources files ps read = .error e) ∨
      ps.findSome? (s.obstacle? files) = none ∧
        ∃ texts, s.readSources files ps read = .ok texts := by
  induction ps generalizing read with
  | nil => exact Or.inr ⟨rfl, read, rfl⟩
  | cons path ps ih =>
      rw [List.findSome?_cons, readSources, obstacle?]
      cases s.isExcluded (Path.normalized path) with
      | true => exact ih read
      | false =>
          cases files.readText path with
          | ok text => exact ih _
          | error reason =>
              cases reason with
              | missing => exact Or.inl ⟨_, rfl, rfl⟩
              | unreadable => exact Or.inl ⟨_, rfl, rfl⟩

/-- Only a search can fail before files are read: without the directory to search, or if the search
comes to a directory that it cannot list. -/
theorem wanted_eq_error_iff : s.wanted files paths common = .error e ↔
    paths = none ∧ (files.contains s.config.source.directory = false ∧
        e = .notFound s.config.source.directory ∨
      files.contains s.config.source.directory = true ∧
        files.walkFails common s.config.source.directory = true ∧ e = .walk) := by
  cases paths with
  | some ps => simp [wanted]
  | none =>
      rw [wanted, discover]
      cases files.contains s.config.source.directory <;>
        cases files.walkFails common s.config.source.directory <;> simp [eq_comm]

/-- Nothing is replaced if reading fails. -/
theorem load_of_read_error
    (h : ((s.wanted files paths common).bind fun ps => s.readSources files ps {}) = .error e) :
    s.load files paths common = (.error e, s) := by
  cases paths <;> rw [wanted] at h <;> rw [load, h]

/-- All texts are there before anything is replaced. -/
theorem load_of_read {texts : Sources}
    (h : ((s.wanted files paths common).bind fun ps => s.readSources files ps {}) = .ok texts) :
    s.load files paths common = s.loadSources texts := by
  cases paths <;> rw [wanted] at h <;> rw [load, h]

/-- **A session is left as it was or loads texts**, which never fails. It is left as it was if the
directory to search or a wanted file cannot be read. -/
theorem load_cases (s : Session) (files : FileTree) (paths : Option (List String))
    (common : List IgnoreRule) :
    (∃ e, s.load files paths common = (.error e, s) ∧ (s.wanted files paths common = .error e ∨
        ∃ ps, s.wanted files paths common = .ok ps ∧
          ps.findSome? (s.obstacle? files) = some e)) ∨
      ∃ ps texts n, s.wanted files paths common = .ok ps ∧
        ps.findSome? (s.obstacle? files) = none ∧
        s.load files paths common = s.loadSources texts ∧ (s.loadSources texts).1 = .ok n := by
  cases hwanted : s.wanted files paths common with
  | error e => exact Or.inl ⟨e, load_of_read_error (by rw [hwanted]; rfl), Or.inl rfl⟩
  | ok ps =>
      obtain ⟨e, hfirst, hread⟩ | ⟨hnone, texts, hread⟩ := s.readSources_cases files ps {}
      · exact Or.inl ⟨e, load_of_read_error (by rw [hwanted]; exact hread),
          Or.inr ⟨ps, rfl, hfirst⟩⟩
      · exact Or.inr ⟨ps, texts, _, rfl, hnone, load_of_read (by rw [hwanted]; exact hread),
          congrArg Prod.fst (loadSources_eq s texts).1⟩

/-- **A session that fails to load is as it was**: the scans, the tree with its statuses and
results, and the coverage. The failure came up before anything was replaced: there is no directory
to search, or the search came to one that it cannot list, or the message is about the first of the
wanted files that is not excluded and cannot be read. -/
theorem load_of_error (h : (s.load files paths common).1 = .error e) :
    (s.load files paths common).2 = s ∧
      (paths = none ∧ (files.contains s.config.source.directory = false ∧
            e = .notFound s.config.source.directory ∨
          files.contains s.config.source.directory = true ∧
            files.walkFails common s.config.source.directory = true ∧ e = .walk) ∨
        ∃ ps, s.wanted files paths common = .ok ps ∧
          ps.findSome? (s.obstacle? files) = some e) := by
  obtain ⟨e', hload, hcause⟩ | ⟨ps, texts, n, -, -, hload, hok⟩ := s.load_cases files paths common
  · rw [hload] at h ⊢
    obtain rfl := Except.error.inj h
    exact ⟨rfl, hcause.imp_left wanted_eq_error_iff.1⟩
  · rw [hload, hok] at h
    cases h

/-- The hypothesis of `load_of_error` is satisfiable: a session with a tree and a coverage is to
load a file that is not there and is excluded, a file that is there, by two names, and one that
holds no text, before one that is not there. -/
theorem load_of_error_no_text :
    let s : Session := {
      config := {}, provider := Scan.heuristic, excluded := [Scan.literally "old"]
      tree := (TestTree.empty.createGroup "b.c" "b.c").2
      coverage := ({} : Coverage).put "b.c" { path := "b.c" } }
    let files : FileTree := (FileTree.scratch.plant "a.c" (.file [] false)).plant "x.c"
      (.file [255] false)
    let paths := ["old.c", "./a.c", "a.c", "x.c", "y.c"]
    (s.load files (some paths)).1 = .error (.unreadable "x.c") ∧
      (s.load files (some paths)).2 = s ∧
      paths.findSome? (s.obstacle? files) = some (.unreadable "x.c") := by
  intro s files paths
  have herror : (s.load files (some paths)).1 = .error (.unreadable "x.c") := by
    decide +kernel
  obtain ⟨hsame, ⟨hnone, -⟩ | ⟨ps, hps, hfirst⟩⟩ := load_of_error herror
  · cases hnone
  · obtain rfl := Except.ok.inj hps
    exact ⟨herror, hsame, hfirst⟩

/-- A directory that cannot be listed is in the way, unless it is passed over. -/
example :
    let files := (FileTree.scratch.plant "a.c" (.file [] false)).plant "old" .directory
    let s : Session := {
      config := {}, provider := Scan.heuristic, excluded := [], coverage := {} }
    let locked := { files with locked := [["scratch", "old"]] }
    let rule := (locked.plant ".ignore" (.file (Text.encode "old".toList) false))
    (s.load locked none).1 = .error .walk ∧ (s.load rule none).1 = .ok 0 := by
  decide +kernel

end Session
end DocExamples
