/-
# Loading what is found

Without a list of files a session loads those that it finds below a directory. They are found under
normalized paths, and these are normalized and tried for exclusion again when the files are read. So
what is loaded is what was found if the paths found are normalized already and lead to files, and
only then (`exists_loads_iff`). They are and do if the path of the directory is plain. With another
slash or another single dot after the first one, files are missing or have other paths
(`load_found`).
-/

import DocExamples.Proofs.Files.Walk
import DocExamples.Proofs.Session.Refusal
import Mathlib.Data.Finset.Max

namespace DocExamples

namespace Session

variable {s : Session} {files : FileTree} {common : List IgnoreRule} {ps : List String}
  {read texts : Sources} {loaded : Session}

/-! ### Reading files -/

/-- What is read are the files that are not excluded, under their normalized paths. -/
theorem mem_of_readSources (h : s.readSources files ps read = .ok texts) (key : String) :
    key ∈ texts ↔
      key ∈ read ∨ s.isExcluded key = false ∧ ∃ path ∈ ps, Path.normalized path = key := by
  induction ps generalizing read with
  | nil =>
      obtain rfl := Except.ok.inj h
      simp
  | cons path ps ih =>
      rw [readSources] at h
      split at h
      · next hexcluded =>
          rw [ih h]
          by_cases hkey : Path.normalized path = key
          · simp [← hkey, hexcluded]
          · simp [hkey]
      · next hexcluded =>
          split at h
          · cases h
          · cases h
          · rw [ih h, Std.ExtTreeMap.mem_insert]
            by_cases hkey : Path.normalized path = key
            · simp [← hkey, hexcluded]
            · simp [hkey]

/-- **Files are read** under the paths that are given, if these are normalized and not excluded. -/
theorem readSources_of_ok (h : ∀ path ∈ ps, Path.normalized path = path ∧
      s.isExcluded path = false ∧ ∃ text, files.readText path = .ok text) (read : Sources) :
    ∃ texts, s.readSources files ps read = .ok texts ∧ ∀ path, texts[path]? =
      if path ∈ ps then (files.readText path).toOption else read[path]? := by
  induction ps generalizing read with
  | nil => exact ⟨read, rfl, fun path => rfl⟩
  | cons path ps ih =>
      obtain ⟨⟨hnormalized, hexcluded, text, htext⟩, h⟩ := List.forall_mem_cons.1 h
      obtain ⟨texts, hread, hlookup⟩ := ih h (read.insert path text)
      refine ⟨texts, ?_, fun path' => ?_⟩
      · simp only [readSources, hnormalized, hexcluded, htext]
        exact hread
      · rw [hlookup, Std.ExtTreeMap.getElem?_insert]
        by_cases heq : path' = path
        · subst heq
          simp [htext, Except.toOption]
        · simp [heq, Ne.symm heq]

/-! ### Reading what was found -/

theorem exists_discover (h : files.isDirectory s.config.source.directory = true)
    (hlisted : files.walkFails common s.config.source.directory = false) :
    ∃ ps, s.discover files common = .ok ps := by
  rw [discover, FileTree.contains, eq_of_beq h, hlisted]
  exact ⟨_, rfl⟩

/-- What is found are the normalized paths of the sources that are met, but for excluded ones. -/
theorem perm_of_discover (h : s.discover files common = .ok ps) :
    ps.Perm ((((files.walk common s.config.source.directory).filter s.hasSourceExtension).map
      Path.normalized).filter (!s.isExcluded ·)) := by
  rw [discover] at h
  extract_lets at h
  split at h
  · cases h
  · split at h
    · cases h
    · obtain rfl := Except.ok.inj h
      exact List.mergeSort_perm _ _

theorem of_mem_discover (h : s.discover files common = .ok ps) {path : String} (hpath : path ∈ ps) :
    s.isExcluded path = false ∧
      ∃ walked ∈ files.walk common s.config.source.directory, path = Path.normalized walked := by
  obtain ⟨hmem, hexcluded⟩ := List.mem_filter.1 ((perm_of_discover h).mem_iff.1 hpath)
  obtain ⟨walked, hwalked, rfl⟩ := List.mem_map.1 hmem
  exact ⟨by simpa using hexcluded, walked, (List.mem_filter.1 hwalked).1, rfl⟩

/-- **Whether a session loads what it finds** under the paths under which it is found. -/
structure Loads (s : Session) (files : FileTree) (common : List IgnoreRule) (ps : List String)
    (loaded : Session) : Prop where
  load : s.load files none common = (.ok loaded.testCount, loaded)
  mem_scans_iff : ∀ path, path ∈ loaded.scans ↔ path ∈ ps
  scan : ∀ path ∈ ps, ∃ text, files.readText path = .ok text ∧
    loaded.scans[path]? = some (Scan.ofText s.provider path text)
  /-- It would find the same again. -/
  discover : loaded.discover files common = .ok ps

/-- If every path is the normalized form of one of the paths, all are normalized: a longest one of
those that are not would be the normalized form of a longer one. -/
theorem normalized_of_forall (h : ∀ path ∈ ps, ∃ path' ∈ ps, Path.normalized path' = path) :
    ∀ path ∈ ps, Path.normalized path = path := by
  by_contra! hsome
  obtain ⟨path, hpath, hne⟩ := hsome
  obtain ⟨longest, hlongest, hmax⟩ :=
    (ps.toFinset.filter fun path => Path.normalized path ≠ path).exists_max_image String.length
      ⟨path, by simpa using ⟨hpath, hne⟩⟩
  obtain ⟨hmem, hne⟩ := Finset.mem_filter.1 hlongest
  obtain ⟨longer, hlonger, rfl⟩ := h longest (List.mem_toFinset.1 hmem)
  have hchanged : Path.normalized longer ≠ longer := fun heq => hne (congrArg Path.normalized heq)
  have hle := hmax longer (by simpa using ⟨hlonger, hchanged⟩)
  exact absurd (Path.length_normalized_lt hchanged) (Nat.not_lt.2 hle)

section Found

variable (hdiscover : s.discover files common = .ok ps)
include hdiscover

theorem load_eq_of_readSources (hread : s.readSources files ps {} = .ok texts) :
    s.load files none common = s.loadSources texts :=
  load_of_read (by rw [wanted, hdiscover]; exact hread)

theorem exists_readSources_of_load {n : ℕ} (h : s.load files none common = (.ok n, loaded)) :
    ∃ texts, s.readSources files ps {} = .ok texts ∧ (s.loadSources texts).2 = loaded := by
  cases hread : s.readSources files ps {} with
  | ok texts =>
      rw [load_eq_of_readSources hdiscover hread] at h
      exact ⟨texts, rfl, congrArg Prod.snd h⟩
  | error e =>
      have hload : s.load files none common = (.error e, s) :=
        load_of_read_error (by rw [wanted, hdiscover]; exact hread)
      rw [hload] at h
      cases h

/-- A session that loads what it finds finds normalized paths. -/
theorem Loads.normalized (h : s.Loads files common ps loaded) :
    ∀ path ∈ ps, Path.normalized path = path := by
  obtain ⟨texts, hread, rfl⟩ := exists_readSources_of_load hdiscover h.load
  refine normalized_of_forall fun path hpath => ?_
  obtain hmem | ⟨-, hmem⟩ :=
    (mem_of_readSources hread path).1 (mem_scans_loadSources.1 ((h.mem_scans_iff path).2 hpath))
  · exact absurd hmem Std.ExtTreeMap.not_mem_empty
  · exact hmem

/-- A session that finds normalized paths of texts loads these. -/
theorem exists_loads
    (h : ∀ path ∈ ps, Path.normalized path = path ∧ ∃ text, files.readText path = .ok text) :
    ∃ loaded, s.Loads files common ps loaded := by
  obtain ⟨texts, hread, hlookup⟩ := readSources_of_ok (s := s) (fun path hpath =>
    ⟨(h path hpath).1, (of_mem_discover hdiscover hpath).1, (h path hpath).2⟩) {}
  refine ⟨(s.loadSources texts).2, ?_, fun path => ?_, fun path hpath => ?_, ?_⟩
  · rw [load_eq_of_readSources hdiscover hread, (loadSources_eq s texts).1]
    rfl
  · rw [mem_scans_loadSources, Std.ExtTreeMap.mem_iff_isSome_getElem?, hlookup]
    by_cases hpath : path ∈ ps
    · obtain ⟨text, htext⟩ := (h path hpath).2
      simp [hpath, htext, Except.toOption]
    · simp [hpath]
  · obtain ⟨text, htext⟩ := (h path hpath).2
    refine ⟨text, htext, ?_⟩
    rw [scans_loadSources, hlookup, if_pos hpath, htext]
    rfl
  · rw [(loadSources_eq s texts).1]
    exact hdiscover

/-- **A session loads what it finds** exactly if what it finds are normalized paths of texts. -/
theorem exists_loads_iff : (∃ loaded, s.Loads files common ps loaded) ↔
    ∀ path ∈ ps, Path.normalized path = path ∧ ∃ text, files.readText path = .ok text := by
  refine ⟨fun ⟨loaded, h⟩ path hpath => ?_, exists_loads hdiscover⟩
  obtain ⟨text, htext, -⟩ := h.scan path hpath
  exact ⟨h.normalized hdiscover path hpath, text, htext⟩

end Found

/-- **Searching and loading agree on paths** exactly if the paths found are normalized and those of
files, whatever the path of the directory, as long as the search can list the directories that it
comes to. They are if that path is plain: then no path is found twice, each leads to the file that
was met on the walk, and loading succeeds with the scans of these files under the paths found. -/
theorem load_found (s : Session) (hfiles : files.WellFormed)
    (htexts : ∀ e ∈ files.nodes, e.2.isText = true)
    (hdirectory : files.isDirectory s.config.source.directory = true) (common : List IgnoreRule)
    (hlisted : files.walkFails common s.config.source.directory = false) :
    ∃ ps, s.discover files common = .ok ps ∧
      ((∃ loaded, s.Loads files common ps loaded) ↔
        ∀ path ∈ ps, Path.normalized path = path ∧ files.isFile path = true) ∧
      (Path.isPlain s.config.source.directory.toList = true →
        ps.Nodup ∧ (∃ loaded, s.Loads files common ps loaded) ∧
        ∀ path ∈ ps, ∃ walked ∈ files.walk common s.config.source.directory,
          path = Path.normalized walked ∧ files.place? path = files.place? walked) := by
  obtain ⟨ps, hdiscover⟩ : ∃ ps, s.discover files common = .ok ps :=
    exists_discover hdirectory hlisted
  have hiff : (∃ loaded, s.Loads files common ps loaded) ↔
      ∀ path ∈ ps, Path.normalized path = path ∧ files.isFile path = true := by
    rw [exists_loads_iff hdiscover]
    exact forall₂_congr fun path _ => and_congr_right fun _ =>
      ⟨fun ⟨_, htext⟩ => FileTree.isFile_of_readText htext, FileTree.exists_readText htexts⟩
  refine ⟨ps, hdiscover, hiff, fun hplain => ?_⟩
  obtain ⟨start, hstart, hnode⟩ := Option.bind_eq_some_iff.1 (eq_of_beq hdirectory)
  have hstartDirectory : files.isDirectoryAt start = true := beq_iff_eq.2 hnode
  have hmet : ∀ path ∈ ps, ∃ walked ∈ files.walk common s.config.source.directory,
      path = Path.normalized walked ∧ ∃ p bytes executable,
        (p, .file bytes executable) ∈ files.nodes ∧ files.place? walked = some p ∧
        files.place? path = some p ∧ Path.normalized path = path := by
    intro path hpath
    obtain ⟨-, walked, hwalked, rfl⟩ := of_mem_discover hdiscover hpath
    exact ⟨walked, hwalked, rfl, hfiles.of_mem_walk hplain hstart hstartDirectory hwalked⟩
  refine ⟨?_, hiff.2 fun path hpath => ?_, fun path hpath => ?_⟩
  · exact (perm_of_discover hdiscover).nodup_iff.2 (.filter _
      ((hfiles.nodup_walk hplain hstart hstartDirectory).sublist (List.filter_sublist.map _)))
  · obtain ⟨walked, -, -, p, bytes, executable, hfile, -, hplace, hsame⟩ := hmet path hpath
    exact ⟨hsame, hfiles.isFile hplace hfile⟩
  · obtain ⟨walked, hwalked, heq, p, -, -, -, hplace, hplace', -⟩ := hmet path hpath
    exact ⟨walked, hwalked, heq, hplace'.trans hplace.symm⟩

/-- The hypotheses of `load_found` are satisfiable, with a plain path: there are a source in a
directory below, a file that is no source, and a source in another directory. -/
theorem load_found_below_src :
    let text := FileNode.file (Text.encode "// >>> 1\n// 1\n".toList) false
    let files := ((FileTree.scratch.plant "src/b/a.c" text).plant "src/notes" text).plant "a.c" text
    let s : Session := {
      config := { source := { directory := "./src" } }, provider := Scan.heuristic
      excluded := [], coverage := {} }
    s.discover files = .ok ["src/b/a.c"] ∧ ∃ loaded, s.Loads files [] ["src/b/a.c"] loaded := by
  intro text files s
  have hfiles : files.WellFormed := ⟨by decide +kernel, by decide +kernel, by decide +kernel⟩
  have hfound : s.discover files = .ok ["src/b/a.c"] := by decide +kernel
  obtain ⟨ps, hdiscover, -, hplain⟩ :=
    load_found s hfiles (by decide +kernel) (by decide +kernel) [] (by decide +kernel)
  obtain rfl := Except.ok.inj (hdiscover.symm.trans hfound)
  obtain ⟨-, hloads, -⟩ := hplain (by decide +kernel)
  exact ⟨hdiscover, hloads⟩

/-- With two slashes after the dot a file is not there under the path under which it was found, and
with two dots it is loaded under another path. -/
theorem load_found_slashes_dots :
    let files := FileTree.scratch.plant "a.c" (.file [] false)
    let s (directory : String) : Session := {
      config := { source := { directory } }, provider := Scan.heuristic
      excluded := [], coverage := {} }
    files.isDirectory ".//" = true ∧ (s ".//").discover files = .ok ["/a.c"] ∧
      ((s ".//").load files none).1 = .error (.notFound "/a.c") ∧
      files.isDirectory "././" = true ∧ (s "././").discover files = .ok ["./a.c"] ∧
      ((s "././").load files none).2.scans.keys = ["a.c"] := by
  decide +kernel

end Session
end DocExamples
