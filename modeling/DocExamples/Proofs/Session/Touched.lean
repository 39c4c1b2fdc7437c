/-
# What renewing the coverage touches

After the tracefile has been taken in, renewing the coverage writes one record for each name that
may be called in a loaded file, and nothing else (`Covers`): lines, branches and the records of
other names are those that were there, and files that declare nothing of the kind, loaded or not,
are left alone. Of several declarations of one name the last one gives the line. A renewal that
fails changes nothing, and renewing again changes nothing either, for the records
(`files_renewed_renewed`) and for the totals, whether or not these were right at first
(`renewed_renewed`).
-/

import DocExamples.Proofs.Session.Renew

namespace DocExamples

/-- Whether what is declared may be called: a function or a member that runs, or a template of
functions. -/
def Declaration.Callable (d : Declaration) : Prop :=
  d.kind ∈ [.function, .functionTemplate, .method, .constructor, .destructor]

theorem Declaration.callable_iff {d : Declaration} : d.Callable ↔ d.kind.isCallable = true := by
  unfold Callable
  cases d.kind <;> decide

namespace Session

variable {tests : List Test} {scans : Scans} {a c : Coverage} {path : String} {scan : Scan}
  {ds before after : List Declaration} {d : Declaration} {old file : FileCoverage}

/-- Whether a declaration is found in a loaded file and may be called. -/
def CallableAt (scans : Scans) (path : String) (d : Declaration) : Prop :=
  ∃ scan, scans[path]? = some scan ∧ d ∈ scan.declarations ∧ d.Callable

/-- The coverage after the tracefile has been taken in, if there is one and it can be read. -/
def traced (c : Coverage) : Option (Except ReadError String) → Coverage
  | some (.ok text) => c.ingest text
  | _ => c

/-- **Only the records of what may be called have been written** on the way from `a` to `c`. -/
structure Covers (tests : List Test) (scans : Scans) (a c : Coverage) : Prop where
  thresholds : c.thresholds = a.thresholds
  mem_files_iff : ∀ path, path ∈ c.files ↔ path ∈ a.files ∨ ∃ d, CallableAt scans path d
  getElem?_files : ∀ path, (∀ d, ¬ CallableAt scans path d) → c.files[path]? = a.files[path]?
  frame : ∀ path file, c.files[path]? = some file →
    let old := a.files.getD path { path }
    file.path = old.path ∧ file.lines = old.lines ∧ file.branches = old.branches ∧
      ∀ name, (∀ d, CallableAt scans path d → d.name ≠ name) →
        file.functions[name]? = old.functions[name]?
  /-- The declaration is the last one of its name that may be called. -/
  functions : ∀ path scan before d after, scans[path]? = some scan →
    scan.declarations = before ++ d :: after → d.Callable →
    (∀ e ∈ after, e.Callable → e.name ≠ d.name) →
    let hits : UInt64 := .ofNat (tests.countP fun t =>
      t.status == .passed && t.sourceFile == path && t.declaration == some d.name)
    ∃ file, c.files[path]? = some file ∧ file.functions[d.name]? =
      some { line := d.location.line, executed := decide (0 < hits), hits }

/-! ### What may be called -/

theorem mem_callablesAt_iff : d ∈ callablesAt scans path ↔ CallableAt scans path d := by
  unfold callablesAt CallableAt
  cases scans[path]? with
  | none => simp
  | some scan => simp [Scan.callables, Declaration.callable_iff]

/-- In a file that declares nothing that may be called, nothing is recorded. -/
theorem callablesAt_eq_nil_iff : callablesAt scans path = [] ↔ ∀ d, ¬ CallableAt scans path d := by
  simp only [List.eq_nil_iff_forall_not_mem, mem_callablesAt_iff]

/-- What may be called in a file, around a declaration that may. -/
theorem callablesAt_eq_append (hscan : scans[path]? = some scan)
    (hsplit : scan.declarations = before ++ d :: after) (hd : d.Callable) :
    callablesAt scans path = before.filter (·.kind.isCallable) ++
      d :: after.filter (·.kind.isCallable) := by
  rw [callablesAt, hscan, Option.map_some, Option.getD_some, Scan.callables, hsplit,
    List.filter_append, List.filter_cons, if_pos (Declaration.callable_iff.1 hd)]

/-! ### One file -/

/-- A name that is not that of a callable keeps its record. -/
theorem functions_of_notMem {name : String} (h : name ∉ ds.map (·.name)) :
    (recordFunctions tests path ds old).functions[name]? = old.functions[name]? := by
  rw [recordFunctions_eq]
  refine Std.ExtTreeMap.getElem?_insertMany_list_of_contains_eq_false ?_
  simpa [Function.comp_def] using h

/-- Callables are recorded one after the other. -/
theorem recordFunctions_append (tests : List Test) (path : String) (ds ds' : List Declaration)
    (old : FileCoverage) : recordFunctions tests path (ds ++ ds') old =
      recordFunctions tests path ds' (recordFunctions tests path ds old) := List.foldl_append

/-- **The last callable of a name** gives it its record. -/
theorem functions_of_last (h : d.name ∉ after.map (·.name)) :
    (recordFunctions tests path (before ++ d :: after) old).functions[d.name]? =
      some (.ofHits d.line (.ofNat (passedCount tests path d.name))) := by
  have hsplit : before ++ d :: after = (before ++ [d]) ++ after := by simp
  rw [hsplit, recordFunctions_append, functions_of_notMem h, recordFunctions_append]
  exact Std.ExtTreeMap.getElem?_insert_self

/-! ### All files -/

theorem thresholds_coverScan (tests : List Test) (c : Coverage) (path : String) (scan : Scan) :
    (coverScan tests c path scan).thresholds = c.thresholds := by
  unfold coverScan
  split_ifs <;> rfl

theorem thresholds_coverAll (tests : List Test) (scans : Scans) (c : Coverage) :
    (coverAll tests scans c).thresholds = c.thresholds :=
  List.foldlRecOn (motive := fun d : Coverage => d.thresholds = c.thresholds) _ _ rfl
    fun d hd e _ => (thresholds_coverScan tests d e.1 e.2).trans hd

/-- **Recording the functions of all files** touches nothing else. -/
theorem covers_coverAll (tests : List Test) (scans : Scans) (a : Coverage) :
    Covers tests scans a (coverAll tests scans a) where
  thresholds := thresholds_coverAll tests scans a
  mem_files_iff path := by
    have hsome : (∃ d, CallableAt scans path d) ↔ callablesAt scans path ≠ [] := by
      rw [Ne, callablesAt_eq_nil_iff, not_forall_not]
    rw [hsome, Std.ExtTreeMap.mem_iff_isSome_getElem?, Std.ExtTreeMap.mem_iff_isSome_getElem?,
      files_coverAll]
    by_cases h : callablesAt scans path = []
    · rw [h, covered_nil]
      simp
    · rw [covered_of_ne_nil h]
      simp [h]
  getElem?_files path h := by
    rw [files_coverAll, callablesAt_eq_nil_iff.2 h, covered_nil]
  frame path file hfile := by
    rw [files_coverAll] at hfile
    by_cases h : callablesAt scans path = []
    · rw [h, covered_nil] at hfile
      simp [Std.ExtTreeMap.getD_eq_getD_getElem?, hfile]
    · rw [covered_of_ne_nil h, ← Std.ExtTreeMap.getD_eq_getD_getElem?] at hfile
      obtain rfl := Option.some.inj hfile
      refine ⟨?_, ?_, ?_, fun name hname => functions_of_notMem fun hmem => ?_⟩
      · rw [recordFunctions_eq]
      · rw [recordFunctions_eq]
      · rw [recordFunctions_eq]
      · obtain ⟨d, hd, rfl⟩ := List.mem_map.1 hmem
        exact hname d (mem_callablesAt_iff.1 hd) rfl
  functions path scan before d after hscan hsplit hd hlast := by
    have hds := callablesAt_eq_append hscan hsplit hd
    have hne : callablesAt scans path ≠ [] := by simp [hds]
    have hname : d.name ∉ (after.filter (·.kind.isCallable)).map (·.name) := by
      intro hmem
      obtain ⟨e, he, heq⟩ := List.mem_map.1 hmem
      obtain ⟨hafter, hcall⟩ := List.mem_filter.1 he
      exact hlast e hafter (Declaration.callable_iff.2 hcall) heq
    refine ⟨_, (files_coverAll tests scans a path).trans (covered_of_ne_nil hne _ _ _), ?_⟩
    rw [hds]
    exact functions_of_last hname

/-! ### Renewing twice -/

/-- Totals that were not right before the functions are recorded are right afterwards, unless there
is no function to record. -/
theorem coverAll_eq_or_sound (tests : List Test) (scans : Scans) (c : Coverage) :
    coverAll tests scans c = c ∨ (coverAll tests scans c).Sound := by
  refine List.foldlRecOn (motive := fun d => d = c ∨ d.Sound) _ _ (Or.inl rfl) fun d hd e _ => ?_
  rw [coverScan]
  split_ifs
  · exact hd
  · exact Or.inr (d.sound_put _ _)

theorem thresholds_renewed (tests : List Test) (scans : Scans) (c : Coverage)
    (trace : Option (Except ReadError String)) :
    (renewed tests scans c trace).thresholds = c.thresholds := by
  match trace with
  | none | some (.error .missing) => exact thresholds_coverAll tests scans c
  | some (.ok text) => exact thresholds_coverAll tests scans (c.ingest text)
  | some (.error .unreadable) => rfl

/-- **Renewing again** changes nothing. -/
theorem renewed_renewed (tests : List Test) (scans : Scans) (c : Coverage)
    (trace : Option (Except ReadError String)) :
    renewed tests scans (renewed tests scans c trace) trace = renewed tests scans c trace := by
  have hfiles := files_renewed_renewed tests tests scans c trace
  have hthresholds := thresholds_renewed tests scans (renewed tests scans c trace) trace
  have hsound : renewed tests scans c trace = c ∨ (renewed tests scans c trace).Sound := by
    match trace with
    | none | some (.error .missing) => exact coverAll_eq_or_sound tests scans c
    | some (.ok text) => exact Or.inr (sound_coverAll (c.sound_ingest text) tests scans)
    | some (.error .unreadable) => exact Or.inl rfl
  obtain h | h := hsound
  · rw [h, h]
  · exact (sound_renewed h tests scans trace).ext h hfiles hthresholds

/-- **What renewing the coverage of any session touches.** If the tracefile cannot be read, the
renewal fails and the session is as it was. Otherwise it succeeds, has written records of callables
and nothing else since the tracefile was taken in, and renewing again changes nothing. -/
theorem updateCoverage_covers (s : Session) (trace : Option (Except ReadError String)) :
    (trace = some (.error .unreadable) → ∃ e, s.updateCoverage trace = (.error e, s)) ∧
      (trace ≠ some (.error .unreadable) → ∃ c : Coverage,
        s.updateCoverage trace = (.ok (), { s with coverage := c }) ∧
        Covers s.tree.tests s.scans (traced s.coverage trace) c ∧
        ({ s with coverage := c } : Session).updateCoverage trace =
          (.ok (), { s with coverage := c })) := by
  constructor
  · rintro rfl
    exact ⟨_, rfl⟩
  · intro htrace
    have hok := renewal_eq_ok htrace s.config
    refine ⟨renewed s.tree.tests s.scans s.coverage trace, ?_, ?_, ?_⟩
    · rw [updateCoverage_eq, hok]
    · match trace with
      | none | some (.error .missing) => exact covers_coverAll s.tree.tests s.scans s.coverage
      | some (.ok text) => exact covers_coverAll s.tree.tests s.scans (s.coverage.ingest text)
      | some (.error .unreadable) => exact absurd rfl htrace
    · rw [updateCoverage_eq, hok]
      simp only [renewed_renewed]

/-- Two functions of one name, a struct of that name before them, and a test of the name that has
passed: the record of the name is written anew, with the line of the second function. The lines of
the tracefile and its record of another name stay, and there is no record of a file that declares
a namespace only. -/
theorem updateCoverage_covers_overloads :
    let declared (file name : String) (kind : DeclarationKind) (line : UInt32) : Declaration :=
      { name, kind, location := ⟨file, line, 1⟩ }
    let functions : Scan := { file := "a.cpp", examples := [], declarations := [
      declared "a.cpp" "f" .struct 1, declared "a.cpp" "f" .function 3,
      declared "a.cpp" "f" .functionTemplate 7] }
    let names : Scan :=
      { file := "n.h", examples := [], declarations := [declared "n.h" "n" .namespace_ 1] }
    let passed : Test :=
      { Test.make "a.cpp:2:0" "f" "f()" with declaration := some "f", status := .passed }
    let s : Session := {
      config := {}, provider := Scan.heuristic, excluded := [], coverage := {}
      scans := (({} : Scans).insert "a.cpp" functions).insert "n.h" names
      tree := ((TestTree.empty.createSuite "a" { id := "a.cpp", name := "a", tests := [passed] }).2
        |>.addChild TestTree.root 1).2 }
    let text := "SF:a.cpp\nDA:1,7\nFN:3,f\nFNDA:5,f\nFNDA:2,g\nend_of_record\n"
    ∃ c : Coverage, s.updateCoverage (some (.ok text)) = (.ok (), { s with coverage := c }) ∧
      (∃ file, c.files["a.cpp"]? = some file ∧ file.lines[(1 : UInt32)]? = some 7 ∧
        file.functions["f"]? = some { line := 7, executed := true, hits := 1 } ∧
        file.functions["g"]? = some { line := 0, executed := true, hits := 2 }) ∧
      "n.h" ∉ c.files := by
  intro declared functions names passed s text
  obtain ⟨c, hok, hcovers, -⟩ := (updateCoverage_covers s (some (.ok text))).2 nofun
  have hfunctions : s.scans["a.cpp"]? = some functions := by
    rw [Std.ExtTreeMap.getElem?_insert, if_neg (by decide), Std.ExtTreeMap.getElem?_insert_self]
  have hnames : s.scans["n.h"]? = some names := Std.ExtTreeMap.getElem?_insert_self
  have hold : (((Coverage.ingest {} text).files["a.cpp"]?).map fun file =>
      (file.lines[(1 : UInt32)]?, file.functions["g"]?)) =
      some (some 7, some { line := 0, executed := true, hits := 2 }) := by
    decide +kernel
  obtain ⟨old, hold, heq⟩ := Option.map_eq_some_iff.1 hold
  obtain ⟨hlines, hg⟩ := Prod.mk.inj heq
  obtain ⟨file, hfile, hf⟩ := hcovers.functions "a.cpp" functions
    [declared "a.cpp" "f" .struct 1, declared "a.cpp" "f" .function 3] _ [] hfunctions rfl
    (by simp [Declaration.Callable, declared]) (by simp)
  obtain ⟨-, hsame, -, hother⟩ := hcovers.frame "a.cpp" file hfile
  rw [Std.ExtTreeMap.getD_eq_getD_getElem?, traced, hold, Option.getD_some] at hsame hother
  have hnone : ∀ d, CallableAt s.scans "a.cpp" d → d.name ≠ "g" := by
    rintro d ⟨scan, hscan, hd, -⟩
    obtain rfl := Option.some.inj (hfunctions.symm.trans hscan)
    simp only [functions, declared, List.mem_cons, List.not_mem_nil, or_false] at hd
    obtain rfl | rfl | rfl := hd <;> decide
  refine ⟨c, hok, ⟨file, hfile, hsame ▸ hlines, hf.trans (by decide +kernel), ?_⟩, ?_⟩
  · rw [hother "g" hnone, hg]
  · rw [hcovers.mem_files_iff, not_or, not_exists]
    refine ⟨by decide +kernel, fun d => ?_⟩
    rintro ⟨scan, hscan, hd, hcall⟩
    obtain rfl := Option.some.inj (hnames.symm.trans hscan)
    obtain rfl := List.mem_singleton.1 hd
    simp [Declaration.Callable, declared] at hcall

end Session
end DocExamples
