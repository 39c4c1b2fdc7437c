/-
# Renewing the coverage

Renewing puts the records of the tracefile in the place of those of the same files, and the
functions of every loaded file in the place of those of the same names (`files_coverAll`). So a
renewal forgets the one before (`files_renewed_renewed`), and nothing adds up from run to run. What
it has of the tests is which of them passed (`renewed_congr`).
-/

import DocExamples.Proofs.Coverage.Store
import DocExamples.Session.Run

namespace DocExamples

namespace Session

variable {tests tests' : List Test} {path : String} {ds : List Declaration} {scans : Scans}
  {c : Coverage}

/-! ### The functions of one file -/

theorem recordFunctions_eq (tests : List Test) (file : String) (ds : List Declaration)
    (f : FileCoverage) : recordFunctions tests file ds f = { f with
      functions := f.functions.insertMany (ds.map fun d =>
        (d.name, .ofHits d.line (UInt64.ofNat (passedCount tests file d.name)))) } := by
  induction ds generalizing f with
  | nil => rfl
  | cons d ds ih =>
      rw [List.map_cons, Std.ExtTreeMap.insertMany_cons]
      exact ih _

/-- Functions that are recorded again count what they count the last time. -/
theorem recordFunctions_recordFunctions (tests tests' : List Test) (file : String)
    (ds : List Declaration) (f : FileCoverage) :
    recordFunctions tests' file ds (recordFunctions tests file ds f) =
      recordFunctions tests' file ds f := by
  rw [recordFunctions_eq, recordFunctions_eq, recordFunctions_eq]
  refine congrArg (fun functions => { f with functions }) (Keyed.insertMany_insertMany ?_ _)
  simp

/-- The record of a file with its functions, which makes one if there is any function. -/
def covered (tests : List Test) (path : String) (ds : List Declaration)
    (old : Option FileCoverage) : Option FileCoverage :=
  if ds.isEmpty then old else some (recordFunctions tests path ds (old.getD { path }))

theorem covered_nil (tests : List Test) (path : String) (old : Option FileCoverage) :
    covered tests path [] old = old := rfl

theorem covered_of_ne_nil (h : ds ≠ []) (tests : List Test) (path : String)
    (old : Option FileCoverage) :
    covered tests path ds old = some (recordFunctions tests path ds (old.getD { path })) :=
  if_neg (by simpa using h)

theorem covered_covered (tests tests' : List Test) (path : String) (ds : List Declaration)
    (old : Option FileCoverage) :
    covered tests' path ds (covered tests path ds old) = covered tests' path ds old := by
  unfold covered
  split_ifs
  · rfl
  · rw [Option.getD_some, recordFunctions_recordFunctions]

theorem files_coverScan (tests : List Test) (c : Coverage) (path : String) (scan : Scan)
    (p : String) : (coverScan tests c path scan).files[p]? =
      if path = p then covered tests path scan.callables c.files[path]? else c.files[p]? := by
  unfold coverScan covered
  split_ifs with hnone hp hp
  · rw [hp]
  · rfl
  · rw [Coverage.files_put, if_pos hp, Std.ExtTreeMap.getD_eq_getD_getElem?]
  · rw [Coverage.files_put, if_neg hp]

theorem sound_coverScan (hc : c.Sound) (tests : List Test) (path : String) (scan : Scan) :
    (coverScan tests c path scan).Sound := by
  unfold coverScan
  split_ifs
  · exact hc
  · exact c.sound_put _ _

/-- What may be called in a file has a record there. Of several with one name the last one gives the
line, and all of them count the same. -/
theorem covered_of_mem {d : Declaration} (hd : d ∈ ds) (tests : List Test) (path : String)
    (old : Option FileCoverage) :
    ∃ file f, covered tests path ds old = some file ∧ file.functions[d.name]? = some f ∧
      f.hits = .ofNat (passedCount tests path d.name) ∧ (f.executed = true ↔ 0 < f.hits) := by
  have hcovered := covered_of_ne_nil (List.ne_nil_of_mem hd) tests path old
  rw [recordFunctions_eq] at hcovered
  have hkey : d.name ∈ (ds.map fun d => (d.name,
      FunctionHits.ofHits d.line (.ofNat (passedCount tests path d.name)))).map Prod.fst := by
    rw [List.map_map]
    exact List.mem_map_of_mem hd
  obtain ⟨f, hf, hlookup⟩ :=
    Keyed.exists_mem_getElem?_insertMany hkey (old.getD { path }).functions
  obtain ⟨d', -, heq⟩ := List.mem_map.1 hf
  obtain ⟨hname, rfl⟩ := Prod.mk.inj heq
  rw [hname] at hlookup
  exact ⟨_, _, hcovered, hlookup, rfl, decide_eq_true_iff⟩

/-! ### The functions of all files -/

/-- The coverage with the functions of all files. -/
def coverAll (tests : List Test) (scans : Scans) (c : Coverage) : Coverage :=
  scans.toList.foldl (fun c e => coverScan tests c e.1 e.2) c

/-- What may be called in a file. -/
def callablesAt (scans : Scans) (path : String) : List Declaration :=
  ((scans[path]?).map Scan.callables).getD []

theorem files_foldl_coverScan_of_not_mem {l : List (String × Scan)}
    (h : path ∉ l.map Prod.fst) (c : Coverage) :
    (l.foldl (fun c e => coverScan tests c e.1 e.2) c).files[path]? = c.files[path]? := by
  induction l generalizing c with
  | nil => rfl
  | cons e l ih =>
      obtain ⟨hne, hl⟩ := not_or.1 (List.mem_cons.not.1 h)
      rw [List.foldl_cons, ih hl, files_coverScan, if_neg (Ne.symm hne)]

theorem files_foldl_coverScan_of_mem {l : List (String × Scan)} {scan : Scan}
    (hl : (l.map Prod.fst).Nodup) (h : (path, scan) ∈ l) (c : Coverage) :
    (l.foldl (fun c e => coverScan tests c e.1 e.2) c).files[path]? =
      covered tests path scan.callables c.files[path]? := by
  induction l generalizing c with
  | nil => cases h
  | cons e l ih =>
      obtain ⟨he, hl⟩ := List.nodup_cons.1 hl
      rw [List.foldl_cons]
      obtain rfl | h := List.mem_cons.1 h
      · rw [files_foldl_coverScan_of_not_mem he, files_coverScan, if_pos rfl]
      · have hne : e.1 ≠ path := fun hp => he (hp ▸ List.mem_map_of_mem h)
        rw [ih hl h, files_coverScan, if_neg hne]

/-- **The record of every file** has its functions as the tests cover them. -/
theorem files_coverAll (tests : List Test) (scans : Scans) (c : Coverage) (path : String) :
    (coverAll tests scans c).files[path]? =
      covered tests path (callablesAt scans path) c.files[path]? := by
  have hnodup := Keyed.nodup_map_fst_toList scans
  cases h : scans[path]? with
  | none =>
      have hnot : path ∉ scans.toList.map Prod.fst := by
        rw [Std.ExtTreeMap.map_fst_toList_eq_keys, Std.ExtTreeMap.mem_keys,
          Std.ExtTreeMap.mem_iff_isSome_getElem?, h]
        nofun
      rw [callablesAt, h]
      exact files_foldl_coverScan_of_not_mem hnot c
  | some scan =>
      rw [callablesAt, h]
      exact files_foldl_coverScan_of_mem hnodup
        (Std.ExtTreeMap.mem_toList_iff_getElem?_eq_some.2 h) c

theorem sound_coverAll (hc : c.Sound) (tests : List Test) (scans : Scans) :
    (coverAll tests scans c).Sound := by
  unfold coverAll
  induction scans.toList generalizing c with
  | nil => exact hc
  | cons e l ih => exact ih (sound_coverScan hc tests e.1 e.2)

/-! ### Renewals -/

/-- The coverage after a renewal, by what reading the tracefile yielded. -/
def renewed (tests : List Test) (scans : Scans) (c : Coverage) :
    Option (Except ReadError String) → Coverage
  | none | some (.error .missing) => coverAll tests scans c
  | some (.ok text) => coverAll tests scans (c.ingest text)
  | some (.error .unreadable) => c

/-- The answer of a renewal: only a tracefile that cannot be read makes it fail. -/
def renewal (config : Config) : Option (Except ReadError String) → Except SessionError Unit
  | some (.error .unreadable) => .error (.unreadable (config.coverage.tracefile.getD ""))
  | _ => .ok ()

theorem updateCoverage_eq (s : Session) (trace : Option (Except ReadError String)) :
    s.updateCoverage trace = (renewal s.config trace,
      { s with coverage := renewed s.tree.tests s.scans s.coverage trace }) := by
  match trace with
  | none | some (.ok _) | some (.error .missing) | some (.error .unreadable) => rfl

theorem renewal_eq_ok {trace : Option (Except ReadError String)}
    (h : trace ≠ some (.error .unreadable)) (config : Config) : renewal config trace = .ok () := by
  unfold renewal
  split
  · exact absurd rfl h
  · rfl

/-- A renewal that succeeds records the functions of all files. -/
theorem exists_renewed_eq {config : Config} {trace : Option (Except ReadError String)}
    (h : renewal config trace = .ok ()) (tests : List Test) (scans : Scans) (c : Coverage) :
    ∃ c', renewed tests scans c trace = coverAll tests scans c' := by
  match trace with
  | none | some (.error .missing) => exact ⟨c, rfl⟩
  | some (.ok text) => exact ⟨c.ingest text, rfl⟩
  | some (.error .unreadable) => cases h

theorem sound_renewed (hc : c.Sound) (tests : List Test) (scans : Scans)
    (trace : Option (Except ReadError String)) : (renewed tests scans c trace).Sound := by
  match trace with
  | none | some (.error .missing) => exact sound_coverAll hc tests scans
  | some (.ok text) => exact sound_coverAll (c.sound_ingest text) tests scans
  | some (.error .unreadable) => exact hc

/-- **A renewal forgets the one before it**, of other tests but with the same tracefile. -/
theorem files_renewed_renewed (tests tests' : List Test) (scans : Scans) (c : Coverage)
    (trace : Option (Except ReadError String)) :
    (renewed tests' scans (renewed tests scans c trace) trace).files =
      (renewed tests' scans c trace).files := by
  refine Std.ExtTreeMap.ext_getElem? fun path => ?_
  match trace with
  | none | some (.error .missing) =>
      simp only [renewed, files_coverAll, covered_covered]
  | some (.ok text) =>
      simp only [renewed, files_coverAll, Coverage.files_ingest]
      -- a file that the tracefile has is taken from there, any other one is recorded again
      cases (Tracefile.read text)[path]? with
      | none => simp only [Option.none_or, covered_covered]
      | some f => simp only [Option.some_or]
  | some (.error .unreadable) => rfl

/-- What a renewal leaves of the records depends on the records only. -/
theorem files_renewed_congr {d : Coverage} (h : c.files = d.files) (tests : List Test)
    (scans : Scans) (trace : Option (Except ReadError String)) :
    (renewed tests scans c trace).files = (renewed tests scans d trace).files := by
  refine Std.ExtTreeMap.ext_getElem? fun path => ?_
  match trace with
  | none | some (.error .missing) => simp only [renewed, files_coverAll, h]
  | some (.ok text) => simp only [renewed, files_coverAll, Coverage.files_ingest, h]
  | some (.error .unreadable) => simp only [renewed, h]

/-- Emptied coverages are renewed to the same records. -/
theorem files_renewed_reset (c : Coverage) (tests : List Test) (scans : Scans)
    (trace : Option (Except ReadError String)) :
    (renewed tests scans c.reset trace).files = (renewed tests scans {} trace).files := by
  have hfiles : c.reset.files = ({} : Coverage).files := rfl
  exact files_renewed_congr hfiles tests scans trace

/-- A renewal sees of the tests which of them passed. -/
theorem renewed_congr (h : passedCount tests = passedCount tests') (scans : Scans) (c : Coverage)
    (trace : Option (Except ReadError String)) :
    renewed tests scans c trace = renewed tests' scans c trace := by
  have hrecord : recordFunctions tests = recordFunctions tests' := by
    unfold recordFunctions
    rw [h]
  unfold renewed coverAll coverScan
  rw [hrecord]

end Session
end DocExamples
