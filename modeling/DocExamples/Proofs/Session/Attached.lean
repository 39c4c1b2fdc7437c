/-
# What function records count

After a run, the record of a function counts the passed tests of its file whose parent has its name
(`passedCount_tests`). These are the tests attached to a callable declaration of that name, and the
strays, which are attached to a class, a struct, a union or a namespace of the same name. Tests tell
their declaration by its name alone, so the strays are counted too, and the record is right exactly
if there are none (`hits_run`).
-/

import DocExamples.Proofs.Session.History

namespace DocExamples
namespace Session

open TestTree Backend

variable {σ : Type} {t tree : TestTree} {timeout : Duration} {scan : Scan} {scans : List Scan}
  {b : Backend (StateM σ)} {read : String → StateM σ (Except ReadError String)} {o : RunOptions}
  {s s' u : Session} {w w' : σ} {summary : RunSummary} {results : Results} {r : Test → TestResult}
  {name : String}

/-! ### What is kept from loading on -/

/-- What a session keeps from loading on: its configuration, the scans, and the tree apart from the
statuses and the results of its tests. -/
structure Kept (u s : Session) : Prop where
  config : s.config = u.config
  scans : s.scans = u.scans
  pristine : s.tree.pristine = u.tree.pristine

/-- **The run of a session that has been loaded** is a run of the loaded tree and then a renewal of
the coverage, with whatever reading the tracefile yields. -/
theorem Kept.run_eq (h : Kept u s) (hu : u.tree.Ready) (b : Backend (StateM σ))
    (read : String → StateM σ (Except ReadError String)) (o : RunOptions) (w : σ) :
    ∃ summary tree w₁ trace s' w₂, (u.tree.run b o).run w = ((.ok summary, tree), w₁) ∧
      (s.run b read o).run w = (((renewal u.config trace).map fun () => summary, s'), w₂) ∧
      s'.coverage = renewed tree.tests u.scans s.coverage trace ∧ Kept u s' := by
  obtain ⟨summary, tree, w₁, htree, hpristine⟩ := hu.run_ok b o w
  have hsame : (s.tree.run b o).run w = ((.ok summary, tree), w₁) := by
    rw [run_eq_of_pristine_eq h.pristine hu]
    exact htree
  obtain ⟨w₂, hrun⟩ : ∃ w₂, (s.run b read o).run w = _ := run_of_tree hsame
  rw [h.config] at hrun
  exact ⟨summary, tree, w₁, _, _, w₂, htree, hrun, by rw [h.scans], rfl, h.scans, hpristine⟩

/-- **One operation.** -/
theorem Kept.apply (h : Kept u s) (hu : u.tree.Ready) (b : Backend (StateM σ))
    (read : String → StateM σ (Except ReadError String)) (op : SessionOp) (w : σ) :
    ∃ s' w', (s.apply b read op).run w = (s', w') ∧ Kept u s' := by
  cases op with
  | run o =>
      obtain ⟨summary, tree, w₁, trace, s', w₂, -, hrun, -, hs'⟩ := h.run_eq hu b read o w
      refine ⟨s', w₂, ?_, hs'⟩
      rw [Session.apply, StateT.run_bind, hrun]
      rfl
  | reset => exact ⟨_, _, rfl, h.config, h.scans, (pristine_reset s.tree).trans h.pristine⟩
  | changeTest suite i op =>
      exact ⟨_, _, rfl, h.config, h.scans, (pristine_changeTest s.tree suite i op).trans h.pristine⟩

/-! ### Which tests passed -/

/-- **After the run of a loaded tree** every test holds the result that the summary has for it. -/
theorem Loaded.exists_results (h : Loaded t timeout scans)
    (hrun : (t.run b o).run w = ((.ok summary, tree), w')) :
    ∃ r : Test → TestResult, tree.tests = t.tests.map (fun x => x.conclude (r x)) ∧
      ∀ x ∈ t.tests, summary.results[x.id]? = some (r x) := by
  have hids := h.ready.nodup_targets_ids
  obtain ⟨κ, rs, calls, hs, hm, -⟩ := run_makes h.ready.distinct hids b o w
  obtain ⟨hresult, -⟩ := Prod.mk.inj (hm.plain.symm.trans hrun)
  obtain ⟨hsummary, rfl⟩ := Prod.mk.inj hresult
  obtain rfl := Except.ok.inj hsummary
  refine ⟨o.filter.resultOf κ, ?_, fun x hx => ?_⟩
  · rw [h.ready.change_eq, tests_mapTests]
    rfl
  · have hleaf : some x ∈ (t.leaves root).map t.leafTest? := by
      rw [h.leafTests_eq]
      exact List.mem_map_of_mem hx
    obtain ⟨leaf, hleaf, hname⟩ := List.mem_map.1 hleaf
    have hbelow : t.Below root leaf := (h.forest.mem_leaves_iff.1 hleaf).1.2
    exact (hs.getElem?_results (nodup_named_ids hids)).2
      ⟨x, h.forest.mem_named_targets_iff.2 ⟨leaf, hbelow, hname⟩, rfl, rfl⟩

/-! ### Counting passed tests -/

/-- The test of an example of a scan and its number there. -/
def testOf (timeout : Duration) (scan : Scan) (e : Example × ℕ) : Test :=
  Test.ofExample e.1 (Scan.parentOf? scan.declarations e.1) e.2 timeout

/-- The number of tests of a scan that passed, by the results of a run, and whose parents are such
as asked for. -/
def passedUnder (results : Results) (timeout : Duration) (scan : Scan) (p : Declaration → Bool) :
    ℕ :=
  scan.examples.zipIdx.countP fun e =>
    (Scan.parentOf? scan.declarations e.1).any p &&
      (results[(testOf timeout scan e).id]?).any fun r => r.status == .passed

theorem passedUnder_le (results : Results) (timeout : Duration) (scan : Scan)
    (p : Declaration → Bool) : passedUnder results timeout scan p ≤ scan.examples.length := by
  rw [passedUnder, ← List.length_zipIdx (l := scan.examples)]
  exact List.countP_le_length

/-- Every parent is of one sort or of the other. -/
theorem passedUnder_add (results : Results) (timeout : Duration) (scan : Scan)
    (p q : Declaration → Bool) :
    passedUnder results timeout scan (fun d => q d && p d) +
        passedUnder results timeout scan (fun d => !q d && p d) =
      passedUnder results timeout scan p := by
  unfold passedUnder
  induction scan.examples.zipIdx with
  | nil => rfl
  | cons e l ih =>
      rw [List.countP_cons, List.countP_cons, List.countP_cons, ← ih]
      cases Scan.parentOf? scan.declarations e.1 with
      | none => simp
      | some d => cases hq : q d <;> simp [hq] <;> omega

theorem tests_caseOf_eq_map (scan : Scan) (timeout : Duration) :
    (caseOf scan timeout).tests = scan.examples.zipIdx.map (testOf timeout scan) :=
  List.mapIdx_eq_zipIdx_map

/-- Tests tell the file of their scan. -/
theorem sourceFile_of_mem_caseOf (hplaced : Placed scan) {x : Test}
    (hx : x ∈ (caseOf scan timeout).tests) : x.sourceFile = scan.file := by
  rw [tests_caseOf_eq_map] at hx
  obtain ⟨e, he, rfl⟩ := List.mem_map.1 hx
  have hfile : (testOf timeout scan e).sourceFile = e.1.location.file :=
    Test.fileOfId_ofExample e.1 (Scan.parentOf? scan.declarations e.1) e.2 timeout
  rw [hfile]
  exact hplaced e.1 (List.mem_of_getElem? (List.mem_zipIdx_iff_getElem?.1 he))

/-- The tests of a file are counted for it by the names of their parents. -/
theorem passedCount_caseOf (hplaced : Placed scan)
    (hr : ∀ x ∈ (caseOf scan timeout).tests, results[x.id]? = some (r x)) (name : String) :
    passedCount ((caseOf scan timeout).tests.map fun x => x.conclude (r x)) scan.file name =
      passedUnder results timeout scan fun d => d.name == name := by
  rw [passedCount, passedUnder, tests_caseOf_eq_map, List.map_map, List.countP_map]
  refine List.countP_congr fun e he => ?_
  have hmem : testOf timeout scan e ∈ (caseOf scan timeout).tests := by
    rw [tests_caseOf_eq_map]
    exact List.mem_map_of_mem he
  have hdeclaration : (testOf timeout scan e).declaration =
      (Scan.parentOf? scan.declarations e.1).map (·.name) := rfl
  simp only [Function.comp_apply, Test.conclude, hr _ hmem, hdeclaration,
    sourceFile_of_mem_caseOf hplaced hmem]
  cases Scan.parentOf? scan.declarations e.1 with
  | none => simp
  | some d => simp [and_comm]

/-- No test of another file is counted. -/
theorem passedCount_others {others : List Scan} {file : String}
    (h : ∀ other ∈ others, Placed other ∧ other.file ≠ file) (name : String) :
    passedCount ((others.flatMap fun scan => (caseOf scan timeout).tests).map
      fun x => x.conclude (r x)) file name = 0 := by
  refine List.countP_eq_zero.2 (List.forall_mem_map.2 fun x hx hcount => ?_)
  obtain ⟨other, hother, hx⟩ := List.mem_flatMap.1 hx
  have hfile : x.sourceFile = file := by
    simp only [Test.conclude, Bool.and_eq_true, beq_iff_eq] at hcount
    exact hcount.1.2
  exact (h other hother).2 ((sourceFile_of_mem_caseOf (h other hother).1 hx).symm.trans hfile)

/-- **What is counted for a function** of a file are the tests of this file whose parents have its
name, whatever these are. -/
theorem passedCount_tests (hscans : (scans.map (·.file)).Nodup)
    (hplaced : ∀ scan ∈ scans, Placed scan) (hscan : scan ∈ scans)
    (hr : ∀ x ∈ scans.flatMap fun scan => (caseOf scan timeout).tests,
      results[x.id]? = some (r x)) (name : String) :
    passedCount ((scans.flatMap fun scan => (caseOf scan timeout).tests).map
        fun x => x.conclude (r x)) scan.file name =
      passedUnder results timeout scan fun d => d.name == name := by
  obtain ⟨before, after, rfl⟩ := List.append_of_mem hscan
  have hown : ∀ x ∈ (caseOf scan timeout).tests, results[x.id]? = some (r x) :=
    fun x hx => hr x (List.mem_flatMap.2 ⟨scan, hscan, hx⟩)
  -- paths are distinct, so the tests before and after those of the file are of other files
  rw [List.map_append, List.map_cons, List.nodup_middle, ← List.map_append] at hscans
  have hother : ∀ other ∈ before ++ after, Placed other ∧ other.file ≠ scan.file := by
    intro other hmem
    refine ⟨hplaced other ?_, fun heq => (List.nodup_cons.1 hscans).1 ?_⟩
    · exact List.perm_middle.mem_iff.2 (List.mem_cons_of_mem _ hmem)
    · exact heq ▸ List.mem_map_of_mem hmem
  have happend : ∀ l l' : List Test, passedCount (l ++ l') scan.file name =
      passedCount l scan.file name + passedCount l' scan.file name := fun _ _ => List.countP_append
  rw [List.flatMap_append, List.flatMap_cons, List.map_append, List.map_append, happend, happend,
    passedCount_others fun other hmem => hother other (List.mem_append_left _ hmem),
    passedCount_others fun other hmem => hother other (List.mem_append_right _ hmem),
    passedCount_caseOf (hplaced scan hscan) hown, Nat.zero_add, Nat.add_zero]

/-! ### The records after a run -/

theorem callablesAt_loadSources {sources : Sources} {path text : String}
    (htext : sources[path]? = some text) :
    callablesAt (s.loadSources sources).2.scans path = (s.scanOf (path, text)).callables := by
  rw [callablesAt, scans_loadSources, htext]
  rfl

/-- After a successful run of a session that has loaded some sources, the passed tests of each of
them are counted for the names of their parents. -/
theorem Kept.passedCount_run {sources : Sources} (h : Kept (s.loadSources sources).2 u)
    (hrun : (u.run b read o).run w = ((.ok summary, s'), w')) :
    ∃ tests c, s'.coverage = coverAll tests (s.loadSources sources).2.scans c ∧
      ∀ source ∈ sources.toList, ∀ name, passedCount tests source.1 name =
        passedUnder summary.results s.testTimeout (s.scanOf source) fun d => d.name == name := by
  obtain ⟨hload, hloaded⟩ := loadSources_eq s sources
  have htree : (s.loadSources sources).2.tree = s.treeOf sources := by rw [hload]
  -- whatever happened before, the run is that of the tree right after loading
  obtain ⟨summary', tree, w₁, trace, u', w₂, hrun₁, hrun₂, hcoverage, -⟩ :=
    h.run_eq (htree ▸ hloaded.ready) b read o w
  obtain ⟨hpair, -⟩ := Prod.mk.inj (hrun₂.symm.trans hrun)
  obtain ⟨hanswer, rfl⟩ := Prod.mk.inj hpair
  cases hrenewal : renewal (s.loadSources sources).2.config trace with
  | error e =>
      rw [hrenewal] at hanswer
      cases hanswer
  | ok =>
      rw [hrenewal] at hanswer
      obtain rfl : summary' = summary := Except.ok.inj hanswer
      obtain ⟨c, hc⟩ := exists_renewed_eq hrenewal tree.tests (s.loadSources sources).2.scans
        u.coverage
      obtain ⟨r, htests, hr⟩ := hloaded.exists_results (htree ▸ hrun₁)
      rw [hloaded.tests_eq] at htests hr
      refine ⟨tree.tests, c, hcoverage.trans hc, fun source hsource name => ?_⟩
      have hfiles : ((s.scansOf sources).map (·.file)).Nodup := by
        rw [scansOf, List.map_map]
        exact Keyed.nodup_map_fst_toList sources
      have hplaced : ∀ scan ∈ s.scansOf sources, Placed scan :=
        List.forall_mem_map.2 fun source _ => placed_scanOf s source
      rw [htests]
      exact passedCount_tests hfiles hplaced (List.mem_map_of_mem hsource) hr name

/-- **What function records count.** Whatever has happened to a session since it loaded some
sources: after a run that succeeds, every callable declaration of every source has a record. Its
hits are the tests of the source that passed in this run and are attached to a callable declaration
of the same name, and the strays, which are attached to a declaration of this name that is not
callable; the function counts as executed if there are any hits. So the record is that of the tests
attached to the function exactly if no stray passed. -/
theorem hits_run (s : Session) (sources : Sources) (ops : List SessionOp)
    (hrun : ((s.loadSources sources).2.perform b read ops >>= (·.run b read o)).run w =
      ((.ok summary, s'), w'))
    {path text : String} (htext : sources[path]? = some text) {d : Declaration}
    (hd : d ∈ (Scan.ofText s.provider path text).callables) :
    let scan := Scan.ofText s.provider path text
    let limit := Duration.ofMillis s.config.run.timeoutMillis
    let due := passedUnder summary.results limit scan fun p => p.kind.isCallable && p.name == d.name
    let strays :=
      passedUnder summary.results limit scan fun p => !p.kind.isCallable && p.name == d.name
    ∃ file f, s'.coverage.files[path]? = some file ∧ file.functions[d.name]? = some f ∧
      f.hits = .ofNat (due + strays) ∧ (f.executed = true ↔ 0 < f.hits) ∧
      (scan.examples.length < UInt64.size →
        (f.hits.toNat = due ∧ (f.executed = true ↔ 0 < due) ↔ strays = 0)) := by
  intro scan limit due strays
  have hready : (s.loadSources sources).2.tree.Ready := by
    obtain ⟨hload, hloaded⟩ := loadSources_eq s sources
    rw [hload]
    exact hloaded.ready
  have hstart : Kept (s.loadSources sources).2 (s.loadSources sources).2 := ⟨rfl, rfl, rfl⟩
  obtain ⟨u, w₁, hperform, hu⟩ :=
    perform_of_apply (fun _ op w hs => hs.apply hready b read op w) hstart ops w
  rw [StateT.run_bind, hperform] at hrun
  obtain ⟨tests, c, hcoverage, hcount⟩ := hu.passedCount_run hrun
  obtain ⟨file, f, hfile, hf, hhits, hexecuted⟩ := covered_of_mem hd tests path c.files[path]?
  have hsum : passedCount tests path d.name = due + strays :=
    (hcount (path, text) (Std.ExtTreeMap.mem_toList_iff_getElem?_eq_some.2 htext) d.name).trans
      (passedUnder_add summary.results limit scan _ fun p => p.kind.isCallable).symm
  rw [hsum] at hhits
  refine ⟨file, f, ?_, hf, hhits, hexecuted, fun hlength => ?_⟩
  · rw [hcoverage, files_coverAll, callablesAt_loadSources htext]
    exact hfile
  · have hle : due + strays ≤ scan.examples.length :=
      (passedUnder_add summary.results limit scan _ fun p => p.kind.isCallable).trans_le
        (passedUnder_le summary.results limit scan _)
    have htoNat : f.hits.toNat = due + strays := by
      rw [hhits, UInt64.toNat_ofNat_of_lt' (hle.trans_lt hlength)]
    rw [hexecuted, UInt64.lt_iff_toNat_lt, htoNat, UInt64.toNat_zero]
    omega

/-- The hypotheses of `hits_run` are satisfiable: two functions of one name with an example each are
run again after a reset, and one of the tests fails. -/
theorem hits_run_overloads :
    let provider : Provider := fun file _ =>
      [{ name := "f", kind := .function, location := ⟨file, 1, 1⟩ },
        { name := "f", kind := .function, location := ⟨file, 4, 1⟩ }]
    let s : Session := { config := {}, provider, excluded := [], coverage := {} }
    let text := "int f();\n// >>> f()\n// 1\nint f(int i);\n// >>> f(1)\n// 2\n"
    let sources : Sources := ({} : Sources).insert "a.cpp" text
    let b : Backend (StateM (List RunEvent)) := .scripted fun _ => ⟨⟨0⟩, .ok "1"⟩
    let read : String → StateM (List RunEvent) (Except ReadError String) :=
      fun _ => pure (.error .missing)
    ∃ summary s' log, ((s.loadSources sources).2.perform b read [.run {}, .reset] >>=
        (·.run b read {})).run [] = ((.ok summary, s'), log) ∧
      ∃ file f, s'.coverage.files["a.cpp"]? = some file ∧ file.functions["f"]? = some f ∧
        f.hits.toNat = 1 ∧ f.executed = true := by
  intro provider s text sources b read
  let limit := Duration.ofMillis s.config.run.timeoutMillis
  let scan := Scan.ofText provider "a.cpp" text
  have hcounts : (((s.loadSources sources).2.perform b read [.run {}, .reset] >>=
      (·.run b read {})).run []).1.1.toOption.map (fun summary =>
        (passedUnder summary.results limit scan fun p => p.kind.isCallable && p.name == "f",
          passedUnder summary.results limit scan fun p => !p.kind.isCallable && p.name == "f")) =
      some (1, 0) := by
    decide +kernel
  have hlength : scan.examples.length < UInt64.size := by decide +kernel
  have hname : "f" ∈ scan.callables.map (·.name) := by decide +kernel
  obtain ⟨d, hd, hname⟩ := List.mem_map.1 hname
  obtain ⟨⟨⟨r, s'⟩, log⟩, hrun⟩ : ∃ answer, ((s.loadSources sources).2.perform b read
      [.run {}, .reset] >>= (·.run b read {})).run [] = answer := ⟨_, rfl⟩
  rw [hrun] at hcounts
  cases r with
  | error e => cases hcounts
  | ok summary =>
      obtain ⟨hdue, hstrays⟩ := Prod.mk.inj (Option.some.inj hcounts)
      have htext : sources["a.cpp"]? = some text := Std.ExtTreeMap.getElem?_insert_self
      obtain ⟨file, f, hfile, hf, -, -, hright⟩ := hits_run s sources _ hrun htext hd
      rw [hname] at hf hright
      obtain ⟨hhits, hexecuted⟩ := (hright hlength).2 hstrays
      exact ⟨summary, s', log, hrun, file, f, hfile, hf, hhits.trans hdue,
        hexecuted.2 (hdue ▸ Nat.one_pos)⟩

/-- A test that is attached to a struct is counted for a function of the same name. -/
theorem hits_struct_of_same_name :
    let provider : Provider := fun file _ =>
      [{ name := "f", kind := .struct, location := ⟨file, 1, 1⟩ },
        { name := "f", kind := .function, location := ⟨file, 5, 1⟩ }]
    let s : Session := { config := {}, provider, excluded := [], coverage := {} }
    let text := "struct f \x7b\n// >>> 1\n// 1\n\x7d;\nint f();\n"
    let b : Backend (StateM (List RunEvent)) := .scripted fun _ => ⟨⟨0⟩, .ok "1"⟩
    let read : String → StateM (List RunEvent) (Except ReadError String) :=
      fun _ => pure (.error .missing)
    let scan := Scan.ofText provider "a.cpp" text
    let answer :=
      (((s.loadSources (({} : Sources).insert "a.cpp" text)).2.run b read {}).run []).1
    scan.callables.map (·.name) = ["f"] ∧
      (answer.1.toOption.map fun summary =>
        passedUnder summary.results (.ofMillis s.config.run.timeoutMillis) scan
          fun p => p.kind.isCallable && p.name == "f") = some 0 ∧
      ((answer.2.coverage.files["a.cpp"]?).bind (·.functions["f"]?)) = some ⟨5, true, 1⟩ := by
  decide +kernel

end Session
end DocExamples
