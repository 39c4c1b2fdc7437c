/-
# The order of merges

Records are merged into an empty store one after the other. What a path holds in the end is the
tally of its own records (`tally_perform?_merges`). All of a tally but the lines of functions is
sums, maxima and unions, so it does not depend on the order (`Tally.unplaced_eq_of_perm`). The
totals ignore the lines of functions, so they do not depend on it either (`merges_of_perm`).
-/

import DocExamples.Proofs.Coverage.Store
import DocExamples.Proofs.Coverage.Tally

namespace DocExamples

open Keyed

/-! ### Functions without their lines -/

/-- What is known of a function apart from its line. -/
def FunctionHits.unplaced (h : FunctionHits) : FunctionHits := { h with line := 0 }

namespace FileCoverage

variable {f g : FileCoverage} {fs gs : List FileCoverage}

/-- A record without the lines of its functions. -/
def unplaced (f : FileCoverage) : FileCoverage :=
  { f with functions := f.functions.map fun _ h => h.unplaced }

theorem functionHits_unplaced (f : FileCoverage) (name : String) :
    f.unplaced.functionHits name = (f.functionHits name).unplaced := by
  rw [functionHits, functionHits, unplaced, Std.ExtTreeMap.getD_map,
    Std.ExtTreeMap.getD_eq_getD_getElem?]
  cases f.functions[name]? <;> rfl

/-- The totals of some files do not depend on where their functions are. -/
theorem ofFiles_map_unplaced (files : List FileCoverage) :
    CoverageSummary.ofFiles (files.map unplaced) = CoverageSummary.ofFiles files := by
  have hsize : ∀ f : FileCoverage, f.unplaced.functions.size = f.functions.size := fun f =>
    Std.ExtTreeMap.size_map
  have hcovered : ∀ f : FileCoverage, f.unplaced.coveredFunctions = f.coveredFunctions := by
    intro f
    rw [coveredFunctions, unplaced, Std.ExtTreeMap.toList_map, List.countP_map]
    rfl
  simp only [CoverageSummary.ofFiles, List.foldr_map, hsize, hcovered]
  rfl

/-- Whether counts fit does not depend on the order. -/
theorem CountsFit.of_perm (h : CountsFit fs) (hperm : fs.Perm gs) : CountsFit gs := by
  obtain ⟨hlines, hbranches, hfunctions⟩ := h
  refine ⟨fun n => ?_, fun id => ?_, fun name => ?_⟩
  · rw [← (hperm.map _).sum_eq]
    exact hlines n
  · rw [← (hperm.map _).sum_eq]
    exact hbranches id
  · rw [← (hperm.map _).sum_eq]
    exact hfunctions name

/-- **A tally does not depend on the order**, apart from the lines of functions. -/
theorem Tally.unplaced_eq_of_perm (hf : Tally fs f) (hg : Tally gs g) (hperm : fs.Perm gs)
    (hpath : f.path = g.path) : f.unplaced = g.unplaced := by
  have hsum : ∀ {x y : UInt64} {count : FileCoverage → Nat},
      x.toNat = (fs.map count).sum → y.toNat = (gs.map count).sum → x = y := by
    intro x y count hx hy
    rw [← UInt64.toNat_inj, hx, hy]
    exact (hperm.map count).sum_eq
  have hkeys : ∀ {p q : Prop} {has : FileCoverage → Prop},
      (p ↔ ∃ f ∈ fs, has f) → (q ↔ ∃ f ∈ gs, has f) → (p ↔ q) := by
    intro p q has hp hq
    rw [hp, hq]
    simp only [hperm.mem_iff]
  refine eq_of_parts hpath ?lines ?branches ?functions
  case lines =>
    exact eq_of_getD (fun _ => 0) fun n =>
      ⟨hsum (hf.hits n) (hg.hits n), hkeys (hf.mem_lines n) (hg.mem_lines n)⟩
  case branches =>
    refine eq_of_getD (fun _ => {}) fun id => ⟨?_, hkeys (hf.mem_branches id) (hg.mem_branches id)⟩
    have htotal : (f.branchHits id).total = (g.branchHits id).total := by
      rw [hf.total, hg.total]
      refine (hperm.map _).foldl_eq' (fun x _ y _ z => ?_) 0
      rw [← UInt64.toNat_inj]
      simp only [toNat_max]
      omega
    exact congrArg₂ BranchHits.mk (hsum (hf.taken id) (hg.taken id)) htotal
  case functions =>
    refine eq_of_getD (fun _ => {}) fun name => ⟨?_, ?_⟩
    · refine (f.functionHits_unplaced name).trans (.trans ?_ (g.functionHits_unplaced name).symm)
      have hexecuted : (f.functionHits name).executed = (g.functionHits name).executed := by
        rw [hf.executed, hg.executed]
        exact hperm.any_eq
      exact congrArg₂ (FunctionHits.mk 0) hexecuted (hsum (hf.calls name) (hg.calls name))
    · rw [unplaced, unplaced, Std.ExtTreeMap.mem_map, Std.ExtTreeMap.mem_map]
      exact hkeys (hf.mem_functions name) (hg.mem_functions name)

end FileCoverage

namespace Coverage

open FileCoverage

variable {c c' : Coverage} {l l' : List (String × FileCoverage)} {thresholds : Thresholds}

/-! ### Merges into a store -/

/-- The operations that merge records, each under its path. -/
def merges (l : List (String × FileCoverage)) : List CoverageOp := l.map fun e => .merge e.1 e.2

/-- **Merging records into a store** joins them into the records that it has. -/
theorem files_perform?_merges (c : Coverage) (l : List (String × FileCoverage)) :
    (c.perform? (merges l)).map (·.files) =
      joinAll? (fun path => { path }) FileCoverage.merge? c.files l := by
  induction l generalizing c with
  | nil => rfl
  | cons e l ih =>
      obtain ⟨path, f⟩ := e
      have hstep : c.perform? (merges ((path, f) :: l)) =
          (c.merge? path f).bind fun d => d.perform? (merges l) := rfl
      rw [hstep, merge?, joinAll?, List.foldlM_cons]
      dsimp only
      cases (c.files.getD path { path }).merge? f with
      | none => rfl
      | some merged => exact ih (c.put path merged)

/-- **What a path holds** after merges into an empty store is the tally of its own records. -/
theorem tally_perform?_merges (h : ({ thresholds } : Coverage).perform? (merges l) = some c)
    (path : String) : (path ∈ c.files ↔ path ∈ l.map Prod.fst) ∧
      ∀ f, c.files[path]? = some f → f.path = path ∧ Tally (valuesAt l path) f := by
  have hfiles : some c.files =
      joinAll? (fun path => { path }) FileCoverage.merge? {} l := by
    rw [← files_perform?_merges { thresholds } l, h]
    rfl
  obtain ⟨hget, hmem⟩ := joinAll?_eq_some_iff.1 hfiles.symm path
  refine ⟨by simpa using hmem, fun f hf => ?_⟩
  rw [Std.ExtTreeMap.getD_empty, Std.ExtTreeMap.getD_eq_getD_getElem?, hf] at hget
  exact tally_of_foldlM_merge? hget

/-- **Merging into an empty store succeeds** exactly if the counts of each path fit. -/
theorem exists_perform?_merges_iff (thresholds : Thresholds) (l : List (String × FileCoverage)) :
    (∃ c, ({ thresholds } : Coverage).perform? (merges l) = some c) ↔
      ∀ path, CountsFit (valuesAt l path) := by
  have hfiles : (∃ c, ({ thresholds } : Coverage).perform? (merges l) = some c) ↔
      ∃ files, joinAll? (fun path => { path }) FileCoverage.merge? {} l = some files := by
    rw [← Option.isSome_iff_exists, ← Option.isSome_iff_exists,
      ← files_perform?_merges { thresholds } l, Option.isSome_map]
  rw [hfiles, exists_joinAll?_iff]
  simp only [Std.ExtTreeMap.getD_empty]
  exact forall_congr' fun path => exists_foldlM_merge?_iff

/-- The records of two stores, merged in two orders, agree apart from the lines of functions. -/
theorem files_map_unplaced_eq_of_perm
    (hc : ({ thresholds } : Coverage).perform? (merges l) = some c)
    (hc' : ({ thresholds } : Coverage).perform? (merges l') = some c') (hperm : l.Perm l') :
    c.files.map (fun _ f => f.unplaced) = c'.files.map fun _ f => f.unplaced := by
  refine Std.ExtTreeMap.ext_getElem? fun path => ?_
  rw [Std.ExtTreeMap.getElem?_map, Std.ExtTreeMap.getElem?_map]
  obtain ⟨hmem, htally⟩ := tally_perform?_merges hc path
  obtain ⟨hmem', htally'⟩ := tally_perform?_merges hc' path
  rw [Std.ExtTreeMap.mem_iff_isSome_getElem?] at hmem hmem'
  rw [(hperm.map Prod.fst).mem_iff, ← hmem'] at hmem
  cases hf : c.files[path]? with
  | none =>
      cases hg : c'.files[path]? with
      | none => rfl
      | some g => simp [hf, hg] at hmem
  | some f =>
      cases hg : c'.files[path]? with
      | none => simp [hf, hg] at hmem
      | some g =>
          obtain ⟨hpath, hf⟩ := htally f hf
          obtain ⟨hpath', hg⟩ := htally' g hg
          exact congrArg some
            (hf.unplaced_eq_of_perm hg (valuesAt_perm hperm path) (hpath.trans hpath'.symm))

/-- Stores whose records agree apart from the lines of functions have the same totals. -/
theorem Sound.summary_eq_of_unplaced (hc : c.Sound) (hc' : c'.Sound)
    (h : c.files.map (fun _ f => f.unplaced) = c'.files.map fun _ f => f.unplaced) :
    c.summary = c'.summary := by
  have hrecords : ∀ d : Coverage, d.records.map unplaced =
      (d.files.map fun _ f => f.unplaced).toList.map (·.2) := by
    intro d
    rw [records, Std.ExtTreeMap.toList_map, List.map_map, List.map_map]
    rfl
  rw [hc, hc', ← ofFiles_map_unplaced c.records, ← ofFiles_map_unplaced c'.records, hrecords,
    hrecords, h]

/-- **Records can be merged in any order.** If the counts for each path fit in 64 bits, added up,
merging the records into an empty store succeeds in any two orders. The stores have the same paths
and totals, and the same records apart from the lines of functions. What a path holds is the tally
of its records in the order of the merges, so a function is on the first line that is known there.
Merging two records is associative, the lines of functions included, and an empty record changes
nothing. -/
theorem merges_of_perm (thresholds : Thresholds)
    (hfit : ∀ path, CountsFit (valuesAt l path)) (hperm : l.Perm l') :
    (∃ c c', ({ thresholds } : Coverage).perform? (merges l) = some c ∧
      ({ thresholds } : Coverage).perform? (merges l') = some c' ∧
      c.files.map (fun _ f => f.unplaced) = c'.files.map (fun _ f => f.unplaced) ∧
      c.summary = c'.summary ∧
      ∀ path, (path ∈ c.files ↔ path ∈ l.map Prod.fst) ∧
        (path ∈ c'.files ↔ path ∈ l.map Prod.fst) ∧
        (∀ f, c.files[path]? = some f → f.path = path ∧ Tally (valuesAt l path) f) ∧
        ∀ f, c'.files[path]? = some f → f.path = path ∧ Tally (valuesAt l' path) f) ∧
      (∀ a b d : FileCoverage,
        (a.merge? b).bind (fun f => f.merge? d) = (b.merge? d).bind fun f => a.merge? f) ∧
      ∀ (f : FileCoverage) (path : String), f.merge? { path } = some f ∧
        ({ path } : FileCoverage).merge? f = some { f with path } := by
  obtain ⟨c, hc⟩ := (exists_perform?_merges_iff thresholds l).2 hfit
  obtain ⟨c', hc'⟩ := (exists_perform?_merges_iff thresholds l').2
    fun path => (hfit path).of_perm (valuesAt_perm hperm path)
  have hempty : ({ thresholds } : Coverage).Sound := rfl
  have hfiles := files_map_unplaced_eq_of_perm hc hc' hperm
  refine ⟨⟨c, c', hc, hc', hfiles,
    (hempty.perform? hc).summary_eq_of_unplaced (hempty.perform? hc') hfiles, fun path => ?_⟩,
    merge?_assoc, fun f path => ⟨merge?_empty f path, empty_merge? f path⟩⟩
  obtain ⟨hmem, htally⟩ := tally_perform?_merges hc path
  obtain ⟨hmem', htally'⟩ := tally_perform?_merges hc' path
  rw [(hperm.map Prod.fst).mem_iff] at hmem ⊢
  exact ⟨hmem, hmem', htally, htally'⟩

/-- The hypotheses of `merges_of_perm` are satisfiable: of three records of a file one does not know
where the function is and the others do not agree, so it is on another line in the other order. -/
theorem merges_of_perm_two_lines :
    let record (line : UInt32) (hits : UInt64) : String × FileCoverage := ("a.c",
      { path := "a.c"
        lines := Std.ExtTreeMap.insert {} 1 hits
        functions := Std.ExtTreeMap.insert {} "main" (.ofHits line hits) })
    let l := [record 0 1, record 3 0, ("b.c", { path := "b.c" }), record 5 2]
    ∃ c c', ({} : Coverage).perform? (merges l) = some c ∧
      ({} : Coverage).perform? (merges l.reverse) = some c' ∧ c.summary = c'.summary ∧
      ∃ f g, c.files["a.c"]? = some f ∧ c'.files["a.c"]? = some g ∧ f.unplaced = g.unplaced ∧
        (f.functionHits "main").line = 3 ∧ (g.functionHits "main").line = 5 := by
  intro record l
  have hfit : ∀ path, CountsFit (valuesAt l path) :=
    (exists_perform?_merges_iff {} l).1 (Option.isSome_iff_exists.1 (by decide +kernel))
  obtain ⟨⟨c, c', hc, hc', hfiles, hsummary, hpaths⟩, -, -⟩ :=
    merges_of_perm {} hfit l.reverse_perm.symm
  obtain ⟨hmem, hmem', htally, htally'⟩ := hpaths "a.c"
  have hl : "a.c" ∈ l.map Prod.fst := by decide
  obtain ⟨f, hf⟩ := Option.isSome_iff_exists.1
    (Std.ExtTreeMap.mem_iff_isSome_getElem?.1 (hmem.2 hl))
  obtain ⟨g, hg⟩ := Option.isSome_iff_exists.1
    (Std.ExtTreeMap.mem_iff_isSome_getElem?.1 (hmem'.2 hl))
  have hfg := congrArg (·["a.c"]?) hfiles
  simp only [Std.ExtTreeMap.getElem?_map, hf, hg] at hfg
  refine ⟨c, c', hc, hc', hsummary, f, g, hf, hg, Option.some.inj hfg, ?_, ?_⟩
  · rw [(htally f hf).2.line]
    decide +kernel
  · rw [(htally' g hg).2.line]
    decide +kernel

end Coverage
end DocExamples
