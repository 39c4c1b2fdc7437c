/-
# Totals that are never stale

A store of coverage keeps the totals of its records beside them. Whatever changes a record renews
the totals, and a reset empties both, so the totals are those of the records after any operations
(`Sound.perform?`). Written out: each metric counts the entries of all records and those that were
reached, and the records that a store has can be put into an empty one in any order to have the same
store again (`totals_perform`).
-/

import DocExamples.Coverage.Store
import DocExamples.Proofs.Keyed
import Mathlib.Algebra.Order.BigOperators.Group.List
import Mathlib.Algebra.Order.Ring.Nat

namespace DocExamples

/-- Whether each of the entries of a record that a metric counts was reached. -/
def Metric.reached : Metric → FileCoverage → List Bool
  | .lines, f | .statements, f => f.lines.toList.map fun e => e.2 > 0
  | .branches, f => f.branches.toList.map fun e => e.2.taken > 0
  | .functions, f => f.functions.toList.map fun e => e.2.executed

namespace Metric

/-- How many entries the files have. -/
def entryCount (m : Metric) (files : List FileCoverage) : Nat :=
  (files.map fun f => (m.reached f).length).sum

/-- How many entries of the files were reached. -/
def reachedCount (m : Metric) (files : List FileCoverage) : Nat :=
  (files.map fun f => (m.reached f).count true).sum

theorem reachedCount_le (m : Metric) (files : List FileCoverage) :
    m.reachedCount files ≤ m.entryCount files :=
  List.sum_le_sum fun _ _ => List.count_le_length

end Metric

/-- **The totals of some files** count their entries and those of them that were reached. -/
theorem CoverageSummary.metric_ofFiles (files : List FileCoverage) (m : Metric) :
    (ofFiles files).metric m = .ofCounts (m.entryCount files) (m.reachedCount files) := by
  have hsum : ∀ count : FileCoverage → Nat,
      files.foldr (fun f n => count f + n) 0 = (files.map count).sum := fun count => by
    rw [List.sum_eq_foldr, List.foldr_map]
  cases m <;>
    simp [ofFiles, metric, Metric.entryCount, Metric.reachedCount, Metric.reached, hsum,
      FileCoverage.coveredLines, FileCoverage.coveredBranches, FileCoverage.coveredFunctions,
      List.count_eq_countP, List.countP_map, Function.comp_def]

/-- An operation on a store of coverage. -/
inductive CoverageOp where
  | put (path : String) (f : FileCoverage)
  | merge (path : String) (f : FileCoverage)
  | ingest (text : String)
  | setThresholds (thresholds : Thresholds)
  | reset

/-- The thresholds that an operation sets, if it sets any. -/
def CoverageOp.thresholds? : CoverageOp → Option Thresholds
  | setThresholds thresholds => some thresholds
  | _ => none

namespace Coverage

/-- The store after an operation, unless a count grows too large in it. -/
def after? (c : Coverage) : CoverageOp → Option Coverage
  | .put path f => some (c.put path f)
  | .merge path f => c.merge? path f
  | .ingest text => some (c.ingest text)
  | .setThresholds thresholds => some (c.setThresholds thresholds)
  | .reset => some c.reset

/-- The store after a sequence of operations, unless a count grows too large on the way. -/
def perform? (c : Coverage) (ops : List CoverageOp) : Option Coverage := ops.foldlM after? c

variable {c d : Coverage} {op : CoverageOp} {ops : List CoverageOp} {thresholds : Thresholds}

/-! ### Totals -/

/-- Whether the totals are those of the records. -/
def Sound (c : Coverage) : Prop := c.summary = .ofFiles c.records

theorem sound_reset (c : Coverage) : c.reset.Sound := rfl

theorem sound_put (c : Coverage) (path : String) (f : FileCoverage) : (c.put path f).Sound := rfl

theorem sound_ingest (c : Coverage) (text : String) : (c.ingest text).Sound := rfl

theorem Sound.summary_eq (hc : c.Sound) (hd : d.Sound) (h : c.files = d.files) :
    c.summary = d.summary := by
  rw [Sound, records] at hc hd
  rw [hc, hd, h]

/-- Stores with totals that are those of the records are the same if they have the same records and
the same thresholds. -/
theorem Sound.ext (hc : c.Sound) (hd : d.Sound) (hfiles : c.files = d.files)
    (hthresholds : c.thresholds = d.thresholds) : c = d := by
  have hsummary := hc.summary_eq hd hfiles
  obtain ⟨files, summary, thresholds⟩ := c
  obtain ⟨files', summary', thresholds'⟩ := d
  exact congr (congrArg₂ Coverage.mk hfiles hsummary) hthresholds

/-- **Every operation** leaves totals that are those of the records. -/
theorem Sound.after? (hc : c.Sound) (h : c.after? op = some d) : d.Sound := by
  cases op with
  | put path f =>
      obtain rfl := Option.some.inj h
      exact c.sound_put path f
  | merge path f =>
      obtain ⟨merged, -, rfl⟩ := Option.map_eq_some_iff.1 h
      exact c.sound_put path merged
  | ingest text =>
      obtain rfl := Option.some.inj h
      exact c.sound_ingest text
  | setThresholds thresholds =>
      obtain rfl := Option.some.inj h
      exact hc
  | reset =>
      obtain rfl := Option.some.inj h
      exact c.sound_reset

/-- **Any operations** leave totals that are those of the records. -/
theorem Sound.perform? (hc : c.Sound) (h : c.perform? ops = some d) : d.Sound := by
  induction ops generalizing c with
  | nil => exact Option.some.inj h ▸ hc
  | cons op ops ih =>
      obtain ⟨c', hop, hops⟩ := Option.bind_eq_some_iff.1 h
      exact ih (hc.after? hop) hops

/-! ### Thresholds -/

theorem thresholds_after? (h : c.after? op = some d) :
    d.thresholds = op.thresholds?.getD c.thresholds := by
  cases op with
  | merge path f =>
      obtain ⟨merged, -, rfl⟩ := Option.map_eq_some_iff.1 h
      rfl
  | put | ingest | setThresholds | reset =>
      obtain rfl := Option.some.inj h
      rfl

/-- **The thresholds** are those that were set last. -/
theorem thresholds_perform? (h : c.perform? ops = some d) :
    d.thresholds = (ops.filterMap CoverageOp.thresholds?).getLast?.getD c.thresholds := by
  induction ops generalizing c with
  | nil => exact Option.some.inj h ▸ rfl
  | cons op ops ih =>
      obtain ⟨c', hop, hops⟩ := Option.bind_eq_some_iff.1 h
      rw [ih hops, thresholds_after? hop]
      cases hset : op.thresholds? with
      | none => rw [List.filterMap_cons_none hset, Option.getD_none]
      | some thresholds =>
          rw [List.filterMap_cons_some hset, List.getLast?_cons, Option.getD_some,
            Option.getD_some]

/-! ### Records put in again -/

theorem files_ingest (c : Coverage) (text path : String) :
    (c.ingest text).files[path]? = ((Tracefile.read text)[path]?).or c.files[path]? :=
  Keyed.getElem?_insertMany_toList _ _ _

/-- The store with more records. -/
def putAll (c : Coverage) (l : List (String × FileCoverage)) : Coverage :=
  l.foldl (fun c e => c.put e.1 e.2) c

theorem files_putAll (c : Coverage) (l : List (String × FileCoverage)) :
    (c.putAll l).files = c.files.insertMany l := by
  induction l generalizing c with
  | nil => rfl
  | cons e l ih =>
      rw [Std.ExtTreeMap.insertMany_cons]
      exact ih (c.put e.1 e.2)

theorem thresholds_putAll (c : Coverage) (l : List (String × FileCoverage)) :
    (c.putAll l).thresholds = c.thresholds := by
  induction l generalizing c with
  | nil => rfl
  | cons e l ih => exact ih (c.put e.1 e.2)

theorem Sound.putAll (hc : c.Sound) (l : List (String × FileCoverage)) : (c.putAll l).Sound := by
  induction l generalizing c with
  | nil => exact hc
  | cons e l ih => exact ih (c.sound_put e.1 e.2)

/-- **Putting the records of a store into an emptied one** gives the store again. -/
theorem Sound.putAll_reset (hc : c.Sound) {l : List (String × FileCoverage)}
    (hl : l.Perm c.files.toList) : c.reset.putAll l = c := by
  have hfiles : (c.reset.putAll l).files = c.files :=
    (c.reset.files_putAll l).trans (Keyed.insertMany_of_perm hl)
  exact (c.sound_reset.putAll l).ext hc hfiles (c.reset.thresholds_putAll l)

/-- **The totals of every store that operations make.** For each metric they are the number of the
entries that the records have, the number of those that were reached, which is no larger, and the
share in percent; nothing counts as skipped, and the statements are the lines. If the store is reset
and its records are put in again, in any order, it is the same store. The thresholds are those set
last, or those it was made with. -/
theorem totals_perform (h : ({ thresholds } : Coverage).perform? ops = some c) :
    (∀ m : Metric, c.summary.metric m =
        { total := m.entryCount c.records
          covered := m.reachedCount c.records
          skipped := 0
          percentage := percentage (m.reachedCount c.records) (m.entryCount c.records) } ∧
        m.reachedCount c.records ≤ m.entryCount c.records) ∧
      c.summary.statements = c.summary.lines ∧
      (∀ l : List (String × FileCoverage), l.Perm c.files.toList → c.reset.putAll l = c) ∧
      c.thresholds = (ops.filterMap CoverageOp.thresholds?).getLast?.getD thresholds := by
  have hempty : ({ thresholds } : Coverage).Sound := rfl
  have hc : c.Sound := hempty.perform? h
  refine ⟨fun m => ⟨?_, m.reachedCount_le c.records⟩, ?_, fun l => hc.putAll_reset,
    thresholds_perform? h⟩
  · rw [hc, CoverageSummary.metric_ofFiles]
    rfl
  · rw [hc]
    rfl

/-- The hypothesis of `totals_perform` is satisfiable: a file is merged into a store without it,
the store is reset and takes in a tracefile, and the file is merged into what the tracefile says. -/
theorem totals_perform_merge_twice :
    let lines : Std.ExtTreeMap UInt32 UInt64 := Std.ExtTreeMap.insert {} 1 2
    let f : FileCoverage := { path := "a.c", lines }
    let ops : List CoverageOp := [.setThresholds (.uniform 50.0), .merge "a.c" f, .reset,
      .ingest "SF:a.c\nDA:1,3\nDA:2,0\n", .put "b.c" { path := "b.c" }, .merge "a.c" f]
    ∃ c, ({} : Coverage).perform? ops = some c ∧ c.summary.lines = ⟨2, 1, 0, percentage 1 2⟩ ∧
      c.reset.putAll c.files.toList.reverse = c ∧ c.thresholds = .uniform 50.0 := by
  intro lines f ops
  have hcounts : (({} : Coverage).perform? ops).map (fun c =>
      (Metric.lines.entryCount c.records, Metric.lines.reachedCount c.records)) = some (2, 1) := by
    decide +kernel
  obtain ⟨c, hc, hcounts⟩ := Option.map_eq_some_iff.1 hcounts
  obtain ⟨hentries, hreached⟩ := Prod.mk.inj hcounts
  obtain ⟨hmetric, -, hagain, hthresholds⟩ := totals_perform hc
  refine ⟨c, hc, ?_, hagain _ (List.reverse_perm _), hthresholds⟩
  have hlines := (hmetric .lines).1
  rwa [hentries, hreached] at hlines

end Coverage
end DocExamples
