/-
# What merges keep

Merging records into an empty one leaves their tally: the lines, branches and functions that any of
them has, with all counts added up, and the first known line of each function
(`tally_of_foldlM_merge?`). It fails exactly if a sum does not fit in 64 bits
(`exists_foldlM_merge?_iff`). So a merge of two records loses nothing that was reached in one of
them, or it fails (`reached_merge?`).
-/

import DocExamples.Coverage.Tracefile
import DocExamples.Proofs.Coverage.Merge

namespace DocExamples
namespace FileCoverage

open Keyed

variable {a b c f g : FileCoverage} {fs : List FileCoverage} {path : String}

/-! ### Records one after the other -/

/-- **Merging records one after the other** joins their lines, branches and functions. -/
theorem foldlM_merge?_eq_some_iff : fs.foldlM merge? f = some g ↔ g.path = f.path ∧
    (fs.map (·.lines)).foldlM (joinEntries? 0 addCounts?) f.lines = some g.lines ∧
    (fs.map (·.branches)).foldlM (joinEntries? {} mergeBranch?) f.branches = some g.branches ∧
    (fs.map (·.functions)).foldlM (joinEntries? {} mergeFunction?) f.functions =
      some g.functions := by
  induction fs generalizing f with
  | nil =>
      constructor
      · intro h
        obtain rfl := Option.some.inj h
        exact ⟨rfl, rfl, rfl, rfl⟩
      · rintro ⟨hpath, hl, hb, hf⟩
        exact congrArg some (eq_of_parts hpath.symm (Option.some.inj hl) (Option.some.inj hb)
          (Option.some.inj hf))
  | cons f' fs ih =>
      simp only [List.foldlM_cons, List.map_cons]
      constructor
      · intro h
        obtain ⟨d, hd, h⟩ := Option.bind_eq_some_iff.1 h
        obtain ⟨hpath, hl, hb, hf⟩ := merge?_eq_some_iff.1 hd
        rw [hl, hb, hf, ← hpath]
        exact ih.1 h
      · rintro ⟨hpath, hl, hb, hf⟩
        obtain ⟨lines, hl, hl'⟩ := Option.bind_eq_some_iff.1 hl
        obtain ⟨branches, hb, hb'⟩ := Option.bind_eq_some_iff.1 hb
        obtain ⟨functions, hf, hf'⟩ := Option.bind_eq_some_iff.1 hf
        exact Option.bind_eq_some_iff.2 ⟨⟨f.path, lines, branches, functions⟩,
          merge?_eq_some_iff.2 ⟨rfl, hl, hb, hf⟩, ih.2 ⟨hpath, hl', hb', hf'⟩⟩

/-- How often a line was reached; never if nothing is known of it. -/
def lineHits (f : FileCoverage) (n : UInt32) : UInt64 := f.lines.getD n 0

/-- How often a branch was taken, and its outcomes. -/
def branchHits (f : FileCoverage) (id : BranchId) : BranchHits := f.branches.getD id {}

/-- What is known of a function. -/
def functionHits (f : FileCoverage) (name : String) : FunctionHits := f.functions.getD name {}

/-- Whether the counts of some records, added up, fit in 64 bits. -/
def CountsFit (fs : List FileCoverage) : Prop :=
  (∀ n, (fs.map fun f => (f.lineHits n).toNat).sum < UInt64.size) ∧
  (∀ id, (fs.map fun f => (f.branchHits id).taken.toNat).sum < UInt64.size) ∧
  ∀ name, (fs.map fun f => (f.functionHits name).hits.toNat).sum < UInt64.size

/-- What merging records into an empty one leaves of them. -/
structure Tally (fs : List FileCoverage) (g : FileCoverage) : Prop where
  mem_lines : ∀ n, n ∈ g.lines ↔ ∃ f ∈ fs, n ∈ f.lines
  hits : ∀ n, (g.lineHits n).toNat = (fs.map fun f => (f.lineHits n).toNat).sum
  mem_branches : ∀ id, id ∈ g.branches ↔ ∃ f ∈ fs, id ∈ f.branches
  taken : ∀ id, (g.branchHits id).taken.toNat = (fs.map fun f => (f.branchHits id).taken.toNat).sum
  /-- The outcomes are the most that any record has. -/
  total : ∀ id, (g.branchHits id).total = (fs.map fun f => (f.branchHits id).total).foldl max 0
  mem_functions : ∀ name, name ∈ g.functions ↔ ∃ f ∈ fs, name ∈ f.functions
  calls : ∀ name,
    (g.functionHits name).hits.toNat = (fs.map fun f => (f.functionHits name).hits.toNat).sum
  executed : ∀ name, (g.functionHits name).executed = fs.any fun f => (f.functionHits name).executed
  /-- The line of a function is the first one that is known. -/
  line : ∀ name, (g.functionHits name).line =
    ((fs.map fun f => (f.functionHits name).line).find? (· ≠ 0)).getD 0

/-- Places joined one after the other: the first known line, and whether any was executed. -/
theorem foldl_joinPlaces (p : UInt32 × Bool) (places : List (UInt32 × Bool)) :
    places.foldl joinPlaces p =
      ((((p :: places).map Prod.fst).find? (· ≠ 0)).getD 0, p.2 || places.any (·.2)) := by
  induction places generalizing p with
  | nil =>
      obtain ⟨line, executed⟩ := p
      by_cases hline : line = 0 <;> simp [hline]
  | cons q places ih =>
      have hline : ∀ lines, ((joinPlaces p q).1 :: lines).find? (· ≠ 0) =
          (p.1 :: q.1 :: lines).find? (· ≠ 0) := by
        intro lines
        rw [joinPlaces]
        by_cases hp : p.1 = 0
        · rw [if_pos hp, List.find?_cons_of_neg (by simpa using hp) (a := p.1)]
        · rw [if_neg hp, List.find?_cons_of_pos (by simpa using hp),
            List.find?_cons_of_pos (by simpa using hp)]
      have hexecuted : ((joinPlaces p q).2 || places.any (·.2)) =
          (p.2 || (q :: places).any (·.2)) := by
        rw [joinPlaces, List.any_cons, Bool.or_assoc]
      rw [List.foldl_cons, ih, List.map_cons, List.map_cons, List.map_cons, hline, hexecuted]

/-- **Merging records into an empty one** leaves their tally. -/
theorem tally_of_foldlM_merge? (h : fs.foldlM merge? { path } = some g) :
    g.path = path ∧ Tally fs g := by
  obtain ⟨hpath, hl, hb, hf⟩ := foldlM_merge?_eq_some_iff.1 h
  have hlines := adds_lines.foldlM_joinEntries? hl
  have hbranches := adds_branches.foldlM_joinEntries? hb
  have hfunctions := adds_functions.foldlM_joinEntries? hf
  simp only [List.map_map, List.mem_map, exists_exists_and_eq_and, Function.comp_def]
    at hlines hbranches hfunctions
  refine ⟨hpath, fun n => (hlines n).2.2, fun n => (hlines n).1, fun id => (hbranches id).2.2,
    fun id => (hbranches id).1, fun id => (hbranches id).2.1, fun name => (hfunctions name).2.2,
    fun name => (hfunctions name).1, fun name => ?_, fun name => ?_⟩
  · have hplace := congrArg Prod.snd (hfunctions name).2.1
    rw [foldl_joinPlaces] at hplace
    simpa [functionHits, List.any_map, Function.comp_def] using hplace
  · have hplace := congrArg Prod.fst (hfunctions name).2.1
    rw [foldl_joinPlaces] at hplace
    simpa [functionHits, Function.comp_def] using hplace

/-- **Merging records into an empty one succeeds** exactly if their counts fit. -/
theorem exists_foldlM_merge?_iff : (∃ g, fs.foldlM merge? { path } = some g) ↔ CountsFit fs := by
  have hlines := adds_lines.exists_foldlM_joinEntries?_iff (fs.map (·.lines))
  have hbranches := adds_branches.exists_foldlM_joinEntries?_iff (fs.map (·.branches))
  have hfunctions := adds_functions.exists_foldlM_joinEntries?_iff (fs.map (·.functions))
  simp only [List.map_map, Function.comp_def] at hlines hbranches hfunctions
  constructor
  · rintro ⟨g, hg⟩
    obtain ⟨-, hl, hb, hf⟩ := foldlM_merge?_eq_some_iff.1 hg
    exact ⟨hlines.1 ⟨_, hl⟩, hbranches.1 ⟨_, hb⟩, hfunctions.1 ⟨_, hf⟩⟩
  · rintro ⟨hl, hb, hf⟩
    obtain ⟨lines, hl⟩ := hlines.2 hl
    obtain ⟨branches, hb⟩ := hbranches.2 hb
    obtain ⟨functions, hf⟩ := hfunctions.2 hf
    exact ⟨⟨path, lines, branches, functions⟩, foldlM_merge?_eq_some_iff.2 ⟨rfl, hl, hb, hf⟩⟩

/-! ### Two records -/

/-- A merge of two records is one of both into an empty record. -/
theorem foldlM_merge?_pair (a b : FileCoverage) :
    [a, b].foldlM merge? { path := a.path } = a.merge? b := by
  rw [List.foldlM_cons, empty_merge?]
  change [b].foldlM merge? a = _
  rw [List.foldlM_cons]
  cases a.merge? b <;> rfl

/-- **A merge loses nothing**, or it fails. It succeeds exactly if the counts of both records fit in
64 bits, added up, and then a line, a branch or a function was reached if it was in either of them,
and a function was executed if either of them says so. -/
theorem reached_merge? (a b : FileCoverage) :
    ((∃ c, a.merge? b = some c) ↔ CountsFit [a, b]) ∧
    ∀ c, a.merge? b = some c →
      (∀ n, 0 < c.lineHits n ↔ 0 < a.lineHits n ∨ 0 < b.lineHits n) ∧
      (∀ id, 0 < (c.branchHits id).taken ↔
        0 < (a.branchHits id).taken ∨ 0 < (b.branchHits id).taken) ∧
      ∀ name, ((c.functionHits name).executed = true ↔
          (a.functionHits name).executed = true ∨ (b.functionHits name).executed = true) ∧
        (0 < (c.functionHits name).hits ↔
          0 < (a.functionHits name).hits ∨ 0 < (b.functionHits name).hits) := by
  have hpos : ∀ x y z : UInt64, z.toNat = [x.toNat, y.toNat].sum → (0 < z ↔ 0 < x ∨ 0 < y) := by
    intro x y z hz
    simp only [List.sum_cons, List.sum_nil] at hz
    simp only [UInt64.lt_iff_toNat_lt, UInt64.toNat_zero]
    omega
  rw [← foldlM_merge?_pair]
  refine ⟨exists_foldlM_merge?_iff, fun c hc => ?_⟩
  obtain ⟨-, hc⟩ := tally_of_foldlM_merge? hc
  refine ⟨fun n => hpos _ _ _ (hc.hits n), fun id => hpos _ _ _ (hc.taken id), fun name => ?_⟩
  refine ⟨?_, hpos _ _ _ (hc.calls name)⟩
  rw [hc.executed]
  simp

/-- A line that a tracefile counts as often as a count can be is not merged with one more hit. -/
theorem merge?_full_line :
    let full := (Tracefile.read "SF:a.c\nDA:1,18446744073709551615\n").getD "a.c" { path := "a.c" }
    let once : FileCoverage :=
      { path := "a.c", lines := Std.ExtTreeMap.insert ({} : Std.ExtTreeMap UInt32 UInt64) 1 1 }
    0 < full.lineHits 1 ∧ 0 < once.lineHits 1 ∧ (full.merge? once).isNone := by
  decide +kernel

end FileCoverage
end DocExamples
