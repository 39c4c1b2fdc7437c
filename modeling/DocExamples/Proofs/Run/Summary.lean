/-
# The summary of a run

A run of a well-formed tree always ends with a summary. It has one result for each test that a leaf
below the root names, however many leaves name it and whatever its status was; the result is
terminal, it is the one that the test holds afterwards, and it is that of a skipped test just when
the filter rejects the test. The backend is asked once for each selected test and never for another
one, and one after the other in the order of the leaves (`run_summary`).
-/

import DocExamples.Proofs.Keyed
import DocExamples.Proofs.Run.Settle
import DocExamples.Proofs.Tree.Operation
import DocExamples.Run.Scripted

namespace DocExamples

open Backend

variable {σ : Type} {b : Backend (StateM σ)} {w : σ} {x : Test} {κ : String → Completion}

theorem TestFilter.isTerminal_resultOf (filter : TestFilter) (κ : String → Completion) (x : Test) :
    (filter.resultOf κ x).status.isTerminal = true := by
  unfold resultOf
  split_ifs
  · exact x.isTerminal_judge _ _
  · rfl

/-- No verdict is that of a skipped test. -/
theorem Test.status_verdict_ne_skipped (x : Test) (c : Completion) :
    (x.verdict c).status ≠ .skipped := by
  unfold verdict judge
  split
  · nofun
  · split
    · nofun
    · split <;> nofun

theorem TestFilter.status_resultOf_eq_skipped_iff (filter : TestFilter) (κ : String → Completion)
    (x : Test) : (filter.resultOf κ x).status = .skipped ↔ filter.selects x = false := by
  unfold resultOf
  split_ifs with h
  · simp [h, x.status_verdict_ne_skipped]
  · simp [h, TestResult.skipped]

namespace RunSummary

/-- **The counts** of the terminal statuses add up, if every result is terminal. -/
theorem count_add_count (s : RunSummary)
    (hs : ∀ (id : String) (r : TestResult), s.results[id]? = some r → r.status.isTerminal = true) :
    s.count .passed + s.count .failed + s.count .skipped + s.count .error = s.total := by
  have hlist : ∀ l : List (String × TestResult), (∀ e ∈ l, e.2.status.isTerminal = true) →
      (l.countP fun e => e.2.status == .passed) + (l.countP fun e => e.2.status == .failed) +
        (l.countP fun e => e.2.status == .skipped) + (l.countP fun e => e.2.status == .error) =
        l.length := by
    intro l hl
    induction l with
    | nil => rfl
    | cons e l ih =>
        obtain ⟨he, hl⟩ := List.forall_mem_cons.1 hl
        have := ih hl
        simp only [List.countP_cons, List.length_cons]
        cases hstatus : e.2.status with
        | pending | running => rw [hstatus] at he; cases he
        | passed | failed | skipped | error => simp; omega
  rw [total, ← Std.ExtTreeMap.length_toList]
  refine hlist _ fun e he => hs e.1 e.2 ?_
  exact Std.ExtTreeMap.mem_toList_iff_getElem?_eq_some.1 he

end RunSummary

namespace TestTree

variable {t : TestTree} {filter : TestFilter} {xs : List Test} {rs : List IdResult}
  {calls : List Call} {ts : List TestTarget} {h : Test → Test}

/-- **Looking up a result.** The results of tests with distinct ids are those that the filter and
the completions determine. -/
theorem Settles.getElem?_results (hs : Settles b filter xs κ rs calls)
    (hnd : (xs.map (·.id)).Nodup) {id : String} {r : TestResult} :
    (Results.ofList rs)[id]? = some r ↔ ∃ x ∈ xs, x.id = id ∧ filter.resultOf κ x = r := by
  have hkeys : (rs.map Prod.fst).Perm (xs.map (·.id)) := by
    have := hs.results.map Prod.fst
    rwa [List.map_map] at this
  rw [Results.ofList, Keyed.getElem?_insertMany_eq_some_iff (hkeys.nodup_iff.2 hnd),
    Std.ExtTreeMap.getElem?_empty, hs.results.mem_iff, List.mem_map]
  simp only [Prod.mk.injEq, reduceCtorEq, and_false, or_false]

theorem leafTarget?_change (t : TestTree) (ts : List TestTarget) (h : Test → Test) (n : NodeId) :
    (t.change ts h).leafTarget? n = t.leafTarget? n := leafTarget?_mapTests t _ n

/-- The tests that the targets below the root name are those of the leaves below the root. -/
theorem Forest.mem_named_targets_iff (ht : t.Forest) : x ∈ t.named (t.targets root) ↔
    ∃ leaf, t.Below root leaf ∧ t.leafTest? leaf = some x := by
  simp only [mem_named_iff, ht.mem_targets_root_iff, leafTest?, Option.bind_eq_some_iff]
  exact ⟨fun ⟨τ, ⟨leaf, hb, hl⟩, hx⟩ => ⟨leaf, hb, τ, hl, hx⟩,
    fun ⟨leaf, hb, τ, hl, hx⟩ => ⟨τ, ⟨leaf, hb, hl⟩, hx⟩⟩

/-- **The run of a tree that operations make**, if it is well-formed: it ends with a summary,
keeping a record of the calls changes nothing about that, and

* the summary has a result for the ids of the tests that leaves below the root name, and no other;
* it is terminal, it is what the test holds afterwards, and the test counts as skipped just when the
  filter rejects it;
* the counts add up to the number of ids;
* the requests begun and asked for are those of the selected tests, each once; one after the other,
  they come in the order in which the leaves first name the tests. -/
theorem run_summary (ops : List TreeOp) (hw : (empty.perform ops).WellFormed)
    (b : Backend (StateM σ)) (o : RunOptions) (w : σ) :
    let t := empty.perform ops
    let reached := ((t.leaves root).filterMap t.leafTarget?).eraseDups.filterMap t.testIn?
    let requests := (reached.filter o.filter.selects).map Test.request
    ∃ (s : RunSummary) (t' : TestTree) (w' : σ) (calls : List Call),
      (t.run b o).run w = ((.ok s, t'), w') ∧
      (t.run b.recorded o).run (w, []) = ((.ok s, t'), (w', calls)) ∧
      (∀ id : String, id ∈ s.results ↔
        ∃ leaf x, t.Below root leaf ∧ t.leafTest? leaf = some x ∧ x.id = id) ∧
      (∀ leaf x, t.Below root leaf → t.leafTest? leaf = some x →
        ∃ r, s.results[x.id]? = some r ∧ t'.leafTest? leaf = some (x.conclude r) ∧
          r.status.isTerminal = true ∧ (r.status = .skipped ↔ o.filter.selects x = false)) ∧
      s.count .passed + s.count .failed + s.count .skipped + s.count .error = s.total ∧
      s.total = s.results.keys.length ∧
      (Call.begun calls).Perm requests ∧ (Call.finished calls).Perm requests ∧
      (requests.map (·.testId)).Nodup ∧ (o.mode = .sequential → Call.begun calls = requests) := by
  intro t reached requests
  have ht : t.Forest := forest_perform ops
  have hids := hw.nodup_targets_ids ht
  have hreached : reached = t.named (t.targets root) := by rw [targets_eq]; rfl
  have hnd : (reached.map (·.id)).Nodup := hreached ▸ nodup_named_ids hids
  obtain ⟨κ, rs, calls, hs, hm, hseq⟩ := run_makes (hw.distinct_targets ht) hids b o w
  rw [← hreached] at hs hseq
  have hlookup : ∀ {id : String} {r : TestResult}, (Results.ofList rs)[id]? = some r ↔
      ∃ x ∈ reached, x.id = id ∧ o.filter.resultOf κ x = r := hs.getElem?_results hnd
  have hmem : ∀ x, x ∈ reached ↔ ∃ leaf, t.Below root leaf ∧ t.leafTest? leaf = some x :=
    fun x => hreached ▸ ht.mem_named_targets_iff
  refine ⟨⟨Results.ofList rs⟩, _, _, calls, hm.plain, hm.recorded [], fun id => ?_,
    fun leaf x hb hx => ?_, RunSummary.count_add_count _ fun id r hr => ?_,
    Std.ExtTreeMap.length_keys.symm, hs.begun, hs.finished, ?_, fun hmode => ?_⟩
  · rw [Std.ExtTreeMap.mem_iff_isSome_getElem?, Option.isSome_iff_exists]
    simp only [hlookup, hmem]
    exact ⟨fun ⟨_, x, ⟨leaf, hb, hx⟩, hid, _⟩ => ⟨leaf, x, hb, hx, hid⟩,
      fun ⟨leaf, x, hb, hx, hid⟩ => ⟨_, x, ⟨leaf, hb, hx⟩, hid, rfl⟩⟩
  · have hxr : x ∈ reached := (hmem x).2 ⟨leaf, hb, hx⟩
    refine ⟨o.filter.resultOf κ x, hlookup.2 ⟨x, hxr, rfl, rfl⟩, ?_,
      o.filter.isTerminal_resultOf κ x, o.filter.status_resultOf_eq_skipped_iff κ x⟩
    obtain ⟨τ, hτ, hx⟩ := Option.bind_eq_some_iff.1 hx
    have hmemτ : τ ∈ t.targets root := ht.mem_targets_root_iff.2 ⟨leaf, hb, hτ⟩
    rw [leafTest?, leafTarget?_change, hτ, Option.bind_some,
      testIn?_change (Test.id_settled o.filter κ), hx, Option.map_some, if_pos hmemτ]
    rfl
  · obtain ⟨x, -, -, rfl⟩ := hlookup.1 hr
    exact o.filter.isTerminal_resultOf κ x
  · rw [List.map_map]
    exact hnd.sublist (List.filter_sublist.map _)
  · rw [hseq hmode]
    exact Call.begun_flatMap _ _

/-- The hypothesis of `run_summary` is satisfiable: two leaves name one test, which was left
running, and a third one names a test that is gone. -/
theorem run_summary_two_leaves_one_test :
    let ops : List TreeOp := [.createSuite "s" { id := "a", name := "a", tests :=
        [.make "a:1:0" "one" "1", .make "a:2:1" "two" "2"] }, .createLeaf 1 "a:1:0",
      .createLeaf 1 "a:1:0", .createLeaf 1 "a:2:1", .addChild 0 2, .addChild 0 3, .addChild 0 4,
      .changeTest 1 0 .start, .editCase 1 fun c => (c.remove "a:2:1").2]
    (empty.perform ops).WellFormed ∧ ∃ (s : RunSummary) (t' : TestTree) (log : List RunEvent),
      ((empty.perform ops).run (.scripted fun _ => ⟨⟨0⟩, .ok "1"⟩) {}).run [] =
        ((.ok s, t'), log) ∧ s.total = s.results.keys.length := by
  intro ops
  have hw : (empty.perform ops).WellFormed :=
    (forest_perform ops).wellFormed_iff.2 ⟨by decide, by decide⟩
  obtain ⟨s, t', log, _, hrun, -, -, -, -, htotal, -⟩ :=
    run_summary ops hw (.scripted fun _ => ⟨⟨0⟩, .ok "1"⟩) {} []
  exact ⟨hw, s, t', log, hrun, htotal⟩

end TestTree
end DocExamples
