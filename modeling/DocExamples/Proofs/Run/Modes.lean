/-
# Runs that agree

What a run yields depends on the backend through what its requests yield. If that is a function of
the request, any two runs of a well-formed tree with one filter end with the same results, the same
counts and the same tree, apart from durations: one after the other or all at once, in whatever
order the requests complete, and whatever the backend goes through meanwhile (`run_agree`).
-/

import DocExamples.Proofs.Run.Summary

namespace DocExamples

open Backend

variable {σ₁ σ₂ : Type} {κ₁ κ₂ : String → Completion} {x : Test}

/-- The result without the time that was measured. -/
def TestResult.untimed (r : TestResult) : TestResult :=
  { r with duration := r.duration.map fun _ => ⟨0⟩ }

def Results.untimed (rs : Results) : Results := rs.map fun _ => TestResult.untimed

def Test.untimed (x : Test) : Test := { x with result := x.result.map TestResult.untimed }

def TestTree.untimed (t : TestTree) : TestTree := t.mapTests fun _ => Test.untimed

/-- The time that was measured does not matter for a verdict. -/
theorem Test.untimed_judge (x : Test) (outcome : Outcome) (duration : Duration) :
    (x.judge outcome duration).untimed = x.judge outcome ⟨0⟩ := by
  cases outcome with
  | error e => rfl
  | ok output =>
      unfold judge
      dsimp only
      split
      · rfl
      · split <;> rfl

/-- How long a request took matters for a verdict only as the measured time. -/
theorem Test.untimed_verdict {c₁ c₂ : Completion} (h : c₁.outcome = c₂.outcome) (x : Test) :
    (x.verdict c₁).untimed = (x.verdict c₂).untimed := by
  rw [verdict, verdict, untimed_judge, untimed_judge, h]

/-- Completions that agree on what the requests yielded settle a test with the same result. -/
theorem TestFilter.untimed_resultOf {filter : TestFilter}
    (h : filter.selects x → (κ₁ x.id).outcome = (κ₂ x.id).outcome) :
    (filter.resultOf κ₁ x).untimed = (filter.resultOf κ₂ x).untimed := by
  unfold resultOf
  split_ifs with hsel
  · exact x.untimed_verdict (h hsel)
  · rfl

theorem Test.untimed_conclude (x : Test) (r : TestResult) :
    (x.conclude r).untimed = x.conclude r.untimed := rfl

namespace RunSummary

variable {s₁ s₂ : RunSummary}

/-- The counts are those of the results without times. -/
theorem count_eq_of_untimed (h : s₁.results.untimed = s₂.results.untimed) (status : TestStatus) :
    s₁.count status = s₂.count status := by
  have hcount : ∀ s : RunSummary, s.count status =
      s.results.untimed.toList.countP fun e => e.2.status == status := by
    intro s
    rw [Results.untimed, Std.ExtTreeMap.toList_map, List.countP_map]
    rfl
  rw [hcount, hcount, h]

theorem total_eq_of_untimed (h : s₁.results.untimed = s₂.results.untimed) :
    s₁.total = s₂.total := by
  have htotal : ∀ s : RunSummary, s.total = s.results.untimed.size :=
    fun s => Std.ExtTreeMap.size_map.symm
  rw [htotal, htotal, h]

end RunSummary

namespace TestTree

variable {t : TestTree} {filter : TestFilter} {ts : List TestTarget} {xs : List Test}

theorem Settles.getElem?_untimed {σ : Type} {b : Backend (StateM σ)} {κ : String → Completion}
    {rs : List IdResult} {calls : List Call} (hs : Settles b filter xs κ rs calls)
    (hnd : (xs.map (·.id)).Nodup) {id : String} {r : TestResult} :
    (Results.ofList rs).untimed[id]? = some r ↔
      ∃ x ∈ xs, x.id = id ∧ (filter.resultOf κ x).untimed = r := by
  rw [Results.untimed, Std.ExtTreeMap.getElem?_map, Option.map_eq_some_iff]
  simp only [hs.getElem?_results hnd]
  exact ⟨fun ⟨_, ⟨x, hx, hid, hr⟩, h⟩ => ⟨x, hx, hid, hr ▸ h⟩,
    fun ⟨x, hx, hid, h⟩ => ⟨_, ⟨x, hx, hid, rfl⟩, h⟩⟩

/-- Settling tests in two ways that agree on each of them leaves the same tree. -/
theorem untimed_change_settled (hd : t.Distinct ts)
    (h : ∀ x ∈ t.named ts, (filter.resultOf κ₁ x).untimed = (filter.resultOf κ₂ x).untimed) :
    (t.change ts (Test.settled filter κ₁)).untimed =
      (t.change ts (Test.settled filter κ₂)).untimed := by
  rw [untimed, untimed, change, change, mapTests_mapTests, mapTests_mapTests]
  refine mapTests_congr fun s c x hc hx => ?_
  split_ifs with hmem
  · have hnamed : x ∈ t.named ts :=
      mem_named_iff.2 ⟨_, hmem, testIn?_of_mem hc (hd _ hmem c hc) hx⟩
    rw [Test.settled, Test.settled, Test.untimed_conclude, Test.untimed_conclude, h x hnamed]
  · rfl

/-- **Any two runs agree**, whatever their modes, if what requests yield is a function of the
request and the same for both backends: both end with a summary, their results, their counts and
the trees they leave are the same apart from the durations of results. -/
theorem run_agree (ops : List TreeOp) (hw : (empty.perform ops).WellFormed) (filter : TestFilter)
    (mode₁ mode₂ : RunMode) (reply : Request → Outcome) (b₁ : Backend (StateM σ₁))
    (b₂ : Backend (StateM σ₂)) (hb₁ : b₁.Answers reply) (hb₂ : b₂.Answers reply) (w₁ : σ₁)
    (w₂ : σ₂) :
    ∃ (s₁ s₂ : RunSummary) (t₁ t₂ : TestTree) (w₁' : σ₁) (w₂' : σ₂),
      ((empty.perform ops).run b₁ ⟨mode₁, filter⟩).run w₁ = ((.ok s₁, t₁), w₁') ∧
      ((empty.perform ops).run b₂ ⟨mode₂, filter⟩).run w₂ = ((.ok s₂, t₂), w₂') ∧
      s₁.results.untimed = s₂.results.untimed ∧
      (∀ status, s₁.count status = s₂.count status) ∧ s₁.total = s₂.total ∧
      t₁.untimed = t₂.untimed := by
  have ht := forest_perform ops
  have hd := hw.distinct_targets ht
  have hids := hw.nodup_targets_ids ht
  obtain ⟨κ₁, rs₁, calls₁, hs₁, hm₁, -⟩ := run_makes hd hids b₁ ⟨mode₁, filter⟩ w₁
  obtain ⟨κ₂, rs₂, calls₂, hs₂, hm₂, -⟩ := run_makes hd hids b₂ ⟨mode₂, filter⟩ w₂
  have hsame : ∀ x ∈ (empty.perform ops).named ((empty.perform ops).targets root),
      (filter.resultOf κ₁ x).untimed = (filter.resultOf κ₂ x).untimed := fun x hx =>
    TestFilter.untimed_resultOf fun hsel => ((hs₁.gives x hx hsel).outcome_eq hb₁).trans
      ((hs₂.gives x hx hsel).outcome_eq hb₂).symm
  have hresults : (Results.ofList rs₁).untimed = (Results.ofList rs₂).untimed := by
    refine Std.ExtTreeMap.ext_getElem? fun id => Option.ext fun r => ?_
    rw [hs₁.getElem?_untimed (nodup_named_ids hids), hs₂.getElem?_untimed (nodup_named_ids hids)]
    exact exists_congr fun x => and_congr_right fun hx => by rw [hsame x hx]
  exact ⟨⟨Results.ofList rs₁⟩, ⟨Results.ofList rs₂⟩, _, _, _, _, hm₁.plain, hm₂.plain, hresults,
    RunSummary.count_eq_of_untimed hresults, RunSummary.total_eq_of_untimed hresults,
    untimed_change_settled hd hsame⟩

/-- The hypotheses of `run_agree` are satisfiable: two leaves name one test, which the filter
rejects, and of the others the first one was skipped, the last one completes right away, and the two
that are waited for complete in the order opposite to that in which they begin. -/
theorem run_agree_last_first :
    let ops : List TreeOp := [.createSuite "s" { id := "a", name := "a", tests :=
        [.make "a:1:0" "one" "1", .make "a:2:1" "two" "2", .make "a:3:2" "three" "3",
          .make "a:4:3" "eight" "8"] },
      .createLeaf 1 "a:3:2", .createLeaf 1 "a:1:0", .createLeaf 1 "a:1:0", .createLeaf 1 "a:2:1",
      .createLeaf 1 "a:4:3", .addChild 0 2, .addChild 0 3, .addChild 0 4, .addChild 0 5,
      .addChild 0 6, .changeTest 1 1 .skip]
    let filter : TestFilter := { functions := ["t"] }
    let b : Backend (StateM Unit) :=
      ⟨fun r => pure (r.code == "8"), fun r => pure ⟨⟨0⟩, .ok r.code⟩,
        fun rs => (List.range rs.length).reverse⟩
    let reply : Request → Outcome := fun r => (r.settle (r.code == "8") ⟨⟨0⟩, .ok r.code⟩).outcome
    (empty.perform ops).WellFormed ∧ b.Answers reply ∧
      ∃ (s₁ s₂ : RunSummary) (t₁ t₂ : TestTree) (w₁ w₂ : Unit),
        ((empty.perform ops).run b ⟨.parallel, filter⟩).run () = ((.ok s₁, t₁), w₁) ∧
        ((empty.perform ops).run b ⟨.sequential, filter⟩).run () = ((.ok s₂, t₂), w₂) ∧
        s₁.results.untimed = s₂.results.untimed ∧ t₁.untimed = t₂.untimed := by
  intro ops filter b reply
  have hw : (empty.perform ops).WellFormed :=
    (forest_perform ops).wellFormed_iff.2 ⟨by decide, by decide⟩
  have hb : b.Answers reply := fun _ _ _ => rfl
  obtain ⟨s₁, s₂, t₁, t₂, w₁, w₂, h₁, h₂, hr, -, -, ht⟩ :=
    run_agree ops hw filter .parallel .sequential _ b b hb hb () ()
  exact ⟨hw, hb, s₁, s₂, t₁, t₂, w₁, w₂, h₁, h₂, hr, ht⟩

end TestTree
end DocExamples
