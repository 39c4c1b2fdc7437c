/-
# Running a group

Running a group runs the targets below it one after the other, and resets each right before it runs;
a run of the tree resets all targets below the root first. As different targets name different
tests, both conclude the same tests, with verdicts on the same requests (`run_concludes`,
`runNode_concludes`). So running the root is running the tree one after the other without a filter,
apart from the times that were measured, and running any other group concerns the tests that the
leaves below it name and no others (`runNode_group`). Nothing is asked of the ids: leaves may share
tests, suites may repeat ids, and the suite of a leaf may be anywhere.
-/

import DocExamples.Proofs.Run.Modes
import DocExamples.Proofs.Run.Repeated

namespace DocExamples

open Backend

variable {σ σ₁ σ₂ : Type} {filter : TestFilter}

/-! ### Without a filter -/

theorem TestFilter.selects_of_isEmpty (hf : filter.isEmpty = true) (x : Test) :
    filter.selects x = true := by
  rw [selects, hf]
  rfl

namespace TestTree

variable {t u : TestTree} {τ : TestTarget} {ts : List TestTarget} {x : Test} {g : NodeId}

/-- A filter without a criterion skips nothing. -/
theorem sift_of_isEmpty (hf : filter.isEmpty = true) (ts : List TestTarget) (t : TestTree) :
    sift filter ts t = (.ok (chosen filter ts t, []), t) := by
  induction ts with
  | nil => rfl
  | cons τ ts ih =>
      rw [sift]
      cases hx : t.testIn? τ with
      | none =>
          rw [chosen_cons_of_none hx]
          exact ih
      | some x =>
          have hsel := TestFilter.selects_of_isEmpty hf x
          rw [chosen_cons_of_selects hx hsel]
          simp [hsel, ih, Except.map]

/-- Without a filter every target that names a test is chosen. -/
theorem mem_chosen_iff (hf : filter.isEmpty = true) :
    τ ∈ chosen filter ts t ↔ τ ∈ ts ∧ (t.testIn? τ).isSome = true := by
  rw [chosen, List.mem_filter]
  refine and_congr_right fun _ => ?_
  cases t.testIn? τ with
  | none => simp
  | some x => simp [TestFilter.selects_of_isEmpty hf]

namespace Concludes

variable {b : Backend (StateM σ)} {κ : TestTarget → Completion} {rs : List IdResult}

/-- Targets that name no test do not count. -/
theorem of_chosen (hf : filter.isEmpty = true) (h : Concludes b (chosen filter ts t) κ t rs u) :
    Concludes b ts κ t rs u where
  gives τ hτ x hx := h.gives τ ((mem_chosen_iff hf).2 ⟨hτ, Option.isSome_of_eq_some hx⟩) x hx
  results := by
    rw [h.results, chosen, List.filterMap_filter]
    refine List.filterMap_congr fun τ _ => ?_
    cases t.testIn? τ with
    | none => rfl
    | some x => simp [TestFilter.selects_of_isEmpty hf]
  spares := h.spares
  testIn? τ := by
    rw [h.testIn?]
    cases hx : t.testIn? τ with
    | none => simp
    | some x =>
        have hmem : τ ∈ chosen filter ts t ↔ τ ∈ ts := by simp [mem_chosen_iff hf, hx]
        simp only [hmem]

/-- What is concluded of tests that have been reset is concluded of the tests as they were. -/
theorem of_reset (h : Concludes b ts κ (ts.foldl (fun t τ => t.modifyTest τ Test.reset) t) rs u) :
    Concludes b ts κ t rs u := by
  have hreset := testIn?_foldl_reset ts t
  have hspares := spares_foldl_reset ts t
  generalize ts.foldl (fun t τ => t.modifyTest τ Test.reset) t = t₀ at h hreset hspares
  have hnamed : ∀ τ ∈ ts, t₀.testIn? τ = (t.testIn? τ).map Test.reset := fun τ hτ => by
    rw [hreset, if_pos hτ]
  refine ⟨fun τ hτ x hx => ?_, ?_, hspares.trans h.spares, fun τ => ?_⟩
  · have hx₀ : t₀.testIn? τ = some x.reset := by rw [hnamed τ hτ, hx]; rfl
    exact h.gives τ hτ x.reset hx₀
  · rw [h.results]
    refine List.filterMap_congr fun τ hτ => ?_
    rw [hnamed τ hτ, Option.map_map]
    rfl
  · rw [h.testIn?, hreset]
    split_ifs
    · rw [Option.map_map]
      rfl
    · rfl

end Concludes

/-- **Running a tree one test after the other** without a filter concludes the tests that are named
below the root. -/
theorem run_concludes (hf : filter.isEmpty = true) (t : TestTree) (b : Backend (StateM σ)) (w : σ) :
    ∃ κ rs u calls, Concludes b (t.targets root) κ t rs u ∧
      b.Makes w (t.run b ⟨.sequential, filter⟩) (t.run b.recorded ⟨.sequential, filter⟩)
        (.ok ⟨.ofList rs⟩, u) calls := by
  have hnd := (nodup_targets t root).filter
  obtain ⟨κ, rs, u, calls, hu, hm⟩ := runTargets_concludes false (hnd _)
    (fun _ τ hτ => pending_foldl_reset τ (List.mem_filter.1 hτ).1) b w
  refine ⟨κ, rs, u, calls, (hu.of_chosen hf).of_reset, ?_⟩
  rw [run, run, sift_of_isEmpty hf]
  exact hm.bind_pure

/-- **Running a group** with children concludes the tests that are named below it. -/
theorem runNode_concludes (hg : t.kind? g = some .group) (hc : t.children g ≠ [])
    (b : Backend (StateM σ)) (w : σ) :
    ∃ κ rs u calls, Concludes b (t.targets g) κ t rs u ∧
      b.Makes w (t.runNode b g) (t.runNode b.recorded g) (.ok (.many (.ofList rs)), u) calls := by
  obtain ⟨κ, rs, u, calls, hu, hm⟩ := runTargets_concludes true (nodup_targets t g) nofun b w
  refine ⟨κ, rs, u, calls, hu, ?_⟩
  obtain ⟨node, hnode, hkind⟩ := Option.map_eq_some_iff.1 hg
  have hchildren : node.children.isEmpty = false := by
    rw [children_eq hnode] at hc
    simpa using hc
  simp only [runNode, hnode, hkind, hchildren]
  exact hm.bind_pure

/-! ### Runs that agree -/

section Agree

variable {b₁ : Backend (StateM σ₁)} {b₂ : Backend (StateM σ₂)} {reply : Request → Outcome}
  {κ₁ κ₂ : TestTarget → Completion} {rs₁ rs₂ : List IdResult} {u₁ u₂ : TestTree}
  (hb₁ : b₁.Answers reply) (hb₂ : b₂.Answers reply) (h₁ : Concludes b₁ ts κ₁ t rs₁ u₁)
  (h₂ : Concludes b₂ ts κ₂ t rs₂ u₂)
include hb₁ hb₂ h₁ h₂

theorem Concludes.untimed_verdict_eq (hτ : τ ∈ ts) (hx : t.testIn? τ = some x) :
    (x.verdict (κ₁ τ)).untimed = (x.verdict (κ₂ τ)).untimed :=
  Test.untimed_verdict (((h₁.gives τ hτ x hx).outcome_eq hb₁).trans
    ((h₂.gives τ hτ x hx).outcome_eq hb₂).symm) x

/-- Targets that have been run twice have the same results. -/
theorem Concludes.untimed_results_eq :
    (Results.ofList rs₁).untimed = (Results.ofList rs₂).untimed := by
  have hlist : rs₁.map (fun e => (e.1, e.2.untimed)) = rs₂.map fun e => (e.1, e.2.untimed) := by
    rw [h₁.results, h₂.results, List.map_filterMap, List.map_filterMap]
    refine List.filterMap_congr fun τ hτ => ?_
    cases hx : t.testIn? τ with
    | none => rfl
    | some x => simp [Concludes.untimed_verdict_eq hb₁ hb₂ h₁ h₂ hτ hx]
  rw [Results.ofList, Results.ofList, Results.untimed, Results.untimed, Keyed.map_insertMany,
    Keyed.map_insertMany, hlist]

/-- They leave the same tree. -/
theorem Concludes.untimed_eq : u₁.untimed = u₂.untimed := by
  refine mapTests_eq_of_pristine_eq (h₁.spares.pristine.trans h₂.spares.pristine.symm) fun p => ?_
  refine h₁.spares.map_testAt?_eq h₂.spares fun x hx hplace => ?_
  rw [h₁.testIn?, h₂.testIn?]
  split_ifs with hτ
  · cases hy : t.testIn? (p.1, x.id) with
    | none => rfl
    | some y =>
        simp [Test.untimed_conclude, Concludes.untimed_verdict_eq hb₁ hb₂ h₁ h₂ hτ hy]
  · rfl

end Agree

/-- **Running a group of any tree that operations make.** If the root has children, running it and
running the tree one test after the other without a filter have the same results and leave the same
tree, apart from the durations of results. Running any group with children ends with one result for
each id of a test that a leaf below the group names, and it leaves the tree as it is apart from
statuses and results of these tests. -/
theorem runNode_group (ops : List TreeOp) {reply : Request → Outcome} {b₁ : Backend (StateM σ₁)}
    {b₂ : Backend (StateM σ₂)} (hb₁ : b₁.Answers reply) (hb₂ : b₂.Answers reply) (w₁ : σ₁)
    (w₂ : σ₂) :
    let t := empty.perform ops
    (t.children root ≠ [] → ∃ (s : RunSummary) (rs : Results) (u₁ u₂ : TestTree) (w₁' : σ₁)
      (w₂' : σ₂), (t.run b₁ ⟨.sequential, {}⟩).run w₁ = ((.ok s, u₁), w₁') ∧
        (t.runNode b₂ root).run w₂ = ((.ok (.many rs), u₂), w₂') ∧
        rs.untimed = s.results.untimed ∧ u₂.untimed = u₁.untimed) ∧
    ∀ g, t.kind? g = some .group → t.children g ≠ [] →
      ∃ (rs : Results) (u : TestTree) (w₂' : σ₂),
        (t.runNode b₂ g).run w₂ = ((.ok (.many rs), u), w₂') ∧
        (∀ id, id ∈ rs ↔ ∃ leaf x, t.Below g leaf ∧ t.leafTest? leaf = some x ∧ x.id = id) ∧
        (∀ p, (∀ leaf τ, t.Below g leaf → t.leafTarget? leaf = some τ → t.place? τ ≠ some p) →
          u.testAt? p = t.testAt? p) ∧
        u.pristine = t.pristine := by
  intro t
  have ht : t.Forest := forest_perform ops
  constructor
  · intro hc
    have hempty : ({} : TestFilter).isEmpty = true := rfl
    obtain ⟨κ₁, rs₁, u₁, calls₁, hu₁, hm₁⟩ := run_concludes hempty t b₁ w₁
    obtain ⟨κ₂, rs₂, u₂, calls₂, hu₂, hm₂⟩ := runNode_concludes ht.root_kind? hc b₂ w₂
    exact ⟨_, _, u₁, u₂, _, _, hm₁.plain, hm₂.plain,
      Concludes.untimed_results_eq hb₂ hb₁ hu₂ hu₁, Concludes.untimed_eq hb₂ hb₁ hu₂ hu₁⟩
  · intro g hg hc
    have hsize : g < t.nodes.size := lt_size_of_kind? hg
    obtain ⟨κ, rs, u, calls, hu, hm⟩ := runNode_concludes hg hc b₂ w₂
    refine ⟨_, u, _, hm.plain, fun id => ?_, fun p hp => ?_, hu.spares.pristine⟩
    · rw [hu.mem_results_iff]
      constructor
      · rintro ⟨τ, hτ, x, hx, hid⟩
        obtain ⟨leaf, hb, hleaf⟩ := (ht.mem_targets_iff hsize).1 hτ
        exact ⟨leaf, x, hb, Option.bind_eq_some_iff.2 ⟨τ, hleaf, hx⟩, hid⟩
      · rintro ⟨leaf, x, hb, hleaf, hid⟩
        obtain ⟨τ, hleaf, hx⟩ := Option.bind_eq_some_iff.1 hleaf
        exact ⟨τ, (ht.mem_targets_iff hsize).2 ⟨leaf, hb, hleaf⟩, x, hx, hid⟩
    · refine hu.testAt?_eq fun τ hτ => ?_
      obtain ⟨leaf, hb, hleaf⟩ := (ht.mem_targets_iff hsize).1 hτ
      exact hp leaf τ hb hleaf

/-- The hypotheses of `runNode_group` are satisfiable: two leaves in a group name the same test of a
suite that is not below the root and has another test with its id, and the test has been skipped. -/
theorem runNode_group_shared_suite :
    let ops : List TreeOp := [.createSuite "s" { id := "a", name := "a", tests :=
        [.make "a:1:0" "one" "1", .make "a:1:0" "again" "2"] }, .createGroup "g" "g",
      .createLeaf 1 "a:1:0", .createLeaf 1 "a:1:0", .addChild 2 3, .addChild 2 4, .addChild 0 2,
      .changeTest 1 0 .skip]
    let b : Backend (StateM Unit) :=
      ⟨fun _ => pure false, fun r => pure ⟨⟨0⟩, .ok r.code⟩, fun rs => List.range rs.length⟩
    let reply : Request → Outcome := fun r => (r.settle false ⟨⟨0⟩, .ok r.code⟩).outcome
    b.Answers reply ∧
      (∃ (s : RunSummary) (rs : Results) (u₁ u₂ : TestTree),
        ((empty.perform ops).run b ⟨.sequential, {}⟩).run () = ((.ok s, u₁), ()) ∧
        ((empty.perform ops).runNode b root).run () = ((.ok (.many rs), u₂), ()) ∧
        rs.untimed = s.results.untimed ∧ u₂.untimed = u₁.untimed) ∧
      ∃ (rs : Results) (u : TestTree), ((empty.perform ops).runNode b 2).run () =
        ((.ok (.many rs), u), ()) ∧ u.pristine = (empty.perform ops).pristine := by
  intro ops b reply
  have hb : b.Answers reply := fun _ _ _ => rfl
  obtain ⟨hroot, hgroup⟩ := runNode_group ops hb hb () ()
  obtain ⟨s, rs, u₁, u₂, _, _, hrun, hnode, hresults, htree⟩ := hroot (by decide)
  obtain ⟨rs', u, _, hnode', -, -, hpristine⟩ := hgroup 2 rfl (by decide)
  exact ⟨hb, ⟨s, rs, u₁, u₂, hrun, hnode, hresults, htree⟩, rs', u, hnode', hpristine⟩

end TestTree
end DocExamples
