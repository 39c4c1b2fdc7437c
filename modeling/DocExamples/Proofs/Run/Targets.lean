/-
# Running targets one by one, in any tree

Nothing keeps targets from naming tests with one id, in one suite or in several. Running targets one
after the other still concludes just the test that each of them names: different targets name
different tests, so one that has run does not change what the next one names, and whether a test is
reset before it runs does not matter for its verdict (`runTargets_concludes`). What is left is the
tree with these tests concluded, and the results come in the order of the targets (`Concludes`).
-/

import DocExamples.Proofs.Run.Settle
import DocExamples.Proofs.Tree.First

namespace DocExamples

open Backend

variable {σ : Type} {b : Backend (StateM σ)}

namespace TestTree

variable {t u : TestTree} {τ : TestTarget} {ts : List TestTarget} {κ : TestTarget → Completion}
  {rs : List IdResult} {x : Test} {id : String}

/-- **Targets have been run one after the other** in `t` and left `u`, where `κ` are the completions
that the backend gave. -/
structure Concludes (b : Backend (StateM σ)) (ts : List TestTarget) (κ : TestTarget → Completion)
    (t : TestTree) (rs : List IdResult) (u : TestTree) : Prop where
  gives : ∀ τ ∈ ts, ∀ x, t.testIn? τ = some x → b.Gives x.request (κ τ)
  results : rs = ts.filterMap fun τ => (t.testIn? τ).map fun x => (x.id, x.verdict (κ τ))
  spares : t.Spares u
  testIn? : ∀ τ, u.testIn? τ =
    if τ ∈ ts then (t.testIn? τ).map fun x => x.conclude (x.verdict (κ τ)) else t.testIn? τ

/-- What targets name after the test of one of them has been concluded. -/
theorem testIn?_conclude (hx : t.testIn? τ = some x) (r : TestResult) (υ : TestTarget) :
    (t.setTest τ (x.conclude r)).testIn? υ =
      if υ = τ then some (x.conclude r) else t.testIn? υ := by
  have hset : ∀ y, t.testIn? τ = some y → (x.conclude r).reset = y.reset :=
    fun y hy => Option.some.inj (hx.symm.trans hy) ▸ rfl
  rw [setTest, testIn?_modifyTest hset]
  split_ifs with hυ
  · rw [hυ, hx]
    rfl
  · rfl

/-- Concluding the test that a target names spares the repeated tests. -/
theorem spares_conclude (hx : t.testIn? τ = some x) (r : TestResult) :
    t.Spares (t.setTest τ (x.conclude r)) :=
  spares_modifyTest fun _ hy => Option.some.inj (hx.symm.trans hy) ▸ rfl

namespace Concludes

theorem nil (b : Backend (StateM σ)) (κ : TestTarget → Completion) (t : TestTree) :
    Concludes b [] κ t [] t where
  gives := by simp
  results := rfl
  spares := .refl t
  testIn? := by simp

/-- A target that names no test does not count. -/
theorem cons_none (h : Concludes b ts κ t rs u) (hx : t.testIn? τ = none) :
    Concludes b (τ :: ts) κ t rs u where
  gives := by
    refine List.forall_mem_cons.2 ⟨fun x h => ?_, h.gives⟩
    rw [hx] at h
    cases h
  results := by rw [List.filterMap_cons_none (by rw [hx]; rfl), ← h.results]
  spares := h.spares
  testIn? υ := by
    rw [h.testIn?]
    by_cases hυ : υ = τ
    · rw [hυ, hx]
      split_ifs <;> rfl
    · simp only [List.mem_cons, hυ, false_or]

/-- **A target more**: its test is concluded first, and the others run in the tree that is left. -/
theorem cons {c : Completion} (hτ : τ ∉ ts) (hx : t.testIn? τ = some x)
    (hc : b.Gives x.request c)
    (h : Concludes b ts κ (t.setTest τ (x.conclude (x.verdict c))) rs u) :
    Concludes b (τ :: ts) (Function.update κ τ c) t ((x.id, x.verdict c) :: rs) u := by
  have hsame : ∀ υ ∈ ts, Function.update κ τ c υ = κ υ ∧
      (t.setTest τ (x.conclude (x.verdict c))).testIn? υ = t.testIn? υ := by
    intro υ hυ
    have hne : υ ≠ τ := fun h => hτ (h ▸ hυ)
    exact ⟨Function.update_of_ne hne c κ, by rw [testIn?_conclude hx, if_neg hne]⟩
  refine ⟨?_, ?_, (spares_conclude hx _).trans h.spares, fun υ => ?_⟩
  · refine List.forall_mem_cons.2 ⟨fun y hy => ?_, fun υ hυ y hy => ?_⟩
    · obtain rfl := Option.some.inj (hx.symm.trans hy)
      rw [Function.update_self]
      exact hc
    · rw [(hsame υ hυ).1]
      exact h.gives υ hυ y ((hsame υ hυ).2.trans hy)
  · have hrest : (ts.filterMap fun υ => (t.testIn? υ).map fun y =>
        (y.id, y.verdict (Function.update κ τ c υ))) = rs := by
      rw [h.results]
      exact List.filterMap_congr fun υ hυ => by rw [(hsame υ hυ).1, (hsame υ hυ).2]
    rw [List.filterMap_cons, hx, Option.map_some, Function.update_self, hrest]
  · rw [h.testIn?]
    by_cases hυ : υ = τ
    · rw [hυ, if_neg hτ, if_pos List.mem_cons_self, testIn?_conclude hx, if_pos rfl, hx,
        Function.update_self]
      rfl
    · by_cases hmem : υ ∈ ts
      · rw [if_pos hmem, if_pos (List.mem_cons_of_mem τ hmem), (hsame υ hmem).1, (hsame υ hmem).2]
      · have hnot : υ ∉ τ :: ts := by simp [hυ, hmem]
        rw [if_neg hmem, if_neg hnot, testIn?_conclude hx, if_neg hυ]

end Concludes

/-- **Running targets one by one** succeeds with the verdicts on the tests that they name and
concludes these tests, if the tests are reset or pending. -/
theorem runTargets_concludes (again : Bool) (hnd : ts.Nodup)
    (hp : again = false → ∀ τ ∈ ts, ∀ x, t.testIn? τ = some x → x.status = .pending)
    (b : Backend (StateM σ)) (w : σ) : ∃ κ rs u calls, Concludes b ts κ t rs u ∧
      b.Makes w (runTargets b again ts t) (runTargets b.recorded again ts t) (.ok rs, u) calls := by
  induction ts generalizing t w with
  | nil => exact ⟨fun _ => ⟨⟨0⟩, .ok ""⟩, [], t, [], .nil b _ t, .pure _⟩
  | cons τ ts ih =>
      obtain ⟨hτ, hnd⟩ := List.nodup_cons.1 hnd
      cases hx : t.testIn? τ with
      | none =>
          obtain ⟨κ, rs, u, calls, hu, hm⟩ :=
            ih hnd (fun ha υ hυ => hp ha υ (List.mem_cons_of_mem τ hυ)) w
          refine ⟨κ, rs, u, calls, hu.cons_none hx, ?_⟩
          rw [runTargets, runTargets, hx]
          exact hm
      | some x =>
          obtain ⟨c, hc, hrun⟩ := Test.rerun_makes again
            (fun ha => hp ha τ List.mem_cons_self x hx) b w
          have hpending : again = false → ∀ υ ∈ ts, ∀ y,
              (t.setTest τ (x.conclude (x.verdict c))).testIn? υ = some y →
                y.status = .pending := by
            intro ha υ hυ y hy
            have hne : υ ≠ τ := fun h => hτ (h ▸ hυ)
            rw [testIn?_conclude hx, if_neg hne] at hy
            exact hp ha υ (List.mem_cons_of_mem τ hυ) y hy
          obtain ⟨κ, rs, u, calls, hu, hm⟩ :=
            ih hnd hpending (b.replay w [.begin x.request, .finish x.request])
          refine ⟨Function.update κ τ c, (x.id, x.verdict c) :: rs, u,
            [.begin x.request, .finish x.request] ++ calls, hu.cons hτ hx hc, ?_⟩
          rw [runTargets, runTargets, hx]
          exact hrun.bind hm.bind_pure

namespace Concludes

variable (h : Concludes b ts κ t rs u)
include h

/-- The results are those of the tests that the targets name. -/
theorem mem_results_iff : id ∈ Results.ofList rs ↔
    ∃ τ ∈ ts, ∃ x, t.testIn? τ = some x ∧ x.id = id := by
  have hmem : id ∈ Results.ofList rs ↔ id ∈ rs.map Prod.fst := by
    rw [Results.ofList, Std.ExtTreeMap.mem_insertMany_list, List.contains_iff_mem]
    simp
  rw [hmem, h.results, List.map_filterMap, List.mem_filterMap]
  simp

/-- A test that no target names stays as it is. -/
theorem testAt?_eq {p : NodeId × ℕ} (hp : ∀ τ ∈ ts, t.place? τ ≠ some p) :
    u.testAt? p = t.testAt? p := by
  have hid := h.spares.map_testAt?_eq (.refl t) (p := p) (f := id) fun x hx hplace => ?_
  · simpa using hid
  · have hmem : (p.1, x.id) ∉ ts := fun hmem => hp _ hmem hplace
    rw [h.testIn?, if_neg hmem]

end Concludes
end TestTree
end DocExamples
