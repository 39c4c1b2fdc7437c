/-
# Running a tree again

If every test of a tree is named by a leaf below the root, a run resets all of them before it does
anything else. So the run of a tree is the run of its pristine tree, whatever has happened to the
tests (`run_eq_of_pristine_eq`), it leaves this tree as it was (`Ready.run_ok`), and two runs of
trees with one pristine tree agree (`run_agree_of_pristine_eq`).
-/

import DocExamples.Proofs.Run.Modes
import DocExamples.Proofs.Tree.Pristine

namespace DocExamples

open Backend

variable {σ σ₁ σ₂ : Type}

namespace TestTree

variable {t u : TestTree} {ts : List TestTarget} {filter : TestFilter} {xs : List Test}

theorem distinct_iff_ids : t.Distinct ts ↔ ∀ τ ∈ ts, (t.ids τ.1).Nodup := by
  refine forall₂_congr fun τ _ => ?_
  unfold ids
  cases t.case? τ.1 <;> simp

/-- Whether a run reaches every test of a tree, and reaches no two by one id. -/
structure Ready (t : TestTree) : Prop where
  nodup_ids : ∀ τ ∈ t.targets root, (t.ids τ.1).Nodup
  nodup_targets_ids : ((t.targets root).map Prod.snd).Nodup
  named : ∀ s, ∀ id ∈ t.ids s, (s, id) ∈ t.targets root

namespace Ready

variable (hr : t.Ready)
include hr

theorem distinct : t.Distinct (t.targets root) := distinct_iff_ids.2 hr.nodup_ids

/-- What is ready shows in the targets and the ids only. -/
theorem congr (htargets : u.targets root = t.targets root) (hids : ∀ s, u.ids s = t.ids s) :
    u.Ready where
  nodup_ids τ hτ := hids τ.1 ▸ hr.nodup_ids τ (htargets ▸ hτ)
  nodup_targets_ids := htargets ▸ hr.nodup_targets_ids
  named s id hid := htargets ▸ hr.named s id (hids s ▸ hid)

theorem pristine : t.pristine.Ready := hr.congr (targets_pristine t root) (ids_pristine t)

theorem of_pristine_eq (h : u.pristine = t.pristine) : u.Ready :=
  hr.congr (targets_of_pristine_eq h root) (ids_of_pristine_eq h)

/-- The tests that are named are all tests. -/
theorem change_eq (f : Test → Test) : t.change (t.targets root) f = t.mapTests fun _ => f :=
  mapTests_congr fun s c x hc hx =>
    if_pos (hr.named s x.id (mem_ids_iff.2 ⟨c, hc, x, hx, rfl⟩))

/-- Resetting the tests that are named makes the tree pristine. -/
theorem change_reset : t.change (t.targets root) Test.reset = t.pristine := hr.change_eq Test.reset

/-- The tests are reset before anything else. -/
theorem foldl_reset :
    (t.targets root).foldl (fun t τ => t.modifyTest τ Test.reset) t = t.pristine :=
  (foldl_modifyTest Test.id_reset hr.distinct (nodup_targets t root)).trans hr.change_reset

/-- The run of a tree is the run of its pristine tree. -/
theorem run_pristine {m : Type → Type} [Monad m] (b : Backend m) (o : RunOptions) :
    t.run b o = t.pristine.run b o := by
  have hpristine := hr.pristine.foldl_reset
  rw [targets_pristine t root, pristine_pristine] at hpristine
  rw [run, run, targets_pristine t root, hr.foldl_reset, hpristine]

/-- **A run ends with a summary** and leaves the pristine tree. -/
theorem run_ok (b : Backend (StateM σ)) (o : RunOptions) (w : σ) :
    ∃ s u w', (t.run b o).run w = ((.ok s, u), w') ∧ u.pristine = t.pristine := by
  obtain ⟨κ, rs, calls, -, hm, -⟩ := run_makes hr.distinct hr.nodup_targets_ids b o w
  have hreset : ∀ x : Test, (x.settled o.filter κ).reset = x.reset := fun _ => rfl
  exact ⟨_, _, _, hm.plain, pristine_change hreset t (t.targets root)⟩

end Ready

/-- **Runs depend on the pristine tree only.** -/
theorem run_eq_of_pristine_eq (h : t.pristine = u.pristine) (hu : u.Ready) {m : Type → Type}
    [Monad m] (b : Backend m) (o : RunOptions) : t.run b o = u.run b o := by
  rw [(hu.of_pristine_eq h).run_pristine, h, ← hu.run_pristine]

/-- Results that agree on every test are the same results, apart from durations. -/
theorem untimed_results_eq {b₁ : Backend (StateM σ₁)} {b₂ : Backend (StateM σ₂)}
    {κ₁ κ₂ : String → Completion} {rs₁ rs₂ : List IdResult} {calls₁ calls₂ : List Call}
    (hs₁ : Settles b₁ filter xs κ₁ rs₁ calls₁) (hs₂ : Settles b₂ filter xs κ₂ rs₂ calls₂)
    (hnd : (xs.map (·.id)).Nodup)
    (h : ∀ x ∈ xs, (filter.resultOf κ₁ x).untimed = (filter.resultOf κ₂ x).untimed) :
    (Results.ofList rs₁).untimed = (Results.ofList rs₂).untimed := by
  refine Std.ExtTreeMap.ext_getElem? fun id => Option.ext fun r => ?_
  rw [hs₁.getElem?_untimed hnd, hs₂.getElem?_untimed hnd]
  exact exists_congr fun x => and_congr_right fun hx => by rw [h x hx]

/-- **Runs of trees with one pristine tree agree**, if what requests yield is a function of the
request and the same for both backends. -/
theorem run_agree_of_pristine_eq (h : t.pristine = u.pristine) (hu : u.Ready) (o : RunOptions)
    {reply : Request → Outcome} {b₁ : Backend (StateM σ₁)} {b₂ : Backend (StateM σ₂)}
    (hb₁ : b₁.Answers reply) (hb₂ : b₂.Answers reply) (w₁ : σ₁) (w₂ : σ₂) :
    ∃ (s₁ s₂ : RunSummary) (t' u' : TestTree) (w₁' : σ₁) (w₂' : σ₂),
      (t.run b₁ o).run w₁ = ((.ok s₁, t'), w₁') ∧ (u.run b₂ o).run w₂ = ((.ok s₂, u'), w₂') ∧
      s₁.results.untimed = s₂.results.untimed ∧ t'.untimed = u'.untimed := by
  rw [run_eq_of_pristine_eq h hu]
  obtain ⟨κ₁, rs₁, calls₁, hs₁, hm₁, -⟩ := run_makes hu.distinct hu.nodup_targets_ids b₁ o w₁
  obtain ⟨κ₂, rs₂, calls₂, hs₂, hm₂, -⟩ := run_makes hu.distinct hu.nodup_targets_ids b₂ o w₂
  -- a completion is that of the request, and requests do not depend on the status of a test
  have hsame : ∀ x ∈ u.named (u.targets root),
      (o.filter.resultOf κ₁ x).untimed = (o.filter.resultOf κ₂ x).untimed := fun x hx =>
    TestFilter.untimed_resultOf fun hsel => ((hs₁.gives x hx hsel).outcome_eq hb₁).trans
      ((hs₂.gives x hx hsel).outcome_eq hb₂).symm
  exact ⟨⟨Results.ofList rs₁⟩, ⟨Results.ofList rs₂⟩, _, _, _, _, hm₁.plain, hm₂.plain,
    untimed_results_eq hs₁ hs₂ (nodup_named_ids hu.nodup_targets_ids) hsame,
    untimed_change_settled hu.distinct hsame⟩

end TestTree
end DocExamples
