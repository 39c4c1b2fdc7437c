/-
# The tests that leaves name

A leaf names a test by its suite and its id; several leaves may name one test, and the test may be
gone. The targets below a node are what its leaves name, each where it occurs first
(`targets_eq`). In a well-formed tree the suites that are named have distinct ids, and leaves that
name different suites name different ids, so a target is determined by its id.
-/

import DocExamples.Proofs.Tree.Change
import DocExamples.Proofs.Tree.Preorder

namespace DocExamples
namespace TestTree

variable {t : TestTree} {n s : NodeId} {τ : TestTarget}

/-- **A well-formed tree.** The ids in every suite that a leaf below the root names are distinct,
and leaves below the root that name different suites name different ids. -/
structure WellFormed (t : TestTree) : Prop where
  nodup_ids : ∀ leaf s id c, t.Below root leaf → t.leafTarget? leaf = some (s, id) →
    t.case? s = some c → (c.tests.map (·.id)).Nodup
  suite_unique : ∀ leaf₁ leaf₂ s₁ s₂ id, t.Below root leaf₁ → t.Below root leaf₂ →
    t.leafTarget? leaf₁ = some (s₁, id) → t.leafTarget? leaf₂ = some (s₂, id) → s₁ = s₂

/-- Appending what is new keeps each item where it occurs first. -/
theorem foldl_append_new (l acc : List TestTarget) :
    l.foldl (fun found τ => if found.contains τ then found else found ++ [τ]) acc =
      acc ++ (l.filter fun τ => !acc.contains τ).eraseDups := by
  induction l generalizing acc with
  | nil => simp
  | cons τ l ih =>
      rw [List.foldl_cons, ih]
      by_cases h : τ ∈ acc
      · simp [h]
      · have hnew : (l.filter fun σ => !(acc ++ [τ]).contains σ) =
            (l.filter fun σ => !acc.contains σ).filter fun σ => !σ == τ := by
          rw [List.filter_filter]
          refine List.filter_congr fun σ _ => ?_
          by_cases hσ : σ = τ <;> simp [hσ]
        rw [if_neg (by simp [h]), hnew, List.filter_cons_of_pos (by simp [h]), List.eraseDups_cons,
          List.append_assoc, List.singleton_append]

/-- **The targets below a node** are what its leaves name, each where it occurs first. -/
theorem targets_eq (t : TestTree) (n : NodeId) :
    t.targets n = ((t.leaves n).filterMap t.leafTarget?).eraseDups := by
  rw [targets, foldl_append_new]
  simp

theorem mem_targets_iff : τ ∈ t.targets n ↔ ∃ leaf ∈ t.leaves n, t.leafTarget? leaf = some τ := by
  rw [targets_eq, List.mem_eraseDups, List.mem_filterMap]

theorem nodup_targets (t : TestTree) (n : NodeId) : (t.targets n).Nodup :=
  targets_eq t n ▸ Keyed.nodup_eraseDups _

/-- The targets below a node are what the leaves below it name. -/
theorem Forest.mem_targets_iff (ht : t.Forest) (hn : n < t.nodes.size) :
    τ ∈ t.targets n ↔ ∃ leaf, t.Below n leaf ∧ t.leafTarget? leaf = some τ := by
  rw [TestTree.mem_targets_iff]
  refine exists_congr fun leaf => and_congr_left fun h => ?_
  rw [ht.mem_leaves_iff, and_iff_left ⟨τ.1, τ.2, leafTarget?_eq_some_iff.1 h⟩, and_iff_right hn]

theorem Forest.mem_targets_root_iff (ht : t.Forest) :
    τ ∈ t.targets root ↔ ∃ leaf, t.Below root leaf ∧ t.leafTarget? leaf = some τ :=
  ht.mem_targets_iff ht.root_lt_size

/-- In a forest, whether a tree is well-formed shows in its targets. -/
theorem Forest.wellFormed_iff (ht : t.Forest) : t.WellFormed ↔ t.Distinct (t.targets root) ∧
    ∀ σ ∈ t.targets root, ∀ τ ∈ t.targets root, σ.2 = τ.2 → σ.1 = τ.1 := by
  constructor
  · refine fun hw => ⟨?_, ?_⟩
    · rintro ⟨s, id⟩ hτ c hc
      obtain ⟨leaf, hb, hl⟩ := ht.mem_targets_root_iff.1 hτ
      exact hw.nodup_ids leaf s id c hb hl hc
    · rintro ⟨s₁, id⟩ h₁ ⟨s₂, id'⟩ h₂ (rfl : id = id')
      obtain ⟨l₁, hb₁, hl₁⟩ := ht.mem_targets_root_iff.1 h₁
      obtain ⟨l₂, hb₂, hl₂⟩ := ht.mem_targets_root_iff.1 h₂
      exact hw.suite_unique l₁ l₂ s₁ s₂ id hb₁ hb₂ hl₁ hl₂
  · refine fun ⟨hd, hu⟩ => ⟨fun leaf s id c hb hl => ?_, fun l₁ l₂ s₁ s₂ id h₁ h₂ hl₁ hl₂ => ?_⟩
    · exact hd (s, id) (ht.mem_targets_root_iff.2 ⟨leaf, hb, hl⟩) c
    · exact hu (s₁, id) (ht.mem_targets_root_iff.2 ⟨l₁, h₁, hl₁⟩) (s₂, id)
        (ht.mem_targets_root_iff.2 ⟨l₂, h₂, hl₂⟩) rfl

namespace WellFormed

variable (ht : t.Forest) (hw : t.WellFormed)
include ht hw

/-- A well-formed tree has distinct ids in the suites of its targets. -/
theorem distinct_targets : t.Distinct (t.targets root) := (ht.wellFormed_iff.1 hw).1

/-- The targets of a well-formed tree have distinct ids. -/
theorem nodup_targets_ids : ((t.targets root).map Prod.snd).Nodup :=
  (List.nodup_map_iff_inj_on (nodup_targets t root)).2 fun σ hσ τ hτ h =>
    Prod.ext ((ht.wellFormed_iff.1 hw).2 σ hσ τ hτ h) h

end WellFormed
end TestTree
end DocExamples
