/-
# Nodes above and below one another

A node has at most one parent, so the nodes above it form a chain, and of two nodes above the same
one the one is above the other (`below_total`). Hanging a node without a parent under another one
adds to this relation exactly the pairs that lead through the new link (`below_graft_iff`), and if
the new parent was not below the node, following parents still ends from every node
(`Grounded.graft`).

The program follows parents for a bounded number of steps. If following parents ends, no node
comes twice on the way, so the number of nodes is bound enough: `mem_ancestors_iff` and
`isReachable_iff` say that the bounded walk finds all nodes above a node.
-/

import DocExamples.Tree.Walk
import Mathlib.Data.List.Perm.Subperm
import Mathlib.Logic.Relation

namespace DocExamples
namespace TestTree

/-- Whether `n` is `a` or below it: following parents from `n` leads to `a`. -/
def Below (t : TestTree) (a n : NodeId) : Prop :=
  Relation.ReflTransGen (fun m p => t.parent? m = some p) n a

/-- Following parents ends from every node. -/
def Grounded (t : TestTree) : Prop := WellFounded fun p m => t.parent? m = some p

variable {t u : TestTree} {a b c m n p : NodeId}

theorem below_refl (t : TestTree) (n : NodeId) : t.Below n n := Relation.ReflTransGen.refl

theorem Below.trans (hab : t.Below a b) (hbn : t.Below b n) : t.Below a n :=
  Relation.ReflTransGen.trans hbn hab

theorem below_of_parent? (h : t.parent? n = some p) : t.Below p n := Relation.ReflTransGen.single h

/-- What is above the parent is above the child. -/
theorem Below.step (h : t.parent? n = some p) (ha : t.Below a p) : t.Below a n :=
  Relation.ReflTransGen.head h ha

/-- A node is below another one only through its parent. -/
theorem below_iff : t.Below a n ↔ n = a ∨ ∃ p, t.parent? n = some p ∧ t.Below a p :=
  Relation.ReflTransGen.cases_head_iff

theorem Below.of_parent? (ha : t.Below a n) (hne : n ≠ a) (h : t.parent? n = some p) :
    t.Below a p := by
  obtain rfl | ⟨q, hq, ha⟩ := below_iff.1 ha
  · exact absurd rfl hne
  · obtain rfl : q = p := Option.some.inj (hq.symm.trans h)
    exact ha

/-- Only a node without a parent itself is above it. -/
theorem Below.eq_of_parent?_eq_none (ha : t.Below a n) (h : t.parent? n = none) : n = a := by
  obtain rfl | ⟨p, hp, -⟩ := below_iff.1 ha
  · rfl
  · rw [h] at hp
    cases hp

/-- **The nodes above a node form a chain.** -/
theorem below_total (ha : t.Below a n) (hb : t.Below b n) : t.Below b a ∨ t.Below a b :=
  Relation.ReflTransGen.total_of_right_unique
    (fun _ _ _ h₁ h₂ => Option.some.inj (h₁.symm.trans h₂)) ha hb

/-- The relation depends on the parents alone. -/
theorem below_congr (h : ∀ m, u.parent? m = t.parent? m) : u.Below a n ↔ t.Below a n := by
  unfold Below
  simp only [h]

/-! ### Hanging a node under another one -/

/-- **The pairs that a new link adds.** If `u` has the parents of `t`, apart from `c`, which had
none and is below `p` now, then the new pairs are those whose chain leads from `c` to `p`. -/
theorem below_graft_iff (hc : t.parent? c = none)
    (hu : ∀ m, u.parent? m = if m = c then some p else t.parent? m) :
    u.Below a n ↔ t.Below a n ∨ t.Below c n ∧ t.Below a p := by
  constructor
  · intro h
    induction h using Relation.ReflTransGen.head_induction_on with
    | refl => exact Or.inl (below_refl t a)
    | head hq _ ih =>
        rw [hu] at hq
        split_ifs at hq with hm
        · obtain rfl := Option.some.inj hq
          obtain rfl := hm
          exact Or.inr ⟨below_refl t _, ih.elim id And.right⟩
        · exact ih.imp (Below.step hq) (And.imp_left (Below.step hq))
  · have old : ∀ {x y}, t.Below x y → u.Below x y := by
      intro x y h
      refine Relation.ReflTransGen.mono (fun m q hq => ?_) _ _ h
      have hm : m ≠ c := by
        rintro rfl
        rw [hc] at hq
        cases hq
      rw [hu, if_neg hm]
      exact hq
    rintro (h | ⟨hcn, hap⟩)
    · exact old h
    · have hcp : u.parent? c = some p := by rw [hu, if_pos rfl]
      exact (Below.step hcp (old hap)).trans (old hcn)

/-- A new link under a node that is not below its child leaves the way up finite. -/
theorem Grounded.graft (ht : t.Grounded) (hp : ¬ t.Below c p)
    (hu : ∀ m, u.parent? m = if m = c then some p else t.parent? m) : u.Grounded := by
  -- the nodes that are not below `c` first: their way up is the old one
  have outside : ∀ n, ¬ t.Below c n → Acc (fun q m => u.parent? m = some q) n := by
    intro n
    induction n using ht.induction with
    | _ n ih =>
      intro hn
      refine ⟨n, fun q hq => ?_⟩
      have hnc : n ≠ c := fun h => hn (h ▸ below_refl t c)
      rw [hu, if_neg hnc] at hq
      exact ih q hq fun h => hn (h.step hq)
  refine ⟨fun n => ?_⟩
  induction n using ht.induction with
  | _ n ih =>
    refine ⟨n, fun q hq => ?_⟩
    rw [hu] at hq
    split_ifs at hq with hn
    · exact Option.some.inj hq ▸ outside p hp
    · exact ih q hq

/-- Taking links away leaves the way up finite. -/
theorem Grounded.of_imp (ht : t.Grounded)
    (hu : ∀ m q, u.parent? m = some q → t.parent? m = some q) : u.Grounded :=
  Subrelation.wf (fun {_ _} h => hu _ _ h) ht

/-- **No node is above its parent.** -/
theorem Grounded.not_below (ht : t.Grounded) (h : t.parent? n = some p) : ¬ t.Below n p := by
  induction n using ht.induction generalizing p with
  | _ n ih =>
    intro hn
    obtain rfl | ⟨q, hq, hnq⟩ := below_iff.1 hn
    · exact ih p h h hn
    · exact ih p h hq ((below_of_parent? h).trans hnq)

/-! ### The bounded walk up -/

/-- A shorter walk is the beginning of a longer one. -/
theorem climb_eq_take (t : TestTree) (k : ℕ) (x : Option NodeId) :
    t.climb k x = (t.climb (k + 1) x).take k := by
  induction k generalizing x with
  | zero => rfl
  | succ k ih =>
      cases x with
      | none => rfl
      | some n => rw [climb, ih, climb, List.take_succ_cons]

theorem below_of_mem_climb {k : ℕ} (h : a ∈ t.climb k (some n)) : t.Below a n := by
  induction k generalizing n with
  | zero => simp [climb] at h
  | succ k ih =>
      rw [climb] at h
      obtain rfl | h := List.mem_cons.1 h
      · exact below_refl t a
      · cases hp : t.parent? n with
        | none => rw [hp] at h; cases k <;> simp [climb] at h
        | some p => exact (ih (hp ▸ h)).step hp

/-- No node comes twice on the way up. -/
theorem Grounded.nodup_climb (ht : t.Grounded) (k : ℕ) (x : Option NodeId) :
    (t.climb k x).Nodup := by
  induction k generalizing x with
  | zero => exact List.nodup_nil
  | succ k ih =>
      cases x with
      | none => exact List.nodup_nil
      | some n =>
          refine List.nodup_cons.2 ⟨fun hn => ?_, ih _⟩
          cases hp : t.parent? n with
          | none => rw [hp] at hn; cases k <;> simp [climb] at hn
          | some p => exact ht.not_below hp (below_of_mem_climb (hp ▸ hn))

section Bounded

variable (ht : t.Grounded) (hb : ∀ m q, t.parent? m = some q → q < t.nodes.size)

include hb in
theorem lt_size_of_mem_climb {k : ℕ} (h : a ∈ t.climb k (t.parent? n)) : a < t.nodes.size := by
  cases hp : t.parent? n with
  | none => rw [hp] at h; cases k <;> simp [climb] at h
  | some p =>
      obtain rfl | ⟨m, hm⟩ := Relation.ReflTransGen.cases_tail (below_of_mem_climb (hp ▸ h))
      · exact hb n _ hp
      · exact hb m a hm.2

include ht hb in
/-- The number of nodes is bound enough for the way up. -/
theorem climb_size (n : NodeId) :
    t.climb t.nodes.size (t.parent? n) = t.climb (t.nodes.size + 1) (t.parent? n) := by
  have hsub : t.climb (t.nodes.size + 1) (t.parent? n) ⊆ List.range t.nodes.size :=
    fun a ha => List.mem_range.2 (lt_size_of_mem_climb hb ha)
  have hle := ((ht.nodup_climb _ _).subperm hsub).length_le
  rw [List.length_range] at hle
  rw [climb_eq_take, List.take_of_length_le hle]

theorem ancestors_eq_nil (h : t.parent? n = none) : t.ancestors n = [] := by
  rw [ancestors, h]
  cases t.nodes.size <;> rfl

include ht hb in
/-- The nodes above a node are its parent and the nodes above that one. -/
theorem ancestors_eq_cons (h : t.parent? n = some p) : t.ancestors n = p :: t.ancestors p := by
  rw [ancestors, climb_size ht hb, h, climb, ancestors]

include ht hb in
/-- **The bounded walk finds exactly the nodes above a node.** -/
theorem mem_ancestors_iff : a ∈ t.ancestors n ↔ ∃ p, t.parent? n = some p ∧ t.Below a p := by
  induction n using ht.induction with
  | _ n ih =>
    cases h : t.parent? n with
    | none => simp [ancestors_eq_nil h]
    | some p =>
        rw [ancestors_eq_cons ht hb h, List.mem_cons, ih p h]
        exact ((or_congr_left eq_comm).trans below_iff.symm).trans (by simp)

include ht hb in
/-- The program's test of reachability is the relation to the root. -/
theorem isReachable_iff : t.isReachable n = true ↔ t.Below root n := by
  rw [isReachable, Bool.or_eq_true, beq_iff_eq, List.contains_iff_mem, mem_ancestors_iff ht hb,
    below_iff]

end Bounded

end TestTree
end DocExamples
