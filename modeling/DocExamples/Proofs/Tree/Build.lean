/-
# Building a tree

A tree is built from the bottom: a group that is not attached yet takes any new node
(`addChild_of_detached`), and the root takes a finished group if the tests in it have ids that are
not listed yet (`addChild_root`). Until then the index stays as it is.
-/

import DocExamples.Proofs.Tree.Index

namespace DocExamples
namespace TestTree

variable {t : TestTree} {c k m n p s : NodeId} {id : String} {kind : NodeKind} {tests : TestCase}

/-- What a link does to the nodes. -/
theorem node?_link (hpc : p ≠ c) (t : TestTree) (k : NodeId) : (t.link p c).node? k =
    if k = p then (t.node? p).map fun n => { n with children := n.children ++ [c] }
    else if k = c then (t.node? c).map fun n => { n with parent := some p }
    else t.node? k := by
  rw [link, node?_modify, node?_modify]
  split_ifs with hp hc <;> simp_all

/-- The tests of the suites from a node down. -/
def testsFrom (t : TestTree) (n : NodeId) : List Test :=
  (t.suites n).flatMap fun s => ((t.case? s).map (·.tests)).getD []

theorem map_fst_owned_eq (t : TestTree) (n : NodeId) :
    (t.owned n).map Prod.fst = (t.testsFrom n).map (·.id) := by
  unfold owned testsFrom
  rw [List.map_flatMap, List.map_flatMap]
  refine List.flatMap_congr fun s _ => ?_
  cases t.case? s <;> simp

namespace Forest

variable (ht : t.Forest)
include ht

/-- **A group without a parent takes a new node** without a look at the tests in it. -/
theorem addChild_of_detached (hp : t.kind? p = some .group) (hpn : t.parent? p = none)
    (hpr : p ≠ root) (hc : c < t.nodes.size) (hcn : t.parent? c = none) (hcr : c ≠ root)
    (hpc : p ≠ c) : t.addChild p c = (.ok (), t.link p c) := by
  have hcheck : t.checkLink p c = .ok () :=
    ht.checkLink_eq_ok_iff.2 ⟨hp, hc, hcn, hcr, fun h => hpc (h.eq_of_parent?_eq_none hpn)⟩
  have hreach : t.isReachable p = false := Bool.not_eq_true _ ▸ fun h =>
    hpr ((ht.isReachable_iff.1 h).eq_of_parent?_eq_none hpn)
  rw [TestTree.addChild, hcheck]
  simp [hreach]

/-- **The root takes a group** if the ids of the tests in it are distinct and not listed yet. -/
theorem addChild_root (hc : c < t.nodes.size) (hcn : t.parent? c = none) (hcr : c ≠ root)
    (hnd : ((t.testsFrom c).map (·.id)).Nodup)
    (hnew : ∀ id ∈ (t.testsFrom c).map (·.id), id ∉ t.index) :
    t.addChild root c =
      (.ok (), ({ t with index := t.index.insertMany (t.owned c) } : TestTree).link root c) := by
  have hcheck : t.checkLink root c = .ok () := ht.checkLink_eq_ok_iff.2 ⟨ht.root_kind?, hc, hcn,
    hcr, fun h => hcr (h.eq_of_parent?_eq_none ht.root_parent?).symm⟩
  have hregister : t.register c = .ok { t with index := t.index.insertMany (t.owned c) } :=
    register_eq_ok_iff.2 ⟨map_fst_owned_eq t c ▸ hnd, map_fst_owned_eq t c ▸ hnew, rfl⟩
  rw [TestTree.addChild, hcheck]
  simp [isReachable, hregister]

/-- The tests from a group down are those from its children down, in their order. -/
theorem testsFrom_group (hn : t.kind? n = some .group) :
    t.testsFrom n = (t.children n).flatMap t.testsFrom := by
  rw [testsFrom, suites, ht.below_eq hn, if_neg (by decide), List.nil_append, List.flatMap_assoc]
  rfl

theorem testsFrom_suite (hn : t.kind? n = some (.suite tests)) : t.testsFrom n = tests.tests := by
  rw [testsFrom, suites, ht.below_eq hn, ht.children_eq_nil hn rfl]
  simp [NodeKind.isSuite, case?_eq, hn, NodeKind.case?]

theorem testsFrom_leaf (hn : t.kind? n = some (.leaf s id)) : t.testsFrom n = [] := by
  rw [testsFrom, suites, ht.below_eq hn, ht.children_eq_nil hn rfl]
  rfl

/-- The leaves from a group down are those from its children down, in their order. -/
theorem leaves_group (hn : t.kind? n = some .group) :
    t.leaves n = (t.children n).flatMap t.leaves := by
  rw [leaves, ht.below_eq hn, if_neg (by decide), List.nil_append]
  rfl

theorem leaves_suite (hn : t.kind? n = some (.suite tests)) : t.leaves n = [] := by
  rw [leaves, ht.below_eq hn, ht.children_eq_nil hn rfl]
  rfl

theorem leaves_leaf (hn : t.kind? n = some (.leaf s id)) : t.leaves n = [n] := by
  rw [leaves, ht.below_eq hn, ht.children_eq_nil hn rfl]
  rfl

end Forest

/-- A leaf is made for a test that a suite owns. -/
theorem createLeaf_of_find? {x : Test} (hs : t.kind? s = some (.suite tests))
    (hx : tests.find? id = some x) :
    t.createLeaf s id = (.ok t.nodes.size, (t.push id x.name (.leaf s id)).2) := by
  obtain ⟨node, hnode, hkind⟩ := Option.map_eq_some_iff.1 hs
  simp [createLeaf, hnode, hkind, NodeKind.case?, hx, push]

theorem Forest.ne_root_of_size_le (ht : t.Forest) (hn : t.nodes.size ≤ n) : n ≠ root :=
  Nat.ne_of_gt (Nat.lt_of_lt_of_le ht.root_lt_size hn)

theorem Forest.ne_root_of_kind? (ht : t.Forest) (hn : t.kind? n = some kind)
    (hk : kind.isGroup = false) : n ≠ root := by
  rintro rfl
  rw [ht.root_kind?] at hn
  cases hn
  cases hk

/-! ### Nodes on top of a tree -/

/-- Whether `t` has further nodes than `t₀`, none of which is attached to those of `t₀` yet. -/
structure Grown (t₀ t : TestTree) : Prop where
  forest : t.Forest
  indexed : t.Indexed
  index : t.index = t₀.index
  size : t₀.nodes.size ≤ t.nodes.size
  node?_old : ∀ m < t₀.nodes.size, t.node? m = t₀.node? m

namespace Grown

variable {t₀ : TestTree}

theorem refl (ht : t.Forest) (hi : t.Indexed) : Grown t t :=
  ⟨ht, hi, rfl, Nat.le_refl _, fun _ _ => rfl⟩

/-- A new node is on top. -/
theorem push (h : Grown t₀ t) (key name : String)
    (hk : ∀ s id, kind = .leaf s id → ∃ c, t.kind? s = some (.suite c)) :
    Grown t₀ (t.push key name kind).2 where
  forest := h.forest.push hk
  indexed := h.forest.indexed_push h.indexed key name kind
  index := h.index
  size := Nat.le_trans h.size (by simp [TestTree.push])
  node?_old m hm := by
    rw [node?_push, if_neg (Nat.ne_of_lt (Nat.lt_of_lt_of_le hm h.size)), h.node?_old m hm]

/-- A node on top is attached to a group on top that has no parent. -/
theorem addChild (h : Grown t₀ t) (h₀ : t₀.Forest) (hp₀ : t₀.nodes.size ≤ p)
    (hp : t.kind? p = some .group) (hpn : t.parent? p = none) (hc₀ : t₀.nodes.size ≤ c)
    (hc : c < t.nodes.size) (hcn : t.parent? c = none) (hpc : p ≠ c) :
    t.addChild p c = (.ok (), t.link p c) ∧ Grown t₀ (t.link p c) := by
  have hadd := h.forest.addChild_of_detached hp hpn (h₀.ne_root_of_size_le hp₀) hc hcn
    (h₀.ne_root_of_size_le hc₀) hpc
  have hforest := h.forest.addChild p c
  have hindexed := h.forest.indexed_addChild h.indexed p c
  rw [hadd] at hforest hindexed
  refine ⟨hadd, hforest, hindexed, h.index, Nat.le_trans h.size (by simp [link, size_modify]), ?_⟩
  intro m hm
  rw [node?_link hpc, if_neg (Nat.ne_of_lt (Nat.lt_of_lt_of_le hm hp₀)),
    if_neg (Nat.ne_of_lt (Nat.lt_of_lt_of_le hm hc₀)), h.node?_old m hm]

/-- **A finished group goes under the root** as its last child. No other node changes. -/
theorem addChild_root (h : Grown t₀ t) (h₀ : t₀.Forest) (hc₀ : t₀.nodes.size ≤ c)
    (hc : c < t.nodes.size) (hcn : t.parent? c = none)
    (hnd : ((t.testsFrom c).map (·.id)).Nodup)
    (hnew : ∀ id ∈ (t.testsFrom c).map (·.id), id ∉ t₀.index) :
    ∃ u, t.addChild root c = (.ok (), u) ∧ u.Forest ∧ u.Indexed ∧
      u.children root = t₀.children root ++ [c] ∧
      u.node? c = (t.node? c).map (fun n => { n with parent := some root }) ∧
      (∀ m, u.kind? m = t.kind? m) ∧ ∀ m ≠ root, m < t₀.nodes.size → u.node? m = t₀.node? m := by
  have hcr := h₀.ne_root_of_size_le hc₀
  have hadd := h.forest.addChild_root hc hcn hcr hnd (h.index ▸ hnew)
  have hforest := h.forest.addChild root c
  have hindexed := h.forest.indexed_addChild h.indexed root c
  rw [hadd] at hforest hindexed
  have hnode : ∀ m, ({ t with index := t.index.insertMany (t.owned c) } : TestTree).node? m =
      t.node? m := fun _ => rfl
  refine ⟨_, hadd, hforest, hindexed, ?_, ?_, kind?_link _ root c, fun m hmr hm => ?_⟩
  · have hroot : t.children root = t₀.children root := by
      rw [children, children, h.node?_old root h₀.root_lt_size]
    have hsize :
        root < ({ t with index := t.index.insertMany (t.owned c) } : TestTree).nodes.size :=
      h.forest.root_lt_size
    rw [children_link hsize, if_pos rfl]
    exact congrArg (· ++ [c]) hroot
  · rw [node?_link hcr.symm, if_neg hcr, if_pos rfl, hnode]
  · rw [node?_link hcr.symm, if_neg hmr, if_neg (Nat.ne_of_lt (Nat.lt_of_lt_of_le hm hc₀)), hnode,
      h.node?_old m hm]

end Grown
end TestTree
end DocExamples
