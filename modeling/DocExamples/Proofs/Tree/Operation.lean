/-
# Operations on a tree

Every tree is made from the empty one by operations: nodes are made, attached and detached, the
tree is cleared or reset, the status of a test changes, or the case of a suite is edited in any
way. Numbers that no node has may be given to all of them. Each operation keeps the forest, so
every tree that operations make is one (`forest_perform`), and all that its links promise follows
(`links_perform`).
-/

import DocExamples.Proofs.Test.Operation
import DocExamples.Proofs.Tree.Attach
import Mathlib.Logic.Function.Iterate

namespace DocExamples

/-- An operation on a tree of tests. -/
inductive TreeOp where
  | createGroup (key name : String)
  | createSuite (name : String) (tests : TestCase)
  | createLeaf (suite : NodeId) (testId : String)
  | addChild (parent child : NodeId)
  | removeChild (parent child : NodeId)
  | clear
  | reset
  /-- Changes the status of the test at a position of the case of a suite. -/
  | changeTest (suite : NodeId) (position : Nat) (op : TestOp)
  /-- Changes the case of a suite in any way. -/
  | editCase (suite : NodeId) (f : TestCase → TestCase)

namespace TestTree

/-- The tree after an operation. -/
def apply (t : TestTree) : TreeOp → TestTree
  | .createGroup key name => (t.createGroup key name).2
  | .createSuite name c => (t.createSuite name c).2
  | .createLeaf suite testId => (t.createLeaf suite testId).2
  | .addChild p c => (t.addChild p c).2
  | .removeChild p c => (t.removeChild p c).2
  | .clear => empty
  | .reset => t.reset
  | .changeTest suite position op => t.modifyCase suite (·.modify position op.apply)
  | .editCase suite f => t.modifyCase suite f

/-- The tree after a sequence of operations. -/
def perform (t : TestTree) (ops : List TreeOp) : TestTree := ops.foldl apply t

variable {t : TestTree}

/-- A leaf is made for a test that a suite owns, or nothing is made. -/
theorem createLeaf_cases (t : TestTree) (s : NodeId) (id : String) :
    (∃ e, t.createLeaf s id = (.error e, t)) ∨
      ∃ c x, t.kind? s = some (.suite c) ∧ c.find? id = some x ∧ t.createLeaf s id =
        (.ok t.nodes.size, (t.push id x.name (.leaf s id)).2) := by
  unfold createLeaf kind?
  cases t.node? s with
  | none => exact Or.inl ⟨_, rfl⟩
  | some node =>
      obtain ⟨_, _, kind, _, _⟩ := node
      cases kind with
      | group | leaf => exact Or.inl ⟨.notASuite s, rfl⟩
      | suite c =>
          cases hx : c.find? id with
          | none => exact Or.inl ⟨.unknownTest id, by simp [NodeKind.case?, hx]⟩
          | some x => exact Or.inr ⟨c, x, rfl, hx, by simp [NodeKind.case?, hx, push]⟩

/-- **Every operation keeps the forest.** -/
theorem Forest.apply (ht : t.Forest) (op : TreeOp) : (t.apply op).Forest := by
  cases op with
  | createGroup key name => exact ht.push fun s id h => by cases h
  | createSuite name c => exact ht.push fun s id h => by cases h
  | createLeaf s id =>
      obtain ⟨e, h⟩ | ⟨c, x, hc, -, h⟩ := t.createLeaf_cases s id
      · rw [TestTree.apply, h]
        exact ht
      · rw [TestTree.apply, h]
        refine ht.push fun s' id' hk => ?_
        obtain ⟨rfl, -⟩ := NodeKind.leaf.inj hk
        exact ⟨c, hc⟩
  | addChild p c => exact ht.addChild p c
  | removeChild p c => exact ht.removeChild p c
  | clear => exact forest_empty
  | reset => exact List.foldlRecOn _ _ ht fun t ht s _ => ht.modifyCase s _
  | changeTest s i op => exact ht.modifyCase s _
  | editCase s f => exact ht.modifyCase s f

/-- **Every tree that operations make is a forest.** -/
theorem forest_perform (ops : List TreeOp) : (empty.perform ops).Forest := by
  suffices h : ∀ t : TestTree, t.Forest → (t.perform ops).Forest from h empty forest_empty
  induction ops with
  | nil => exact fun t ht => ht
  | cons op ops ih => exact fun t ht => ih (t.apply op) (ht.apply op)

namespace Forest

variable (ht : t.Forest)
include ht

/-- A node is listed by its parent exactly once and by no other node. -/
theorem count_children (p c : NodeId) :
    (t.children p).count c = if t.parent? c = some p then 1 else 0 := by
  rw [(ht.nodup_children p).count]
  simp only [ht.mem_children_iff]

/-- Following parents from a node ends after finitely many steps. -/
theorem exists_iterate_eq_none (n : NodeId) :
    ∃ k, (fun x : Option NodeId => x.bind t.parent?)^[k] (some n) = none := by
  induction n using ht.grounded.induction with
  | _ n ih =>
    cases h : t.parent? n with
    | none => exact ⟨1, h⟩
    | some p =>
        obtain ⟨k, hk⟩ := ih p h
        exact ⟨k + 1, by rwa [Function.iterate_succ_apply, Option.bind_some, h]⟩

end Forest

/-- **The links of every tree that operations make.** A node is listed by its parent, once, and by
no other node; only groups list nodes; the root has no parent; every number that is stored names a
node, and one that a leaf or the index stores names a suite; following parents from a node ends,
and no node is above its parent. -/
theorem links_perform (ops : List TreeOp) :
    let t := empty.perform ops
    (∀ p c, (t.children p).count c = if t.parent? c = some p then 1 else 0) ∧
      (∀ p c, c ∈ t.children p → t.kind? p = some .group) ∧
      t.parent? root = none ∧
      (∀ p c, c ∈ t.children p ∨ t.parent? c = some p → p < t.nodes.size ∧ c < t.nodes.size) ∧
      (∀ n s id, t.leafTarget? n = some (s, id) → ∃ c, t.kind? s = some (.suite c)) ∧
      (∀ (id : String) (s : NodeId), t.index[id]? = some s → ∃ c, t.kind? s = some (.suite c)) ∧
      (∀ n, ∃ k, (fun x : Option NodeId => x.bind t.parent?)^[k] (some n) = none) ∧
      ∀ p c, t.parent? c = some p → ¬ t.Below c p := by
  intro t
  have ht : t.Forest := forest_perform ops
  refine ⟨ht.count_children, fun p c h => ?_, ht.root_parent?, fun p c h => ?_,
    fun n s id h => ?_, ht.kind?_index, ht.exists_iterate_eq_none,
    fun p c h => ht.grounded.not_below h⟩
  · exact ht.kind?_parent c p ((ht.mem_children_iff p c).1 h)
  · have hp : t.parent? c = some p := h.elim (ht.mem_children_iff p c).1 id
    exact ⟨ht.lt_size_of_parent hp, lt_size_of_parent? hp⟩
  · exact ht.kind?_leaf n s id (leafTarget?_eq_some_iff.1 h)

end TestTree
end DocExamples
