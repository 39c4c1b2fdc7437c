/-
# Walking down with a stack

The program walks down a tree with a stack: in every round it takes the topmost node off, lists it
and puts its children on top. It does not remember where it has been, and nothing in the loop bounds
the number of rounds. In a forest, what has been listed and the walks from the nodes on the stack
always make up one list (`pending_walkStep`), and every round takes a node of it from the stack to
the list; so the loop ends after as many rounds as there are nodes to list (`iterate_walkStep`).

The list is the one that the recursion gives, and the only one (`eq_preorder_iff`). On the way up,
the path to a node is the path to its parent and the name of the node (`path_eq_append`), so below
the root it has one name more than the node is deep (`exists_depth`).
-/

import DocExamples.Proofs.Tree.Operation
import DocExamples.Proofs.Tree.Preorder

namespace DocExamples
namespace TestTree

variable {t : TestTree} {c n p : NodeId} {node : TreeNode} {stack order : List NodeId}

/-! ### Round by round -/

/-- One round of the walk: the topmost node is taken off the stack, which is on the left, and if
there is such a node, it is listed and its children are put on top. -/
def walkStep (t : TestTree) : List NodeId × List NodeId → List NodeId × List NodeId
  | ([], order) => ([], order)
  | (n :: stack, order) =>
    match t.node? n with
    | none => (stack, order)
    | some node => (node.children ++ stack, order ++ [n])

theorem walkStep_of_node? (hn : t.node? n = some node) (stack order : List NodeId) :
    t.walkStep (n :: stack, order) = (node.children ++ stack, order ++ [n]) := by
  rw [walkStep, hn]

theorem walkStep_of_node?_eq_none (hn : t.node? n = none) (stack order : List NodeId) :
    t.walkStep (n :: stack, order) = (stack, order) := by
  rw [walkStep, hn]

theorem preorder_eq_nil (hn : t.node? n = none) : t.preorder n = [] := by
  rw [preorder, visit, hn]
  cases t.nodes.size <;> rfl

theorem lt_size_of_node? (hn : t.node? n = some node) : n < t.nodes.size :=
  (Array.getElem?_eq_some_iff.1 hn).1

namespace Forest

variable (ht : t.Forest)
include ht

theorem preorder_of_node? (hn : t.node? n = some node) :
    t.preorder n = n :: node.children.flatMap t.preorder := by
  rw [ht.preorder_eq (lt_size_of_node? hn), children_eq hn]

/-- **What a round keeps**: what is listed, and after it the walks from the nodes on the stack. -/
theorem pending_walkStep (stack order : List NodeId) :
    let next := t.walkStep (stack, order)
    next.2 ++ next.1.flatMap t.preorder = order ++ stack.flatMap t.preorder := by
  intro next
  cases stack with
  | nil => rfl
  | cons n stack =>
      cases hn : t.node? n with
      | none =>
          have hnext : next = (stack, order) := walkStep_of_node?_eq_none hn stack order
          rw [hnext, List.flatMap_cons, preorder_eq_nil hn, List.nil_append]
      | some node =>
          have hnext : next = (node.children ++ stack, order ++ [n]) :=
            walkStep_of_node? hn stack order
          rw [hnext, List.flatMap_cons, ht.preorder_of_node? hn]
          simp only [List.flatMap_append, List.append_assoc, List.cons_append, List.nil_append]

/-- **The loop ends** after as many rounds as there are nodes below those on the stack, and has
listed them then. -/
theorem iterate_walkStep (hstack : ∀ s ∈ stack, s < t.nodes.size) (order : List NodeId) :
    t.walkStep^[(stack.flatMap t.preorder).length] (stack, order) =
      ([], order ++ stack.flatMap t.preorder) := by
  -- by the number of nodes that are still to be listed: every round lists one of them
  generalize hk : (stack.flatMap t.preorder).length = k
  induction k generalizing stack order with
  | zero =>
      cases stack with
      | nil => simp
      | cons n stack =>
          have hn : n < t.nodes.size := hstack n List.mem_cons_self
          rw [List.flatMap_cons, ht.preorder_eq hn] at hk
          simp at hk
  | succ k ih =>
      cases stack with
      | nil => simp at hk
      | cons n stack =>
          have hn : n < t.nodes.size := hstack n List.mem_cons_self
          obtain ⟨node, hnode⟩ : ∃ node, t.node? n = some node :=
            ⟨_, Array.getElem?_eq_getElem hn⟩
          have hround := walkStep_of_node? hnode stack order
          have hkeep := ht.pending_walkStep (n :: stack) order
          simp only [hround] at hkeep
          have hrest : ((node.children ++ stack).flatMap t.preorder).length = k := by
            have hlength := congrArg List.length hkeep
            simp only [List.length_append, List.length_singleton, hk] at hlength
            omega
          have hnext : ∀ s ∈ node.children ++ stack, s < t.nodes.size :=
            children_eq hnode ▸ ht.lt_size_of_mem_next hstack
          rw [Function.iterate_succ_apply, hround, ih hnext _ hrest, hkeep]

/-- The loop ends from any node, known or not, after at most as many rounds as there are nodes. -/
theorem exists_iterate_walkStep (start : NodeId) : ∃ k ≤ t.nodes.size,
    t.walkStep^[k] ([start], []) = ([], t.preorder start) := by
  cases hn : t.node? start with
  | none =>
      have hroot : 0 < t.nodes.size := ht.root_lt_size
      refine ⟨1, by omega, ?_⟩
      rw [Function.iterate_one, walkStep_of_node?_eq_none hn, preorder_eq_nil hn]
  | some node =>
      have hlt : ∀ s ∈ [start], s < t.nodes.size := by
        intro s hs
        rw [List.mem_singleton.1 hs]
        exact lt_size_of_node? hn
      have hend := ht.iterate_walkStep hlt []
      rw [List.flatMap_singleton, List.nil_append] at hend
      exact ⟨_, ht.length_visit_le (List.pairwise_singleton _ _), hend⟩

/-! ### The recursion -/

/-- Below a child there are fewer nodes than below its parent. -/
theorem length_preorder_lt (hn : t.node? n = some node) (hc : c ∈ node.children) :
    (t.preorder c).length < (t.preorder n).length := by
  have hsub : (t.preorder c).Sublist (node.children.flatMap t.preorder) := by
    rw [List.flatMap_def]
    exact List.sublist_flatten_of_mem (List.mem_map_of_mem hc)
  have hle := hsub.length_le
  rw [ht.preorder_of_node? hn, List.length_cons]
  omega

/-- **The walk is what the recursion gives**: a node and then what it gives for its children, in
their order, and nothing for a number that no node has. No other function satisfies this. -/
theorem eq_preorder_iff {f : NodeId → List NodeId} :
    (∀ n, f n = ((t.node? n).map fun node => n :: node.children.flatMap f).getD []) ↔
      f = t.preorder := by
  constructor
  · intro hf
    funext n
    -- by the number of nodes below `n`
    induction hk : (t.preorder n).length using Nat.strongRecOn generalizing n with
    | ind k ih =>
      rw [hf n]
      cases hn : t.node? n with
      | none => exact (preorder_eq_nil hn).symm
      | some node =>
          have hchildren : node.children.flatMap f = node.children.flatMap t.preorder := by
            refine List.flatMap_congr fun c hc => ?_
            have hlt := ht.length_preorder_lt hn hc
            exact ih _ (hk ▸ hlt) c rfl
          rw [ht.preorder_of_node? hn, ← hchildren]
          rfl
  · rintro rfl n
    cases hn : t.node? n with
    | none => exact preorder_eq_nil hn
    | some node => exact ht.preorder_of_node? hn

/-! ### Paths -/

/-- **The path to a node** is the path to its parent and the name of the node. -/
theorem path_eq_append (hp : t.parent? n = some p) (hn : t.node? n = some node) :
    t.path n = t.path p ++ [node.name] := by
  have habove : t.ancestors n = p :: t.ancestors p :=
    ancestors_eq_cons ht.grounded (fun _ _ => ht.lt_size_of_parent) hp
  simp only [path, List.filterMap_cons, hn, Option.map_some, List.reverse_cons, habove]

omit ht in
theorem path_eq_singleton (hp : t.parent? n = none) (hn : t.node? n = some node) :
    t.path n = [node.name] := by
  simp [path, ancestors_eq_nil hp, hn]

/-- **How deep a node is**: the path to a node below the root has one name more than there are
steps from the node up to the root. -/
theorem exists_depth (h : t.Below root n) : ∃ d, (t.path n).length = d + 1 ∧
    (fun x : Option NodeId => x.bind t.parent?)^[d] (some n) = some root := by
  induction h using Relation.ReflTransGen.head_induction_on with
  | refl =>
      obtain ⟨node, hnode⟩ : ∃ node, t.node? root = some node :=
        ⟨_, Array.getElem?_eq_getElem ht.root_lt_size⟩
      refine ⟨0, ?_, rfl⟩
      rw [path_eq_singleton ht.root_parent? hnode]
      rfl
  | @head n p hp _ ih =>
      obtain ⟨d, hlength, hclimb⟩ := ih
      obtain ⟨node, hnode⟩ : ∃ node, t.node? n = some node :=
        ⟨_, Array.getElem?_eq_getElem (lt_size_of_parent? hp)⟩
      refine ⟨d + 1, ?_, ?_⟩
      · rw [ht.path_eq_append hp hnode, List.length_append, hlength, List.length_singleton]
      · rw [Function.iterate_succ_apply, Option.bind_some, hp, hclimb]

end Forest

/-- **The walk down every tree that operations make**, from any number. The loop ends, and it lists
what the recursion gives; these are the nodes that have the start on their way up, each once. The
path to one of them other than the start is the path to its parent, which is listed too, and its
name; below the root it has one name more than the node is deep. -/
theorem traversal_perform (ops : List TreeOp) (start : NodeId) :
    let t := empty.perform ops
    (∃ k ≤ t.nodes.size, t.walkStep^[k] ([start], []) = ([], t.preorder start)) ∧
      (∀ f : NodeId → List NodeId,
        (∀ n, f n = ((t.node? n).map fun node => n :: node.children.flatMap f).getD []) ↔
          f = t.preorder) ∧
      (∀ n, n ∈ t.preorder start ↔ (t.node? n).isSome = true ∧ t.Below start n) ∧
      (t.preorder start).Nodup ∧
      (∀ n ∈ t.preorder start, n ≠ start → ∃ p node, t.parent? n = some p ∧
        p ∈ t.preorder start ∧ t.node? n = some node ∧ t.path n = t.path p ++ [node.name]) ∧
      ∀ n ∈ t.preorder root, ∃ d, (t.path n).length = d + 1 ∧ t.depth n = d ∧
        (fun x : Option NodeId => x.bind t.parent?)^[d] (some n) = some root := by
  intro t
  have ht : t.Forest := forest_perform ops
  have hmem : ∀ n, n ∈ t.preorder start ↔ (t.node? n).isSome = true ∧ t.Below start n := by
    intro n
    have hsome : (t.node? n).isSome = true ↔ n < t.nodes.size := by simp [node?]
    rw [ht.mem_preorder_iff, hsome]
    exact and_congr_left fun hb => ht.lt_size_iff_of_below hb
  refine ⟨ht.exists_iterate_walkStep start, fun f => ht.eq_preorder_iff, hmem,
    ht.nodup_preorder start, ?_, ?_⟩
  · intro n hn hne
    obtain ⟨hnode, hb⟩ := (hmem n).1 hn
    obtain ⟨node, hnode⟩ := Option.isSome_iff_exists.1 hnode
    obtain rfl | ⟨p, hp, hb⟩ := below_iff.1 hb
    · exact absurd rfl hne
    have hlisted : p ∈ t.preorder start := ht.mem_preorder_iff.2
      ⟨(ht.lt_size_iff_of_below hb).2 (ht.lt_size_of_parent hp), hb⟩
    exact ⟨p, node, hp, hlisted, hnode, ht.path_eq_append hp hnode⟩
  · intro n hn
    obtain ⟨-, hb⟩ := ht.mem_preorder_iff.1 hn
    obtain ⟨d, hlength, hclimb⟩ := ht.exists_depth hb
    refine ⟨d, hlength, ?_, hclimb⟩
    rw [depth, hlength, Nat.add_sub_cancel]

end TestTree
end DocExamples
