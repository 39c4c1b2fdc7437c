/-
# The walk down a forest

The nodes on the stack of a walk are never above one another, so what is below them is disjoint and
no node is visited twice (`nodup_visit`). The walk takes a bounded number of steps; as each step
visits a new node, the number of nodes is bound enough and the walk meets all that is below its
start (`mem_preorder_iff`). The leaves and the suites that the program finds are thus exactly those
below the start. The walk from a node is the node and then the walks from its children, in their
order (`preorder_eq`).
-/

import DocExamples.Proofs.Tree.Forest

namespace DocExamples
namespace TestTree

variable {t : TestTree} {a c m n s : NodeId} {k : ℕ} {stack : List NodeId} {kind : NodeKind}

/-- Neither of two nodes is above the other. -/
def Apart (t : TestTree) (a b : NodeId) : Prop := ¬ t.Below a b ∧ ¬ t.Below b a

/-- What is below a node is the node itself or below a child of it. -/
theorem below_iff_child : t.Below a n ↔ n = a ∨ ∃ c, t.parent? c = some a ∧ t.Below c n := by
  rw [Below, Relation.ReflTransGen.cases_tail_iff]
  exact ⟨fun h => h.imp Eq.symm fun ⟨c, h⟩ => ⟨c, h.2, h.1⟩,
    fun h => h.imp Eq.symm fun ⟨c, h⟩ => ⟨c, h.2, h.1⟩⟩

theorem children_eq {node : TreeNode} (h : t.node? n = some node) :
    t.children n = node.children := by
  rw [children, h]
  rfl

/-- A walk visits nodes that are below its stack. -/
theorem Forest.below_of_mem_visit (ht : t.Forest) (h : m ∈ t.visit k stack) :
    m < t.nodes.size ∧ ∃ s ∈ stack, t.Below s m := by
  induction k generalizing stack with
  | zero => simp [visit] at h
  | succ k ih =>
      cases stack with
      | nil => simp [visit] at h
      | cons n stack =>
          rw [visit] at h
          cases hn : t.node? n with
          | none =>
              rw [hn] at h
              obtain ⟨hm, s, hs, hb⟩ := ih h
              exact ⟨hm, s, List.mem_cons_of_mem _ hs, hb⟩
          | some node =>
              rw [hn] at h
              obtain rfl | h := List.mem_cons.1 h
              · exact ⟨(Array.getElem?_eq_some_iff.1 hn).1, m, List.mem_cons_self, below_refl t m⟩
              · obtain ⟨hm, s, hs, hb⟩ := ih h
                refine ⟨hm, ?_⟩
                obtain hs | hs := List.mem_append.1 hs
                · rw [← children_eq hn, ht.mem_children_iff] at hs
                  exact ⟨n, List.mem_cons_self, (below_of_parent? hs).trans hb⟩
                · exact ⟨s, List.mem_cons_of_mem _ hs, hb⟩

/-- Below a child of a node is nothing that is apart from the node. -/
theorem Apart.child (h : t.Apart n s) (hc : t.parent? c = some n) : t.Apart c s := by
  refine ⟨fun hb => h.1 ((below_of_parent? hc).trans hb), fun hb => ?_⟩
  obtain rfl | ⟨p, hp, hb⟩ := below_iff.1 hb
  · exact h.1 (below_of_parent? hc)
  · obtain rfl : p = n := Option.some.inj (hp.symm.trans hc)
    exact h.2 hb

/-- The children of a node are apart. -/
theorem Forest.pairwise_children (ht : t.Forest) (n : NodeId) :
    (t.children n).Pairwise t.Apart := by
  have one : ∀ {a b}, t.parent? a = some n → t.parent? b = some n → a ≠ b → ¬ t.Below a b := by
    intro a b ha hb hab h
    exact ht.grounded.not_below ha (h.of_parent? hab.symm hb)
  refine (ht.nodup_children n).imp_of_mem fun ha hb hab => ?_
  rw [ht.mem_children_iff] at ha hb
  exact ⟨one ha hb hab, one hb ha hab.symm⟩

/-- **No node is visited twice.** -/
theorem Forest.nodup_visit (ht : t.Forest) (hs : stack.Pairwise t.Apart) :
    (t.visit k stack).Nodup := by
  induction k generalizing stack with
  | zero => exact List.nodup_nil
  | succ k ih =>
      cases stack with
      | nil => exact List.nodup_nil
      | cons n stack =>
          obtain ⟨hn, hs⟩ := List.pairwise_cons.1 hs
          rw [visit]
          cases hnode : t.node? n with
          | none => exact ih hs
          | some node =>
              have hchild : ∀ c ∈ node.children, t.parent? c = some n := fun c hc =>
                (ht.mem_children_iff n c).1 (children_eq hnode ▸ hc)
              refine List.nodup_cons.2 ⟨fun hm => ?_, ih (List.pairwise_append.2
                ⟨children_eq hnode ▸ ht.pairwise_children n, hs,
                  fun c hc s hs => (hn s hs).child (hchild c hc)⟩)⟩
              obtain ⟨-, s, hs, hb⟩ := ht.below_of_mem_visit hm
              obtain hs | hs := List.mem_append.1 hs
              · exact ht.grounded.not_below (hchild s hs) hb
              · exact (hn s hs).2 hb

/-- A walk that stops before its last step has met all that is below its stack. -/
theorem Forest.mem_visit_of_below (ht : t.Forest) (hlen : (t.visit k stack).length < k)
    (hex : ∀ s ∈ stack, s < t.nodes.size) (hs : s ∈ stack) (hb : t.Below s m) :
    m ∈ t.visit k stack := by
  induction k generalizing stack s with
  | zero => simp at hlen
  | succ k ih =>
      cases stack with
      | nil => simp at hs
      | cons n stack =>
          obtain ⟨node, hn⟩ : ∃ node, t.node? n = some node :=
            ⟨_, Array.getElem?_eq_getElem (hex n List.mem_cons_self)⟩
          rw [visit, hn] at hlen ⊢
          have hchild : ∀ c ∈ node.children, t.parent? c = some n := fun c hc =>
            (ht.mem_children_iff n c).1 (children_eq hn ▸ hc)
          have hrest : ∀ s ∈ node.children ++ stack, s < t.nodes.size := by
            intro s hs
            obtain hs | hs := List.mem_append.1 hs
            · exact lt_size_of_parent? (hchild s hs)
            · exact hex s (List.mem_cons_of_mem _ hs)
          replace hlen : (t.visit k (node.children ++ stack)).length < k :=
            Nat.lt_of_succ_lt_succ hlen
          obtain rfl | hs := List.mem_cons.1 hs
          · obtain rfl | ⟨c, hc, hb⟩ := below_iff_child.1 hb
            · exact List.mem_cons_self
            · rw [← ht.mem_children_iff, children_eq hn] at hc
              exact List.mem_cons_of_mem _ (ih hlen hrest (List.mem_append_left _ hc) hb)
          · exact List.mem_cons_of_mem _ (ih hlen hrest (List.mem_append_right _ hs) hb)

namespace Forest

variable (ht : t.Forest)
include ht

theorem nodup_preorder (start : NodeId) : (t.preorder start).Nodup :=
  ht.nodup_visit (List.pairwise_singleton _ _)

/-- A walk visits no more nodes than there are. -/
theorem length_visit_le (hs : stack.Pairwise t.Apart) :
    (t.visit k stack).length ≤ t.nodes.size := by
  have hsub : t.visit k stack ⊆ List.range t.nodes.size := fun a ha =>
    List.mem_range.2 (ht.below_of_mem_visit ha).1
  have hle := ((ht.nodup_visit hs).subperm hsub).length_le
  rwa [List.length_range] at hle

/-- A node is known if and only if those above it are. -/
theorem lt_size_iff_of_below (h : t.Below a n) : a < t.nodes.size ↔ n < t.nodes.size := by
  constructor
  · intro ha
    obtain rfl | ⟨p, hp, -⟩ := below_iff.1 h
    · exact ha
    · exact lt_size_of_parent? hp
  · intro hn
    obtain rfl | ⟨c, hc, -⟩ := below_iff_child.1 h
    · exact hn
    · exact ht.lt_size_of_parent hc

/-- **The walk finds exactly what is below its start.** -/
theorem mem_preorder_iff : m ∈ t.preorder s ↔ s < t.nodes.size ∧ t.Below s m := by
  constructor
  · intro h
    obtain ⟨hm, a, ha, hb⟩ := ht.below_of_mem_visit h
    obtain rfl := List.mem_singleton.1 ha
    exact ⟨(ht.lt_size_iff_of_below hb).2 hm, hb⟩
  · rintro ⟨hs, hb⟩
    have hlen : (t.visit (t.nodes.size + 1) [s]).length < t.nodes.size + 1 :=
      Nat.lt_succ_of_le (ht.length_visit_le (List.pairwise_singleton _ s))
    exact ht.mem_visit_of_below hlen (by simpa using hs) List.mem_cons_self hb

theorem mem_below_iff {p : NodeKind → Bool} : n ∈ t.below s p ↔
    (s < t.nodes.size ∧ t.Below s n) ∧ ∃ kind, t.kind? n = some kind ∧ p kind = true := by
  rw [below, List.mem_filter, ht.mem_preorder_iff]
  refine and_congr_right fun _ => ?_
  unfold kind?
  cases t.node? n <;> simp

/-- The program finds the suites below a node. -/
theorem mem_suites_iff :
    n ∈ t.suites s ↔ (s < t.nodes.size ∧ t.Below s n) ∧ ∃ c, t.kind? n = some (.suite c) := by
  rw [suites, ht.mem_below_iff]
  refine and_congr_right fun _ => ⟨?_, fun ⟨c, h⟩ => ⟨_, h, rfl⟩⟩
  rintro ⟨kind, h, hk⟩
  cases kind with
  | suite c => exact ⟨c, h⟩
  | group | leaf => cases hk

/-- The program finds the leaves below a node. -/
theorem mem_leaves_iff : n ∈ t.leaves s ↔
    (s < t.nodes.size ∧ t.Below s n) ∧ ∃ k id, t.kind? n = some (.leaf k id) := by
  rw [leaves, ht.mem_below_iff]
  refine and_congr_right fun _ => ⟨?_, fun ⟨k, id, h⟩ => ⟨_, h, rfl⟩⟩
  rintro ⟨kind, h, hk⟩
  cases kind with
  | leaf k id => exact ⟨k, id, h⟩
  | group | suite => cases hk

theorem root_lt_size : root < t.nodes.size := lt_size_of_kind? ht.root_kind?

theorem nodup_suites (start : NodeId) : (t.suites start).Nodup := (ht.nodup_preorder start).filter _

/-! ### The walk by recursion -/

theorem lt_size_of_mem_children (h : c ∈ t.children n) : c < t.nodes.size :=
  lt_size_of_parent? ((ht.mem_children_iff n c).1 h)

/-- The children of the node on top of the stack and the rest of the stack are nodes. -/
theorem lt_size_of_mem_next (hex : ∀ s ∈ n :: stack, s < t.nodes.size) :
    ∀ s ∈ t.children n ++ stack, s < t.nodes.size := by
  intro s hs
  obtain hs | hs := List.mem_append.1 hs
  · exact ht.lt_size_of_mem_children hs
  · exact hex s (List.mem_cons_of_mem n hs)

omit ht in
theorem visit_cons (hn : n < t.nodes.size) (k : ℕ) (stack : List NodeId) :
    t.visit (k + 1) (n :: stack) = n :: t.visit k (t.children n ++ stack) := by
  obtain ⟨node, hnode⟩ : ∃ node, t.node? n = some node := ⟨_, Array.getElem?_eq_getElem hn⟩
  rw [visit, hnode, children_eq hnode]

/-- One step more than a walk needs changes nothing. -/
theorem visit_succ (hlen : (t.visit k stack).length < k) (hex : ∀ s ∈ stack, s < t.nodes.size) :
    t.visit (k + 1) stack = t.visit k stack := by
  induction k generalizing stack with
  | zero => simp at hlen
  | succ k ih =>
      cases stack with
      | nil => rfl
      | cons n stack =>
          have hn := hex n List.mem_cons_self
          rw [visit_cons hn] at hlen
          rw [visit_cons hn, visit_cons hn,
            ih (Nat.lt_of_succ_lt_succ hlen) (ht.lt_size_of_mem_next hex)]

/-- What is below the upper part of a stack is visited before the lower part. -/
theorem visit_append {upper lower : List NodeId} (hlen : (t.visit k (upper ++ lower)).length < k)
    (hex : ∀ s ∈ upper ++ lower, s < t.nodes.size) :
    t.visit k (upper ++ lower) = t.visit k upper ++ t.visit k lower := by
  induction k generalizing upper with
  | zero => simp at hlen
  | succ k ih =>
      cases upper with
      | nil => rfl
      | cons n upper =>
          have hn := hex n List.mem_cons_self
          rw [List.cons_append] at hex
          have hnext := ht.lt_size_of_mem_next hex
          rw [List.cons_append, visit_cons hn, ← List.append_assoc, List.length_cons] at hlen
          rw [← List.append_assoc] at hnext
          have hsplit := ih (Nat.lt_of_succ_lt_succ hlen) hnext
          rw [hsplit, List.length_append] at hlen
          have hlower : t.visit (k + 1) lower = t.visit k lower :=
            ht.visit_succ (by omega) fun s hs => hnext s (List.mem_append_right _ hs)
          rw [List.cons_append, visit_cons hn, ← List.append_assoc, hsplit, visit_cons hn, hlower,
            List.cons_append]

theorem visit_eq_flatMap (hs : stack.Pairwise t.Apart) (hex : ∀ s ∈ stack, s < t.nodes.size) :
    t.visit (t.nodes.size + 1) stack = stack.flatMap t.preorder := by
  induction stack with
  | nil => rfl
  | cons n stack ih =>
      have hlen : (t.visit (t.nodes.size + 1) ([n] ++ stack)).length < t.nodes.size + 1 :=
        Nat.lt_succ_of_le (ht.length_visit_le hs)
      rw [List.flatMap_cons, ← ih (List.pairwise_cons.1 hs).2 (List.forall_mem_cons.1 hex).2]
      exact ht.visit_append hlen hex

/-- **The walk from a node** is the node and then the walks from its children. -/
theorem preorder_eq (hn : n < t.nodes.size) :
    t.preorder n = n :: (t.children n).flatMap t.preorder := by
  have hchildren : ∀ c ∈ t.children n, c < t.nodes.size := fun c => ht.lt_size_of_mem_children
  have hle : (t.preorder n).length ≤ t.nodes.size :=
    ht.length_visit_le (List.pairwise_singleton _ _)
  have hwalk : t.preorder n = n :: t.visit t.nodes.size (t.children n) := by
    rw [preorder, visit_cons hn, List.append_nil]
  rw [hwalk, List.length_cons] at hle
  rw [hwalk, ← ht.visit_succ hle hchildren, ht.visit_eq_flatMap (ht.pairwise_children n) hchildren]

/-- What is found from a node is the node, if it is of the kind, and what is found from its
children. -/
theorem below_eq (hn : t.kind? n = some kind) (p : NodeKind → Bool) :
    t.below n p = (if p kind then [n] else []) ++ (t.children n).flatMap fun c => t.below c p := by
  obtain ⟨node, hnode, rfl⟩ := Option.map_eq_some_iff.1 hn
  rw [below, ht.preorder_eq (lt_size_of_kind? hn), List.filter_cons, hnode, List.filter_flatMap]
  split_ifs <;> simp_all [below]

/-- A node that is no group has no children. -/
theorem children_eq_nil (hn : t.kind? n = some kind) (hk : kind.isGroup = false) :
    t.children n = [] := by
  refine List.eq_nil_iff_forall_not_mem.2 fun c hc => ?_
  rw [ht.kind?_parent c n ((ht.mem_children_iff n c).1 hc)] at hn
  cases hn
  cases hk

end Forest
end TestTree
end DocExamples
