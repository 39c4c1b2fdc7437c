/-
# Trees of tests are forests

A child has the number of its parent and the parent lists its children, so every link is stored
twice. `Forest` says that the two agree, that following parents ends, and that every number that
is stored anywhere names a node of the right kind. An operation on a tree changes its nodes in one
of four ways: it adds a node without links (`push`), makes a link (`link`), takes one away
(`unlink`) or changes the tests of a suite (`modifyCase`). What each of them does to the parents,
the children and the kinds of the nodes is said once here, and each keeps the forest.
-/

import DocExamples.Proofs.Tree.Below
import DocExamples.Tree.Tests

namespace DocExamples

/-- Changes the case of a suite and no other node. -/
def NodeKind.mapCase (f : TestCase → TestCase) : NodeKind → NodeKind
  | suite c => suite (f c)
  | kind => kind

namespace TestTree

variable {t : TestTree} {a c k m n p q s : NodeId} {id key name : String} {kind : NodeKind}

/-- What a node holds. -/
def kind? (t : TestTree) (n : NodeId) : Option NodeKind := (t.node? n).map (·.kind)

theorem case?_eq (t : TestTree) (n : NodeId) : t.case? n = (t.kind? n).bind (·.case?) := by
  unfold case? kind?
  cases t.node? n <;> rfl

theorem isSome_case?_iff : (t.case? n).isSome = true ↔ ∃ c, t.kind? n = some (.suite c) := by
  rw [case?_eq]
  cases t.kind? n with
  | none => simp
  | some kind => cases kind <;> simp [NodeKind.case?]

theorem leafTarget?_eq_some_iff :
    t.leafTarget? n = some (s, id) ↔ t.kind? n = some (.leaf s id) := by
  unfold leafTarget? kind?
  cases t.node? n with
  | none => simp
  | some node =>
      obtain ⟨_, _, kind, _, _⟩ := node
      cases kind <;> simp

theorem lt_size_of_kind? (h : t.kind? n = some kind) : n < t.nodes.size := by
  obtain ⟨node, hn, -⟩ := Option.map_eq_some_iff.1 h
  exact (Array.getElem?_eq_some_iff.1 hn).1

theorem lt_size_of_parent? (h : t.parent? n = some p) : n < t.nodes.size := by
  obtain ⟨node, hn, -⟩ := Option.bind_eq_some_iff.1 h
  exact (Array.getElem?_eq_some_iff.1 hn).1

theorem node?_size (t : TestTree) : t.node? t.nodes.size = none := Array.getElem?_size

/-! ### What the changes of a tree do to the nodes -/

/-- A new node has no parent, and the parents of the others stay. -/
theorem parent?_push (t : TestTree) (key name : String) (kind : NodeKind) (k : NodeId) :
    (t.push key name kind).2.parent? k = t.parent? k := by
  unfold parent?
  rw [node?_push]
  split_ifs with h
  · rw [h, node?_size]
    rfl
  · rfl

theorem children_push (t : TestTree) (key name : String) (kind : NodeKind) (k : NodeId) :
    (t.push key name kind).2.children k = t.children k := by
  unfold children
  rw [node?_push]
  split_ifs with h
  · rw [h, node?_size]
    rfl
  · rfl

theorem kind?_push (t : TestTree) (key name : String) (kind : NodeKind) (k : NodeId) :
    (t.push key name kind).2.kind? k = if k = t.nodes.size then some kind else t.kind? k := by
  unfold kind?
  rw [node?_push]
  split_ifs <;> rfl

section Modify

variable {f : TreeNode → TreeNode}

theorem size_modify (t : TestTree) (n : NodeId) (f : TreeNode → TreeNode) :
    (t.modify n f).nodes.size = t.nodes.size := Array.size_modify

theorem kind?_modify (hf : ∀ x, (f x).kind = x.kind) (t : TestTree) (n k : NodeId) :
    (t.modify n f).kind? k = t.kind? k := by
  unfold kind?
  rw [node?_modify]
  split_ifs
  · rw [Option.map_map]
    exact Option.map_congr fun x _ => hf x
  · rfl

theorem parent?_modify (hf : ∀ x, (f x).parent = x.parent) (t : TestTree) (n k : NodeId) :
    (t.modify n f).parent? k = t.parent? k := by
  unfold parent?
  rw [node?_modify]
  split_ifs
  · rw [Option.bind_map]
    exact Option.bind_congr fun x _ => hf x
  · rfl

theorem children_modify (hf : ∀ x, (f x).children = x.children) (t : TestTree) (n k : NodeId) :
    (t.modify n f).children k = t.children k := by
  unfold children
  rw [node?_modify]
  split_ifs
  · rw [Option.map_map]
    exact congrArg (Option.getD · []) (Option.map_congr fun x _ => hf x)
  · rfl

theorem parent?_modify_parent (h : n < t.nodes.size) (p : Option NodeId) (k : NodeId) :
    (t.modify n fun x => { x with parent := p }).parent? k =
      if k = n then p else t.parent? k := by
  unfold parent?
  rw [node?_modify]
  split_ifs with hk
  · rw [hk, node?, Array.getElem?_eq_getElem h]
    rfl
  · rfl

theorem children_modify_children (h : n < t.nodes.size) (g : List NodeId → List NodeId)
    (k : NodeId) :
    (t.modify n fun x => { x with children := g x.children }).children k =
      if k = n then g (t.children n) else t.children k := by
  unfold children
  rw [node?_modify]
  split_ifs with hk
  · rw [hk, node?, Array.getElem?_eq_getElem h]
    rfl
  · rfl

end Modify

theorem parent?_link (hc : c < t.nodes.size) (p k : NodeId) :
    (t.link p c).parent? k = if k = c then some p else t.parent? k := by
  rw [link, parent?_modify, parent?_modify_parent hc]
  exact fun _ => rfl

theorem children_link (hp : p < t.nodes.size) (c k : NodeId) :
    (t.link p c).children k = if k = p then t.children p ++ [c] else t.children k := by
  rw [link, children_modify_children (by rwa [size_modify]) (· ++ [c]), children_modify,
    children_modify]
  all_goals exact fun _ => rfl

theorem kind?_link (t : TestTree) (p c k : NodeId) : (t.link p c).kind? k = t.kind? k := by
  rw [link, kind?_modify, kind?_modify]
  all_goals exact fun _ => rfl

theorem parent?_unlink (hc : c < t.nodes.size) (p k : NodeId) :
    (t.unlink p c).parent? k = if k = c then none else t.parent? k := by
  rw [unlink, parent?_modify_parent (by rwa [size_modify]), parent?_modify]
  exact fun _ => rfl

theorem children_unlink (hp : p < t.nodes.size) (c k : NodeId) :
    (t.unlink p c).children k =
      if k = p then (t.children p).filter (· != c) else t.children k := by
  rw [unlink, children_modify, children_modify_children hp fun l => l.filter (· != c)]
  exact fun _ => rfl

theorem kind?_unlink (t : TestTree) (p c k : NodeId) : (t.unlink p c).kind? k = t.kind? k := by
  rw [unlink, kind?_modify, kind?_modify]
  all_goals exact fun _ => rfl

theorem parent?_modifyCase (t : TestTree) (s : NodeId) (f : TestCase → TestCase) (k : NodeId) :
    (t.modifyCase s f).parent? k = t.parent? k :=
  parent?_modify (fun x => by split <;> rfl) t s k

theorem children_modifyCase (t : TestTree) (s : NodeId) (f : TestCase → TestCase) (k : NodeId) :
    (t.modifyCase s f).children k = t.children k :=
  children_modify (fun x => by split <;> rfl) t s k

theorem kind?_modifyCase (t : TestTree) (s : NodeId) (f : TestCase → TestCase) (k : NodeId) :
    (t.modifyCase s f).kind? k =
      if k = s then (t.kind? s).map (fun kind => kind.mapCase f) else t.kind? k := by
  unfold modifyCase kind?
  rw [node?_modify]
  split_ifs with hk
  · rw [hk, Option.map_map, Option.map_map]
    refine Option.map_congr fun x _ => ?_
    obtain ⟨_, _, kind, _, _⟩ := x
    cases kind <;> rfl
  · rfl

theorem case?_modifyCase (t : TestTree) (s : NodeId) (f : TestCase → TestCase) (k : NodeId) :
    (t.modifyCase s f).case? k = if k = s then (t.case? k).map f else t.case? k := by
  rw [case?_eq, case?_eq, kind?_modifyCase]
  split_ifs with hk
  · subst hk
    cases t.kind? k with
    | none => rfl
    | some kind => cases kind <;> rfl
  · rfl

/-! ### Forests -/

/-- **A tree of tests is a forest.** Parents and lists of children agree, only groups have
children, the root has no parent, following parents ends, and leaves and the index name suites. -/
structure Forest (t : TestTree) : Prop where
  root_kind? : t.kind? root = some .group
  root_parent? : t.parent? root = none
  mem_children_iff : ∀ p c, c ∈ t.children p ↔ t.parent? c = some p
  nodup_children : ∀ p, (t.children p).Nodup
  kind?_parent : ∀ c p, t.parent? c = some p → t.kind? p = some .group
  kind?_leaf : ∀ n s id, t.kind? n = some (.leaf s id) → ∃ c, t.kind? s = some (.suite c)
  kind?_index : ∀ (id : String) (s : NodeId), t.index[id]? = some s →
    ∃ c, t.kind? s = some (.suite c)
  grounded : t.Grounded

theorem forest_empty : empty.Forest where
  root_kind? := rfl
  root_parent? := rfl
  mem_children_iff p c := by
    have hp : empty.children p = [] := by cases p <;> rfl
    have hc : empty.parent? c = none := by cases c <;> rfl
    rw [hp, hc]
    simp
  nodup_children p := by
    have hp : empty.children p = [] := by cases p <;> rfl
    exact hp ▸ List.nodup_nil
  kind?_parent c p h := by cases c <;> cases h
  kind?_leaf n s id h := by cases n <;> cases h
  kind?_index id s h := by simp [empty] at h
  grounded := ⟨fun n => ⟨n, fun p h => by cases n <;> cases h⟩⟩

namespace Forest

variable (ht : t.Forest)
include ht

theorem lt_size_of_parent (h : t.parent? c = some p) : p < t.nodes.size :=
  lt_size_of_kind? (ht.kind?_parent c p h)

theorem ne_root_of_parent? (h : t.parent? c = some p) : c ≠ root := by
  rintro rfl
  rw [ht.root_parent?] at h
  cases h

theorem mem_ancestors_iff : a ∈ t.ancestors n ↔ ∃ p, t.parent? n = some p ∧ t.Below a p :=
  TestTree.mem_ancestors_iff ht.grounded fun _ _ => ht.lt_size_of_parent

theorem isReachable_iff : t.isReachable n = true ↔ t.Below root n :=
  TestTree.isReachable_iff ht.grounded fun _ _ => ht.lt_size_of_parent

/-- A new node without links, whose suite exists if it is a leaf, keeps the forest. -/
theorem push (hk : ∀ s id, kind = .leaf s id → ∃ c, t.kind? s = some (.suite c)) :
    (t.push key name kind).2.Forest := by
  have old : ∀ {s c}, t.kind? s = some c → (t.push key name kind).2.kind? s = some c := by
    intro s c h
    rw [kind?_push, if_neg (Nat.ne_of_lt (lt_size_of_kind? h)), h]
  have hold : ∀ {s}, (∃ c, t.kind? s = some (.suite c)) →
      ∃ c, (t.push key name kind).2.kind? s = some (.suite c) := fun ⟨c, h⟩ => ⟨c, old h⟩
  refine ⟨old ht.root_kind?, ?_, ?_, ?_, ?_, ?_, fun id s h => hold (ht.kind?_index id s h), ?_⟩
  · rw [parent?_push]
    exact ht.root_parent?
  · intro p c
    rw [children_push, parent?_push]
    exact ht.mem_children_iff p c
  · intro p
    rw [children_push]
    exact ht.nodup_children p
  · intro c p h
    rw [parent?_push] at h
    exact old (ht.kind?_parent c p h)
  · intro n s id h
    rw [kind?_push] at h
    split_ifs at h
    · exact hold (hk s id (Option.some.inj h))
    · exact hold (ht.kind?_leaf n s id h)
  · exact ht.grounded.of_imp fun m q h => by rwa [parent?_push] at h

/-- Another index of suites keeps the forest. -/
theorem setIndex {index : Std.ExtTreeMap String NodeId}
    (hi : ∀ (id : String) (s : NodeId), index[id]? = some s → ∃ c, t.kind? s = some (.suite c)) :
    ({ t with index } : TestTree).Forest :=
  { ht with kind?_index := hi }

/-- A link to a node without a parent that is not above the group keeps the forest. -/
theorem link (hp : t.kind? p = some .group) (hc : c < t.nodes.size) (hn : t.parent? c = none)
    (hr : c ≠ root) (hb : ¬ t.Below c p) : (t.link p c).Forest := by
  have hps := lt_size_of_kind? hp
  have hmem : c ∉ t.children p := by
    rw [ht.mem_children_iff, hn]
    simp
  refine ⟨?_, ?_, fun q d => ?_, fun q => ?_, fun d q h => ?_, fun n s id h => ?_,
    fun id s h => ?_, ?_⟩
  · rw [kind?_link]
    exact ht.root_kind?
  · rw [parent?_link hc, if_neg hr.symm]
    exact ht.root_parent?
  · rw [children_link hps, parent?_link hc]
    split_ifs with hq hd hd
    · simp [hq, hd]
    · rw [List.mem_append, List.mem_singleton, or_iff_left hd, hq, ht.mem_children_iff]
    · rw [ht.mem_children_iff, hd, hn]
      simp [Ne.symm hq]
    · exact ht.mem_children_iff q d
  · rw [children_link hps]
    split_ifs
    · refine List.nodup_append.2 ⟨ht.nodup_children p, List.pairwise_singleton _ c, ?_⟩
      rintro x hx y hy rfl
      exact hmem (List.mem_singleton.1 hy ▸ hx)
    · exact ht.nodup_children q
  · rw [kind?_link]
    rw [parent?_link hc] at h
    split_ifs at h
    · exact Option.some.inj h ▸ hp
    · exact ht.kind?_parent d q h
  · simp only [kind?_link] at h ⊢
    exact ht.kind?_leaf n s id h
  · simp only [kind?_link]
    exact ht.kind?_index id s h
  · exact ht.grounded.graft hb (parent?_link hc p)

/-- Taking a link away keeps the forest. -/
theorem unlink (h : t.parent? c = some p) : (t.unlink p c).Forest := by
  have hc := lt_size_of_parent? h
  have hp := ht.lt_size_of_parent h
  have hr := ht.ne_root_of_parent? h
  refine ⟨?_, ?_, fun q d => ?_, fun q => ?_, fun d q h => ?_, fun n s id h => ?_,
    fun id s h => ?_, ht.grounded.of_imp fun m q h => ?_⟩
  · rw [kind?_unlink]
    exact ht.root_kind?
  · rw [parent?_unlink hc, if_neg hr.symm]
    exact ht.root_parent?
  · rw [children_unlink hp, parent?_unlink hc]
    split_ifs with hq hd hd
    · simp [hd]
    · rw [List.mem_filter, hq, ht.mem_children_iff]
      simp [hd]
    · rw [ht.mem_children_iff, hd, h]
      simp [Ne.symm hq]
    · exact ht.mem_children_iff q d
  · rw [children_unlink hp]
    split_ifs
    · exact (ht.nodup_children p).filter _
    · exact ht.nodup_children q
  · rw [kind?_unlink]
    rw [parent?_unlink hc] at h
    split_ifs at h
    exact ht.kind?_parent d q h
  · simp only [kind?_unlink] at h ⊢
    exact ht.kind?_leaf n s id h
  · simp only [kind?_unlink]
    exact ht.kind?_index id s h
  · rw [parent?_unlink hc] at h
    split_ifs at h
    exact h

/-- Changing the case of a suite keeps the forest. -/
theorem modifyCase (s : NodeId) (f : TestCase → TestCase) : (t.modifyCase s f).Forest := by
  have hsuite : ∀ {k}, (∃ c, t.kind? k = some (.suite c)) →
      ∃ c, (t.modifyCase s f).kind? k = some (.suite c) := by
    rintro k ⟨c, h⟩
    rw [kind?_modifyCase]
    split_ifs with hk
    · exact ⟨f c, by rw [← hk, h]; rfl⟩
    · exact ⟨c, h⟩
  have hgroup : ∀ {k}, t.kind? k = some .group → (t.modifyCase s f).kind? k = some .group := by
    intro k h
    rw [kind?_modifyCase]
    split_ifs with hk
    · rw [← hk, h]
      rfl
    · exact h
  refine ⟨hgroup ht.root_kind?, ?_, fun q d => ?_, fun q => ?_, fun d q h => ?_,
    fun n k id h => ?_, fun id k h => hsuite (ht.kind?_index id k h),
    ht.grounded.of_imp fun m q h => ?_⟩
  · rw [parent?_modifyCase]
    exact ht.root_parent?
  · rw [children_modifyCase, parent?_modifyCase]
    exact ht.mem_children_iff q d
  · rw [children_modifyCase]
    exact ht.nodup_children q
  · rw [parent?_modifyCase] at h
    exact hgroup (ht.kind?_parent d q h)
  · rw [kind?_modifyCase] at h
    refine hsuite (ht.kind?_leaf n k id ?_)
    split_ifs at h with hn
    · obtain ⟨kind, hkind, he⟩ := Option.map_eq_some_iff.1 h
      cases kind with
      | leaf => rw [hn, hkind]; exact congrArg some he
      | group | suite => cases he
    · exact h
  · rwa [parent?_modifyCase] at h

end Forest
end TestTree
end DocExamples
