/-
# Which links are legal

A node may be attached to a group if the node is known, is not the root, has no parent and is not
above the group, and if the tests it brings below the root have ids that are new there
(`Attachable`). This is what `addChild` accepts, and all it accepts (`addChild_eq_ok_iff`); a link
is taken away if and only if it is there. A refused operation leaves no trace, and one that is
accepted changes two nodes, each in one field, and the entries that the tests below the child have
in the index.
-/

import DocExamples.Proofs.Tree.Index
import DocExamples.Proofs.Tree.Build

namespace DocExamples
namespace TestTree

variable {t : TestTree} {c k p s : NodeId} {id : String}

/-- **The tests below `n` may be listed**: no two of them have one id, wherever they are, and none
has an id that is listed already. -/
structure Fresh (t : TestTree) (n : NodeId) : Prop where
  place_eq : ∀ (q r : NodeId × ℕ) (id : String), t.Below n q.1 → t.Below n r.1 →
    (t.ids q.1)[q.2]? = some id → (t.ids r.1)[r.2]? = some id → q = r
  notMem_index : ∀ s, t.Below n s → ∀ id ∈ t.ids s, id ∉ t.index

/-- **The child may be attached to the parent.** -/
structure Attachable (t : TestTree) (parent child : NodeId) : Prop where
  kind? : t.kind? parent = some .group
  known : child < t.nodes.size
  ne_root : child ≠ root
  parent? : t.parent? child = none
  not_below : ¬ t.Below child parent
  fresh : t.Below root parent → t.Fresh child

/-- Node `k` with another parent, if it is `c`, and with other children, if it is `p`. -/
def relinked (t : TestTree) (c : NodeId) (parent : Option NodeId) (p : NodeId)
    (children : List NodeId) (k : NodeId) : Option TreeNode :=
  (t.node? k).map fun node =>
    { node with
      parent := if k = c then parent else node.parent
      children := if k = p then children else node.children }

/-! ### What is accepted -/

namespace Forest

variable (ht : t.Forest)
include ht

/-- The tests below a node may be listed if the list of their ids has nothing twice and nothing that
is listed already. -/
theorem fresh_iff (hc : c < t.nodes.size) : t.Fresh c ↔
    ((t.suites c).flatMap t.ids).Nodup ∧ ∀ id ∈ (t.suites c).flatMap t.ids, id ∉ t.index := by
  have hbelow : ∀ {s}, s ∈ t.suites c → t.Below c s := fun hs => (ht.mem_suites_iff.1 hs).1.2
  constructor
  · intro hfresh
    refine ⟨List.nodup_flatMap.2 ⟨?_, ?_⟩, ?_⟩
    · intro s hs
      refine List.nodup_iff_getElem?_ne_getElem?.2 fun i j hij hj heq => ?_
      have hid := List.getElem?_eq_getElem hj
      have hplace := hfresh.place_eq (s, i) (s, j) _ (hbelow hs) (hbelow hs) (heq.trans hid) hid
      exact Nat.ne_of_lt hij (congrArg Prod.snd hplace)
    · refine (ht.nodup_suites c).imp_of_mem fun {s k} hs hk hne id hid hid' => ?_
      obtain ⟨i, hi⟩ := List.mem_iff_getElem?.1 hid
      obtain ⟨j, hj⟩ := List.mem_iff_getElem?.1 hid'
      have hplace := hfresh.place_eq (s, i) (k, j) id (hbelow hs) (hbelow hk) hi hj
      exact hne (congrArg Prod.fst hplace)
    · intro id hid
      obtain ⟨s, hs, hid⟩ := List.mem_flatMap.1 hid
      exact hfresh.notMem_index s (hbelow hs) id hid
  · rintro ⟨hnd, hnew⟩
    constructor
    · rintro ⟨s, i⟩ ⟨k, j⟩ id hs hk hi hj
      obtain rfl : s = k := ht.suite_eq_of_nodup_flatMap hc hnd hs hk
        (List.mem_of_getElem? hi) (List.mem_of_getElem? hj)
      have hlt : i < (t.ids s).length := (List.getElem?_eq_some_iff.1 hi).1
      have hids : (t.ids s).Nodup := ht.nodup_ids_of_nodup_flatMap hc hnd hs
      have hij : i = j := (List.getElem?_inj hlt hids).1 (hi.trans hj.symm)
      rw [hij]
    · intro s hs id hid
      exact hnew id (List.mem_flatMap.2 ⟨s, ht.mem_suites_of_mem_ids hc hs hid, hid⟩)

/-- The tests of a node are listed, where they have to be, if they may be. -/
theorem exists_listed_iff (hc : c < t.nodes.size) :
    (∃ r, t.listed p c = .ok r) ↔ (t.Below root p → t.Fresh c) := by
  rw [TestTree.listed, ht.fresh_iff hc, ← ht.isReachable_iff, ← map_fst_owned]
  cases t.isReachable p with
  | false => simp
  | true =>
      simp only [if_true, register_eq_ok_iff, true_imp_iff]
      constructor
      · rintro ⟨_, hnd, hnew, -⟩
        exact ⟨hnd, hnew⟩
      · rintro ⟨hnd, hnew⟩
        exact ⟨_, hnd, hnew, rfl⟩

/-- **A link is made** if and only if it may be made. -/
theorem addChild_eq_ok_iff : (t.addChild p c).1 = .ok () ↔ t.Attachable p c := by
  constructor
  · intro h
    obtain ⟨e, he⟩ | ⟨hcheck, r, hr, -⟩ := t.addChild_cases p c
    · rw [he] at h
      cases h
    · obtain ⟨hp, hc, hn, hroot, habove⟩ := ht.checkLink_eq_ok_iff.1 hcheck
      exact ⟨hp, hc, hroot, hn, habove, (ht.exists_listed_iff hc).1 ⟨r, hr⟩⟩
  · rintro ⟨hp, hc, hroot, hn, habove, hfresh⟩
    have hcheck : t.checkLink p c = .ok () := ht.checkLink_eq_ok_iff.2 ⟨hp, hc, hn, hroot, habove⟩
    obtain ⟨r, hr⟩ := (ht.exists_listed_iff hc).2 hfresh
    rw [TestTree.addChild, hcheck]
    unfold TestTree.listed at hr
    simp only [hr]

end Forest

/-- **A link is taken away** if and only if it is there. -/
theorem removeChild_eq_ok_iff : (t.removeChild p c).1 = .ok () ↔ t.parent? c = some p := by
  constructor
  · intro h
    obtain ⟨e, he⟩ | ⟨hp, -⟩ := t.removeChild_cases p c
    · rw [he] at h
      cases h
    · exact hp
  · intro hp
    obtain ⟨node, hnode, hparent⟩ := Option.bind_eq_some_iff.1 hp
    simp [TestTree.removeChild, hnode, hparent]

/-! ### What changes -/

theorem relinked_parent (hpc : p ≠ c) (t : TestTree) (parent : Option NodeId)
    (children : List NodeId) :
    t.relinked c parent p children p = (t.node? p).map fun node => { node with children } := by
  simp [relinked, hpc]

theorem relinked_child (hpc : p ≠ c) (t : TestTree) (parent : Option NodeId)
    (children : List NodeId) :
    t.relinked c parent p children c = (t.node? c).map fun node => { node with parent } := by
  simp [relinked, hpc.symm]

theorem relinked_of_ne (hc : k ≠ c) (hp : k ≠ p) (t : TestTree) (parent : Option NodeId)
    (children : List NodeId) : t.relinked c parent p children k = t.node? k := by
  simp [relinked, hc, hp]

/-- Changing the children of a node is setting them. -/
theorem map_children (t : TestTree) (p : NodeId) (f : List NodeId → List NodeId) :
    ((t.node? p).map fun node => { node with children := f node.children }) =
      (t.node? p).map fun node => { node with children := f (t.children p) } := by
  cases h : t.node? p with
  | none => rfl
  | some node => rw [children_eq h]; rfl

/-- What a new link sets. -/
theorem node?_link_eq (hpc : p ≠ c) (t : TestTree) (k : NodeId) :
    (t.link p c).node? k = t.relinked c (some p) p (t.children p ++ [c]) k := by
  rw [node?_link hpc]
  split_ifs with hp hc
  · rw [hp, relinked_parent hpc, ← t.map_children p (· ++ [c])]
  · rw [hc, relinked_child hpc]
  · rw [relinked_of_ne hc hp]

/-- What is set when a link is taken away. -/
theorem node?_unlink_eq (hpc : p ≠ c) (t : TestTree) (k : NodeId) :
    (t.unlink p c).node? k = t.relinked c none p ((t.children p).filter (· != c)) k := by
  rw [unlink, node?_modify, node?_modify]
  split_ifs with hc hp hp
  · exact absurd (hp.symm.trans hc) hpc
  · rw [hc, relinked_child hpc]
  · rw [hp, relinked_parent hpc, ← t.map_children p (List.filter (· != c))]
  · rw [relinked_of_ne hc hp]

namespace Forest

variable (ht : t.Forest)
include ht

/-- **What a link changes**: the parent of the child, the children of the parent, and the entries
that the tests below the child get if the link leads to the root. -/
theorem addChild_effect (h : t.Attachable p c) :
    let u := (t.addChild p c).2
    (∀ k, u.node? k = t.relinked c (some p) p (t.children p ++ [c]) k) ∧
      ∀ (id : String) (s : NodeId), u.index[id]? = some s ↔
        t.index[id]? = some s ∨ t.Below root p ∧ t.Below c s ∧ id ∈ t.ids s := by
  intro u
  have hpc : p ≠ c := fun hpc => h.not_below (hpc ▸ below_refl t p)
  obtain ⟨e, he⟩ | ⟨-, r, hr, hu⟩ := t.addChild_cases p c
  · have hok := ht.addChild_eq_ok_iff.2 h
    rw [he] at hok
    cases hok
  have hru : u = r.link p c := congrArg Prod.snd hu
  have hindex : u.index = r.index := by rw [hru]; rfl
  refine ⟨fun k => ?_, fun id s => ?_⟩
  · obtain ⟨nodes, index⟩ := r
    obtain rfl : nodes = t.nodes := (ht.listed hr).2
    rw [hru]
    exact node?_link_eq hpc _ k
  · rw [hindex]
    exact ht.getElem?_listed_iff h.known hr

/-- **What taking a link away changes**: the same again. The other children keep their order. -/
theorem removeChild_effect (h : t.parent? c = some p) :
    let u := (t.removeChild p c).2
    (∃ l l', t.children p = l ++ c :: l' ∧ ∀ k, u.node? k = t.relinked c none p (l ++ l') k) ∧
      ∀ (id : String) (s : NodeId), u.index[id]? = some s ↔
        t.index[id]? = some s ∧ ¬ (t.Below root p ∧ t.Below c s) := by
  intro u
  have hpc : p ≠ c := by
    rintro rfl
    exact ht.grounded.not_below h (below_refl t p)
  obtain ⟨e, he⟩ | ⟨-, hu⟩ := t.removeChild_cases p c
  · have hok := removeChild_eq_ok_iff.2 h
    rw [he] at hok
    cases hok
  have hu' : u = (if t.isReachable p then t.deregister c else t).unlink p c := congrArg Prod.snd hu
  refine ⟨?_, fun id s => ?_⟩
  · obtain ⟨l, l', hl⟩ := List.append_of_mem ((ht.mem_children_iff p c).2 h)
    refine ⟨l, l', hl, fun k => ?_⟩
    have hnd : (l ++ c :: l').Nodup := hl ▸ ht.nodup_children p
    have hrest : (t.children p).filter (· != c) = l ++ l' := by
      have hnot : c ∉ l := fun hc => (List.nodup_append.1 hnd).2.2 c hc c List.mem_cons_self rfl
      rw [hl, ← hnd.erase_eq_filter, List.erase_append_right _ hnot, List.erase_cons_head]
    have hnode : u.node? k = (t.unlink p c).node? k := by
      rw [hu']
      split_ifs <;> rfl
    rw [hnode, node?_unlink_eq hpc, hrest]
  · have hindex : u.index = (if t.isReachable p then t.deregister c else t).index := by
      rw [hu']
      rfl
    rw [hindex]
    split_ifs with hp
    · rw [ht.getElem?_deregister_iff (lt_size_of_parent? h),
        and_iff_right (ht.isReachable_iff.1 hp)]
    · exact (and_iff_left fun hb => hp (ht.isReachable_iff.2 hb.1)).symm

end Forest

/-- **Linking in every tree that operations make.** A link is made or taken away if and only if it
is legal; what is refused changes nothing, and what is accepted changes only the parent of the
child, the list of children of its parent, where the child is added last or taken out from between
the others, and the entries of the tests below the child. -/
theorem linking_perform (ops : List TreeOp) (p c : NodeId) :
    let t := empty.perform ops
    ((t.addChild p c).1 = .ok () ↔ t.Attachable p c) ∧
      ((t.removeChild p c).1 = .ok () ↔ c < t.nodes.size ∧ t.parent? c = some p) ∧
      (∀ e, (t.addChild p c).1 = .error e → (t.addChild p c).2 = t) ∧
      (∀ e, (t.removeChild p c).1 = .error e → (t.removeChild p c).2 = t) ∧
      (∀ id e, (t.createLeaf p id).1 = .error e → (t.createLeaf p id).2 = t) ∧
      (t.Attachable p c →
        let u := (t.addChild p c).2
        (∀ k, u.node? k = t.relinked c (some p) p (t.children p ++ [c]) k) ∧
          ∀ (id : String) (s : NodeId), u.index[id]? = some s ↔
            t.index[id]? = some s ∨ t.Below root p ∧ t.Below c s ∧ id ∈ t.ids s) ∧
      (t.parent? c = some p →
        let u := (t.removeChild p c).2
        (∃ l l', t.children p = l ++ c :: l' ∧
          ∀ k, u.node? k = t.relinked c none p (l ++ l') k) ∧
          ∀ (id : String) (s : NodeId), u.index[id]? = some s ↔
            t.index[id]? = some s ∧ ¬ (t.Below root p ∧ t.Below c s)) := by
  intro t
  have ht : t.Forest := forest_perform ops
  refine ⟨ht.addChild_eq_ok_iff, ?_, ?_, ?_, ?_, ht.addChild_effect, ht.removeChild_effect⟩
  · rw [removeChild_eq_ok_iff]
    exact (and_iff_right_of_imp lt_size_of_parent?).symm
  · intro e he
    obtain ⟨e', h⟩ | ⟨-, r, -, h⟩ := t.addChild_cases p c
    · rw [h]
    · rw [h] at he
      cases he
  · intro e he
    obtain ⟨e', h⟩ | ⟨-, h⟩ := t.removeChild_cases p c
    · rw [h]
    · rw [h] at he
      cases he
  · intro id e he
    obtain ⟨e', h⟩ | ⟨x, y, -, -, h⟩ := t.createLeaf_cases p id
    · rw [h]
    · rw [h] at he
      cases he

end TestTree
end DocExamples
