/-
# Trees before their tests ran

Running tests, resetting them and changing their status leaves the tree as it is apart from the
statuses and results. So it leaves the pristine tree, in which all tests are as before they ran
(`pristine_change`, `pristine_reset`, `pristine_changeTest`). Trees with one pristine tree have the
same nodes, the same leaves and targets, and suites with the same ids.
-/

import DocExamples.Proofs.Test.Operation
import DocExamples.Proofs.Tree.Index
import DocExamples.Proofs.Tree.Places
import DocExamples.Proofs.Tree.Targets

namespace DocExamples
namespace TestTree

variable {t u : TestTree} {f : NodeId → Test → Test} {h : Test → Test}

/-! ### What a change of tests leaves -/

section MapTests

variable (t : TestTree) (f : NodeId → Test → Test)

theorem visit_mapTests (k : ℕ) (stack : List NodeId) :
    (t.mapTests f).visit k stack = t.visit k stack := by
  induction k generalizing stack with
  | zero => rfl
  | succ k ih =>
      cases stack with
      | nil => rfl
      | cons n stack =>
          rw [visit, visit, node?_mapTests]
          cases t.node? n with
          | none => exact ih stack
          | some node => exact congrArg (n :: ·) (ih _)

theorem preorder_mapTests (n : NodeId) : (t.mapTests f).preorder n = t.preorder n := by
  have hsize : (t.mapTests f).nodes.size = t.nodes.size := Array.size_mapIdx
  rw [preorder, preorder, visit_mapTests, hsize]

/-- Nodes of a kind are found where they were, if the kind does not depend on the tests. -/
theorem below_mapTests {p : NodeKind → Bool} (hp : ∀ kind g, p (kind.mapCase g) = p kind)
    (n : NodeId) : (t.mapTests f).below n p = t.below n p := by
  rw [below, below, preorder_mapTests]
  refine List.filter_congr fun m _ => ?_
  rw [node?_mapTests]
  cases t.node? m with
  | none => rfl
  | some node => exact hp node.kind _

theorem leaves_mapTests (n : NodeId) : (t.mapTests f).leaves n = t.leaves n :=
  below_mapTests t f (fun kind _ => by cases kind <;> rfl) n

theorem suites_mapTests (n : NodeId) : (t.mapTests f).suites n = t.suites n :=
  below_mapTests t f (fun kind _ => by cases kind <;> rfl) n

theorem targets_mapTests (n : NodeId) : (t.mapTests f).targets n = t.targets n := by
  rw [targets, targets, leaves_mapTests]
  simp only [leafTarget?_mapTests]

theorem ids_mapTests (hf : ∀ s x, (f s x).id = x.id) (s : NodeId) :
    (t.mapTests f).ids s = t.ids s := by
  rw [ids, ids, case?_mapTests]
  cases t.case? s with
  | none => rfl
  | some c => simp [Function.comp_def, hf]

theorem tests_mapTests (h : Test → Test) : (t.mapTests fun _ => h).tests = t.tests.map h := by
  rw [tests, tests, suites_mapTests, List.map_flatMap]
  refine List.flatMap_congr fun s _ => ?_
  rw [case?_mapTests]
  cases t.case? s <;> rfl

end MapTests

/-! ### Pristine trees -/

/-- The tree with every test as before it ran. -/
def pristine (t : TestTree) : TestTree := t.mapTests fun _ => Test.reset

/-- A change of statuses and results leaves the pristine tree. -/
theorem pristine_mapTests (hf : ∀ s x, (f s x).reset = x.reset) (t : TestTree) :
    (t.mapTests f).pristine = t.pristine := by
  rw [pristine, mapTests_mapTests]
  exact congrArg t.mapTests (funext₂ hf)

theorem pristine_pristine (t : TestTree) : t.pristine.pristine = t.pristine :=
  pristine_mapTests (f := fun _ => Test.reset) (fun _ _ => rfl) t

theorem pristine_change (hh : ∀ x, (h x).reset = x.reset) (t : TestTree) (ts : List TestTarget) :
    (t.change ts h).pristine = t.pristine :=
  pristine_mapTests (fun s x => by split_ifs <;> simp [hh]) t

/-- An edit of a case that leaves its tests apart from statuses and results leaves the pristine
tree. -/
theorem pristine_modifyCase {k : TestCase → TestCase} {s : NodeId}
    (hk : ∀ c, t.case? s = some c → (k c).reset = c.reset) :
    (t.modifyCase s k).pristine = t.pristine := by
  refine ext_node? (fun n => ?_) rfl
  rw [pristine, pristine, node?_mapTests, node?_mapTests, modifyCase, node?_modify]
  split_ifs with hn
  · rw [Option.map_map]
    refine Option.map_congr fun node hnode => ?_
    have hcase : t.case? s = node.kind.case? := by
      rw [case?, ← hn, hnode]
      rfl
    obtain ⟨key, name, kind, parent, children⟩ := node
    cases kind with
    | suite c =>
        exact congrArg (fun c : TestCase =>
          ({ key, name, kind := .suite c, parent, children } : TreeNode)) (hk c hcase)
    | group | leaf => rfl
  · rfl

theorem targets_pristine (t : TestTree) (n : NodeId) : t.pristine.targets n = t.targets n :=
  targets_mapTests t _ n

theorem ids_pristine (t : TestTree) (s : NodeId) : t.pristine.ids s = t.ids s :=
  ids_mapTests t (fun _ => Test.reset) (fun _ _ => rfl) s

theorem ids_of_pristine_eq (h : u.pristine = t.pristine) (s : NodeId) : u.ids s = t.ids s := by
  rw [← ids_pristine, h, ids_pristine]

theorem targets_of_pristine_eq (h : u.pristine = t.pristine) (n : NodeId) :
    u.targets n = t.targets n := by
  rw [← targets_pristine, h, targets_pristine]

theorem testAt?_pristine (t : TestTree) (p : NodeId × ℕ) :
    t.pristine.testAt? p = (t.testAt? p).map Test.reset := by
  rw [testAt?, testAt?, pristine, case?_mapTests]
  cases t.case? p.1 with
  | none => rfl
  | some c => exact List.getElem?_map

/-- Nodes of one kind apart from statuses and results are of one kind after every test has been
changed, if the change makes one test of the two at each position. -/
theorem mapCase_eq_of_reset_eq {kind kind' : NodeKind} {g : Test → Test}
    (hk : kind.mapCase TestCase.reset = kind'.mapCase TestCase.reset)
    (hg : ∀ i : ℕ, (kind.case?.bind (·.tests[i]?)).map g = (kind'.case?.bind (·.tests[i]?)).map g) :
    (kind.mapCase fun c => { c with tests := c.tests.map g }) =
      kind'.mapCase fun c => { c with tests := c.tests.map g } := by
  match kind, kind' with
  | .suite c, .suite d =>
      have htests : c.tests.map g = d.tests.map g := by
        refine List.ext_getElem? fun i => ?_
        rw [List.getElem?_map, List.getElem?_map]
        exact hg i
      obtain ⟨id, name, description, tests⟩ := c
      obtain ⟨id', name', description', tests'⟩ := d
      obtain ⟨rfl, rfl, rfl, -⟩ := TestCase.mk.inj (NodeKind.suite.inj hk)
      exact congrArg NodeKind.suite (congrArg (TestCase.mk _ _ _) htests)
  | .group, .group => rfl
  | .leaf _ _, .leaf _ _ => exact hk
  | .suite _, .group | .suite _, .leaf _ _ | .group, .suite _ | .leaf _ _, .suite _ => cases hk
  | .group, .leaf _ _ | .leaf _ _, .group => cases hk

/-- Changing every test makes one tree of two that have one pristine tree, if it makes one test of
the two at each place. -/
theorem mapTests_eq_of_pristine_eq (hut : u.pristine = t.pristine)
    (hh : ∀ p, (u.testAt? p).map h = (t.testAt? p).map h) :
    u.mapTests (fun _ => h) = t.mapTests fun _ => h := by
  refine ext_node? (fun s => ?_) (congrArg (fun v : TestTree => v.index) hut :)
  have hnode : u.pristine.node? s = t.pristine.node? s := by rw [hut]
  have htests : ∀ i : ℕ, ((u.case? s).bind (·.tests[i]?)).map h =
      ((t.case? s).bind (·.tests[i]?)).map h := fun i => hh (s, i)
  unfold case? at htests
  rw [pristine, pristine, node?_mapTests, node?_mapTests] at hnode
  rw [node?_mapTests, node?_mapTests]
  generalize u.node? s = n at hnode htests ⊢
  generalize t.node? s = m at hnode htests ⊢
  match n, m with
  | none, none => rfl
  | none, some _ | some _, none => cases hnode
  | some ⟨key, name, kind, parent, children⟩, some ⟨key', name', kind', parent', children'⟩ =>
      obtain ⟨rfl, rfl, hkind, rfl, rfl⟩ := TreeNode.mk.inj (Option.some.inj hnode)
      exact congrArg (fun kind => some (TreeNode.mk key name kind parent children))
        (mapCase_eq_of_reset_eq hkind htests)

theorem reset_apply (op : TestOp) (x : Test) : (op.apply x).reset = x.reset := by
  obtain ⟨_, _, h⟩ := op.apply_eq x
  rw [h]
  rfl

/-- A change of one test that leaves it apart from its status and result leaves the pristine
tree. -/
theorem pristine_changeAt {p : NodeId × ℕ} {f : Test → Test}
    (hf : ∀ x, t.testAt? p = some x → (f x).reset = x.reset) :
    (t.changeAt p f).pristine = t.pristine := by
  refine pristine_modifyCase fun c hc => ?_
  refine congrArg (fun tests => { c with tests }) (List.ext_getElem? fun j => ?_)
  rw [TestCase.modify, List.getElem?_map, List.getElem?_map, List.getElem?_modify]
  cases hx : c.tests[j]? with
  | none => rfl
  | some x =>
      by_cases h : p.2 = j
      · simp [h, hf x (testAt?_eq_some_iff.2 ⟨c, hc, h ▸ hx⟩)]
      · simp [h]

theorem pristine_changeTest (t : TestTree) (s : NodeId) (i : ℕ) (op : TestOp) :
    (t.modifyCase s (·.modify i op.apply)).pristine = t.pristine :=
  pristine_changeAt (p := (s, i)) fun x _ => reset_apply op x

theorem pristine_reset (t : TestTree) : t.reset.pristine = t.pristine := by
  have hreset : ∀ c : TestCase, c.reset.reset = c.reset := fun c => by
    simp [TestCase.reset, Function.comp_def, Test.reset]
  exact List.foldlRecOn (motive := fun u : TestTree => u.pristine = t.pristine) _ _ rfl
    fun _ hu _ _ => (pristine_modifyCase fun c _ => hreset c).trans hu

end TestTree
end DocExamples
