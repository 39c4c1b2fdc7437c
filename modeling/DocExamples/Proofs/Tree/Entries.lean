/-
# Editing suites below the root

The index is kept up when nodes are attached and detached. Editing the case of a suite below the
root leaves it as it is, so it goes on listing the ids that the suite brought there (`entries`),
whatever becomes of its tests. Along any sequence of operations the index has exactly these entries
(`Lists.perform`). So the tests below the root have distinct ids, are counted and are found by their
ids just as long as every suite there has the ids that it came with (`registered_perform`).
-/

import DocExamples.Proofs.Tree.Change
import DocExamples.Proofs.Tree.Index
import Mathlib.Data.List.Perm.Subperm

namespace DocExamples
namespace TestTree

variable {t : TestTree} {s s' : NodeId} {id : String} {x : Test} {m : NodeId → List String}

/-! ### What the index lists -/

/-- What is listed after a sequence of operations. -/
def entries (t : TestTree) (m : NodeId → List String) : List TreeOp → NodeId → List String
  | [] => m
  | op :: ops => entries (t.apply op) (t.entry m) ops

namespace Lists

/-- A test is found by its id in the suite that the index has for it. -/
theorem test?_eq_some_iff (hl : t.Lists m) : t.test? id = some x ↔
    ∃ s, t.Below root s ∧ id ∈ m s ∧ t.testIn? (s, id) = some x := by
  rw [test?, target?, Option.bind_map, Option.bind_eq_some_iff]
  refine exists_congr fun s => ?_
  rw [hl.getElem?_iff, and_assoc]
  rfl

variable (ht : t.Forest) (hl : t.Lists m)
include ht hl

/-- What is listed for what is below the root stays. -/
theorem entry : t.Lists (t.entry m) := hl.congr fun _ hs => ht.entry_of_below hs

/-- Nothing is listed for the root. -/
theorem entry_root : t.entry m root = [] := by
  rw [ht.entry_of_below .refl]
  refine List.eq_nil_iff_forall_not_mem.2 fun id hid => ?_
  obtain ⟨c, hc⟩ := hl.isSuite ht .refl hid
  rw [ht.root_kind?] at hc
  cases hc

/-- **Every operation** lists the ids of the suites that it brings below the root, and leaves what
is listed for those that stay there. -/
theorem apply (op : TreeOp) : (t.apply op).Lists (t.entry m) := by
  have hsame := hl.entry ht
  cases op with
  | createGroup key name => exact hsame.of_eq (parent?_push t _ _ _) rfl
  | createSuite name c => exact hsame.of_eq (parent?_push t _ _ _) rfl
  | createLeaf s id =>
      obtain ⟨e, h⟩ | ⟨c, x, -, -, h⟩ := t.createLeaf_cases s id
      · rw [TestTree.apply, h]
        exact hsame
      · rw [TestTree.apply, h]
        exact hsame.of_eq (parent?_push t _ _ _) rfl
  | addChild p c => exact ht.lists_addChild hl p c
  | removeChild p c => exact ht.lists_removeChild hsame p c
  | clear =>
      refine (indexed_iff_lists.1 indexed_empty).congr fun s hs => ?_
      have hroot : s = root := hs.eq_of_parent?_eq_none (by cases s <;> rfl)
      rw [hroot, hl.entry_root ht]
      rfl
  | reset =>
      exact List.foldlRecOn (motive := fun u : TestTree => u.Lists (t.entry m)) _ _ hsame
        fun u hu s _ => hu.of_eq (parent?_modifyCase u s _) rfl
  | changeTest s i op => exact hsame.of_eq (parent?_modifyCase t s _) rfl
  | editCase s f => exact hsame.of_eq (parent?_modifyCase t s f) rfl

/-- **Along a sequence of operations**, the index has exactly the entries of the sequence. -/
theorem perform (ops : List TreeOp) : (t.perform ops).Lists (t.entries m ops) := by
  induction ops generalizing t m with
  | nil => exact hl
  | cons op ops ih => exact ih (ht.apply op) (hl.apply ht op)

end Lists

/-! ### Registered tests -/

/-- Whether the index registers the tests below the root: no two of them have one id, it counts
them, and it finds each of them by its id. -/
structure Registered (t : TestTree) : Prop where
  nodup_ids : (t.tests.map (·.id)).Nodup
  testCount_eq : t.testCount = t.tests.length
  test?_id : ∀ x ∈ t.tests, t.test? x.id = some x

theorem Forest.mem_tests_iff (ht : t.Forest) :
    x ∈ t.tests ↔ ∃ s, t.Below root s ∧ ∃ c, t.case? s = some c ∧ x ∈ c.tests := by
  rw [tests, List.mem_flatMap]
  refine exists_congr fun s => ?_
  rw [ht.mem_suites_iff, and_iff_right ht.root_lt_size, ← isSome_case?_iff]
  cases t.case? s <;> simp

/-- Tests that the index mirrors are registered. -/
theorem Indexed.registered (ht : t.Forest) (hi : t.Indexed) : t.Registered where
  nodup_ids := hi.nodup_tests ht
  testCount_eq := hi.testCount_eq ht
  test?_id x hx := by
    obtain ⟨s, hs, c, hc, hx⟩ := ht.mem_tests_iff.1 hx
    have hnd := hi.nodup_ids s hs
    rw [ids, hc] at hnd
    exact (indexed_iff_lists.1 hi).test?_eq_some_iff.2
      ⟨s, hs, mem_ids_iff.2 ⟨c, hc, x, hx, rfl⟩, testIn?_of_mem hc hnd hx⟩

namespace Registered

variable (ht : t.Forest) (hl : t.Lists m) (hr : t.Registered)
include ht hr

/-- Registered tests in different suites have different ids. -/
theorem suite_unique (hs : t.Below root s) (hs' : t.Below root s') (hid : id ∈ t.ids s)
    (hid' : id ∈ t.ids s') : s = s' := by
  have hnd := hr.nodup_ids
  rw [map_id_tests] at hnd
  exact ht.suite_eq_of_nodup_flatMap ht.root_lt_size hnd hs hs' hid hid'

include hl

/-- The suite of a registered test is the one that the index has for its id. -/
theorem mem_of_mem_ids (hs : t.Below root s) (hid : id ∈ t.ids s) : id ∈ m s := by
  obtain ⟨c, hc, x, hx, rfl⟩ := mem_ids_iff.1 hid
  have htest : t.test? x.id = some x := hr.test?_id x (ht.mem_tests_iff.2 ⟨s, hs, c, hc, hx⟩)
  obtain ⟨s', hs', hlisted, hfound⟩ := hl.test?_eq_some_iff.1 htest
  obtain ⟨c', hc', hfind⟩ := testIn?_eq_some_iff.1 hfound
  have hid' : x.id ∈ t.ids s' :=
    mem_ids_iff.2 ⟨c', hc', x, List.mem_of_find?_eq_some hfind, rfl⟩
  obtain rfl := hr.suite_unique ht hs hs' hid hid'
  exact hlisted

/-- What is listed for a suite are the ids of its tests. -/
theorem mem_ids_of_mem (hs : t.Below root s) (hid : id ∈ m s) : id ∈ t.ids s := by
  have hroot : ∀ {k}, k ∈ t.suites root → t.Below root k := fun h => (ht.mem_suites_iff.1 h).1.2
  have hnd := hr.nodup_ids
  have hcount := hr.testCount_eq
  rw [← List.length_map (·.id), map_id_tests, hl.testCount_eq ht] at hcount
  rw [map_id_tests] at hnd
  -- the ids of the tests are listed, and there are as many of them as are listed
  have hsub : (t.suites root).flatMap t.ids ⊆ (t.suites root).flatMap m := by
    intro id h
    obtain ⟨k, hk, hid⟩ := List.mem_flatMap.1 h
    exact List.mem_flatMap.2 ⟨k, hk, hr.mem_of_mem_ids ht hl (hroot hk) hid⟩
  have hperm := (hnd.subperm hsub).perm_of_length_le (Nat.le_of_eq hcount)
  have hlisted : id ∈ (t.suites root).flatMap m := List.mem_flatMap.2
    ⟨s, ht.mem_suites_iff.2 ⟨⟨ht.root_lt_size, hs⟩, hl.isSuite ht hs hid⟩, hid⟩
  obtain ⟨k, hk, hidk⟩ := List.mem_flatMap.1 (hperm.mem_iff.2 hlisted)
  have hentry := (hl.getElem?_iff id k).2 ⟨hroot hk, hr.mem_of_mem_ids ht hl (hroot hk) hidk⟩
  obtain rfl := Option.some.inj (((hl.getElem?_iff id s).2 ⟨hs, hid⟩).symm.trans hentry)
  exact hidk

end Registered

/-- **Tests are registered** just if every suite has the ids that are listed for it. -/
theorem Lists.registered_iff (ht : t.Forest) (hl : t.Lists m) :
    t.Registered ↔ ∀ s, t.Below root s → (t.ids s).Perm (m s) := by
  constructor
  · intro hr s hs
    have hnd : (t.ids s).Nodup := ht.nodup_ids_of_nodup_flatMap ht.root_lt_size
      (map_id_tests t ▸ hr.nodup_ids) hs
    refine (List.perm_ext_iff_of_nodup hnd (hl.nodup s hs)).2 fun id => ?_
    exact ⟨hr.mem_of_mem_ids ht hl hs, hr.mem_ids_of_mem ht hl hs⟩
  · intro h
    refine Indexed.registered ht (indexed_iff_lists.2 ⟨fun id s => ?_, fun s hs => ?_⟩)
    · rw [hl.getElem?_iff]
      exact and_congr_right fun hs => (h s hs).mem_iff.symm
    · exact (h s hs).nodup_iff.2 (hl.nodup s hs)

/-- **What the index does for every tree that operations make**, edits of the suites below the root
included. It has an entry for exactly the ids that these suites brought there, each with its suite;
so it counts these ids, and finds a test if the suite that brought its id still has it. The tests
below the root have distinct ids, are as many as the index counts and are found by their ids
exactly if every suite has the ids that it brought, in some order. -/
theorem registered_perform (ops : List TreeOp) :
    let t := empty.perform ops
    let m := empty.entries empty.ids ops
    (∀ (id : String) (s : NodeId), t.index[id]? = some s ↔ t.Below root s ∧ id ∈ m s) ∧
      t.testCount = ((t.suites root).flatMap m).length ∧
      (∀ id x, t.test? id = some x ↔
        ∃ s, t.Below root s ∧ id ∈ m s ∧ t.testIn? (s, id) = some x) ∧
      ((t.tests.map (·.id)).Nodup ∧ t.testCount = t.tests.length ∧
        (∀ x ∈ t.tests, t.test? x.id = some x) ↔
          ∀ s, t.Below root s → (t.ids s).Perm (m s)) := by
  intro t m
  have ht : t.Forest := forest_perform ops
  have hl : t.Lists m := (indexed_iff_lists.1 indexed_empty).perform forest_empty ops
  refine ⟨hl.getElem?_iff, hl.testCount_eq ht, fun _ _ => hl.test?_eq_some_iff, ?_⟩
  rw [← hl.registered_iff ht]
  exact ⟨fun ⟨hnd, hcount, htest⟩ => ⟨hnd, hcount, htest⟩,
    fun h => ⟨h.nodup_ids, h.testCount_eq, h.test?_id⟩⟩

/-- A test that a suite gets below the root is neither counted nor found. -/
theorem not_registered_add_below_root :
    let t := empty.perform [.createSuite "s" { id := "a", name := "a" }, .addChild 0 1,
      .editCase 1 (·.add (.make "a:1:0" "one" "1"))]
    t.tests = [.make "a:1:0" "one" "1"] ∧ t.testCount = 0 ∧ t.test? "a:1:0" = none := by
  decide

end TestTree
end DocExamples
