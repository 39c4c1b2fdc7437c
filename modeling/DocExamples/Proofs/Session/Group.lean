/-
# The group of a file

Adding the scan of a file to a tree makes the group of the file, and if there are examples a suite
and a leaf for each test of it. The leaves and the suite go under the group before the group goes
under the root (`Building`), so the only thing that could be refused is the last step, and it is not
if the ids of the tests are new (`addScan_eq`).
-/

import DocExamples.Proofs.Session.Ids
import DocExamples.Proofs.Tree.Build
import DocExamples.Proofs.Tree.Change

namespace DocExamples
namespace Session

open TestTree

variable {t t₀ u : TestTree} {scan : Scan} {timeout : Duration} {suite g : NodeId} {c : TestCase}
  {id : String} {done ids : List String} {leaves nodes : List NodeId}

/-- The group of a scan with its links. -/
def groupNode (scan : Scan) (parent : Option NodeId) (children : List NodeId) : TreeNode :=
  { key := scan.file, name := Path.baseName scan.file, kind := .group, parent, children }

/-- Whether nodes are leaves that name tests of a suite, in their order. -/
def LeavesOf (t : TestTree) (suite : NodeId) (ids : List String) (leaves : List NodeId) : Prop :=
  leaves.map t.leafTarget? = ids.map fun id => some (suite, id)

/-- Whether nodes are what belongs into the group of a scan: nothing if there are no examples,
otherwise a leaf for each test and then the suite of the tests. -/
def ContentsOf (t : TestTree) (timeout : Duration) (scan : Scan) (nodes : List NodeId) : Prop :=
  if scan.examples = [] then nodes = []
  else ∃ leaves suite, nodes = leaves ++ [suite] ∧
    t.kind? suite = some (.suite (caseOf scan timeout)) ∧
    LeavesOf t suite ((caseOf scan timeout).tests.map (·.id)) leaves

/-- Whether a node is the group of a scan, below the root and with what belongs into it. -/
def Filed (t : TestTree) (timeout : Duration) (scan : Scan) (g : NodeId) : Prop :=
  ∃ nodes, t.node? g = some (groupNode scan (some root) nodes) ∧ ContentsOf t timeout scan nodes

theorem LeavesOf.kind? (h : LeavesOf t suite ids leaves) {n : NodeId} (hn : n ∈ leaves) :
    ∃ id, t.kind? n = some (.leaf suite id) := by
  have hmem := List.mem_map_of_mem (f := t.leafTarget?) hn
  rw [h] at hmem
  obtain ⟨id, -, hid⟩ := List.mem_map.1 hmem
  exact ⟨id, leafTarget?_eq_some_iff.1 hid.symm⟩

theorem LeavesOf.mono (h : LeavesOf t suite ids leaves)
    (hk : ∀ n s id, t.kind? n = some (.leaf s id) → u.kind? n = some (.leaf s id)) :
    LeavesOf u suite ids leaves := by
  refine Eq.trans (List.map_congr_left fun n hn => ?_) h
  obtain ⟨id, hid⟩ := h.kind? hn
  rw [leafTarget?_eq_some_iff.2 hid, leafTarget?_eq_some_iff.2 (hk n suite id hid)]

theorem ContentsOf.mono (h : ContentsOf t timeout scan nodes)
    (hk : ∀ n kind, kind.isGroup = false → t.kind? n = some kind → u.kind? n = some kind) :
    ContentsOf u timeout scan nodes := by
  unfold ContentsOf at h ⊢
  split_ifs at h ⊢
  · exact h
  · obtain ⟨leaves, suite, hnodes, hsuite, hleaves⟩ := h
    exact ⟨leaves, suite, hnodes, hk _ _ rfl hsuite, hleaves.mono fun _ _ _ => hk _ _ rfl⟩

/-! ### What is in a group -/

/-- The tests from a group down are those of the scan. -/
theorem testsFrom_contents (ht : t.Forest) (hg : t.kind? g = some .group)
    (h : ContentsOf t timeout scan (t.children g)) :
    t.testsFrom g = (caseOf scan timeout).tests := by
  rw [ht.testsFrom_group hg]
  unfold ContentsOf at h
  split_ifs at h with he
  · rw [h, tests_caseOf, he]
    rfl
  · obtain ⟨leaves, suite, hnodes, hsuite, hleaves⟩ := h
    have hnil : leaves.flatMap t.testsFrom = [] := by
      refine List.flatMap_eq_nil_iff.2 fun leaf hleaf => ?_
      obtain ⟨id, hid⟩ := hleaves.kind? hleaf
      exact ht.testsFrom_leaf hid
    rw [hnodes, List.flatMap_append, hnil, List.flatMap_singleton, ht.testsFrom_suite hsuite,
      List.nil_append]

/-- The leaves from a group down name the tests of the scan. -/
theorem leafTests_contents (ht : t.Forest) (hg : t.kind? g = some .group)
    (h : ContentsOf t timeout scan (t.children g)) :
    (t.leaves g).map t.leafTest? = (caseOf scan timeout).tests.map some := by
  rw [ht.leaves_group hg]
  unfold ContentsOf at h
  split_ifs at h with he
  · rw [h, tests_caseOf, he]
    rfl
  · obtain ⟨leaves, suite, hnodes, hsuite, hleaves⟩ := h
    have hself : leaves.flatMap t.leaves = leaves := by
      refine Eq.trans (List.flatMap_congr fun leaf hleaf => ?_) (List.flatMap_singleton' leaves)
      obtain ⟨id, hid⟩ := hleaves.kind? hleaf
      exact ht.leaves_leaf hid
    have hcase : t.case? suite = some (caseOf scan timeout) := by
      rw [case?_eq, hsuite]
      rfl
    have htest : ∀ x ∈ (caseOf scan timeout).tests, t.testIn? (suite, x.id) = some x := fun x =>
      testIn?_of_mem hcase (nodup_ids_caseOf scan timeout)
    calc ((t.children g).flatMap t.leaves).map t.leafTest?
        = (leaves.map t.leafTarget?).map (Option.bind · t.testIn?) := by
          rw [hnodes, List.flatMap_append, hself, List.flatMap_singleton, ht.leaves_suite hsuite,
            List.append_nil, List.map_map]
          rfl
      _ = (caseOf scan timeout).tests.map some := by
          rw [hleaves, List.map_map, List.map_map]
          exact List.map_congr_left htest

/-! ### Making a group -/

/-- Whether the group of a scan is on top of a tree, with these nodes below it and no parent yet. -/
structure Opened (t₀ t : TestTree) (scan : Scan) (nodes : List NodeId) : Prop extends
    Grown t₀ t where
  group : t.node? t₀.nodes.size = some (groupNode scan none nodes)

namespace Opened

variable (h : Opened t₀ t scan nodes)
include h

theorem kind?_group : t.kind? t₀.nodes.size = some .group := by
  rw [kind?, h.group]
  rfl

theorem parent?_group : t.parent? t₀.nodes.size = none := by
  rw [parent?, h.group]
  rfl

theorem children_group : t.children t₀.nodes.size = nodes := children_eq h.group

theorem size_lt : t₀.nodes.size < t.nodes.size := lt_size_of_kind? h.kind?_group

/-- The group takes a node that is new as its last child. -/
theorem addChild (h₀ : t₀.Forest) {n : NodeId} (hn₀ : t₀.nodes.size < n) (hn : n < t.nodes.size)
    (hp : t.parent? n = none) :
    t.addChild t₀.nodes.size n = (.ok (), t.link t₀.nodes.size n) ∧
      Opened t₀ (t.link t₀.nodes.size n) scan (nodes ++ [n]) := by
  have hne := Nat.ne_of_lt hn₀
  obtain ⟨hadd, hgrown⟩ := h.toGrown.addChild h₀ (Nat.le_refl _) h.kind?_group h.parent?_group
    (Nat.le_of_lt hn₀) hn hp hne
  refine ⟨hadd, hgrown, ?_⟩
  rw [node?_link hne, if_pos rfl, h.group]
  rfl

end Opened

/-- Whether the group of a scan has the leaves of the first tests of a suite so far. -/
structure Building (t₀ t : TestTree) (scan : Scan) (suite : NodeId) (c : TestCase)
    (done : List String) (leaves : List NodeId) : Prop extends Opened t₀ t scan leaves where
  new : t₀.nodes.size < suite
  kind?_suite : t.kind? suite = some (.suite c)
  parent?_suite : t.parent? suite = none
  eq_suite : ∀ n d, t.kind? n = some (.suite d) → n < t₀.nodes.size ∨ n = suite
  leavesOf : LeavesOf t suite done leaves

/-- One more leaf. -/
theorem Building.addLeaf (h₀ : t₀.Forest) (h : Building t₀ t scan suite c done leaves)
    (id name : String) :
    ∃ u, (t.push id name (.leaf suite id)).2.addChild t₀.nodes.size t.nodes.size = (.ok (), u) ∧
      Building t₀ u scan suite c (done ++ [id]) (leaves ++ [t.nodes.size]) := by
  have hpush : Opened t₀ (t.push id name (.leaf suite id)).2 scan leaves := by
    refine ⟨h.toGrown.push id name fun s i hs => ?_, ?_⟩
    · obtain ⟨rfl, -⟩ := NodeKind.leaf.inj hs
      exact ⟨c, h.kind?_suite⟩
    · rw [node?_push, if_neg (Nat.ne_of_lt h.size_lt), h.group]
  obtain ⟨hadd, hopened⟩ := hpush.addChild h₀ h.size_lt (by simp [push])
    (by rw [parent?_push, parent?, node?_size]; rfl)
  have hsuite := lt_size_of_kind? h.kind?_suite
  have hkind : ∀ n kind, t.kind? n = some kind →
      ((t.push id name (.leaf suite id)).2.link t₀.nodes.size t.nodes.size).kind? n =
        some kind := by
    intro n kind hn
    rw [kind?_link, kind?_push, if_neg (Nat.ne_of_lt (lt_size_of_kind? hn)), hn]
  refine ⟨_, hadd, hopened, h.new, hkind _ _ h.kind?_suite, ?_, fun n d hn => ?_, ?_⟩
  · rw [parent?_link (by simp [push]), if_neg (Nat.ne_of_lt hsuite), parent?_push, h.parent?_suite]
  · rw [kind?_link, kind?_push] at hn
    split_ifs at hn
    · cases hn
    · exact h.eq_suite n d hn
  · have hold := h.leavesOf.mono fun n s i hn => hkind n _ hn
    have hnew : ((t.push id name (.leaf suite id)).2.link t₀.nodes.size t.nodes.size).leafTarget?
        t.nodes.size = some (suite, id) := by
      rw [leafTarget?_eq_some_iff, kind?_link, kind?_push, if_pos rfl]
    rw [LeavesOf, List.map_append, List.map_append, hold, List.map_singleton, hnew]
    rfl

/-- **All leaves are made** if every id is one of the suite. -/
theorem Building.addLeaves (h₀ : t₀.Forest) (h : Building t₀ t scan suite c done leaves)
    (hids : ∀ id ∈ ids, ∃ x, c.find? id = some x) :
    ∃ u more, Session.addLeaves suite t₀.nodes.size ids t = (.ok (), u) ∧
      Building t₀ u scan suite c (done ++ ids) (leaves ++ more) := by
  induction ids generalizing t done leaves with
  | nil => exact ⟨t, [], rfl, by simpa using h⟩
  | cons id ids ih =>
      obtain ⟨⟨x, hx⟩, hids⟩ := List.forall_mem_cons.1 hids
      obtain ⟨v, hv, hbuilding⟩ := h.addLeaf h₀ id x.name
      obtain ⟨u, more, hu, hbuilding⟩ := ih hbuilding hids
      refine ⟨u, t.nodes.size :: more, ?_, ?_⟩
      · rw [Session.addLeaves, createLeaf_of_find? h.kind?_suite hx]
        dsimp only
        rw [hv]
        exact hu
      · simpa using hbuilding

/-- The suite is made, and it is attached after its leaves. -/
theorem Opened.addSuite (h₀ : t₀.Forest) (h : Opened t₀ t scan [])
    (hold : ∀ n d, t.kind? n = some (.suite d) → n < t₀.nodes.size) (name : String)
    (c : TestCase) :
    ∃ u leaves, Session.addSuite t₀.nodes.size name c t = (.ok (), u) ∧
      Opened t₀ u scan (leaves ++ [t.nodes.size]) ∧
      u.kind? t.nodes.size = some (.suite c) ∧
      LeavesOf u t.nodes.size (c.tests.map (·.id)) leaves ∧
      ∀ n d, u.kind? n = some (.suite d) → n < t₀.nodes.size ∨ n = t.nodes.size := by
  have hids : ∀ id ∈ c.tests.map (·.id), ∃ x, c.find? id = some x := by
    intro id hid
    obtain ⟨x, hx, rfl⟩ := List.mem_map.1 hid
    exact Option.isSome_iff_exists.1 (List.find?_isSome.2 ⟨x, hx, by simp⟩)
  have hbuilding : Building t₀ (t.createSuite name c).2 scan t.nodes.size c [] [] := by
    refine ⟨⟨h.toGrown.push _ _ nofun, ?_⟩, h.size_lt, ?_, ?_, fun n d hn => ?_, rfl⟩
    · rw [createSuite, node?_push, if_neg (Nat.ne_of_lt h.size_lt), h.group]
    · rw [createSuite, kind?_push, if_pos rfl]
    · rw [createSuite, parent?_push, parent?, node?_size]
      rfl
    · rw [createSuite, kind?_push] at hn
      split_ifs at hn with hnew
      · exact .inr hnew
      · exact .inl (hold n d hn)
  obtain ⟨v, leaves, hv, hbuilt⟩ := hbuilding.addLeaves h₀ hids
  have hsuite := lt_size_of_kind? hbuilt.kind?_suite
  obtain ⟨hadd, hopened⟩ := hbuilt.addChild h₀ h.size_lt hsuite hbuilt.parent?_suite
  refine ⟨_, leaves, ?_, by simpa using hopened, ?_, ?_, fun n d hn => ?_⟩
  · have hcreate : t.createSuite name c = (t.nodes.size, (t.createSuite name c).2) := rfl
    rw [Session.addSuite, hcreate]
    dsimp only
    rw [hv]
    exact hadd
  · rw [kind?_link, hbuilt.kind?_suite]
  · refine hbuilt.leavesOf.mono fun n s i hn => ?_
    rw [kind?_link, hn]
  · rw [kind?_link] at hn
    exact hbuilt.eq_suite n d hn

/-- What belongs into the group of a scan is put into it, and no other suite is made. -/
theorem Opened.fill (h₀ : t₀.Forest) (h : Opened t₀ t scan [])
    (hold : ∀ n d, t.kind? n = some (.suite d) → n < t₀.nodes.size) (name : String)
    (timeout : Duration) :
    ∃ u nodes, (if scan.examples.isEmpty then (.ok (), t)
        else Session.addSuite t₀.nodes.size name (caseOf scan timeout) t) = (.ok (), u) ∧
      Opened t₀ u scan nodes ∧ ContentsOf u timeout scan nodes ∧
      ∀ n d, u.kind? n = some (.suite d) → n < t₀.nodes.size ∨ n ∈ nodes := by
  unfold ContentsOf
  by_cases he : scan.examples = []
  · exact ⟨t, [], by rw [he]; rfl, h, by rw [if_pos he], fun n d hn => .inl (hold n d hn)⟩
  · obtain ⟨u, leaves, hu, hopened, hsuite, hleaves, hsuites⟩ :=
      h.addSuite h₀ hold name (caseOf scan timeout)
    refine ⟨u, _, ?_, hopened, ?_, fun n d hn => (hsuites n d hn).imp_right fun hn => ?_⟩
    · rw [← hu, if_neg (by simpa using he)]
    · rw [if_neg he]
      exact ⟨leaves, _, rfl, hsuite, hleaves⟩
    · exact List.mem_append_right _ (List.mem_singleton.2 hn)

/-- **The group of a scan is added** if the ids of its tests are new. It becomes the last child of
the root and has in it what belongs there, the new suite included, and no other node changes. -/
theorem addScan_eq (ht : t.Forest) (hi : t.Indexed)
    (hnew : ∀ id ∈ (caseOf scan timeout).tests.map (·.id), id ∉ t.index) :
    ∃ u, addScan scan timeout t = (.ok (), u) ∧ u.Forest ∧ u.Indexed ∧
      u.children root = t.children root ++ [t.nodes.size] ∧
      Filed u timeout scan t.nodes.size ∧
      (∀ n d, u.kind? n = some (.suite d) → n < t.nodes.size ∨ n ∈ u.children t.nodes.size) ∧
      ∀ m ≠ root, m < t.nodes.size → u.node? m = t.node? m := by
  have hopened : Opened t (t.createGroup scan.file (Path.baseName scan.file)).2 scan [] := by
    refine ⟨(Grown.refl ht hi).push _ _ nofun, ?_⟩
    rw [createGroup, node?_push, if_pos rfl]
    rfl
  have hgroups : ∀ n d,
      (t.createGroup scan.file (Path.baseName scan.file)).2.kind? n = some (.suite d) →
        n < t.nodes.size := by
    intro n d hn
    rw [createGroup, kind?_push] at hn
    split_ifs at hn
    · cases hn
    · exact lt_size_of_kind? hn
  obtain ⟨v, nodes, hv, hgroup, hcontents, hsuites⟩ :=
    hopened.fill ht hgroups ("Test Suite: " ++ Path.baseName scan.file) timeout
  have htests := testsFrom_contents hgroup.forest hgroup.kind?_group
    (hgroup.children_group ▸ hcontents)
  obtain ⟨u, hu, hforest, hindexed, hchildren, hnode, hkind, hold⟩ :=
    hgroup.toGrown.addChild_root ht (Nat.le_refl _) hgroup.size_lt hgroup.parent?_group
      (htests ▸ nodup_ids_caseOf scan timeout) (htests ▸ hnew)
  have hgroupNode : u.node? t.nodes.size = some (groupNode scan (some root) nodes) := by
    rw [hnode, hgroup.group]
    rfl
  refine ⟨u, ?_, hforest, hindexed, hchildren, ⟨nodes, hgroupNode, ?_⟩, fun n d hn => ?_, hold⟩
  · have hcreate : t.createGroup scan.file (Path.baseName scan.file) =
        (t.nodes.size, (t.createGroup scan.file (Path.baseName scan.file)).2) := rfl
    rw [addScan, hcreate]
    dsimp only
    rw [hv]
    exact hu
  · exact hcontents.mono fun n kind _ hn => by rw [hkind, hn]
  · rw [children_eq hgroupNode]
    exact hsuites n d (hkind n ▸ hn)

end Session
end DocExamples
