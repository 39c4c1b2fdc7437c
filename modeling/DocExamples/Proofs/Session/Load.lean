/-
# Loading never fails

Loading adds the groups of the files one after the other to the empty tree. The ids of the tests of
one file tell the file, so they are new when the group of another file is added (`Loaded.addScan`).
All that a loaded tree has is the groups of the files in the order of their paths, so its tests and
its leaves are those of the files in this order (`loadSources_eq`).
-/

import DocExamples.Proofs.Session.Group
import Mathlib.Data.List.Forall2

namespace DocExamples
namespace Session

open TestTree

variable {t u : TestTree} {timeout : Duration} {scan : Scan} {scans : List Scan} {g : NodeId}

/-- Whether the examples of a scan are in its file. -/
def Placed (scan : Scan) : Prop := ∀ e ∈ scan.examples, e.location.file = scan.file

/-- Whether a tree has the groups of some scans below its root, and in these all of its suites. -/
structure Loaded (t : TestTree) (timeout : Duration) (scans : List Scan) : Prop where
  forest : t.Forest
  indexed : t.Indexed
  filed : List.Forall₂ (Filed t timeout) scans (t.children root)
  suites : ∀ n c, t.kind? n = some (.suite c) → ∃ g ∈ t.children root, n ∈ t.children g

theorem Filed.kind? (h : Filed t timeout scan g) : t.kind? g = some .group := by
  obtain ⟨nodes, hnode, -⟩ := h
  rw [TestTree.kind?, hnode]
  rfl

theorem Filed.contents (h : Filed t timeout scan g) : ContentsOf t timeout scan (t.children g) := by
  obtain ⟨nodes, hnode, hcontents⟩ := h
  rwa [children_eq hnode]

/-- A group stays as it is when only the root and new nodes change. -/
theorem Filed.mono (h : Filed t timeout scan g) (ht : t.Forest)
    (hold : ∀ m ≠ root, m < t.nodes.size → u.node? m = t.node? m) : Filed u timeout scan g := by
  obtain ⟨nodes, hnode, hcontents⟩ := h
  have hg : g ≠ root := by
    rintro rfl
    have hparent := ht.root_parent?
    rw [parent?, hnode] at hparent
    cases hparent
  refine ⟨nodes, ?_, hcontents.mono fun n kind hk hn => ?_⟩
  · rw [hold g hg (Array.getElem?_eq_some_iff.1 hnode).1, hnode]
  · rw [TestTree.kind?, hold n (ht.ne_root_of_kind? hn hk) (lt_size_of_kind? hn)]
    exact hn

namespace Loaded

theorem empty (timeout : Duration) : Loaded .empty timeout [] :=
  ⟨forest_empty, indexed_empty, .nil, fun n c h => by cases n <;> cases h⟩

variable (h : Loaded t timeout scans)
include h

/-- What is collected group by group. -/
theorem flatMap_children {β : Type} {f : Scan → List β} {k : NodeId → List β}
    (hk : ∀ scan g, Filed t timeout scan g → k g = f scan) :
    (t.children root).flatMap k = scans.flatMap f := by
  have hfiled := h.filed
  clear h
  generalize t.children root = groups at hfiled
  induction hfiled with
  | nil => rfl
  | cons hg _ ih => rw [List.flatMap_cons, List.flatMap_cons, hk _ _ hg, ih]

/-- The tests of a loaded tree are those of the scans in their order. -/
theorem tests_eq : t.tests = scans.flatMap fun scan => (caseOf scan timeout).tests :=
  (h.forest.testsFrom_group h.forest.root_kind?).trans
    (h.flatMap_children fun _ _ hg => testsFrom_contents h.forest hg.kind? hg.contents)

/-- The leaves of a loaded tree name its tests. -/
theorem leafTests_eq : (t.leaves root).map t.leafTest? = t.tests.map some := by
  rw [h.tests_eq, h.forest.leaves_group h.forest.root_kind?, List.map_flatMap, List.map_flatMap]
  exact h.flatMap_children fun _ _ hg => leafTests_contents h.forest hg.kind? hg.contents

/-- **The group of another file is added** to a loaded tree. -/
theorem addScan (hplaced : ∀ scan ∈ scans, Placed scan) (hscan : Placed scan)
    (hfile : scan.file ∉ scans.map (·.file)) :
    ∃ u, Session.addScan scan timeout t = (.ok (), u) ∧ Loaded u timeout (scans ++ [scan]) := by
  have hnew : ∀ id ∈ (caseOf scan timeout).tests.map (·.id), id ∉ t.index := by
    intro id hid hindex
    rw [h.indexed.mem_index_iff h.forest, h.tests_eq, List.map_flatMap] at hindex
    obtain ⟨other, hother, hid'⟩ := List.mem_flatMap.1 hindex
    have hfile' : other.file = scan.file :=
      (file_of_mem_ids_caseOf (hplaced other hother) hid').symm.trans
        (file_of_mem_ids_caseOf hscan hid)
    exact hfile (hfile' ▸ List.mem_map_of_mem hother)
  obtain ⟨u, hu, hforest, hindexed, hchildren, hfiled, hsuites, hold⟩ :=
    addScan_eq h.forest h.indexed hnew
  refine ⟨u, hu, hforest, hindexed, ?_, fun n c hn => ?_⟩
  · rw [hchildren]
    exact List.rel_append (h.filed.imp fun _ _ hg => hg.mono h.forest hold) (.cons hfiled .nil)
  · rw [hchildren]
    obtain hlt | hmem := hsuites n c hn
    · have hne := hforest.ne_root_of_kind? hn rfl
      rw [kind?, hold n hne hlt] at hn
      obtain ⟨g, hg, hng⟩ := h.suites n c hn
      have hparent := (h.forest.mem_children_iff root g).1 hg
      have hgu : u.children g = t.children g := by
        rw [children, children, hold g (h.forest.ne_root_of_parent? hparent)
          (lt_size_of_parent? hparent)]
      exact ⟨g, List.mem_append_left _ hg, hgu ▸ hng⟩
    · exact ⟨_, List.mem_append_right _ (List.mem_singleton.2 rfl), hmem⟩

end Loaded

/-! ### Adding all files -/

/-- How long a test may take that a session loads. -/
def testTimeout (s : Session) : Duration := .ofMillis s.config.run.timeoutMillis

/-- The scan that a session makes of a source. -/
def scanOf (s : Session) (source : String × String) : Scan :=
  Scan.ofText s.provider source.1 source.2

/-- A tree with the groups of more scans. -/
def grow (timeout : Duration) (t : TestTree) (scans : List Scan) : TestTree :=
  scans.foldl (fun t scan => (addScan scan timeout t).2) t

theorem placed_scanOf (s : Session) (source : String × String) : Placed (s.scanOf source) :=
  fun _ he => Scan.file_of_mem_examples he

/-- **Every file is added**, if their paths are distinct and new. -/
theorem addSources_eq {s : Session} {sources : List (String × String)}
    (h : Loaded s.tree s.testTimeout scans) (hplaced : ∀ scan ∈ scans, Placed scan)
    (hdistinct : (scans.map (·.file) ++ sources.map Prod.fst).Nodup) :
    s.addSources sources = (.ok (), { s with
      tree := grow s.testTimeout s.tree (sources.map s.scanOf)
      scans := s.scans.insertMany (sources.map fun e => (e.1, s.scanOf e)) }) ∧
    Loaded (grow s.testTimeout s.tree (sources.map s.scanOf)) s.testTimeout
      (scans ++ sources.map s.scanOf) := by
  induction sources generalizing s scans with
  | nil => exact ⟨rfl, by simpa [grow] using h⟩
  | cons source sources ih =>
      obtain ⟨path, text⟩ := source
      have hpath : (s.scanOf (path, text)).file = path := rfl
      have hfile : (s.scanOf (path, text)).file ∉ scans.map (·.file) := fun hmem =>
        (List.nodup_append.1 hdistinct).2.2 path hmem path (List.mem_cons_self ..) rfl
      obtain ⟨u, hu, hloaded⟩ := h.addScan hplaced (placed_scanOf s (path, text)) hfile
      have hall : ∀ scan ∈ scans ++ [s.scanOf (path, text)], Placed scan := by
        intro scan hscan
        obtain hscan | hscan := List.mem_append.1 hscan
        · exact hplaced scan hscan
        · exact List.mem_singleton.1 hscan ▸ placed_scanOf s (path, text)
      obtain ⟨hadd, hrest⟩ :=
        ih (s := { s with tree := u, scans := s.scans.insert path (s.scanOf (path, text)) })
          hloaded hall (by simpa [hpath] using hdistinct)
      have hgrow : grow s.testTimeout s.tree (((path, text) :: sources).map s.scanOf) =
          grow s.testTimeout u (sources.map s.scanOf) := by
        rw [grow, List.map_cons, List.foldl_cons, hu]
        rfl
      have hscan : Session.addScan (Scan.ofText s.provider path text)
          (.ofMillis s.config.run.timeoutMillis) s.tree = (.ok (), u) := hu
      rw [hgrow]
      constructor
      · rw [addSources, hscan, List.map_cons, Std.ExtTreeMap.insertMany_cons]
        exact hadd
      · rw [List.append_assoc] at hrest
        exact hrest

/-- The scans of all sources in the order of their paths. -/
def scansOf (s : Session) (sources : Sources) : List Scan := sources.toList.map s.scanOf

/-- The tree of the groups of all sources. -/
def treeOf (s : Session) (sources : Sources) : TestTree :=
  grow s.testTimeout .empty (s.scansOf sources)

/-- **Loading** answers the number of tests, and what it leaves depends on the configuration, the
provider and the thresholds only. -/
theorem loadSources_eq (s : Session) (sources : Sources) :
    s.loadSources sources = (.ok (s.treeOf sources).testCount, { s with
      scans := ({} : Scans).insertMany (sources.toList.map fun e => (e.1, s.scanOf e))
      tree := s.treeOf sources
      coverage := s.coverage.reset }) ∧
    Loaded (s.treeOf sources) s.testTimeout (s.scansOf sources) := by
  have hdistinct : (([] : List Scan).map (·.file) ++ sources.toList.map Prod.fst).Nodup :=
    Keyed.nodup_map_fst_toList sources
  obtain ⟨hadd, hloaded⟩ := addSources_eq
    (s := { s with scans := {}, tree := .empty, coverage := s.coverage.reset })
    (Loaded.empty s.testTimeout) (by simp) hdistinct
  refine ⟨?_, hloaded⟩
  rw [loadSources]
  dsimp only
  rw [hadd]
  rfl

/-- The scans of a session that has loaded are those of the sources. -/
theorem scans_loadSources (s : Session) (sources : Sources) (path : String) :
    (s.loadSources sources).2.scans[path]? =
      (sources[path]?).map fun text => s.scanOf (path, text) := by
  have hkeys : ((sources.toList.map fun e => (e.1, s.scanOf e)).map Prod.fst).Nodup := by
    rw [List.map_map]
    exact Keyed.nodup_map_fst_toList sources
  refine Option.ext fun scan => ?_
  rw [(loadSources_eq s sources).1, Keyed.getElem?_insertMany_eq_some_iff hkeys, List.mem_map,
    Option.map_eq_some_iff, Std.ExtTreeMap.getElem?_empty]
  constructor
  · rintro (⟨⟨path', text⟩, hmem, heq⟩ | ⟨-, hnone⟩)
    · obtain ⟨rfl, rfl⟩ := Prod.mk.inj heq
      exact ⟨text, Std.ExtTreeMap.mem_toList_iff_getElem?_eq_some.1 hmem, rfl⟩
    · cases hnone
  · rintro ⟨text, htext, rfl⟩
    exact Or.inl ⟨(path, text), Std.ExtTreeMap.mem_toList_iff_getElem?_eq_some.2 htext, rfl⟩

theorem mem_scans_loadSources {s : Session} {sources : Sources} {path : String} :
    path ∈ (s.loadSources sources).2.scans ↔ path ∈ sources := by
  rw [Std.ExtTreeMap.mem_iff_isSome_getElem?, scans_loadSources, Option.isSome_map,
    ← Std.ExtTreeMap.mem_iff_isSome_getElem?]

/-- **Loading never fails and loses nothing**, whatever was loaded before. It answers the number of
examples. Below the root are the groups of the sources in the order of their paths, each with a leaf
for every example of the source and then the suite, or with nothing if there are no examples. The
tests are those of the examples in this order, the leaves name them in the same order, and no id
comes twice. -/
theorem loadSources_complete (s : Session) (sources : Sources) :
    let scans := sources.toList.map fun source => Scan.ofText s.provider source.1 source.2
    let limit := Duration.ofMillis s.config.run.timeoutMillis
    let tests := scans.flatMap fun scan => scan.examples.mapIdx fun i e =>
      Test.ofExample e (Scan.parentOf? scan.declarations e) i limit
    ∃ s', s.loadSources sources = (.ok (scans.flatMap (·.examples)).length, s') ∧
      (scans.map (·.file)).Pairwise (fun a b => compare a b = .lt) ∧
      List.Forall₂ (Filed s'.tree limit) scans (s'.tree.children root) ∧
      s'.tree.tests = tests ∧
      (s'.tree.leaves root).map s'.tree.leafTest? = tests.map some ∧
      (tests.map (·.id)).Nodup := by
  intro scans limit tests
  obtain ⟨hload, hloaded⟩ := loadSources_eq s sources
  have htests : (s.treeOf sources).tests = tests := hloaded.tests_eq
  have hcount : (s.treeOf sources).testCount = (scans.flatMap (·.examples)).length := by
    rw [hloaded.indexed.testCount_eq hloaded.forest, htests, List.length_flatMap,
      List.length_flatMap]
    simp
  have hleaves : ((s.treeOf sources).leaves root).map (s.treeOf sources).leafTest? =
      tests.map some := by
    rw [← htests]
    exact hloaded.leafTests_eq
  have hids : (tests.map (·.id)).Nodup := by
    rw [← htests]
    exact hloaded.indexed.nodup_tests hloaded.forest
  have horder : (scans.map (·.file)).Pairwise fun a b => compare a b = .lt := by
    rw [List.map_map]
    exact List.pairwise_map.2 Std.ExtTreeMap.ordered_keys_toList
  rw [hcount] at hload
  exact ⟨_, hload, horder, hloaded.filed, htests, hleaves, hids⟩

end Session
end DocExamples
