/-
# Changing the tests of a tree in place

A run changes tests one at a time: the first test of a suite with an id, or the test at a position.
When the ids in a suite are distinct, each of these is the change of exactly the test that a target
names, and a sequence of such changes is one simultaneous change (`change`). So the order in which
tests are changed does not matter, and what is read of a changed tree is the change of what is read
of the tree (`testIn?_change`).
-/

import DocExamples.Proofs.KeyedList
import DocExamples.Proofs.Tree.Forest

namespace DocExamples
namespace TestTree

variable {t : TestTree} {s : NodeId} {c : TestCase} {x : Test} {τ : TestTarget}
  {ts us : List TestTarget} {f g : NodeId → Test → Test} {h : Test → Test}

/-- Changes every test, knowing its suite. -/
def mapTests (t : TestTree) (f : NodeId → Test → Test) : TestTree :=
  { t with nodes := t.nodes.mapIdx fun s n =>
      { n with kind := n.kind.mapCase fun c => { c with tests := c.tests.map (f s) } } }

theorem node?_mapTests (t : TestTree) (f : NodeId → Test → Test) (s : NodeId) :
    (t.mapTests f).node? s = (t.node? s).map fun n =>
      { n with kind := n.kind.mapCase fun c => { c with tests := c.tests.map (f s) } } :=
  Array.getElem?_mapIdx

theorem case?_mapTests (t : TestTree) (f : NodeId → Test → Test) (s : NodeId) :
    (t.mapTests f).case? s = (t.case? s).map fun c => { c with tests := c.tests.map (f s) } := by
  unfold case?
  rw [node?_mapTests]
  cases t.node? s with
  | none => rfl
  | some n => obtain ⟨_, _, kind, _, _⟩ := n; cases kind <;> rfl

/-- A change of tests leaves what leaves name. -/
theorem leafTarget?_mapTests (t : TestTree) (f : NodeId → Test → Test) (n : NodeId) :
    (t.mapTests f).leafTarget? n = t.leafTarget? n := by
  unfold leafTarget?
  rw [node?_mapTests]
  cases t.node? n with
  | none => rfl
  | some node => obtain ⟨_, _, kind, _, _⟩ := node; cases kind <;> rfl

/-- Trees are equal if their nodes and their indexes are. -/
theorem ext_node? {u : TestTree} (hn : ∀ s, t.node? s = u.node? s) (hi : t.index = u.index) :
    t = u := by
  obtain ⟨nodes, index⟩ := t
  obtain ⟨nodes', index'⟩ := u
  obtain rfl : nodes = nodes' := Array.ext_getElem? hn
  exact congrArg _ hi

theorem mapTests_mapTests (t : TestTree) (f g : NodeId → Test → Test) :
    (t.mapTests f).mapTests g = t.mapTests fun s x => g s (f s x) := by
  refine ext_node? (fun s => ?_) rfl
  simp only [node?_mapTests, Option.map_map]
  refine Option.map_congr fun n _ => ?_
  obtain ⟨_, _, kind, _, _⟩ := n
  cases kind <;> simp [NodeKind.mapCase]

/-- Only the tests that are there count for a change. -/
theorem mapTests_congr (hfg : ∀ s c x, t.case? s = some c → x ∈ c.tests → f s x = g s x) :
    t.mapTests f = t.mapTests g := by
  refine ext_node? (fun s => ?_) rfl
  rw [node?_mapTests, node?_mapTests]
  refine Option.map_congr fun n hn => ?_
  have hcase : t.case? s = n.kind.case? := by rw [case?, hn]; rfl
  obtain ⟨_, _, kind, _, _⟩ := n
  cases kind with
  | suite c => simp [NodeKind.mapCase, List.map_congr_left fun x => hfg s c x hcase]
  | group | leaf => rfl

/-- Changes the tests that targets name. -/
def change (t : TestTree) (ts : List TestTarget) (h : Test → Test) : TestTree :=
  t.mapTests fun s x => if (s, x.id) ∈ ts then h x else x

/-- The tests that targets name, as far as they are there. -/
def named (t : TestTree) (ts : List TestTarget) : List Test := ts.filterMap t.testIn?

/-- Whether the ids in the suites that targets name are distinct. -/
def Distinct (t : TestTree) (ts : List TestTarget) : Prop :=
  ∀ τ ∈ ts, ∀ c, t.case? τ.1 = some c → (c.tests.map (·.id)).Nodup

instance (t : TestTree) (ts : List TestTarget) : Decidable (t.Distinct ts) :=
  inferInstanceAs (Decidable (∀ τ ∈ ts, ∀ c ∈ t.case? τ.1, (c.tests.map (·.id)).Nodup))

theorem Distinct.mono (hd : t.Distinct ts) (hsub : us ⊆ ts) : t.Distinct us :=
  fun τ hτ => hd τ (hsub hτ)

theorem testIn?_eq_some_iff : t.testIn? τ = some x ↔
    ∃ c, t.case? τ.1 = some c ∧ c.tests.find? (·.id == τ.2) = some x := by
  rw [testIn?, Option.bind_eq_some_iff]
  rfl

theorem id_of_testIn? (hx : t.testIn? τ = some x) : x.id = τ.2 := by
  obtain ⟨c, -, hx⟩ := testIn?_eq_some_iff.1 hx
  simpa using List.find?_some hx

/-- A test among distinct ids is the one that its id names. -/
theorem testIn?_of_mem (hc : t.case? s = some c) (hnd : (c.tests.map (·.id)).Nodup)
    (hx : x ∈ c.tests) : t.testIn? (s, x.id) = some x := by
  exact testIn?_eq_some_iff.2 ⟨c, hc, (Keyed.find?_eq_some_iff hnd).2 ⟨hx, rfl⟩⟩

theorem mem_named_iff : x ∈ t.named ts ↔ ∃ τ ∈ ts, t.testIn? τ = some x := List.mem_filterMap

/-- What the changed tree has at a target is the change of what the tree has there. -/
theorem testIn?_change (hh : ∀ x, (h x).id = x.id) (t : TestTree) (ts : List TestTarget)
    (τ : TestTarget) :
    (t.change ts h).testIn? τ = (t.testIn? τ).map fun x => if τ ∈ ts then h x else x := by
  rw [testIn?, testIn?, change, case?_mapTests]
  cases t.case? τ.1 with
  | none => rfl
  | some c =>
      have hid : ∀ x : Test, (if (τ.1, x.id) ∈ ts then h x else x).id = x.id := by
        intro x
        split_ifs
        · exact hh x
        · rfl
      simp only [Option.map_some, Option.bind_some, TestCase.find?, List.find?_map]
      simp only [Function.comp_def, hid]
      cases hx : c.tests.find? (·.id == τ.2) with
      | none => rfl
      | some x =>
          have : x.id = τ.2 := by simpa using List.find?_some hx
          simp only [Option.map_some, this]

theorem Distinct.change (hd : t.Distinct ts) (hh : ∀ x, (h x).id = x.id)
    (us : List TestTarget) : (t.change us h).Distinct ts := by
  intro τ hτ c hc
  rw [TestTree.change, case?_mapTests] at hc
  obtain ⟨d, hd', rfl⟩ := Option.map_eq_some_iff.1 hc
  have hid : (d.tests.map fun x => (if (τ.1, x.id) ∈ us then h x else x).id) =
      d.tests.map (·.id) := List.map_congr_left fun x _ => by
    split_ifs
    · exact hh x
    · rfl
  rw [List.map_map]
  exact hid ▸ hd τ hτ d hd'

theorem change_nil (t : TestTree) (h : Test → Test) : t.change [] h = t := by
  refine ext_node? (fun s => ?_) rfl
  rw [change, node?_mapTests]
  cases t.node? s with
  | none => rfl
  | some n => obtain ⟨_, _, kind, _, _⟩ := n; cases kind <;> simp [NodeKind.mapCase]

/-- Only what is done to tests with the ids of the targets counts for a change. -/
theorem change_congr {g : Test → Test} (hh : ∀ τ ∈ ts, ∀ x, x.id = τ.2 → h x = g x)
    (t : TestTree) : t.change ts h = t.change ts g := by
  rw [change, change]
  refine congrArg _ (funext₂ fun s x => ?_)
  split_ifs with hx
  · exact hh _ hx x rfl
  · rfl

/-- One change after another of the same tests. -/
theorem change_comp {g : Test → Test} (hh : ∀ x, (h x).id = x.id) (t : TestTree)
    (ts : List TestTarget) : (t.change ts h).change ts g = t.change ts fun x => g (h x) := by
  rw [change, change, mapTests_mapTests, change]
  refine congrArg _ (funext₂ fun s x => ?_)
  by_cases hx : (s, x.id) ∈ ts
  · simp [hx, hh]
  · simp [hx]

/-- Other targets name what they named. -/
theorem testIn?_change_of_notMem (hh : ∀ x, (h x).id = x.id) (t : TestTree) (hτ : τ ∉ ts) :
    ∀ υ ∈ ts, (t.change [τ] h).testIn? υ = t.testIn? υ := by
  intro υ hυ
  have hne : υ ∉ [τ] := fun hmem => hτ (List.mem_singleton.1 hmem ▸ hυ)
  rw [testIn?_change hh]
  simp [hne]

theorem named_change_of_notMem (hh : ∀ x, (h x).id = x.id) (t : TestTree) (hτ : τ ∉ ts) :
    (t.change [τ] h).named ts = t.named ts :=
  List.filterMap_congr (testIn?_change_of_notMem hh t hτ)

/-- What changed targets name is the change of what they named. -/
theorem named_change (hh : ∀ x, (h x).id = x.id) (t : TestTree) (ts : List TestTarget) :
    (t.change ts h).named ts = (t.named ts).map h := by
  rw [named, named, List.map_filterMap]
  refine List.filterMap_congr fun τ hτ => ?_
  rw [testIn?_change hh]
  simp [hτ]

/-- Targets with distinct ids name tests with distinct ids. -/
theorem nodup_named_ids (hnd : (ts.map Prod.snd).Nodup) : ((t.named ts).map (·.id)).Nodup := by
  refine hnd.sublist ?_
  induction ts with
  | nil => exact .slnil
  | cons τ ts ih =>
      cases hx : t.testIn? τ with
      | none => exact (by simpa [named, hx] using (ih (List.nodup_cons.1 hnd).2).cons τ.2)
      | some x => simpa [named, hx, id_of_testIn? hx] using ih (List.nodup_cons.1 hnd).2

/-- Changing one test and then others is one change. -/
theorem change_change (hh : ∀ x, (h x).id = x.id) (hτ : τ ∉ ts) :
    (t.change [τ] h).change ts h = t.change (τ :: ts) h := by
  rw [change, change, mapTests_mapTests, change]
  refine congrArg _ (funext₂ fun s x => ?_)
  by_cases hx : (s, x.id) = τ
  · simp [hx, hh, hτ]
  · simp [hx]

/-- A target counts for nothing if the change keeps the test that it names. -/
theorem change_cons_of_self (hh : ∀ x, (h x).id = x.id) (hd : t.Distinct [τ]) (hτ : τ ∉ ts)
    (hself : ∀ x, t.testIn? τ = some x → h x = x) : t.change (τ :: ts) h = t.change ts h := by
  have hkeep : t.change [τ] h = t := by
    refine (mapTests_congr fun s c x hc hx => ?_).trans (t.change_nil h)
    rw [if_neg (List.not_mem_nil (a := (s, x.id)))]
    split_ifs with hs
    · obtain rfl := List.mem_singleton.1 hs
      exact hself x (testIn?_of_mem hc (hd _ hs c hc) hx)
    · rfl
  rw [← change_change hh hτ, hkeep]

/-! ### One test at a time -/

/-- Among distinct ids, the position of a test is determined by its id. -/
theorem position_eq_iff {i j : ℕ} {y : Test} (hnd : (c.tests.map (·.id)).Nodup)
    (hx : c.tests[i]? = some x) (hy : c.tests[j]? = some y) : i = j ↔ y.id = x.id := by
  refine ⟨fun hij => ?_, fun hid => ?_⟩
  · subst hij
    rw [Option.some.inj (hx.symm.trans hy)]
  · refine (List.getElem?_inj (l := c.tests.map (·.id)) ?_ hnd).1 (by simp [hx, hy, hid])
    simpa using (List.getElem?_eq_some_iff.1 hx).1

/-- Among distinct ids, changing the test at a position is changing the test with its id. -/
theorem tests_modify {i : ℕ} (hnd : (c.tests.map (·.id)).Nodup) (hx : c.tests[i]? = some x)
    (h : Test → Test) :
    c.modify i h = { c with tests := c.tests.map fun y => if y.id = x.id then h y else y } := by
  refine congrArg (fun tests => { c with tests }) (List.ext_getElem? fun j => ?_)
  rw [List.getElem?_modify, List.getElem?_map]
  cases hy : c.tests[j]? with
  | none => rfl
  | some y =>
      have hij := position_eq_iff hnd hx hy
      by_cases h' : i = j
      · simp [h', hij.1 h']
      · simp [h', mt hij.2 h']

/-- Only what is done to the case of the suite counts for a change of the case. -/
theorem modifyCase_congr {k l : TestCase → TestCase} (h : ∀ c, t.case? s = some c → k c = l c) :
    t.modifyCase s k = t.modifyCase s l := by
  refine ext_node? (fun n => ?_) rfl
  rw [modifyCase, modifyCase, node?_modify, node?_modify]
  split_ifs with hn
  · refine Option.map_congr fun node hnode => ?_
    have hcase : t.case? s = node.kind.case? := by
      rw [case?, ← hn, hnode]
      rfl
    obtain ⟨_, _, kind, _, _⟩ := node
    cases kind with
    | suite c => simp only [h c hcase]
    | group | leaf => rfl
  · rfl

theorem modifyCase_id (t : TestTree) (s : NodeId) : t.modifyCase s id = t := by
  refine ext_node? (fun n => ?_) rfl
  rw [modifyCase, node?_modify]
  split_ifs
  · cases t.node? n with
    | none => rfl
    | some node =>
        obtain ⟨_, _, kind, _, _⟩ := node
        cases kind <;> rfl
  · rfl

/-- Changing the case of one suite is a change of the tests of that suite. -/
theorem modifyCase_eq_mapTests {k : TestCase → TestCase}
    (hk : ∀ c, t.case? s = some c → k c = { c with tests := c.tests.map (f s) })
    (hf : ∀ n ≠ s, ∀ x, f n x = x) : t.modifyCase s k = t.mapTests f := by
  refine ext_node? (fun n => ?_) rfl
  rw [node?_mapTests, modifyCase, node?_modify]
  cases hn : t.node? n with
  | none => simp
  | some node =>
      have hcase : t.case? n = node.kind.case? := by rw [case?, hn]; rfl
      obtain ⟨_, _, kind, _, _⟩ := node
      by_cases hns : n = s
      · subst hns
        cases kind with
        | suite d => simp [NodeKind.mapCase, hk d hcase]
        | group | leaf => simp [NodeKind.mapCase]
      · have hid : f n = id := funext (hf n hns)
        cases kind <;> simp [NodeKind.mapCase, hns, hid]

/-- **Putting a changed test at its place** is the change that its target names. -/
theorem setTestAt_eq_change {i : ℕ} (hd : t.Distinct [(s, x.id)]) (hx : t.testAt? (s, i) = some x)
    (h : Test → Test) : t.setTestAt (s, i) (h x) = t.change [(s, x.id)] h := by
  refine modifyCase_eq_mapTests (fun c hc => ?_) fun n hn y => if_neg (by simp [hn])
  have hnd := hd _ List.mem_cons_self c hc
  rw [testAt?, hc] at hx
  rw [tests_modify hnd hx]
  refine congrArg (fun tests => { c with tests }) (List.map_congr_left fun y hy => ?_)
  by_cases hid : y.id = x.id
  · simp [List.inj_on_of_nodup_map hnd hy (List.mem_of_getElem? hx) hid]
  · simp [hid]

/-- **Changing the first test with an id** is the change that its target names. -/
theorem modifyTest_eq_change (hd : t.Distinct [τ]) (h : Test → Test) :
    t.modifyTest τ h = t.change [τ] h := by
  obtain ⟨s, id⟩ := τ
  refine modifyCase_eq_mapTests (fun c hc => ?_) fun n hn y => if_neg (by simp [hn])
  have hnd := hd _ List.mem_cons_self c hc
  unfold TestCase.modifyTest TestCase.position?
  cases hp : c.tests.findIdx? (·.id == id) with
  | none =>
      have hne : ∀ y ∈ c.tests, ¬ y.id = id := by simpa using hp
      have hmap : (c.tests.map fun y => if (s, y.id) ∈ [(s, id)] then h y else y) = c.tests :=
        (List.map_congr_left fun y hy => by simp [hne y hy]).trans (List.map_id _)
      simp only [hmap]
  | some i =>
      obtain ⟨hi, hid, -⟩ := List.findIdx?_eq_some_iff_getElem.1 hp
      have hx : c.tests[i]? = some c.tests[i] := List.getElem?_eq_getElem hi
      have hid : c.tests[i].id = id := by simpa using hid
      simp only [tests_modify hnd hx, hid, List.mem_singleton, Prod.mk.injEq, true_and]

/-- **Putting a changed test in the place of the one that a target names** is the change that the
target names. -/
theorem setTest_eq_change (hd : t.Distinct [τ]) (hx : t.testIn? τ = some x) (h : Test → Test) :
    t.setTest τ (h x) = t.change [τ] h := by
  rw [setTest, modifyTest_eq_change hd]
  refine mapTests_congr fun s c y hc hy => ?_
  by_cases hτ : (s, y.id) = τ
  · have := testIn?_of_mem hc (hd τ List.mem_cons_self c (hτ ▸ hc)) hy
    rw [hτ, hx] at this
    rw [Option.some.inj this]
  · simp [hτ]

/-- Changing the first test with an id, for several targets, is one change. -/
theorem foldl_modifyTest (hh : ∀ x, (h x).id = x.id) (hd : t.Distinct ts) (hnd : ts.Nodup) :
    ts.foldl (fun t τ => t.modifyTest τ h) t = t.change ts h := by
  induction ts generalizing t with
  | nil => exact (t.change_nil h).symm
  | cons τ ts ih =>
      obtain ⟨hτ, hnd⟩ := List.nodup_cons.1 hnd
      rw [List.foldl_cons, modifyTest_eq_change (hd.mono (by simp)),
        ih ((hd.mono (List.subset_cons_self τ ts)).change hh [τ]) hnd, change_change hh hτ]

end TestTree
end DocExamples
