/-
# Tests by their places

The tests that targets name can be collected from the cases: suite by suite in the order of the
nodes, and in the order of each case (`placed`). When the ids in the suites are distinct, each
target that names a test is met at exactly one place (`perm_placed`), so changing the tests place by
place is the change that the targets name (`foldl_setTestAt`).
-/

import DocExamples.Proofs.Tree.Change
import Mathlib.Data.List.Perm.Lattice
import Mathlib.Data.List.Range

namespace DocExamples
namespace TestTree

variable {t : TestTree} {x : Test} {ts : List TestTarget} {h : Test → Test}
  {p : NodeId × ℕ} {q : (NodeId × ℕ) × Test}

theorem testAt?_eq_some_iff : t.testAt? p = some x ↔
    ∃ c, t.case? p.1 = some c ∧ c.tests[p.2]? = some x := by
  rw [testAt?, Option.bind_eq_some_iff]

/-- Changes the test at a place. -/
def changeAt (t : TestTree) (p : NodeId × ℕ) (f : Test → Test) : TestTree :=
  t.modifyCase p.1 (·.modify p.2 f)

/-- A change at one place leaves the tests at the others. -/
theorem testAt?_changeAt (t : TestTree) (p : NodeId × ℕ) (f : Test → Test) (q : NodeId × ℕ) :
    (t.changeAt p f).testAt? q = if q = p then (t.testAt? q).map f else t.testAt? q := by
  obtain ⟨s, i⟩ := p
  obtain ⟨k, j⟩ := q
  rw [changeAt, testAt?, testAt?, case?_modifyCase]
  by_cases hk : k = s
  · subst hk
    rw [if_pos rfl]
    cases t.case? k with
    | none => simp
    | some c =>
        by_cases hj : i = j
        · subst hj
          simp [TestCase.modify]
        · simp [TestCase.modify, hj, Ne.symm hj]
  · rw [if_neg hk, if_neg (by simp [hk])]

/-- What the changed tree has at a place is the change of what the tree has there. -/
theorem testAt?_change (t : TestTree) (ts : List TestTarget) (h : Test → Test) (p : NodeId × ℕ) :
    (t.change ts h).testAt? p =
      (t.testAt? p).map fun x => if (p.1, x.id) ∈ ts then h x else x := by
  rw [testAt?, testAt?, change, case?_mapTests]
  cases t.case? p.1 with
  | none => rfl
  | some c => exact List.getElem?_map

/-- Putting changed tests at several places is one change. -/
theorem foldl_setTestAt (hh : ∀ x, (h x).id = x.id) {ps : List ((NodeId × ℕ) × Test)}
    (hp : ∀ q ∈ ps, t.testAt? q.1 = some q.2)
    (hd : t.Distinct (ps.map fun q => (q.1.1, q.2.id)))
    (hnd : (ps.map fun q => (q.1.1, q.2.id)).Nodup) :
    ps.foldl (fun t q => t.setTestAt q.1 (h q.2)) t =
      t.change (ps.map fun q => (q.1.1, q.2.id)) h := by
  induction ps generalizing t with
  | nil => exact (t.change_nil h).symm
  | cons q ps ih =>
      obtain ⟨hp₁, hp⟩ := List.forall_mem_cons.1 hp
      obtain ⟨hq, hnd⟩ := List.nodup_cons.1 hnd
      have hsub : ps.map (fun q => (q.1.1, q.2.id)) ⊆ (q :: ps).map fun q => (q.1.1, q.2.id) :=
        List.subset_cons_self _ _
      rw [List.foldl_cons, setTestAt_eq_change (hd.mono (by simp)) hp₁, ih ?_ ?_ hnd,
        List.map_cons, change_change hh hq]
      · intro q' hq'
        have hne : (q'.1.1, q'.2.id) ∉ [(q.1.1, q.2.id)] := fun hmem =>
          hq (List.mem_map.2 ⟨q', hq', List.mem_singleton.1 hmem⟩)
        rw [testAt?_change, hp q' hq', Option.map_some, if_neg hne]
      · exact (hd.mono hsub).change hh _

/-- The tests that targets name, with their places. -/
def placed (t : TestTree) (ts : List TestTarget) : List ((NodeId × ℕ) × Test) :=
  (t.places ts).filterMap fun p => (t.testAt? p).map (p, ·)

/-- The places of a suite are the positions of the tests that are wanted. -/
theorem places_eq (t : TestTree) (ts : List TestTarget) :
    t.places ts = (List.range t.nodes.size).flatMap fun s =>
      ((((t.case? s).map (·.tests)).getD []).zipIdx.filter fun e =>
        ts.contains (s, e.1.id)).map fun e => (s, e.2) := by
  refine List.flatMap_congr fun s _ => ?_
  cases t.case? s with
  | none => rfl
  | some c =>
      rw [← List.filterMap_eq_map, List.filterMap_filter]
      rfl

theorem mem_places_iff : p ∈ t.places ts ↔ ∃ x, t.testAt? p = some x ∧ (p.1, x.id) ∈ ts := by
  simp only [places_eq, List.mem_flatMap, List.mem_range, List.mem_map, List.mem_filter,
    testAt?_eq_some_iff, List.contains_iff_mem]
  constructor
  · rintro ⟨s, -, ⟨x, i⟩, ⟨hx, hmem⟩, rfl⟩
    rw [List.mem_zipIdx_iff_getElem?] at hx
    cases hc : t.case? s with
    | none => simp [hc] at hx
    | some c => exact ⟨x, ⟨c, rfl, by simpa [hc] using hx⟩, hmem⟩
  · rintro ⟨x, ⟨c, hc, hx⟩, hmem⟩
    obtain ⟨_, hkind, -⟩ := Option.bind_eq_some_iff.1 (case?_eq t p.1 ▸ hc)
    refine ⟨p.1, lt_size_of_kind? hkind, (x, p.2), ⟨?_, hmem⟩, rfl⟩
    rw [List.mem_zipIdx_iff_getElem?, hc]
    exact hx

theorem nodup_places (t : TestTree) (ts : List TestTarget) : (t.places ts).Nodup := by
  rw [places_eq]
  refine List.nodup_flatMap.2 ⟨fun s _ => ?_, ?_⟩
  · generalize ((t.case? s).map (·.tests)).getD [] = tests
    have hrange : (tests.zipIdx.map Prod.snd).Nodup := by
      rw [List.zipIdx_map_snd]
      exact List.nodup_range'
    have := (hrange.sublist ((List.filter_sublist (p := fun e => ts.contains (s, e.1.id))).map
      Prod.snd)).map (f := Prod.mk s) fun _ _ => congrArg Prod.snd
    rwa [List.map_map] at this
  · -- places of different suites differ in the suite
    refine List.nodup_range.imp fun {s s'} hne p hs hs' => hne ?_
    obtain ⟨_, -, rfl⟩ := List.mem_map.1 hs
    obtain ⟨_, -, h⟩ := List.mem_map.1 hs'
    exact (congrArg Prod.fst h).symm

theorem mem_placed_iff : q ∈ t.placed ts ↔ t.testAt? q.1 = some q.2 ∧ (q.1.1, q.2.id) ∈ ts := by
  obtain ⟨p, x⟩ := q
  simp only [placed, List.mem_filterMap, mem_places_iff, Option.map_eq_some_iff, Prod.mk.injEq]
  constructor
  · rintro ⟨p, ⟨y, hy, hmem⟩, x, hx, rfl, rfl⟩
    obtain rfl := Option.some.inj (hy.symm.trans hx)
    exact ⟨hx, hmem⟩
  · rintro ⟨hx, hmem⟩
    exact ⟨p, ⟨x, hx, hmem⟩, x, hx, rfl, rfl⟩

/-- No place is met twice. -/
theorem nodup_map_fst_placed (t : TestTree) (ts : List TestTarget) :
    ((t.placed ts).map Prod.fst).Nodup := by
  rw [placed, List.map_filterMap]
  refine (nodup_places t ts).filterMap fun p p' q hq hq' => ?_
  simp only [Option.map_map] at hq hq'
  obtain ⟨_, _, rfl⟩ := Option.map_eq_some_iff.1 hq
  obtain ⟨_, _, h⟩ := Option.map_eq_some_iff.1 hq'
  exact h.symm

/-- **Each target that names a test is met once.** -/
theorem perm_placed (hd : t.Distinct ts) (hnd : ts.Nodup)
    (hsome : ∀ τ ∈ ts, (t.testIn? τ).isSome) :
    ((t.placed ts).map fun q => (q.1.1, q.2.id)).Perm ts := by
  have hplaced : (t.placed ts).Nodup := (nodup_map_fst_placed t ts).of_map
  have hkeys : ((t.placed ts).map fun q => (q.1.1, q.2.id)).Nodup := by
    refine (List.nodup_map_iff_inj_on hplaced).2 ?_
    rintro ⟨⟨s, i⟩, x⟩ hx ⟨⟨s', j⟩, y⟩ hy h
    obtain ⟨rfl, hid⟩ : s = s' ∧ x.id = y.id := Prod.mk.inj h
    obtain ⟨hx, hmem⟩ := mem_placed_iff.1 hx
    obtain ⟨hy, -⟩ := mem_placed_iff.1 hy
    obtain ⟨c, hc, hxi⟩ := testAt?_eq_some_iff.1 hx
    obtain ⟨c', hc', hyj⟩ := testAt?_eq_some_iff.1 hy
    obtain rfl := Option.some.inj (hc.symm.trans hc')
    obtain rfl := (position_eq_iff (hd _ hmem c hc) hxi hyj).2 hid.symm
    exact congrArg _ (Option.some.inj (hxi.symm.trans hyj))
  refine (List.perm_ext_iff_of_nodup hkeys hnd).2 fun τ => ?_
  rw [List.mem_map]
  constructor
  · rintro ⟨q, hq, rfl⟩
    exact (mem_placed_iff.1 hq).2
  · intro hτ
    obtain ⟨x, hx⟩ := Option.isSome_iff_exists.1 (hsome τ hτ)
    obtain ⟨c, hc, hfind⟩ := testIn?_eq_some_iff.1 hx
    obtain ⟨i, hi⟩ := List.getElem?_of_mem (List.mem_of_find?_eq_some hfind)
    have hid := id_of_testIn? hx
    refine ⟨((τ.1, i), x), mem_placed_iff.2 ⟨testAt?_eq_some_iff.2 ⟨c, hc, hi⟩, ?_⟩, ?_⟩
    · rwa [hid]
    · rw [hid]

/-- The tests met at the places are those that the targets name, in another order. -/
theorem map_placed_perm_named (hd : t.Distinct ts) (hnd : ts.Nodup)
    (hsome : ∀ τ ∈ ts, (t.testIn? τ).isSome) :
    ((t.placed ts).map Prod.snd).Perm (t.named ts) := by
  have heq : (t.placed ts).map Prod.snd =
      t.named ((t.placed ts).map fun q => (q.1.1, q.2.id)) := by
    rw [named, List.filterMap_map, ← List.filterMap_eq_map]
    refine List.filterMap_congr fun q hq => ?_
    obtain ⟨hq, hmem⟩ := mem_placed_iff.1 hq
    obtain ⟨c, hc, hi⟩ := testAt?_eq_some_iff.1 hq
    exact (testIn?_of_mem hc (hd _ hmem c hc) (List.mem_of_getElem? hi)).symm
  rw [heq]
  exact (perm_placed hd hnd hsome).filterMap _

end TestTree
end DocExamples
