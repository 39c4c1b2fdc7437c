/-
# The index of the tests below the root

The index tells for a test id which suite owns the test. It is kept up when nodes are attached and
detached, and it is not touched when a case is edited. So for each suite below the root it lists
the ids that the suite brought there (`Lists`). As long as no case is edited while its suite is
below the root, these are the ids of its tests (`Indexed`), and as no id is listed twice, counting
the index counts the tests (`index_perform`).
-/

import DocExamples.Proofs.Tree.Operation
import DocExamples.Proofs.Tree.Preorder
import Mathlib.Data.List.Pairwise

namespace DocExamples
namespace TestTree

variable {t u r : TestTree} {a c k n p s : NodeId} {id : String} {m : NodeId → List String}

/-- The ids of the tests of a suite. -/
def ids (t : TestTree) (s : NodeId) : List String :=
  ((t.case? s).map fun c => c.tests.map (·.id)).getD []

theorem ids_congr (h : u.kind? s = t.kind? s) : u.ids s = t.ids s := by
  rw [ids, ids, case?_eq, case?_eq, h]

theorem mem_ids_iff : id ∈ t.ids s ↔ ∃ c, t.case? s = some c ∧ ∃ x ∈ c.tests, x.id = id := by
  unfold ids
  cases t.case? s <;> simp

theorem isSuite_of_mem_ids (h : id ∈ t.ids s) : ∃ c, t.kind? s = some (.suite c) := by
  obtain ⟨c, hc, -⟩ := mem_ids_iff.1 h
  exact isSome_case?_iff.1 (Option.isSome_of_eq_some hc)

/-- An edit that keeps the ids of the case, or is elsewhere, keeps the ids of a suite. -/
theorem ids_modifyCase {f : TestCase → TestCase}
    (h : k = s → ∀ c, (f c).tests.map (·.id) = c.tests.map (·.id)) :
    (t.modifyCase s f).ids k = t.ids k := by
  rw [ids, ids, case?_modifyCase]
  split_ifs with hk
  · cases t.case? k with
    | none => rfl
    | some c => exact h hk c
  · rfl

/-- Attaching a node leaves the ids of the suites. -/
theorem ids_addChild (t : TestTree) (p c s : NodeId) : (t.addChild p c).2.ids s = t.ids s := by
  obtain ⟨e, h⟩ | ⟨-, r, hr, h⟩ := t.addChild_cases p c
  · rw [h]
  · have hkind : r.kind? s = t.kind? s := by
      unfold listed at hr
      split_ifs at hr
      · obtain ⟨-, -, rfl⟩ := register_eq_ok_iff.1 hr
        rfl
      · rw [Except.ok.inj hr]
    rw [h]
    exact ids_congr ((kind?_link r p c s).trans hkind)

/-- Detaching a node leaves the ids of the suites. -/
theorem ids_removeChild (t : TestTree) (p c s : NodeId) :
    (t.removeChild p c).2.ids s = t.ids s := by
  obtain ⟨e, h⟩ | ⟨-, h⟩ := t.removeChild_cases p c
  · rw [h]
  · rw [h]
    refine ids_congr ((kind?_unlink _ p c s).trans ?_)
    split_ifs <;> rfl

theorem map_fst_owned (t : TestTree) (n : NodeId) :
    (t.owned n).map Prod.fst = (t.suites n).flatMap t.ids := by
  unfold owned ids
  rw [List.map_flatMap]
  refine List.flatMap_congr fun s _ => ?_
  cases t.case? s <;> simp

theorem map_id_tests (t : TestTree) : t.tests.map (·.id) = (t.suites root).flatMap t.ids := by
  unfold tests ids
  rw [List.map_flatMap]
  refine List.flatMap_congr fun s _ => ?_
  cases t.case? s <;> simp

/-- **The index mirrors what is below the root.** It has an entry for exactly the tests of the
suites below the root, and no case below the root has two tests with one id. -/
structure Indexed (t : TestTree) : Prop where
  getElem?_iff : ∀ (id : String) (s : NodeId),
    t.index[id]? = some s ↔ t.Below root s ∧ id ∈ t.ids s
  nodup_ids : ∀ s, t.Below root s → (t.ids s).Nodup

/-- **The index lists ids.** It has an entry for exactly the ids that `m` has for the suites below
the root, and `m` has no id twice for one of them. -/
structure Lists (t : TestTree) (m : NodeId → List String) : Prop where
  getElem?_iff : ∀ (id : String) (s : NodeId), t.index[id]? = some s ↔ t.Below root s ∧ id ∈ m s
  nodup : ∀ s, t.Below root s → (m s).Nodup

/-- A mirror lists the ids of the tests. -/
theorem indexed_iff_lists : t.Indexed ↔ t.Lists t.ids :=
  ⟨fun h => ⟨h.getElem?_iff, h.nodup_ids⟩, fun h => ⟨h.getElem?_iff, h.nodup⟩⟩

namespace Lists

variable (hl : t.Lists m)
include hl

/-- Only the ids for what is below the root count. -/
theorem congr {m' : NodeId → List String} (hm : ∀ s, t.Below root s → m' s = m s) :
    t.Lists m' where
  getElem?_iff id s := by
    rw [hl.getElem?_iff]
    exact and_congr_right fun h => by rw [hm s h]
  nodup s h := hm s h ▸ hl.nodup s h

/-- A change that keeps the parents and the index keeps what is listed. -/
theorem of_eq (hp : ∀ k, u.parent? k = t.parent? k) (hx : u.index = t.index) : u.Lists m where
  getElem?_iff id s := by rw [hx, hl.getElem?_iff, below_congr hp]
  nodup s h := hl.nodup s ((below_congr hp).1 h)

/-- Only a suite has ids that are listed. -/
theorem isSuite (ht : t.Forest) (hs : t.Below root s) (hid : id ∈ m s) :
    ∃ c, t.kind? s = some (.suite c) :=
  ht.kind?_index id s ((hl.getElem?_iff id s).2 ⟨hs, hid⟩)

end Lists

theorem indexed_empty : empty.Indexed where
  getElem?_iff id s := by
    have : empty.ids s = [] := by cases s <;> rfl
    rw [this]
    simp [empty]
  nodup_ids s _ := by
    have : empty.ids s = [] := by cases s <;> rfl
    exact this ▸ List.nodup_nil

/-- A change that keeps the parents, the index and the ids below the root keeps the mirror. -/
theorem Indexed.of_eq (hi : t.Indexed) (hp : ∀ m, u.parent? m = t.parent? m)
    (hx : u.index = t.index) (hs : ∀ s, t.Below root s → u.ids s = t.ids s) : u.Indexed :=
  indexed_iff_lists.2 (((indexed_iff_lists.1 hi).of_eq hp hx).congr fun s h =>
    hs s ((below_congr hp).1 h))

/-- What is listed after an operation: the ids that are listed already for what is below the root,
and the ids that all other suites have. -/
def entry (t : TestTree) (m : NodeId → List String) (s : NodeId) : List String :=
  if t.isReachable s then m s else t.ids s

theorem entry_ids (t : TestTree) (s : NodeId) : t.entry t.ids s = t.ids s := ite_self _

namespace Forest

variable (ht : t.Forest)
include ht

theorem lt_size_of_below_root (h : t.Below root s) : s < t.nodes.size :=
  (ht.lt_size_iff_of_below h).1 ht.root_lt_size

theorem mem_owned_iff (hn : n < t.nodes.size) :
    (id, s) ∈ t.owned n ↔ t.Below n s ∧ id ∈ t.ids s := by
  rw [TestTree.mem_owned_iff, ht.mem_suites_iff]
  constructor
  · rintro ⟨⟨⟨-, hb⟩, -⟩, c, hc, hid⟩
    refine ⟨hb, ?_⟩
    rwa [ids, case?_eq, hc]
  · rintro ⟨hb, hid⟩
    obtain ⟨c, hc⟩ := isSuite_of_mem_ids hid
    rw [ids, case?_eq, hc] at hid
    exact ⟨⟨⟨hn, hb⟩, c, hc⟩, c, hc, hid⟩

/-- A node with ids is a suite. -/
theorem mem_suites_of_mem_ids (hn : n < t.nodes.size) (hs : t.Below n s) (hid : id ∈ t.ids s) :
    s ∈ t.suites n :=
  ht.mem_suites_iff.2 ⟨⟨hn, hs⟩, isSuite_of_mem_ids hid⟩

/-- If the ids of several suites are distinct, so are those of each of them. -/
theorem nodup_ids_of_nodup_flatMap (hn : n < t.nodes.size)
    (hnd : ((t.suites n).flatMap t.ids).Nodup) (hs : t.Below n s) : (t.ids s).Nodup := by
  by_cases hsuite : s ∈ t.suites n
  · exact (List.nodup_flatMap.1 hnd).1 s hsuite
  · have hnil : t.ids s = [] := List.eq_nil_iff_forall_not_mem.2 fun _ hid =>
      hsuite (ht.mem_suites_of_mem_ids hn hs hid)
    exact hnil ▸ List.nodup_nil

/-- If the ids of several suites are distinct, no id is in two of them. -/
theorem suite_eq_of_nodup_flatMap {s' : NodeId} (hn : n < t.nodes.size)
    (hnd : ((t.suites n).flatMap t.ids).Nodup) (hs : t.Below n s) (hs' : t.Below n s')
    (hid : id ∈ t.ids s) (hid' : id ∈ t.ids s') : s = s' := by
  have hsymm : Std.Symm (Function.onFun List.Disjoint t.ids) :=
    ⟨fun _ _ h => List.disjoint_symm h⟩
  by_contra hne
  have hdisjoint := (List.nodup_flatMap.1 hnd).2.forall (ht.mem_suites_of_mem_ids hn hs hid)
    (ht.mem_suites_of_mem_ids hn hs' hid') hne
  exact hdisjoint hid hid'

theorem indexed_push (hi : t.Indexed) (key name : String) (kind : NodeKind) :
    (t.push key name kind).2.Indexed :=
  hi.of_eq (parent?_push t key name kind) rfl fun s hs =>
    ids_congr (by rw [kind?_push, if_neg (Nat.ne_of_lt (ht.lt_size_of_below_root hs))])

/-- What is below the root after a link has been taken away. -/
theorem below_root_unlink (h : t.parent? c = some p) :
    (t.unlink p c).Below root s ↔ t.Below root s ∧ ¬ t.Below c s := by
  have hc := lt_size_of_parent? h
  have hcut : (t.unlink p c).parent? c = none := by rw [parent?_unlink hc, if_pos rfl]
  have hroot : (t.unlink p c).parent? root = none := by
    rw [parent?_unlink hc, ht.root_parent?, ite_self]
  have hgraft : ∀ m, t.parent? m = if m = c then some p else (t.unlink p c).parent? m := by
    intro m
    rw [parent?_unlink hc]
    split_ifs with hm
    · rw [hm, h]
    · rfl
  rw [below_graft_iff hcut hgraft, below_graft_iff (a := c) hcut hgraft]
  constructor
  · refine fun hr => ⟨Or.inl hr, fun hcs => ?_⟩
    have hcs := hcs.elim id And.left
    have hrc : root = c := (below_total hr hcs).elim (fun hb => hb.eq_of_parent?_eq_none hroot)
      fun hb => (hb.eq_of_parent?_eq_none hcut).symm
    exact absurd hrc.symm (ht.ne_root_of_parent? h)
  · rintro ⟨hr | hr, hcs⟩
    · exact hr
    · exact absurd (Or.inl hr.1) hcs

omit ht in
/-- A tree with a new link lists ids if its index has those of what was below the root and, in case
the link leads to the root, of what is below the new child. -/
theorem lists_link {index : Std.ExtTreeMap String NodeId} (hc : c < t.nodes.size)
    (hn : t.parent? c = none)
    (hx : ∀ (id : String) (s : NodeId), index[id]? = some s ↔
      (t.Below root s ∨ t.Below c s ∧ t.Below root p) ∧ id ∈ m s)
    (hd : ∀ s, t.Below root s ∨ t.Below c s ∧ t.Below root p → (m s).Nodup) :
    (({ t with index } : TestTree).link p c).Lists m := by
  have hb : ∀ s, (({ t with index } : TestTree).link p c).Below root s ↔
      t.Below root s ∨ t.Below c s ∧ t.Below root p := fun s =>
    below_graft_iff hn (parent?_link (t := { t with index }) hc p)
  refine ⟨fun id s => ?_, fun s h => hd s ((hb s).1 h)⟩
  rw [hb]
  exact hx id s

/-- A tree without a link lists ids if its index has those of what was below the root and is not
below the old child. -/
theorem lists_unlink {index : Std.ExtTreeMap String NodeId} (hl : t.Lists m)
    (hp : t.parent? c = some p)
    (hx : ∀ (id : String) (s : NodeId), index[id]? = some s ↔
      (t.Below root s ∧ ¬ t.Below c s) ∧ id ∈ m s) :
    (({ t with index } : TestTree).unlink p c).Lists m := by
  have hb : ∀ s, (({ t with index } : TestTree).unlink p c).Below root s ↔
      t.Below root s ∧ ¬ t.Below c s := fun s => ht.below_root_unlink hp
  refine ⟨fun id s => ?_, fun s h => hl.nodup s ((hb s).1 h).1⟩
  rw [hb]
  exact hx id s

theorem entry_of_below (h : t.Below root s) : t.entry m s = m s := if_pos (ht.isReachable_iff.2 h)

theorem entry_of_not_below (h : ¬ t.Below root s) : t.entry m s = t.ids s :=
  if_neg (mt ht.isReachable_iff.1 h)

/-- The entries after the tests that a node brings are listed, where they have to be. -/
theorem getElem?_listed_iff (hc : c < t.nodes.size) (hr : t.listed p c = .ok r) :
    r.index[id]? = some s ↔
      t.index[id]? = some s ∨ t.Below root p ∧ t.Below c s ∧ id ∈ t.ids s := by
  unfold TestTree.listed at hr
  split_ifs at hr with hp
  · obtain ⟨hnd, hnew, rfl⟩ := register_eq_ok_iff.1 hr
    have hold : t.index[id]? = some s → id ∉ (t.owned c).map Prod.fst := by
      intro h hid
      refine hnew id hid ?_
      rw [Std.ExtTreeMap.mem_iff_isSome_getElem?, h]
      rfl
    rw [Keyed.getElem?_insertMany_eq_some_iff hnd, ht.mem_owned_iff hc, and_iff_right_of_imp hold,
      and_iff_right (ht.isReachable_iff.1 hp), or_comm]
  · obtain rfl := Except.ok.inj hr
    exact (or_iff_left fun h => hp (ht.isReachable_iff.2 h.1)).symm

/-- The entries after the tests from a node down are taken out. -/
theorem getElem?_deregister_iff (hc : c < t.nodes.size) :
    (t.deregister c).index[id]? = some s ↔ t.index[id]? = some s ∧ ¬ t.Below c s := by
  rw [TestTree.deregister, Std.ExtTreeMap.getElem?_filter', Option.filter_eq_some_iff]
  refine and_congr_right fun h => ?_
  rw [Bool.not_eq_true', ← Bool.not_eq_true, List.contains_iff_mem, not_iff_not,
    ht.mem_suites_iff, and_iff_left (ht.kind?_index id s h), and_iff_right hc]

/-- **Attaching** lists the ids of the suites that come below the root, as they are then. -/
theorem lists_addChild (hl : t.Lists m) (p c : NodeId) :
    (t.addChild p c).2.Lists (t.entry m) := by
  obtain ⟨e, h⟩ | ⟨hcheck, r, hr, h⟩ := t.addChild_cases p c
  · rw [h]
    exact hl.congr fun s hs => ht.entry_of_below hs
  obtain ⟨-, hc, hn, hroot, -⟩ := ht.checkLink_eq_ok_iff.1 hcheck
  -- what the child brings was not below the root
  have hapart : ∀ {s}, t.Below c s → ¬ t.Below root s := by
    intro s hcs hs
    obtain h | h := below_total hs hcs
    · exact hroot (h.eq_of_parent?_eq_none ht.root_parent?).symm
    · exact hroot (h.eq_of_parent?_eq_none hn)
  have hnodes : r = { t with index := r.index } := by
    obtain ⟨nodes, index⟩ := r
    obtain rfl : nodes = t.nodes := (ht.listed hr).2
    rfl
  rw [h, hnodes]
  refine lists_link hc hn (fun id s => ?_) fun s hs => ?_
  · rw [ht.getElem?_listed_iff hc hr, hl.getElem?_iff]
    by_cases hs : t.Below root s
    · have hcs : ¬ t.Below c s := fun h => hapart h hs
      rw [ht.entry_of_below hs]
      simp [hs, hcs]
    · rw [ht.entry_of_not_below hs]
      simp only [hs, false_and, false_or, and_left_comm, and_assoc]
  · obtain hs | ⟨hs, hp⟩ := hs
    · rw [ht.entry_of_below hs]
      exact hl.nodup s hs
    · rw [ht.entry_of_not_below (hapart hs)]
      rw [TestTree.listed, if_pos (ht.isReachable_iff.2 hp)] at hr
      obtain ⟨hnd, -, -⟩ := register_eq_ok_iff.1 hr
      exact ht.nodup_ids_of_nodup_flatMap hc (map_fst_owned t c ▸ hnd) hs

/-- **Detaching** lists what it listed, apart from what is not below the root any more. -/
theorem lists_removeChild (hl : t.Lists m) (p c : NodeId) : (t.removeChild p c).2.Lists m := by
  obtain ⟨e, h⟩ | ⟨hp, h⟩ := t.removeChild_cases p c
  · exact h ▸ hl
  rw [h]
  split_ifs with hr
  · refine ht.lists_unlink hl hp fun id s => ?_
    refine (ht.getElem?_deregister_iff (lt_size_of_parent? hp)).trans ?_
    rw [hl.getElem?_iff]
    exact and_right_comm
  · rw [ht.isReachable_iff] at hr
    refine ht.lists_unlink hl hp fun id s => ?_
    rw [hl.getElem?_iff]
    refine and_congr_left fun _ => (and_iff_left_of_imp fun hs hcs => hr ?_).symm
    have hne := ht.ne_root_of_parent? hp
    obtain h | h := below_total hs hcs
    · exact absurd (h.eq_of_parent?_eq_none ht.root_parent?).symm hne
    · exact h.of_parent? hne hp

/-- **Attaching keeps the mirror.** -/
theorem indexed_addChild (hi : t.Indexed) (p c : NodeId) : (t.addChild p c).2.Indexed := by
  have hl := ht.lists_addChild (indexed_iff_lists.1 hi) p c
  exact indexed_iff_lists.2 (hl.congr fun s _ => (ids_addChild t p c s).trans (t.entry_ids s).symm)

/-- **Detaching keeps the mirror.** -/
theorem indexed_removeChild (hi : t.Indexed) (p c : NodeId) : (t.removeChild p c).2.Indexed := by
  have hl := ht.lists_removeChild (indexed_iff_lists.1 hi) p c
  exact indexed_iff_lists.2 (hl.congr fun s _ => ids_removeChild t p c s)

end Forest

theorem map_id_modify (c : TestCase) (i : ℕ) {f : Test → Test} (hf : ∀ x, (f x).id = x.id) :
    (c.modify i f).tests.map (·.id) = c.tests.map (·.id) := by
  refine List.ext_getElem? fun j => ?_
  rw [TestCase.modify, List.getElem?_map, List.getElem?_map, List.getElem?_modify]
  cases c.tests[j]? with
  | none => rfl
  | some x => by_cases h : i = j <;> simp [h, hf]

/-- Whether every case that is edited belongs to a suite that is not below the root then. -/
def EditsApart : TestTree → List TreeOp → Prop
  | _, [] => True
  | t, op :: ops =>
    (∀ s f, op = .editCase s f → ¬ t.Below root s) ∧ EditsApart (t.apply op) ops

/-- **Every operation keeps the mirror**, unless it edits the case of a suite below the root. -/
theorem Indexed.apply (ht : t.Forest) (hi : t.Indexed) (op : TreeOp)
    (hop : ∀ s f, op = .editCase s f → ¬ t.Below root s) : (t.apply op).Indexed := by
  cases op with
  | createGroup key name => exact ht.indexed_push hi _ _ _
  | createSuite name c => exact ht.indexed_push hi _ _ _
  | createLeaf s id =>
      obtain ⟨e, h⟩ | ⟨c, x, -, -, h⟩ := t.createLeaf_cases s id
      · rw [TestTree.apply, h]
        exact hi
      · rw [TestTree.apply, h]
        exact ht.indexed_push hi _ _ _
  | addChild p c => exact ht.indexed_addChild hi p c
  | removeChild p c => exact ht.indexed_removeChild hi p c
  | clear => exact indexed_empty
  | reset =>
      have hids : ∀ c : TestCase, c.reset.tests.map (·.id) = c.tests.map (·.id) := fun c => by
        simp [TestCase.reset, Test.reset]
      exact List.foldlRecOn _ _ hi fun t hi s _ =>
        hi.of_eq (parent?_modifyCase t s _) rfl fun _ _ => ids_modifyCase fun _ => hids
  | changeTest s i op =>
      exact hi.of_eq (parent?_modifyCase t s _) rfl fun _ _ =>
        ids_modifyCase fun _ c => map_id_modify c i op.id_apply
  | editCase s f =>
      exact hi.of_eq (parent?_modifyCase t s f) rfl fun k hk =>
        ids_modifyCase fun h => absurd (h ▸ hk) (hop s f rfl)

/-- Operations that edit cases apart from the root keep the mirror. -/
theorem Indexed.perform (ht : t.Forest) (hi : t.Indexed) {ops : List TreeOp}
    (h : t.EditsApart ops) : (t.perform ops).Indexed := by
  induction ops generalizing t with
  | nil => exact hi
  | cons op ops ih => exact ih (ht.apply op) (hi.apply ht op h.1) h.2

namespace Lists

variable (ht : t.Forest) (hl : t.Lists m)
include ht hl

/-- What is listed has an entry. -/
theorem mem_index_iff : id ∈ t.index ↔ id ∈ (t.suites root).flatMap m := by
  rw [Std.ExtTreeMap.mem_iff_isSome_getElem?, Option.isSome_iff_exists, List.mem_flatMap]
  refine exists_congr fun s => ?_
  rw [hl.getElem?_iff, ht.mem_suites_iff, and_iff_right ht.root_lt_size]
  exact ⟨fun h => ⟨⟨h.1, hl.isSuite ht h.1 h.2⟩, h.2⟩, fun h => ⟨h.1.1, h.2⟩⟩

/-- No id is listed twice. -/
theorem nodup_flatMap : ((t.suites root).flatMap m).Nodup := by
  rw [List.nodup_flatMap]
  have hroot : ∀ {s}, s ∈ t.suites root → t.Below root s := fun h => (ht.mem_suites_iff.1 h).1.2
  refine ⟨fun s hs => hl.nodup s (hroot hs), (ht.nodup_suites root).imp_of_mem ?_⟩
  intro s₁ s₂ h₁ h₂ hne id hid₁ hid₂
  exact hne (Option.some.inj (((hl.getElem?_iff id s₁).2 ⟨hroot h₁, hid₁⟩).symm.trans
    ((hl.getElem?_iff id s₂).2 ⟨hroot h₂, hid₂⟩)))

/-- The index has one entry for each id that is listed. -/
theorem testCount_eq : t.testCount = ((t.suites root).flatMap m).length := by
  have hperm : t.index.keys.Perm ((t.suites root).flatMap m) :=
    (List.perm_ext_iff_of_nodup Std.ExtTreeMap.nodup_keys (hl.nodup_flatMap ht)).2 fun id => by
      rw [Std.ExtTreeMap.mem_keys, hl.mem_index_iff ht]
  rw [testCount, ← Std.ExtTreeMap.length_keys, hperm.length_eq]

end Lists

namespace Indexed

variable (hi : t.Indexed)
include hi

/-- A test of a suite below the root is found in one suite and at one position only. -/
theorem place_unique {s₁ s₂ : NodeId} {c₁ c₂ : TestCase} {i j : ℕ} {x y : Test}
    (h₁ : t.Below root s₁) (h₂ : t.Below root s₂) (hc₁ : t.case? s₁ = some c₁)
    (hc₂ : t.case? s₂ = some c₂) (hx : c₁.tests[i]? = some x) (hy : c₂.tests[j]? = some y)
    (h : x.id = y.id) : s₁ = s₂ ∧ i = j := by
  have hx₁ : x.id ∈ t.ids s₁ := mem_ids_iff.2 ⟨c₁, hc₁, x, List.mem_of_getElem? hx, rfl⟩
  have hy₂ : x.id ∈ t.ids s₂ := mem_ids_iff.2 ⟨c₂, hc₂, y, List.mem_of_getElem? hy, h.symm⟩
  have hs : s₁ = s₂ := Option.some.inj
    (((hi.getElem?_iff _ _).2 ⟨h₁, hx₁⟩).symm.trans ((hi.getElem?_iff _ _).2 ⟨h₂, hy₂⟩))
  subst hs
  obtain rfl : c₁ = c₂ := Option.some.inj (hc₁.symm.trans hc₂)
  have hnd := hi.nodup_ids s₁ h₁
  rw [ids, hc₁] at hnd
  refine ⟨rfl, (List.getElem?_inj ?_ hnd).1 ?_⟩
  · simpa using (List.getElem?_eq_some_iff.1 hx).1
  · simp [hx, hy, h]

variable (ht : t.Forest)
include ht

/-- The ids of the tests below the root are those of the index. -/
theorem mem_index_iff : id ∈ t.index ↔ id ∈ t.tests.map (·.id) := by
  rw [map_id_tests]
  exact (indexed_iff_lists.1 hi).mem_index_iff ht

/-- The tests below the root have distinct ids. -/
theorem nodup_tests : (t.tests.map (·.id)).Nodup := by
  rw [map_id_tests]
  exact (indexed_iff_lists.1 hi).nodup_flatMap ht

/-- The index has one entry for each test below the root. -/
theorem testCount_eq : t.testCount = t.tests.length := by
  rw [(indexed_iff_lists.1 hi).testCount_eq ht, ← map_id_tests, List.length_map]

/-- The tests that are found by their ids are those below the root. -/
theorem isSome_test?_iff : (t.test? id).isSome = true ↔ ∃ x ∈ t.tests, x.id = id := by
  rw [← List.mem_map, ← hi.mem_index_iff ht, Std.ExtTreeMap.mem_iff_isSome_getElem?, test?, target?]
  cases h : t.index[id]? with
  | none => simp
  | some s =>
      obtain ⟨c, hc, x, hx, hid⟩ := mem_ids_iff.1 ((hi.getElem?_iff id s).1 h).2
      simp only [Option.map_some, Option.bind_some, testIn?, hc, Option.isSome_some, iff_true]
      exact List.find?_isSome.2 ⟨x, hx, by simp [hid]⟩

end Indexed

/-- **The index of every tree that operations make**, when cases are edited apart from the root: it
has an entry for exactly the tests of the suites below the root; no id comes twice among them; so
the size of the index is their number, and the tests found by their ids are these tests. -/
theorem index_perform (ops : List TreeOp) (h : empty.EditsApart ops) :
    let t := empty.perform ops
    (∀ (id : String) (s : NodeId), t.index[id]? = some s ↔
        t.Below root s ∧ ∃ c, t.case? s = some c ∧ ∃ x ∈ c.tests, x.id = id) ∧
      (∀ (s₁ s₂ : NodeId) (c₁ c₂ : TestCase) (i j : ℕ) (x y : Test), t.Below root s₁ →
        t.Below root s₂ → t.case? s₁ = some c₁ → t.case? s₂ = some c₂ → c₁.tests[i]? = some x →
          c₂.tests[j]? = some y → x.id = y.id → s₁ = s₂ ∧ i = j) ∧
      (t.tests.map (·.id)).Nodup ∧ t.testCount = t.tests.length ∧
      ∀ id, (t.test? id).isSome = true ↔ ∃ x ∈ t.tests, x.id = id := by
  intro t
  have ht : t.Forest := forest_perform ops
  have hi : t.Indexed := indexed_empty.perform forest_empty h
  refine ⟨fun id s => ?_, fun _ _ _ _ _ _ _ _ => hi.place_unique, hi.nodup_tests ht,
    hi.testCount_eq ht, fun id => hi.isSome_test?_iff ht⟩
  rw [hi.getElem?_iff, mem_ids_iff]

/-- The hypothesis of `index_perform` is satisfiable: a suite in a group gets a test before the
group is attached to the root, and a test starts afterwards. -/
theorem index_perform_edit_before_attach :
    let ops : List TreeOp := [.createSuite "s" { id := "a", name := "a" }, .createGroup "g" "g",
      .addChild 2 1, .editCase 1 (·.add (.make "a:1:0" "one" "1")), .addChild 0 2,
      .changeTest 1 0 .start]
    empty.EditsApart ops ∧ (empty.perform ops).testCount = (empty.perform ops).tests.length := by
  intro ops
  have h : empty.EditsApart ops := by
    refine ⟨nofun, nofun, nofun, fun s f hs => ?_, nofun, nofun, trivial⟩
    obtain ⟨rfl, -⟩ := TreeOp.editCase.inj hs
    exact fun hb => absurd ((forest_perform (ops.take 3)).isReachable_iff.2 hb) (by decide)
  exact ⟨h, (index_perform ops h).2.2.2.1⟩

end TestTree
end DocExamples
