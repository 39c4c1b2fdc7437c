/-
# Attaching and detaching

What it takes to attach a node and to detach one, and what the tree is afterwards. Both operations
leave the tree as it is when they are refused. The tests that an attached node brings are listed
only if the group is below the root, and only if their ids differ from one another and from the
listed ones (`register_eq_ok_iff`).
-/

import DocExamples.Proofs.Keyed
import DocExamples.Proofs.Tree.Forest

namespace DocExamples
namespace TestTree

variable {t r : TestTree} {c p s n : NodeId} {id : String}

/-- A list has no duplicate if its ids are new and pairwise distinct. -/
theorem firstDuplicate?_eq_none_iff {known : String → Bool} {seen ids : List String} :
    firstDuplicate? known seen ids = none ↔
      ids.Nodup ∧ ∀ id ∈ ids, known id = false ∧ id ∉ seen := by
  induction ids generalizing seen with
  | nil => simp [firstDuplicate?]
  | cons id rest ih =>
      rw [firstDuplicate?]
      split_ifs with h
      · simp only [Bool.or_eq_true, List.contains_iff_mem] at h
        refine iff_of_false (by simp) fun hn => ?_
        have := hn.2 id List.mem_cons_self
        rcases h with h | h
        · exact absurd h (by simp [this.1])
        · exact this.2 h
      · simp only [Bool.or_eq_true, List.contains_iff_mem, not_or, Bool.not_eq_true] at h
        rw [ih, List.nodup_cons, List.forall_mem_cons]
        constructor
        · rintro ⟨hnd, hrest⟩
          exact ⟨⟨fun hm => (hrest id hm).2 List.mem_cons_self, hnd⟩, h,
            fun x hx => ⟨(hrest x hx).1, fun hs => (hrest x hx).2 (List.mem_cons_of_mem _ hs)⟩⟩
        · rintro ⟨⟨hid, hnd⟩, -, hrest⟩
          refine ⟨hnd, fun x hx => ⟨(hrest x hx).1, fun hs => ?_⟩⟩
          obtain rfl | hs := List.mem_cons.1 hs
          · exact hid hx
          · exact (hrest x hx).2 hs

/-- Tests are listed if their ids differ from one another and from the listed ones. -/
theorem register_eq_ok_iff : t.register n = .ok r ↔
    ((t.owned n).map Prod.fst).Nodup ∧ (∀ id ∈ (t.owned n).map Prod.fst, id ∉ t.index) ∧
      r = { t with index := t.index.insertMany (t.owned n) } := by
  have hnone := @firstDuplicate?_eq_none_iff t.index.contains [] ((t.owned n).map Prod.fst)
  simp only [List.not_mem_nil, not_false_eq_true, and_true, ← Bool.not_eq_true,
    ← Std.ExtTreeMap.mem_iff_contains] at hnone
  rw [register]
  cases h : firstDuplicate? t.index.contains [] ((t.owned n).map Prod.fst) with
  | none =>
      obtain ⟨hnd, hnew⟩ := hnone.1 h
      exact ⟨fun hr => ⟨hnd, hnew, (Except.ok.inj hr).symm⟩, fun hr => congrArg _ hr.2.2.symm⟩
  | some id =>
      refine iff_of_false (by simp) fun hr => ?_
      rw [hnone.2 ⟨hr.1, hr.2.1⟩] at h
      cases h

/-- A suite is listed with an id exactly if it is found and owns a test with the id. -/
theorem mem_owned_iff : (id, s) ∈ t.owned n ↔
    s ∈ t.suites n ∧ ∃ c, t.kind? s = some (.suite c) ∧ id ∈ c.tests.map (·.id) := by
  simp only [owned, List.mem_flatMap]
  constructor
  · rintro ⟨k, hk, h⟩
    cases hc : t.case? k with
    | none => simp [hc] at h
    | some c =>
        simp only [hc, Option.map_some, Option.getD_some, List.mem_map, Prod.mk.injEq] at h
        obtain ⟨x, hx, rfl, rfl⟩ := h
        obtain ⟨d, hd⟩ := isSome_case?_iff.1 (Option.isSome_of_eq_some hc)
        rw [case?_eq, hd] at hc
        obtain rfl := Option.some.inj hc
        exact ⟨hk, d, hd, List.mem_map_of_mem hx⟩
  · rintro ⟨hs, c, hc, hid⟩
    obtain ⟨x, hx, rfl⟩ := List.mem_map.1 hid
    refine ⟨s, hs, ?_⟩
    rw [case?_eq, hc]
    exact List.mem_map_of_mem hx

/-- Which links may be made. -/
theorem checkLink_eq_ok_iff : t.checkLink p c = .ok () ↔
    t.kind? p = some .group ∧ c < t.nodes.size ∧ t.parent? c = none ∧ c ≠ root ∧ p ≠ c ∧
      c ∉ t.ancestors p := by
  unfold checkLink kind? parent?
  cases hp : t.node? p with
  | none => simp
  | some pn =>
      cases hk : pn.kind with
      | suite | leaf => simp [hk, NodeKind.isGroup]
      | group =>
          cases hc : t.node? c with
          | none =>
              have : ¬ c < t.nodes.size := by
                simpa [node?] using hc
              simp [hk, NodeKind.isGroup, this]
          | some cn =>
              have : c < t.nodes.size := (Array.getElem?_eq_some_iff.1 hc).1
              by_cases h₁ : c = root <;> cases h₂ : cn.parent <;> by_cases h₃ : p = c <;>
                by_cases h₄ : c ∈ t.ancestors p <;>
                simp [hk, NodeKind.isGroup, this, h₁, h₂, h₃, h₄]

/-- The tests that `c` brings, listed if `p` is below the root. -/
def listed (t : TestTree) (p c : NodeId) : Except TreeError TestTree :=
  if t.isReachable p then t.register c else .ok t

/-- Attaching is refused without a trace, or it makes a link that may be made. -/
theorem addChild_cases (t : TestTree) (p c : NodeId) :
    (∃ e, t.addChild p c = (.error e, t)) ∨
      t.checkLink p c = .ok () ∧ ∃ r, t.listed p c = .ok r ∧
        t.addChild p c = (.ok (), r.link p c) := by
  unfold addChild listed
  cases t.checkLink p c with
  | error e => exact Or.inl ⟨e, rfl⟩
  | ok _ =>
      cases if t.isReachable p then t.register c else .ok t with
      | error e => exact Or.inl ⟨e, rfl⟩
      | ok r => exact Or.inr ⟨rfl, r, rfl, rfl⟩

/-- Detaching is refused without a trace, or it takes the link to the parent away. -/
theorem removeChild_cases (t : TestTree) (p c : NodeId) :
    (∃ e, t.removeChild p c = (.error e, t)) ∨
      t.parent? c = some p ∧ t.removeChild p c =
        (.ok (), (if t.isReachable p then t.deregister c else t).unlink p c) := by
  unfold removeChild parent?
  cases t.node? c with
  | none => exact Or.inl ⟨_, rfl⟩
  | some cn =>
      by_cases h : cn.parent = some p
      · exact Or.inr ⟨h, by simp [h]⟩
      · exact Or.inl ⟨.notAChild p c, by simp [h]⟩

namespace Forest

variable (ht : t.Forest)
include ht

/-- Listing the tests that a node brings keeps the forest. -/
theorem listed (h : t.listed p c = .ok r) : r.Forest ∧ r.nodes = t.nodes := by
  unfold TestTree.listed at h
  split_ifs at h
  · obtain ⟨hnd, -, rfl⟩ := register_eq_ok_iff.1 h
    refine ⟨ht.setIndex fun id s hs => ?_, rfl⟩
    obtain hs | ⟨-, hs⟩ := (Keyed.getElem?_insertMany_eq_some_iff hnd).1 hs
    · obtain ⟨-, d, hd, -⟩ := mem_owned_iff.1 hs
      exact ⟨d, hd⟩
    · exact ht.kind?_index id s hs
  · exact Except.ok.inj h ▸ ⟨ht, rfl⟩

/-- Taking tests off the list keeps the forest. -/
theorem deregister (c : NodeId) : (t.deregister c).Forest :=
  ht.setIndex fun id s hs => by
    rw [Std.ExtTreeMap.getElem?_filter'] at hs
    exact ht.kind?_index id s (Option.filter_eq_some_iff.1 hs).1

/-- What is asked of a link apart from the tests it brings. -/
theorem checkLink_eq_ok_iff : t.checkLink p c = .ok () ↔ t.kind? p = some .group ∧
    c < t.nodes.size ∧ t.parent? c = none ∧ c ≠ root ∧ ¬ t.Below c p := by
  have hbelow : ¬ t.Below c p ↔ p ≠ c ∧ c ∉ t.ancestors p := by
    rw [below_iff, not_or, ht.mem_ancestors_iff]
  rw [TestTree.checkLink_eq_ok_iff, hbelow]

/-- **Attaching keeps the forest.** -/
theorem addChild (p c : NodeId) : (t.addChild p c).2.Forest := by
  obtain ⟨e, h⟩ | ⟨hcheck, r, hr, h⟩ := t.addChild_cases p c
  · exact h ▸ ht
  · obtain ⟨hforest, hnodes⟩ := ht.listed hr
    obtain ⟨hp, hc, hn, hroot, hb⟩ := ht.checkLink_eq_ok_iff.1 hcheck
    rw [h]
    obtain ⟨nodes, index⟩ := r
    obtain rfl : nodes = t.nodes := hnodes
    exact hforest.link hp hc hn hroot hb

/-- **Detaching keeps the forest.** -/
theorem removeChild (p c : NodeId) : (t.removeChild p c).2.Forest := by
  obtain ⟨e, h⟩ | ⟨hp, h⟩ := t.removeChild_cases p c
  · exact h ▸ ht
  · rw [h]
    split_ifs
    · exact (ht.deregister c).unlink hp
    · exact ht.unlink hp

end Forest
end TestTree
end DocExamples
