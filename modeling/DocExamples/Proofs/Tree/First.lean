/-
# The first test of a suite with an id

Nothing keeps the tests of a suite from having one id, and a target names the first test of its
suite with its id (`place?`). Changing the test that a target names therefore leaves all tests that
come after one with the same id (`Repeated`) as they were. `Spares` says this of any change of
statuses and results; it composes, so whatever is made of such changes spares the repeated tests.
-/

import DocExamples.Proofs.Tree.Pristine

namespace DocExamples
namespace TestTree

variable {t u v : TestTree} {p q : NodeId × ℕ} {σ τ : TestTarget} {x : Test} {f : Test → Test}
  {filter : TestFilter} {ts : List TestTarget}

/-! ### The place of a target -/

/-- The place of the test that a target names. -/
def place? (t : TestTree) (τ : TestTarget) : Option (NodeId × ℕ) :=
  (t.case? τ.1).bind fun c => (c.position? τ.2).map (τ.1, ·)

/-- Whether `x` is at place `p` and comes after another test of its suite with its id. -/
def Repeated (t : TestTree) (p : NodeId × ℕ) (x : Test) : Prop :=
  t.testAt? p = some x ∧ x.id ∈ (t.ids p.1).take p.2

/-- Where a target leads shows in the ids. -/
theorem place?_eq (t : TestTree) (τ : TestTarget) :
    t.place? τ = ((t.ids τ.1).findIdx? (· == τ.2)).map (τ.1, ·) := by
  rw [place?, ids]
  cases t.case? τ.1 with
  | none => rfl
  | some c =>
      rw [Option.map_some, Option.getD_some, List.findIdx?_map]
      rfl

theorem place?_of_pristine_eq (h : u.pristine = t.pristine) (τ : TestTarget) :
    u.place? τ = t.place? τ := by
  rw [place?_eq, place?_eq, ids_of_pristine_eq h]

theorem getElem?_ids (t : TestTree) (p : NodeId × ℕ) :
    (t.ids p.1)[p.2]? = (t.testAt? p).map (·.id) := by
  rw [ids, testAt?]
  cases t.case? p.1 with
  | none => rfl
  | some c => exact List.getElem?_map

theorem place?_eq_some_iff : t.place? τ = some p ↔
    p.1 = τ.1 ∧ (t.ids p.1)[p.2]? = some τ.2 ∧ τ.2 ∉ (t.ids p.1).take p.2 := by
  obtain ⟨s, i⟩ := p
  obtain ⟨k, id⟩ := τ
  rw [place?_eq, Option.map_eq_some_iff]
  constructor
  · rintro ⟨j, hj, h⟩
    obtain ⟨rfl, rfl⟩ := Prod.mk.inj h
    obtain ⟨hlt, hid, hbefore⟩ := List.findIdx?_eq_some_iff_getElem.1 hj
    refine ⟨rfl, by simpa [List.getElem?_eq_getElem hlt] using hid, fun hmem => ?_⟩
    obtain ⟨n, hn, hn'⟩ := List.mem_take_iff_getElem.1 hmem
    exact hbefore n (by omega) (by simpa using hn')
  · rintro ⟨rfl, hid, hnew⟩
    obtain ⟨hlt, hid⟩ := List.getElem?_eq_some_iff.1 hid
    refine ⟨i, List.findIdx?_eq_some_iff_getElem.2 ⟨hlt, by simpa using hid, fun n hn h => ?_⟩, rfl⟩
    exact hnew (List.mem_take_iff_getElem.2 ⟨n, by omega, by simpa using h⟩)

/-- A test that is not repeated is the one that its target names. -/
theorem place?_of_not_repeated (hx : t.testAt? p = some x) (h : ¬ t.Repeated p x) :
    t.place? (p.1, x.id) = some p :=
  place?_eq_some_iff.2 ⟨rfl, by rw [getElem?_ids, hx]; rfl, fun hid => h ⟨hx, hid⟩⟩

/-- A repeated test is not at the place of a target. -/
theorem Repeated.place?_ne (h : t.Repeated p x) (τ : TestTarget) : t.place? τ ≠ some p := by
  intro hp
  obtain ⟨-, hid, hnew⟩ := place?_eq_some_iff.1 hp
  rw [getElem?_ids, h.1] at hid
  exact hnew (Option.some.inj hid ▸ h.2)

/-- Different targets have different places. -/
theorem place?_inj (hσ : t.place? σ = some p) (hτ : t.place? τ = some p) : σ = τ := by
  obtain ⟨hs, hid, -⟩ := place?_eq_some_iff.1 hσ
  obtain ⟨hs', hid', -⟩ := place?_eq_some_iff.1 hτ
  exact Prod.ext (hs.symm.trans hs') (Option.some.inj (hid.symm.trans hid'))

theorem testIn?_eq (t : TestTree) (τ : TestTarget) : t.testIn? τ = (t.place? τ).bind t.testAt? := by
  rw [testIn?, place?]
  cases hc : t.case? τ.1 with
  | none => rfl
  | some c =>
      rw [Option.bind_some, Option.bind_some, TestCase.find?, List.find?_eq_bind_findIdx?_getElem?,
        ← TestCase.position?]
      cases c.position? τ.2 with
      | none => rfl
      | some i => simp [testAt?, hc]

/-! ### Changing the test that a target names -/

theorem modifyTest_of_place? (h : t.place? τ = some p) (f : Test → Test) :
    t.modifyTest τ f = t.changeAt p f := by
  obtain ⟨c, hc, hp⟩ := Option.bind_eq_some_iff.1 h
  obtain ⟨i, hi, rfl⟩ := Option.map_eq_some_iff.1 hp
  refine modifyCase_congr fun d hd => ?_
  obtain rfl := Option.some.inj (hc.symm.trans hd)
  rw [TestCase.modifyTest, hi]

theorem modifyTest_of_place?_eq_none (h : t.place? τ = none) (f : Test → Test) :
    t.modifyTest τ f = t := by
  refine (modifyCase_congr fun c hc => ?_).trans (t.modifyCase_id τ.1)
  rw [place?, hc, Option.bind_some, Option.map_eq_none_iff] at h
  rw [TestCase.modifyTest, h]
  rfl

/-- A change of the test that a target names leaves the pristine tree, if it leaves the test apart
from its status and result. -/
theorem pristine_modifyTest (hf : ∀ x, t.testIn? τ = some x → (f x).reset = x.reset) :
    (t.modifyTest τ f).pristine = t.pristine := by
  cases hp : t.place? τ with
  | none => rw [modifyTest_of_place?_eq_none hp]
  | some p =>
      rw [modifyTest_of_place? hp]
      refine pristine_changeAt fun x hx => hf x ?_
      rw [testIn?_eq, hp]
      exact hx

/-- What targets name after the test that one of them names has been changed. -/
theorem testIn?_modifyTest (hf : ∀ x, t.testIn? τ = some x → (f x).reset = x.reset)
    (σ : TestTarget) :
    (t.modifyTest τ f).testIn? σ = if σ = τ then (t.testIn? σ).map f else t.testIn? σ := by
  rw [testIn?_eq, place?_of_pristine_eq (pristine_modifyTest hf), testIn?_eq]
  cases hp : t.place? τ with
  | none =>
      rw [modifyTest_of_place?_eq_none hp]
      split_ifs with h
      · rw [h, hp]
        rfl
      · rfl
  | some p =>
      rw [modifyTest_of_place? hp]
      cases hq : t.place? σ with
      | none => simp
      | some q =>
          rw [Option.bind_some, Option.bind_some, testAt?_changeAt]
          have hqp : q = p ↔ σ = τ :=
            ⟨fun h => place?_inj (h ▸ hq) hp, fun h => Option.some.inj (hq.symm.trans (h ▸ hp))⟩
          simp only [hqp]

/-! ### Changes that spare the repeated tests -/

/-- Whether `u` is `t` apart from statuses and results of tests that are not repeated. -/
structure Spares (t u : TestTree) : Prop where
  pristine : u.pristine = t.pristine
  testAt? : ∀ p x, t.Repeated p x → u.testAt? p = some x

namespace Spares

theorem refl (t : TestTree) : t.Spares t := ⟨rfl, fun _ _ h => h.1⟩

theorem repeated (h : t.Spares u) (hx : t.Repeated p x) : u.Repeated p x :=
  ⟨h.testAt? p x hx, ids_of_pristine_eq h.pristine p.1 ▸ hx.2⟩

theorem trans (h : t.Spares u) (h' : u.Spares v) : t.Spares v :=
  ⟨h'.pristine.trans h.pristine, fun p x hx => h'.testAt? p x (h.repeated hx)⟩

end Spares

/-- **What a test is after such changes** shows in what its target names, unless it is repeated.
Where two trees spare the repeated tests of a third one and their targets name the same there, they
have the same at the place. -/
theorem Spares.map_testAt?_eq (hu : t.Spares u) (hv : t.Spares v) {f : Test → Test}
    (h : ∀ x, t.testAt? p = some x → t.place? (p.1, x.id) = some p →
      (u.testIn? (p.1, x.id)).map f = (v.testIn? (p.1, x.id)).map f) :
    (u.testAt? p).map f = (v.testAt? p).map f := by
  cases hx : t.testAt? p with
  | none =>
      have hnone : ∀ {w}, t.Spares w → w.testAt? p = none := by
        intro w hw
        have hreset := testAt?_pristine w p
        rw [hw.pristine, testAt?_pristine, hx] at hreset
        exact Option.map_eq_none_iff.1 hreset.symm
      rw [hnone hu, hnone hv]
  | some x =>
      by_cases hr : t.Repeated p x
      · rw [hu.testAt? p x hr, hv.testAt? p x hr]
      · have hplace := place?_of_not_repeated hx hr
        have hnamed : ∀ {w}, t.Spares w → w.testAt? p = w.testIn? (p.1, x.id) := by
          intro w hw
          rw [testIn?_eq, place?_of_pristine_eq hw.pristine, hplace, Option.bind_some]
        rw [hnamed hu, hnamed hv]
        exact h x hx hplace

/-- **Changing the test that a target names** spares the repeated tests. -/
theorem spares_modifyTest (hf : ∀ x, t.testIn? τ = some x → (f x).reset = x.reset) :
    t.Spares (t.modifyTest τ f) where
  pristine := pristine_modifyTest hf
  testAt? q x hx := by
    cases hp : t.place? τ with
    | none =>
        rw [modifyTest_of_place?_eq_none hp]
        exact hx.1
    | some p =>
        have hne : q ≠ p := fun h => hx.place?_ne τ (h ▸ hp)
        rw [modifyTest_of_place? hp, testAt?_changeAt, if_neg hne]
        exact hx.1

end TestTree
end DocExamples
