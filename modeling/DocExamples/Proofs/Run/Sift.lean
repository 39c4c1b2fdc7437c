/-
# Sifting tests

Before a run, the tests that the filter rejects are concluded as skipped, and the targets of the
others are handed on (`sift_eq`). Sifting changes only rejected tests, so the chosen targets name
the selected tests as they were (`named_chosen_sifted`), and a change of the chosen targets is one
of the selected tests (`change_chosen`).
-/

import DocExamples.Proofs.Test.Operation
import DocExamples.Proofs.Tree.Change
import DocExamples.Run.Engine

namespace DocExamples

variable {t : TestTree} {x : Test} {τ : TestTarget} {ts : List TestTarget} {filter : TestFilter}

/-- A test after sifting. -/
def Test.sifted (filter : TestFilter) (x : Test) : Test :=
  if filter.selects x then x else x.conclude .skipped

namespace Test

theorem id_sifted (filter : TestFilter) (x : Test) : (x.sifted filter).id = x.id := by
  unfold sifted
  split_ifs <;> rfl

theorem selects_sifted (filter : TestFilter) (x : Test) :
    filter.selects (x.sifted filter) = filter.selects x := by
  unfold sifted
  split_ifs <;> rfl

end Test

namespace TestTree

/-- The targets of tests that a filter selects. -/
def chosen (filter : TestFilter) (ts : List TestTarget) (t : TestTree) : List TestTarget :=
  ts.filter fun τ => (t.testIn? τ).any filter.selects

theorem chosen_cons_of_none (hx : t.testIn? τ = none) :
    chosen filter (τ :: ts) t = chosen filter ts t := List.filter_cons_of_neg (by simp [hx])

theorem chosen_cons_of_selects (hx : t.testIn? τ = some x) (hsel : filter.selects x = true) :
    chosen filter (τ :: ts) t = τ :: chosen filter ts t :=
  List.filter_cons_of_pos (by simp [hx, hsel])

theorem named_chosen (filter : TestFilter) (ts : List TestTarget) (t : TestTree) :
    t.named (chosen filter ts t) = (t.named ts).filter filter.selects := by
  rw [named, named, chosen, List.filterMap_filter, List.filter_filterMap]
  refine List.filterMap_congr fun τ _ => ?_
  cases t.testIn? τ with
  | none => rfl
  | some x => by_cases h : filter.selects x <;> simp [Option.filter, h]

/-- After sifting, the chosen targets name the selected tests as they were. -/
theorem named_chosen_sifted (filter : TestFilter) (ts : List TestTarget) (t : TestTree) :
    (t.change ts (Test.sifted filter)).named (chosen filter ts t) =
      (t.named ts).filter filter.selects := by
  rw [← named_chosen]
  refine List.filterMap_congr fun τ hτ => ?_
  obtain ⟨hτ, hany⟩ := List.mem_filter.1 hτ
  rw [testIn?_change (Test.id_sifted filter)]
  cases hx : t.testIn? τ with
  | none => rfl
  | some x =>
      rw [hx] at hany
      simp [hτ, Test.sifted, show filter.selects x = true from hany]

/-- After sifting, a change of the chosen targets is one of the selected tests. -/
theorem change_chosen (hd : t.Distinct ts) (h : Test → Test) :
    (t.change ts (Test.sifted filter)).change (chosen filter ts t) h =
      (t.change ts (Test.sifted filter)).change ts fun x =>
        if filter.selects x then h x else x := by
  refine mapTests_congr fun s c x hc hx => ?_
  have hd' := hd.change (Test.id_sifted filter) ts
  by_cases hmem : (s, x.id) ∈ ts
  · have hat := testIn?_of_mem hc (hd' _ hmem c hc) hx
    rw [testIn?_change (Test.id_sifted filter)] at hat
    obtain ⟨y, hy, hyx⟩ := Option.map_eq_some_iff.1 hat
    rw [if_pos hmem] at hyx
    have hsel : filter.selects x = filter.selects y := hyx ▸ Test.selects_sifted filter y
    have hchosen : (s, x.id) ∈ chosen filter ts t ↔ filter.selects x = true := by
      rw [chosen, List.mem_filter, hy, hsel]
      simp [hmem]
    simp only [hchosen, hmem, if_true]
  · have hchosen : (s, x.id) ∉ chosen filter ts t := fun h => hmem (List.mem_filter.1 h).1
    simp only [hchosen, hmem, if_false]

/-- **Sifting** answers with the targets of the selected tests and the results of the others, and
concludes the others as skipped. -/
theorem sift_eq (filter : TestFilter) (hd : t.Distinct ts) (hnd : ts.Nodup)
    (hp : ∀ x ∈ t.named ts, x.status = .pending) :
    sift filter ts t =
      (.ok (chosen filter ts t,
        ((t.named ts).filter fun x => !filter.selects x).map fun x => (x.id, .skipped)),
        t.change ts (Test.sifted filter)) := by
  induction ts generalizing t with
  | nil => rw [change_nil]; rfl
  | cons τ ts ih =>
      obtain ⟨hτ, hnd⟩ := List.nodup_cons.1 hnd
      have hd₁ : t.Distinct [τ] := hd.mono (by simp)
      have hd₂ : t.Distinct ts := hd.mono (List.subset_cons_self τ ts)
      have hid := Test.id_sifted filter
      rw [sift]
      cases hx : t.testIn? τ with
      | none =>
          have hnamed : t.named (τ :: ts) = t.named ts := List.filterMap_cons_none hx
          rw [hnamed] at hp ⊢
          rw [change_cons_of_self hid hd₁ hτ (by simp [hx])]
          simp only [ih hd₂ hnd hp, chosen, List.filter_cons, hx, Option.any_none,
            Bool.false_eq_true, if_false]
      | some x =>
          have hnamed : t.named (τ :: ts) = x :: t.named ts := List.filterMap_cons_some hx
          rw [hnamed] at hp ⊢
          obtain ⟨hpx, hp⟩ := List.forall_mem_cons.1 hp
          by_cases hsel : filter.selects x
          · have hkeep : x.sifted filter = x := if_pos hsel
            rw [change_cons_of_self hid hd₁ hτ (by simp [hx, hkeep])]
            simp [ih hd₂ hnd hp, chosen, hx, hsel, Except.map]
          · have hskip : x.conclude .skipped = x.sifted filter := (if_neg hsel).symm
            have hnamed' := named_change_of_notMem hid t hτ
            have hchosen : chosen filter ts (t.change [τ] (Test.sifted filter)) =
                chosen filter ts t := List.filter_congr fun υ hυ => by
              rw [testIn?_change_of_notMem hid t hτ υ hυ]
            simp only [hsel, Test.skip_of_pending hpx, hskip, setTest_eq_change hd₁ hx]
            rw [ih (hd₂.change hid _) hnd (hnamed' ▸ hp), hnamed', hchosen, change_change hid hτ]
            simp [chosen, hx, hsel, Except.map]

end TestTree
end DocExamples
