/-
# Settling the tests of a tree

A run resets the tests that its targets name, sifts them and runs those that are left. Running
targets one by one (`runTargets_makes`) or at once (`runPlaces_makes`) is one change of the tree: it
concludes each test with a verdict on what the backend gave. Both modes therefore settle a tree in
the same way, apart from the order of the calls and what the backend gives (`run_makes`).
-/

import DocExamples.Proofs.Run.Sift
import DocExamples.Proofs.Run.Together
import DocExamples.Proofs.Tree.Places
import DocExamples.Proofs.Tree.Targets

namespace DocExamples

open Backend

variable {σ : Type} {t : TestTree} {x : Test} {τ : TestTarget} {ts : List TestTarget}

/-- The result of a test in a run: a verdict on its completion if the filter selects it. -/
def TestFilter.resultOf (filter : TestFilter) (κ : String → Completion) (x : Test) : TestResult :=
  if filter.selects x then x.verdict (κ x.id) else .skipped

/-- A test after it has run. -/
def Test.ended (κ : String → Completion) (x : Test) : Test := x.conclude (x.verdict (κ x.id))

/-- A test after a run. -/
def Test.settled (filter : TestFilter) (κ : String → Completion) (x : Test) : Test :=
  x.conclude (filter.resultOf κ x)

namespace Test

theorem id_settled (filter : TestFilter) (κ : String → Completion) (x : Test) :
    (x.settled filter κ).id = x.id := rfl

theorem id_ended (κ : String → Completion) (x : Test) : (x.ended κ).id = x.id := rfl

theorem id_reset (x : Test) : x.reset.id = x.id := rfl

theorem selects_reset (filter : TestFilter) (x : Test) :
    filter.selects x.reset = filter.selects x := rfl

/-- Resetting, sifting and running a test settle it. -/
theorem ended_sifted_reset (filter : TestFilter) (κ : String → Completion) (x : Test) :
    (if filter.selects x.reset then (x.reset.sifted filter).ended κ else x.reset.sifted filter) =
      x.settled filter κ := by
  unfold settled sifted ended TestFilter.resultOf
  rw [selects_reset]
  split_ifs <;> rfl

/-- **Running a test of a tree.** Its verdict does not depend on whether it is reset before. -/
theorem rerun_makes (again : Bool) (hp : again = false → x.status = .pending)
    (b : Backend (StateM σ)) (w : σ) :
    ∃ c, b.Gives x.request c ∧ b.Makes w ((if again then x.reset else x).run b)
      ((if again then x.reset else x).run b.recorded)
      (.ok (x.verdict c), x.conclude (x.verdict c)) [.begin x.request, .finish x.request] := by
  cases again with
  | false => exact run_of_pending (hp rfl) b w
  | true => exact run_of_pending (t := x.reset) rfl b w

end Test

namespace TestTree

/-- Completions by id: those of other targets do not matter for one target. -/
theorem change_cons_ended (hτ : τ.2 ∉ ts.map Prod.snd) (κ : String → Completion) (c : Completion)
    (t : TestTree) : t.change (τ :: ts) (Test.ended (Function.update κ τ.2 c)) =
      (t.change [τ] (Test.ended fun _ => c)).change ts (Test.ended κ) := by
  have hτts : τ ∉ ts := fun h => hτ (List.mem_map_of_mem h)
  have hfirst : t.change [τ] (Test.ended (Function.update κ τ.2 c)) =
      t.change [τ] (Test.ended fun _ => c) := by
    refine change_congr (fun υ hυ x hx => ?_) t
    rw [Test.ended, hx, List.mem_singleton.1 hυ, Function.update_self]
    rfl
  rw [← change_change (Test.id_ended _) hτts, hfirst]
  refine change_congr (fun υ hυ x hx => ?_) _
  have hne : x.id ≠ τ.2 := fun h => hτ (h ▸ hx ▸ List.mem_map_of_mem hυ)
  rw [Test.ended, Function.update_of_ne hne]
  rfl

/-- The completion of one target leaves those of the tests that the others name. -/
theorem update_id_of_mem_named (hτ : τ.2 ∉ ts.map Prod.snd) (κ : String → Completion)
    (c : Completion) : ∀ x ∈ t.named ts, Function.update κ τ.2 c x.id = κ x.id := by
  intro x hx
  obtain ⟨υ, hυ, hx⟩ := mem_named_iff.1 hx
  have hne : x.id ≠ τ.2 := fun h => hτ (h ▸ id_of_testIn? hx ▸ List.mem_map_of_mem hυ)
  exact Function.update_of_ne hne _ _

/-- **Running targets one by one** begins the request of each test and asks for its completion, in
the order of the targets, and concludes the tests with their verdicts. -/
theorem runTargets_makes (hd : t.Distinct ts) (hids : (ts.map Prod.snd).Nodup) (again : Bool)
    (hp : again = false → ∀ x ∈ t.named ts, x.status = .pending) (b : Backend (StateM σ)) (w : σ) :
    ∃ κ : String → Completion, (∀ x ∈ t.named ts, b.Gives x.request (κ x.id)) ∧
      b.Makes w (runTargets b again ts t) (runTargets b.recorded again ts t)
        (.ok ((t.named ts).map fun x => (x.id, x.verdict (κ x.id))), t.change ts (Test.ended κ))
        ((t.named ts).flatMap fun x => [.begin x.request, .finish x.request]) := by
  induction ts generalizing t w with
  | nil =>
      refine ⟨fun _ => ⟨⟨0⟩, .ok ""⟩, by simp [named], ?_⟩
      rw [change_nil]
      exact .pure _
  | cons τ ts ih =>
      obtain ⟨hτ, hids⟩ := List.nodup_cons.1 hids
      have hτts : τ ∉ ts := fun h => hτ (List.mem_map_of_mem h)
      have hd₁ : t.Distinct [τ] := hd.mono (by simp)
      have hd₂ : t.Distinct ts := hd.mono (List.subset_cons_self τ ts)
      cases hx : t.testIn? τ with
      | none =>
          have hnamed : t.named (τ :: ts) = t.named ts := List.filterMap_cons_none hx
          rw [hnamed] at hp ⊢
          obtain ⟨κ, hκ, hm⟩ := ih hd₂ hids hp w
          refine ⟨κ, hκ, ?_⟩
          rw [change_cons_of_self (Test.id_ended κ) hd₁ hτts (by simp [hx]), runTargets, runTargets,
            hx]
          exact hm
      | some x =>
          have hnamed : t.named (τ :: ts) = x :: t.named ts := List.filterMap_cons_some hx
          rw [hnamed] at hp ⊢
          obtain ⟨c, hc, hrun⟩ :=
            Test.rerun_makes again (fun ha => hp ha x List.mem_cons_self) b w
          have hset : t.setTest τ (x.conclude (x.verdict c)) =
              t.change [τ] (Test.ended fun _ => c) :=
            setTest_eq_change hd₁ hx (Test.ended fun _ => c)
          have hid := Test.id_ended fun _ => c
          have hnamed' := named_change_of_notMem hid t hτts
          obtain ⟨κ, hκ, hm⟩ := ih (hd₂.change hid [τ]) hids
            (fun ha y hy => hp ha y (List.mem_cons_of_mem x (hnamed' ▸ hy)))
            (b.replay w [.begin x.request, .finish x.request])
          rw [hnamed', ← hset] at hm
          rw [hnamed'] at hκ
          have hfirst : Function.update κ τ.2 c x.id = c := by
            rw [id_of_testIn? hx, Function.update_self]
          have hlater := update_id_of_mem_named (t := t) hτ κ c
          refine ⟨Function.update κ τ.2 c, ?_, ?_⟩
          · refine List.forall_mem_cons.2 ⟨hfirst.symm ▸ hc, fun y hy => ?_⟩
            rw [hlater y hy]
            exact hκ y hy
          · have hresults : (t.named ts).map (fun y =>
                (y.id, y.verdict (Function.update κ τ.2 c y.id))) =
                (t.named ts).map fun y => (y.id, y.verdict (κ y.id)) :=
              List.map_congr_left fun y hy => by rw [hlater y hy]
            rw [List.map_cons, hfirst, hresults, change_cons_ended hτ, ← hset, List.flatMap_cons,
              runTargets, runTargets, hx]
            exact hrun.bind hm.bind_pure

/-- **Running targets at once** begins the request of each test and asks for its completion once,
and concludes the tests with their verdicts. -/
theorem runPlaces_makes (hd : t.Distinct ts) (hids : (ts.map Prod.snd).Nodup)
    (hsome : ∀ τ ∈ ts, (t.testIn? τ).isSome) (hp : ∀ x ∈ t.named ts, x.status = .pending)
    (b : Backend (StateM σ)) (w : σ) :
    ∃ (κ : String → Completion) (xs : List Test) (calls : List Call),
      (∀ x ∈ t.named ts, b.Gives x.request (κ x.id)) ∧ xs.Perm (t.named ts) ∧
      Call.begun calls = xs.map Test.request ∧
      (Call.finished calls).Perm (xs.map Test.request) ∧
      b.Makes w (runPlaces b ts t) (runPlaces b.recorded ts t)
        (.ok (xs.map fun x => (x.id, x.verdict (κ x.id))), t.change ts (Test.ended κ)) calls := by
  have hnd : ts.Nodup := hids.of_map
  have hperm := map_placed_perm_named hd hnd hsome
  have hkeys := perm_placed hd hnd hsome
  obtain ⟨κ, calls, hκ, hbegun, hfinished, hm⟩ := runTogether_of_pending
    (fun x hx => hp x (hperm.mem_iff.1 hx))
    (((hperm.map _).nodup_iff).2 (nodup_named_ids hids)) b w
  refine ⟨κ, _, calls, fun x hx => hκ x (hperm.mem_iff.2 hx), hperm, hbegun, hfinished, ?_⟩
  have hchange : (((t.placed ts).map (·.1)).zip (((t.placed ts).map Prod.snd).map fun x =>
      x.conclude (x.verdict (κ x.id)))).foldl (fun t e => t.setTestAt e.1 e.2) t =
      t.change ts (Test.ended κ) := by
    rw [List.map_map, List.zip_map', List.foldl_map]
    refine (foldl_setTestAt (Test.id_ended κ) (fun q hq => (mem_placed_iff.1 hq).1)
      (hd.mono hkeys.subset) (hkeys.nodup_iff.2 hnd)).trans ?_
    exact congrArg t.mapTests (funext₂ fun s x => by simp only [hkeys.mem_iff])
  rw [← hchange]
  exact hm.bind_pure

/-- **Either mode** concludes the tests with verdicts on what the backend gave, and begins and asks
for the request of each once. -/
theorem runMode_makes (mode : RunMode) (hd : t.Distinct ts) (hids : (ts.map Prod.snd).Nodup)
    (hsome : ∀ τ ∈ ts, (t.testIn? τ).isSome) (hp : ∀ x ∈ t.named ts, x.status = .pending)
    (b : Backend (StateM σ)) (w : σ) :
    ∃ (κ : String → Completion) (xs : List Test) (calls : List Call),
      (∀ x ∈ t.named ts, b.Gives x.request (κ x.id)) ∧ xs.Perm (t.named ts) ∧
      (Call.begun calls).Perm ((t.named ts).map Test.request) ∧
      (Call.finished calls).Perm ((t.named ts).map Test.request) ∧
      (mode = .sequential →
        calls = (t.named ts).flatMap fun x => [.begin x.request, .finish x.request]) ∧
      b.Makes w (runMode b mode ts t) (runMode b.recorded mode ts t)
        (.ok (xs.map fun x => (x.id, x.verdict (κ x.id))), t.change ts (Test.ended κ)) calls := by
  cases mode with
  | sequential =>
      obtain ⟨κ, hκ, hm⟩ := runTargets_makes hd hids false (fun _ => hp) b w
      refine ⟨κ, _, _, hκ, .rfl, ?_, ?_, fun _ => rfl, hm⟩
      · rw [Call.begun_flatMap]
      · rw [Call.finished_flatMap]
  | parallel =>
      obtain ⟨κ, xs, calls, hκ, hxs, hbegun, hfinished, hm⟩ := runPlaces_makes hd hids hsome hp b w
      refine ⟨κ, xs, calls, hκ, hxs, ?_, ?_, nofun, hm⟩
      · rw [hbegun]
        exact hxs.map Test.request
      · exact hfinished.trans (hxs.map Test.request)

/-- What a run does to the tests that its targets name: the backend gave a completion for each test
that the filter selects, these completions and the filter determine the results, and the requests
of the selected tests were begun and asked for once each. -/
structure Settles (b : Backend (StateM σ)) (filter : TestFilter) (xs : List Test)
    (κ : String → Completion) (rs : List IdResult) (calls : List Call) : Prop where
  gives : ∀ x ∈ xs, filter.selects x → b.Gives x.request (κ x.id)
  results : rs.Perm (xs.map fun x => (x.id, filter.resultOf κ x))
  begun : (Call.begun calls).Perm ((xs.filter filter.selects).map Test.request)
  finished : (Call.finished calls).Perm ((xs.filter filter.selects).map Test.request)

/-- The results of the rejected tests and of the selected ones are those of all tests. -/
theorem results_perm (filter : TestFilter) (κ : String → Completion) {xs l : List Test}
    (hxs : xs.Perm (l.filter filter.selects)) :
    (((l.filter fun x => !filter.selects x).map fun x => (x.id, TestResult.skipped)) ++
      xs.map fun x => (x.id, x.verdict (κ x.id))).Perm
      (l.map fun x => (x.id, filter.resultOf κ x)) := by
  have hrejected : ((l.filter fun x => !filter.selects x).map fun x =>
      (x.id, TestResult.skipped)) =
      (l.filter fun x => !filter.selects x).map fun x => (x.id, filter.resultOf κ x) := by
    refine List.map_congr_left fun x hx => ?_
    have hsel : filter.selects x = false := by simpa using (List.mem_filter.1 hx).2
    rw [TestFilter.resultOf, hsel]
    rfl
  have hselected : ((l.filter filter.selects).map fun x => (x.id, x.verdict (κ x.id))) =
      (l.filter filter.selects).map fun x => (x.id, filter.resultOf κ x) := by
    refine List.map_congr_left fun x hx => ?_
    rw [TestFilter.resultOf, if_pos (List.mem_filter.1 hx).2]
  refine ((hxs.map _).append_left _).trans ?_
  rw [hrejected, hselected, ← List.map_append]
  exact (List.perm_append_comm.trans (List.filter_append_perm _ l)).map _

/-- **Either mode after sifting** runs the selected tests, in the tree in which the others have been
concluded. -/
theorem runMode_chosen_makes (mode : RunMode) (filter : TestFilter) (hd : t.Distinct ts)
    (hids : (ts.map Prod.snd).Nodup) (hp : ∀ x ∈ t.named ts, x.status = .pending)
    (b : Backend (StateM σ)) (w : σ) :
    ∃ (κ : String → Completion) (xs : List Test) (calls : List Call),
      (∀ x ∈ (t.named ts).filter filter.selects, b.Gives x.request (κ x.id)) ∧
      xs.Perm ((t.named ts).filter filter.selects) ∧
      (Call.begun calls).Perm (((t.named ts).filter filter.selects).map Test.request) ∧
      (Call.finished calls).Perm (((t.named ts).filter filter.selects).map Test.request) ∧
      (mode = .sequential → calls = ((t.named ts).filter filter.selects).flatMap fun x =>
        [.begin x.request, .finish x.request]) ∧
      b.Makes w (runMode b mode (chosen filter ts t) (t.change ts (Test.sifted filter)))
        (runMode b.recorded mode (chosen filter ts t) (t.change ts (Test.sifted filter)))
        (.ok (xs.map fun x => (x.id, x.verdict (κ x.id))),
          t.change ts fun x =>
            if filter.selects x then (x.sifted filter).ended κ else x.sifted filter) calls := by
  have hsub : (chosen filter ts t).Sublist ts := List.filter_sublist
  have hsome : ∀ τ ∈ chosen filter ts t,
      ((t.change ts (Test.sifted filter)).testIn? τ).isSome := by
    intro τ hτ
    rw [testIn?_change (Test.id_sifted filter), Option.isSome_map]
    obtain ⟨h, -⟩ := (Option.any_eq_true_iff_get _ _).1 (List.mem_filter.1 hτ).2
    exact h
  have hnamed := named_chosen_sifted filter ts t
  have hm := runMode_makes mode ((hd.change (Test.id_sifted filter) ts).mono hsub.subset)
    (hids.sublist (hsub.map _)) hsome (fun x hx => hp x (List.mem_filter.1 (hnamed ▸ hx)).1) b w
  simp only [change_chosen hd, change_comp (Test.id_sifted filter), Test.selects_sifted,
    hnamed] at hm
  exact hm

/-- **A run settles the tests that its targets name**, in either mode. One after the other, the
tests make their calls in the order of the targets. -/
theorem run_makes (hd : t.Distinct (t.targets root)) (hids : ((t.targets root).map Prod.snd).Nodup)
    (b : Backend (StateM σ)) (o : RunOptions) (w : σ) :
    ∃ κ rs calls, Settles b o.filter (t.named (t.targets root)) κ rs calls ∧
      b.Makes w (t.run b o) (t.run b.recorded o)
        (.ok ⟨.ofList rs⟩, t.change (t.targets root) (Test.settled o.filter κ)) calls ∧
      (o.mode = .sequential → calls =
        ((t.named (t.targets root)).filter o.filter.selects).flatMap fun x =>
          [.begin x.request, .finish x.request]) := by
  obtain ⟨mode, filter⟩ := o
  have hnd : (t.targets root).Nodup := hids.of_map
  have hreset : (t.targets root).foldl (fun t τ => t.modifyTest τ Test.reset) t =
      t.change (t.targets root) Test.reset := foldl_modifyTest Test.id_reset hd hnd
  simp only [run, hreset]
  clear hreset
  generalize t.targets root = ts at hd hids hnd ⊢
  have hnamed := named_change Test.id_reset t ts
  have hpending : ∀ x ∈ (t.change ts Test.reset).named ts, x.status = .pending := by
    rw [hnamed]
    exact List.forall_mem_map.2 fun _ _ => rfl
  have hd₁ := hd.change Test.id_reset ts
  rw [sift_eq filter hd₁ hnd hpending]
  obtain ⟨κ, xs, calls, hκ, hxs, hbegun, hfinished, hseq, hm⟩ :=
    runMode_chosen_makes mode filter hd₁ hids hpending b w
  have hfinal : ((t.change ts Test.reset).change ts fun x =>
      if filter.selects x then (x.sifted filter).ended κ else x.sifted filter) =
      t.change ts (Test.settled filter κ) :=
    (change_comp Test.id_reset t ts).trans
      (change_congr (fun _ _ x _ => Test.ended_sifted_reset filter κ x) t)
  rw [hfinal] at hm
  have hresults := results_perm filter κ hxs
  rw [hnamed, List.map_map] at hresults
  rw [hnamed, List.filter_map] at hκ hbegun hfinished hseq
  rw [List.map_map] at hbegun hfinished
  rw [List.flatMap_map] at hseq
  refine ⟨κ, _, calls, ⟨fun x hx hsel => ?_, hresults, hbegun, hfinished⟩, ?_, hseq⟩
  · exact hκ x.reset (List.mem_map_of_mem (List.mem_filter.2 ⟨hx, hsel⟩))
  · rw [← hnamed]
    exact hm.bind_pure

end TestTree
end DocExamples
