/-
# Runs of trees with repeated ids

A suite may have several tests with one id. A run resets, skips and runs the first of them, which
is the one that a target names, and spares the others (`sift_spares`, `runTargets_spares`); only a
run that runs all targets at once also runs the others, and does not reset them. So a run ends with
a summary, unless it runs at once and one of its targets has such a test that is not pending
(`run_outcome`): one that was not pending at first, or that an earlier run ran (`runAll_outcome`).
-/

import DocExamples.Proofs.Run.Case
import DocExamples.Proofs.Run.Targets
import DocExamples.Proofs.Test.Lifecycle

namespace DocExamples

open Backend

variable {σ : Type} {b : Backend (StateM σ)} {w : σ} {x y : Test} {filter : TestFilter}

/-- Tests that are the same before they run have one id. -/
theorem Test.id_eq_of_reset_eq (h : y.reset = x.reset) : y.id = x.id := by
  rw [← id_reset y, h, id_reset]

namespace Test.Ran

variable (h : Test.Ran b x y)
include h

/-- Running a test leaves it apart from its status and result. -/
theorem reset_eq : y.reset = x.reset := by
  unfold Test.Ran at h
  split_ifs at h
  · obtain ⟨c, -, rfl⟩ := h
    rfl
  · rw [h]

/-- A test that could run is not pending any more. -/
theorem status_ne_pending : y.status ≠ .pending := by
  unfold Test.Ran at h
  split_ifs at h with hp
  · obtain ⟨c, -, rfl⟩ := h
    intro hpending
    have hterminal := (x.fits_judge c.outcome c.elapsed).isTerminal
    rw [show (x.judge c.outcome c.elapsed).status = .pending from hpending] at hterminal
    cases hterminal
  · rwa [h]

end Test.Ran

namespace TestTree

variable {t u : TestTree} {τ υ : TestTarget} {ts : List TestTarget} {p : NodeId × ℕ}

/-! ### Targets and their tests -/

/-- What a target names in the pristine tree is what it names, before it ran. -/
theorem testIn?_pristine (t : TestTree) (τ : TestTarget) :
    t.pristine.testIn? τ = (t.testIn? τ).map Test.reset := by
  rw [testIn?_eq, testIn?_eq, place?_of_pristine_eq (pristine_pristine t)]
  cases t.place? τ with
  | none => rfl
  | some p => exact testAt?_pristine t p

/-- Whether the filter chooses a target does not depend on what has happened to the tests. -/
theorem chosen_of_pristine_eq (h : u.pristine = t.pristine) (filter : TestFilter)
    (ts : List TestTarget) : chosen filter ts u = chosen filter ts t := by
  have hpristine : ∀ t : TestTree, chosen filter ts t = chosen filter ts t.pristine := by
    intro t
    refine List.filter_congr fun τ _ => ?_
    rw [testIn?_pristine, Option.any_map]
    rfl
  rw [hpristine, h, ← hpristine]

/-- The targets that a run with a filter runs. -/
def selected (t : TestTree) (filter : TestFilter) : List TestTarget :=
  chosen filter (t.targets root) t

theorem selected_of_pristine_eq (h : u.pristine = t.pristine) (filter : TestFilter) :
    u.selected filter = t.selected filter := by
  rw [selected, selected, targets_of_pristine_eq h, chosen_of_pristine_eq h]

theorem nodup_selected (t : TestTree) (filter : TestFilter) : (t.selected filter).Nodup :=
  (nodup_targets t root).filter _

/-- Whether a test repeats the id of the one that a target names. -/
def Repeats (t : TestTree) (τ : TestTarget) : Prop := ∃ p x, t.Repeated p x ∧ (p.1, x.id) = τ

/-- Whether such a test is not pending. -/
def Stuck (t : TestTree) (τ : TestTarget) : Prop :=
  ∃ p x, t.Repeated p x ∧ (p.1, x.id) = τ ∧ x.status ≠ .pending

/-- A repeated test is repeated whatever has happened to the tests. -/
theorem Repeated.of_pristine_eq (h : t.pristine = u.pristine) (hx : t.Repeated p x) :
    ∃ y, u.Repeated p y ∧ y.reset = x.reset := by
  have hreset : (u.testAt? p).map Test.reset = some x.reset := by
    rw [← testAt?_pristine, ← h, testAt?_pristine, hx.1]
    rfl
  obtain ⟨y, hy, hyx⟩ := Option.map_eq_some_iff.1 hreset
  have hid : y.id = x.id := Test.id_eq_of_reset_eq hyx
  refine ⟨y, ⟨hy, ?_⟩, hyx⟩
  rw [hid, ← ids_of_pristine_eq h]
  exact hx.2

theorem repeats_of_pristine_eq (h : u.pristine = t.pristine) (τ : TestTarget) :
    u.Repeats τ ↔ t.Repeats τ := by
  have himp : ∀ {t u : TestTree}, u.pristine = t.pristine → u.Repeats τ → t.Repeats τ := by
    rintro t u h ⟨p, x, hx, rfl⟩
    obtain ⟨y, hy, hyx⟩ := hx.of_pristine_eq h
    have hid : y.id = x.id := Test.id_eq_of_reset_eq hyx
    exact ⟨p, y, hy, by rw [hid]⟩
  exact ⟨himp h, himp h.symm⟩

/-- A change that spares the repeated tests leaves it which targets are stuck. -/
theorem Spares.stuck_iff (h : t.Spares u) (τ : TestTarget) : u.Stuck τ ↔ t.Stuck τ := by
  constructor
  · rintro ⟨p, y, hy, hτ, hp⟩
    obtain ⟨x, hx, -⟩ := hy.of_pristine_eq h.pristine
    obtain rfl := Option.some.inj ((h.testAt? p x hx).symm.trans hy.1)
    exact ⟨p, x, hx, hτ, hp⟩
  · rintro ⟨p, x, hx, hτ, hp⟩
    exact ⟨p, x, h.repeated hx, hτ, hp⟩

/-! ### The parts of a run -/

/-- What targets name after the tests of some targets have been reset. -/
theorem testIn?_foldl_reset (ts : List TestTarget) (t : TestTree) (υ : TestTarget) :
    (ts.foldl (fun t τ => t.modifyTest τ Test.reset) t).testIn? υ =
      if υ ∈ ts then (t.testIn? υ).map Test.reset else t.testIn? υ := by
  induction ts generalizing t with
  | nil => simp
  | cons τ ts ih =>
      have hreset : Test.reset ∘ Test.reset = Test.reset := rfl
      rw [List.foldl_cons, ih, testIn?_modifyTest (f := Test.reset) fun _ _ => rfl]
      by_cases hτ : υ = τ
      · simp [hτ, hreset]
      · simp [hτ]

/-- The tests that targets name are pending once they have been reset. -/
theorem pending_foldl_reset : ∀ τ ∈ ts, ∀ x,
    (ts.foldl (fun t τ => t.modifyTest τ Test.reset) t).testIn? τ = some x →
      x.status = .pending := by
  intro τ hτ x hx
  rw [testIn?_foldl_reset, if_pos hτ] at hx
  obtain ⟨_, -, rfl⟩ := Option.map_eq_some_iff.1 hx
  rfl

/-- Resetting the tests of targets spares the repeated ones. -/
theorem spares_foldl_reset (ts : List TestTarget) (t : TestTree) :
    t.Spares (ts.foldl (fun t τ => t.modifyTest τ Test.reset) t) :=
  List.foldlRecOn (motive := t.Spares) ts _ (.refl t) fun _ h _ _ =>
    h.trans (spares_modifyTest fun _ _ => rfl)

/-- **Sifting pending tests** succeeds and spares the repeated ones. -/
theorem sift_spares (filter : TestFilter) (hnd : ts.Nodup)
    (hp : ∀ τ ∈ ts, ∀ x, t.testIn? τ = some x → x.status = .pending) :
    ∃ skipped u, sift filter ts t = (.ok (chosen filter ts t, skipped), u) ∧ t.Spares u ∧
      ∀ τ, (τ ∈ ts → τ ∈ chosen filter ts t) → u.testIn? τ = t.testIn? τ := by
  induction ts generalizing t with
  | nil => exact ⟨[], t, rfl, .refl t, fun _ _ => rfl⟩
  | cons τ ts ih =>
      obtain ⟨hτ, hnd⟩ := List.nodup_cons.1 hnd
      obtain ⟨hpτ, hp⟩ := List.forall_mem_cons.1 hp
      rw [sift]
      cases hx : t.testIn? τ with
      | none =>
          obtain ⟨skipped, u, hsift, hspares, hsame⟩ := ih hnd hp
          rw [chosen_cons_of_none hx]
          exact ⟨skipped, u, hsift, hspares, fun υ h => hsame υ fun hυ => h (.tail τ hυ)⟩
      | some x =>
          by_cases hsel : filter.selects x
          · have hchosen : chosen filter (τ :: ts) t = τ :: chosen filter ts t :=
              chosen_cons_of_selects hx hsel
            obtain ⟨skipped, u, hsift, hspares, hsame⟩ := ih hnd hp
            refine ⟨skipped, u, ?_, hspares, fun υ h => hsame υ fun hυ => ?_⟩
            · simp [hsel, hsift, hchosen, Except.map]
            · rw [hchosen] at h
              exact (List.mem_cons.1 (h (.tail τ hυ))).resolve_left fun hυτ => hτ (hυτ ▸ hυ)
          · have hother : ∀ υ, υ ≠ τ → (t.setTest τ (x.conclude .skipped)).testIn? υ =
                t.testIn? υ := fun υ hυ => by
              rw [testIn?_conclude hx, if_neg hυ]
            have hne : ∀ υ ∈ ts, υ ≠ τ := fun υ hυ h => hτ (h ▸ hυ)
            have hchosen : chosen filter ts (t.setTest τ (x.conclude .skipped)) =
                chosen filter (τ :: ts) t := by
              rw [chosen, chosen, List.filter_cons_of_neg (by simp [hx, hsel])]
              exact List.filter_congr fun υ hυ => by rw [hother υ (hne υ hυ)]
            obtain ⟨skipped, u, hsift, hspares, hsame⟩ := ih hnd fun υ hυ y hy =>
              hp υ hυ y (hother υ (hne υ hυ) ▸ hy)
            rw [hchosen] at hsift hsame
            refine ⟨(x.id, .skipped) :: skipped, u, ?_, (spares_conclude hx _).trans hspares,
              fun υ h => ?_⟩
            · simp [hsel, Test.skip_of_pending (hpτ x hx), hsift, Except.map]
            · have hυ : υ ≠ τ := by
                rintro rfl
                rw [← hchosen] at h
                exact hτ (List.mem_filter.1 (h List.mem_cons_self)).1
              rw [hsame υ fun hmem => h (.tail τ hmem), hother υ hυ]

/-- **Resetting and sifting** what is below the root succeeds with the selected targets, spares the
repeated tests and leaves those pending that the selected targets name. -/
theorem sift_reset (filter : TestFilter) (t : TestTree) :
    ∃ skipped u, sift filter (t.targets root)
        ((t.targets root).foldl (fun t τ => t.modifyTest τ Test.reset) t) =
          (.ok (t.selected filter, skipped), u) ∧ t.Spares u ∧
      ∀ τ ∈ t.selected filter, ∀ x, u.testIn? τ = some x → x.status = .pending := by
  have hreset := spares_foldl_reset (t.targets root) t
  obtain ⟨skipped, u, hsift, hspares, hsame⟩ :=
    sift_spares filter (nodup_targets t root) pending_foldl_reset
  have hselected := chosen_of_pristine_eq hreset.pristine filter (t.targets root)
  rw [hselected] at hsift hsame
  refine ⟨skipped, u, hsift, hreset.trans hspares, fun τ hτ x hx => ?_⟩
  rw [hsame τ fun _ => hτ] at hx
  exact pending_foldl_reset τ (List.mem_filter.1 hτ).1 x hx

/-- **Running pending targets one by one** succeeds and spares the repeated tests. -/
theorem runTargets_spares (hnd : ts.Nodup)
    (hp : ∀ τ ∈ ts, ∀ x, t.testIn? τ = some x → x.status = .pending) (b : Backend (StateM σ))
    (w : σ) : ∃ rs u calls, t.Spares u ∧
      b.Makes w (runTargets b false ts t) (runTargets b.recorded false ts t) (.ok rs, u) calls := by
  obtain ⟨κ, rs, u, calls, hu, hm⟩ := runTargets_concludes false hnd (fun _ => hp) b w
  exact ⟨rs, u, calls, hu.spares, hm⟩

/-- Putting tests in their places after they have run. -/
theorem foldl_setTestAt_ran {found : List ((NodeId × ℕ) × Test)} {ys : List Test}
    (hran : List.Forall₂ (fun q y => Test.Ran b q.2 y) found ys)
    (hnd : (found.map Prod.fst).Nodup) (hfound : ∀ q ∈ found, t.testAt? q.1 = some q.2) :
    let u := ((found.map (·.1)).zip ys).foldl (fun t e => t.setTestAt e.1 e.2) t
    u.pristine = t.pristine ∧ ∀ p x, t.testAt? p = some x → ∃ y, u.testAt? p = some y ∧
      if p ∈ found.map Prod.fst then Test.Ran b x y else y = x := by
  induction hran generalizing t with
  | nil => exact ⟨rfl, fun p x hx => ⟨x, hx, by simp⟩⟩
  | @cons q y found ys hq _ ih =>
      obtain ⟨hqnew, hnd⟩ := List.nodup_cons.1 hnd
      obtain ⟨hqt, hfound⟩ := List.forall_mem_cons.1 hfound
      have hset : ∀ p, (t.setTestAt q.1 y).testAt? p =
          if p = q.1 then (t.testAt? p).map fun _ => y else t.testAt? p :=
        testAt?_changeAt t q.1 fun _ => y
      have hpristine : (t.setTestAt q.1 y).pristine = t.pristine := by
        refine pristine_changeAt (f := fun _ => y) fun x hx => ?_
        obtain rfl := Option.some.inj (hqt.symm.trans hx)
        exact hq.reset_eq
      obtain ⟨hu, hplaces⟩ := ih (t := t.setTestAt q.1 y) hnd fun q' hq' => by
        have hne : q'.1 ≠ q.1 := fun h => hqnew (h ▸ List.mem_map_of_mem hq')
        rw [hset, if_neg hne]
        exact hfound q' hq'
      refine ⟨hu.trans hpristine, fun p x hx => ?_⟩
      by_cases hp : p = q.1
      · subst hp
        obtain rfl := Option.some.inj (hqt.symm.trans hx)
        obtain ⟨z, hz, hzy⟩ := hplaces q.1 y (by rw [hset, if_pos rfl, hx]; rfl)
        rw [if_neg hqnew] at hzy
        exact ⟨z, hz, by simpa [hzy] using hq⟩
      · obtain ⟨z, hz, hzx⟩ := hplaces p x (by rw [hset, if_neg hp, hx])
        have hmem : p ∈ (q :: found).map Prod.fst ↔ p ∈ found.map Prod.fst := by
          rw [List.map_cons, List.mem_cons, or_iff_right hp]
        exact ⟨z, hz, by simpa only [hmem] using hzx⟩

/-- **Running targets at once** runs every test with one of the targets, and ends with results if
all of these tests are pending. -/
theorem runPlaces_outcome (b : Backend (StateM σ)) (w : σ) (ts : List TestTarget) (t : TestTree) :
    ∃ r u calls, b.Makes w (runPlaces b ts t) (runPlaces b.recorded ts t) (r, u) calls ∧
      u.pristine = t.pristine ∧
      ((∃ rs, r = .ok rs) ↔ ∀ p x, t.testAt? p = some x → (p.1, x.id) ∈ ts →
        x.status = .pending) ∧
      ∀ p x, t.testAt? p = some x → ∃ y, u.testAt? p = some y ∧
        if (p.1, x.id) ∈ ts then Test.Ran b x y else y = x := by
  obtain ⟨es, ys, calls, -, -, hran, -, -, hm⟩ :=
    runTogether_settles b w ((t.placed ts).map Prod.snd)
  have hfound : ∀ q ∈ t.placed ts, t.testAt? q.1 = some q.2 := fun q hq =>
    (mem_placed_iff.1 hq).1
  obtain ⟨hpristine, hplaces⟩ := foldl_setTestAt_ran (List.forall₂_map_left_iff.1 hran)
    (nodup_map_fst_placed t ts) hfound
  refine ⟨_, _, _, hm.bind_pure, hpristine, ?_, fun p x hx => ?_⟩
  · rw [answerOf_eq_ok_iff, List.forall_mem_map]
    constructor
    · intro h p x hx hmem
      exact h (p, x) (mem_placed_iff.2 ⟨hx, hmem⟩)
    · rintro h ⟨p, x⟩ hq
      obtain ⟨hx, hmem⟩ := mem_placed_iff.1 hq
      exact h p x hx hmem
  · have hmem : p ∈ (t.placed ts).map Prod.fst ↔ (p.1, x.id) ∈ ts := by
      rw [List.mem_map]
      constructor
      · rintro ⟨⟨p, y⟩, hq, rfl⟩
        obtain ⟨hy, hmem⟩ := mem_placed_iff.1 hq
        obtain rfl := Option.some.inj (hx.symm.trans hy)
        exact hmem
      · exact fun h => ⟨(p, x), mem_placed_iff.2 ⟨hx, h⟩, rfl⟩
    obtain ⟨y, hy, hy'⟩ := hplaces p x hx
    simp only [hmem] at hy'
    exact ⟨y, hy, hy'⟩

/-- Running targets at once leaves those stuck that repeat a test. -/
theorem stuck_runPlaces_iff {ts : List TestTarget} (hpristine : u.pristine = t.pristine)
    (hplaces : ∀ p x, t.testAt? p = some x → ∃ y, u.testAt? p = some y ∧
      if (p.1, x.id) ∈ ts then Test.Ran b x y else y = x) (τ : TestTarget) :
    u.Stuck τ ↔ t.Stuck τ ∨ τ ∈ ts ∧ t.Repeats τ := by
  have hrepeated : ∀ {p x y}, t.Repeated p x → u.testAt? p = some y → u.Repeated p y := by
    intro p x y hx hy
    obtain ⟨y', hy', -⟩ := hx.of_pristine_eq hpristine.symm
    exact Option.some.inj (hy'.1.symm.trans hy) ▸ hy'
  have hstuck : ∀ p x, t.Repeated p x → (p.1, x.id) ∈ ts ∨ x.status ≠ .pending →
      u.Stuck (p.1, x.id) := by
    intro p x hx h
    obtain ⟨y, hy, hran⟩ := hplaces p x hx.1
    split_ifs at hran with hmem
    · have hid : y.id = x.id := Test.id_eq_of_reset_eq hran.reset_eq
      exact ⟨p, y, hrepeated hx hy, by rw [hid], hran.status_ne_pending⟩
    · exact ⟨p, y, hrepeated hx hy, by rw [hran], hran ▸ h.resolve_left hmem⟩
  constructor
  · rintro ⟨p, y, hy, rfl, hp⟩
    obtain ⟨x, hx, hxy⟩ := hy.of_pristine_eq hpristine
    have hid : x.id = y.id := Test.id_eq_of_reset_eq hxy
    obtain ⟨y', hy', hran⟩ := hplaces p x hx.1
    obtain rfl := Option.some.inj (hy.1.symm.trans hy')
    rw [← hid]
    split_ifs at hran with hmem
    · exact Or.inr ⟨hmem, p, x, hx, rfl⟩
    · exact Or.inl ⟨p, x, hx, rfl, hran ▸ hp⟩
  · rintro (⟨p, x, hx, rfl, hp⟩ | ⟨hmem, p, x, hx, rfl⟩)
    · exact hstuck p x hx (Or.inr hp)
    · exact hstuck p x hx (Or.inl hmem)

/-- All tests with the selected targets are pending, unless one of these targets is stuck. -/
theorem forall_pending_iff {ts : List TestTarget} (hspares : t.Spares u)
    (hready : ∀ τ ∈ ts, ∀ x, u.testIn? τ = some x → x.status = .pending) :
    (∀ τ ∈ ts, ¬ t.Stuck τ) ↔
      ∀ p x, u.testAt? p = some x → (p.1, x.id) ∈ ts → x.status = .pending := by
  simp only [← hspares.stuck_iff]
  constructor
  · intro h p x hx hmem
    by_cases hrepeated : u.Repeated p x
    · by_contra hp
      exact h _ hmem ⟨p, x, hrepeated, rfl, hp⟩
    · have hplace := place?_of_not_repeated hx hrepeated
      exact hready _ hmem x (by rw [testIn?_eq, hplace]; exact hx)
  · rintro h τ hτ ⟨p, x, hx, rfl, hp⟩
    exact hp (h p x hx.1 hτ)

/-! ### Runs -/

/-- **A run** ends with a summary, unless it runs at once and a target that it selects is stuck.
Running at once leaves the selected targets stuck that repeat a test. -/
theorem run_outcome (b : Backend (StateM σ)) (o : RunOptions) (t : TestTree) (w : σ) :
    ∃ r u calls, b.Makes w (t.run b o) (t.run b.recorded o) (r, u) calls ∧
      u.pristine = t.pristine ∧
      ((∃ s, r = .ok s) ↔ (o.mode = .parallel → ∀ τ ∈ t.selected o.filter, ¬ t.Stuck τ)) ∧
      ∀ τ, u.Stuck τ ↔
        t.Stuck τ ∨ o.mode = .parallel ∧ τ ∈ t.selected o.filter ∧ t.Repeats τ := by
  obtain ⟨mode, filter⟩ := o
  obtain ⟨skipped, t₂, hsift, hspares, hready⟩ := sift_reset filter t
  simp only [run, hsift]
  cases mode with
  | sequential =>
      obtain ⟨rs, u, calls, h₃, hm⟩ :=
        runTargets_spares (nodup_selected t filter) hready b w
      refine ⟨_, _, _, hm.bind_pure, (hspares.trans h₃).pristine, ?_, fun τ => ?_⟩
      · refine iff_of_true ⟨_, rfl⟩ fun h => ?_
        cases h
      · rw [(hspares.trans h₃).stuck_iff]
        simp
  | parallel =>
      obtain ⟨r, u, calls, hm, hpristine, hok, hplaces⟩ :=
        runPlaces_outcome b w (t.selected filter) t₂
      refine ⟨_, _, _, hm.bind_pure, hpristine.trans hspares.pristine, ?_, fun τ => ?_⟩
      · have hresult : (∃ s, r.map (fun rs => (⟨.ofList (skipped ++ rs)⟩ : RunSummary)) = .ok s) ↔
            ∃ rs, r = .ok rs := by
          cases r <;> simp [Except.map]
        rw [hresult, hok, ← forall_pending_iff hspares hready]
        simp
      · rw [stuck_runPlaces_iff hpristine hplaces, hspares.stuck_iff,
          repeats_of_pristine_eq hspares.pristine]
        simp

/-- Runs a tree several times, each time with a backend and options of its own. -/
def runAll : List (Backend (StateM σ) × RunOptions) → TestTree →
    StateM σ (List (Except InvalidTransition RunSummary) × TestTree)
  | [], t => return ([], t)
  | (b, o) :: runs, t => do
    let (r, t) ← t.run b o
    let (rs, t) ← runAll runs t
    return (r :: rs, t)

/-- One run after another. -/
theorem run_runAll_cons {o : RunOptions} {runs : List (Backend (StateM σ) × RunOptions)}
    {r : Except InvalidTransition RunSummary} {rs : List (Except InvalidTransition RunSummary)}
    {v : TestTree} {w₁ w₂ : σ} (hrun : (t.run b o).run w = ((r, v), w₁))
    (hruns : (runAll runs v).run w₁ = ((rs, u), w₂)) :
    (runAll ((b, o) :: runs) t).run w = ((r :: rs, u), w₂) := by
  have hcons : (runAll ((b, o) :: runs) t).run w =
      (fun e => ((((t.run b o).run w).1.1 :: e.1.1, e.1.2), e.2))
        ((runAll runs ((t.run b o).run w).1.2).run ((t.run b o).run w).2) := rfl
  rw [hcons, hrun, hruns]

/-- **Any number of runs.** A run one after the other always ends with a summary. A run at once does
just if all tests that repeat the id of one that it selects are pending: they are as they were
before the first run, until a run at once selects them. -/
theorem runAll_outcome (t : TestTree) (runs : List (Backend (StateM σ) × RunOptions)) (w : σ) :
    ∃ rs u w', (runAll runs t).run w = ((rs, u), w') ∧ rs.length = runs.length ∧
      ∀ i e, runs[i]? = some e → ((∃ s, rs[i]? = some (.ok s)) ↔
        (e.2.mode = .parallel → ∀ τ ∈ t.selected e.2.filter, ¬ t.Stuck τ ∧ (t.Repeats τ →
          ∀ d ∈ runs.take i, d.2.mode = .parallel → τ ∉ t.selected d.2.filter))) := by
  induction runs generalizing t w with
  | nil => exact ⟨[], t, w, rfl, rfl, fun i e h => by cases h⟩
  | cons d runs ih =>
      obtain ⟨b, o⟩ := d
      obtain ⟨r, v, calls, hm, hpristine, hok, hstuck⟩ := run_outcome b o t w
      obtain ⟨rs, u, w', hrun, hlen, hlater⟩ := ih v (b.replay w calls)
      refine ⟨r :: rs, u, w', ?_, congrArg (· + 1) hlen, fun i e he => ?_⟩
      · exact run_runAll_cons hm.plain hrun
      · cases i with
        | zero =>
            obtain rfl := Option.some.inj he
            simpa using hok
        | succ i =>
            rw [List.getElem?_cons_succ] at he ⊢
            rw [hlater i e he, selected_of_pristine_eq hpristine]
            refine forall₃_congr fun _ τ _ => ?_
            rw [hstuck, repeats_of_pristine_eq hpristine, List.take_succ_cons,
              List.forall_mem_cons]
            simp only [selected_of_pristine_eq hpristine]
            -- for the later runs, this one is an earlier run that leaves stuck what it selects
            constructor
            · rintro ⟨hno, hearlier⟩
              rw [not_or] at hno
              exact ⟨hno.1, fun h => ⟨fun hpar hsel => hno.2 ⟨hpar, hsel, h⟩, hearlier h⟩⟩
            · rintro ⟨hno, hearlier⟩
              refine ⟨?_, fun h => (hearlier h).2⟩
              rintro (h | ⟨hpar, hsel, h⟩)
              · exact hno h
              · exact (hearlier h).1 hpar hsel

/-- A second run at once fails: the suite has two tests with one id, the first run runs both, and
only the first of them is reset. -/
theorem not_ok_runAll_repeated_id :
    let t := empty.perform [.createSuite "s" { id := "a", name := "a", tests :=
        [.make "a:1:0" "one" "1", .make "a:1:0" "two" "2"] }, .createLeaf 1 "a:1:0", .addChild 0 2]
    let b : Backend (StateM Unit) :=
      ⟨fun _ => pure false, fun r => pure ⟨⟨0⟩, .ok r.code⟩, fun rs => List.range rs.length⟩
    let o : RunOptions := { mode := .parallel }
    (((runAll [(b, o), (b, o)] t).run ()).1.1.map fun r => r.map fun _ => ()) =
      [.ok (), .error ⟨.passed, .running⟩] := by
  decide

end TestTree
end DocExamples
