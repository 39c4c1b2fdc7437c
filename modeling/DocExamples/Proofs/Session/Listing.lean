/-
# What a run selects is what the listing shows

The targets of a loaded tree name its tests in the order in which the tree lists them
(`Loaded.named_targets`). Neither the statuses nor the results of tests decide about selecting them
or about their requests (`map_filter_tests_congr`). So the tests that a pattern lists are those that
a run with this pattern does not skip, and one after the other they reach the backend in the order
of the listing (`listing_run`).
-/

import DocExamples.Proofs.Session.Attached

namespace DocExamples

variable {σ α β : Type} {b : Backend (StateM σ)} {o : RunOptions} {w w' : σ} {calls : List Call}

/-- An action that makes no calls, beside a record of the calls. -/
def Backend.silently (p : StateM σ α) : StateM (σ × List Call) α :=
  fun (w, calls) => ((p.run w).1, (p.run w).2, calls)

namespace TestTree

variable {t u : TestTree} {ts : List TestTarget}

/-- Targets of tests that are there name them by their ids. -/
theorem map_id_named (h : ∀ τ ∈ ts, (t.testIn? τ).isSome) :
    (t.named ts).map (·.id) = ts.map Prod.snd := by
  induction ts with
  | nil => rfl
  | cons τ ts ih =>
      obtain ⟨hτ, hts⟩ := List.forall_mem_cons.1 h
      obtain ⟨x, hx⟩ := Option.isSome_iff_exists.1 hτ
      have hnamed : t.named (τ :: ts) = x :: t.named ts := List.filterMap_cons_some hx
      rw [hnamed, List.map_cons, List.map_cons, ih hts, id_of_testIn? hx]

/-- Tests of trees with one pristine tree agree in what does not depend on status and result. -/
theorem map_filter_tests_congr (h : t.pristine = u.pristine) {p : Test → Bool} {f : Test → β}
    (hp : ∀ x, p x.reset = p x) (hf : ∀ x, f x.reset = f x) :
    (t.tests.filter p).map f = (u.tests.filter p).map f := by
  have hreset : ∀ l : List Test, (l.filter p).map f = ((l.map Test.reset).filter p).map f := by
    intro l
    rw [List.filter_map, List.map_map]
    simp only [Function.comp_def, hp, hf]
  rw [hreset, hreset u.tests, ← tests_mapTests, ← tests_mapTests]
  exact congrArg (fun t : TestTree => (t.tests.filter p).map f) h

end TestTree

namespace Session

open TestTree Backend

variable {s u : Session} {t tree : TestTree} {timeout : Duration} {scans : List Scan}

/-- **The targets of a loaded tree** name its tests in their order. -/
theorem Loaded.named_targets (h : Loaded t timeout scans) :
    t.named (t.targets root) = t.tests := by
  have hnamed : t.named ((t.leaves root).filterMap t.leafTarget?) = t.tests := by
    have hleaves : t.named ((t.leaves root).filterMap t.leafTarget?) =
        ((t.leaves root).map t.leafTest?).filterMap id := by
      rw [named, List.filterMap_filterMap, List.filterMap_map]
      rfl
    rw [hleaves, h.leafTests_eq, List.filterMap_map]
    exact List.filterMap_some
  have hsome : ∀ τ ∈ (t.leaves root).filterMap t.leafTarget?, (t.testIn? τ).isSome := by
    intro τ hτ
    obtain ⟨leaf, hleaf, htarget⟩ := List.mem_filterMap.1 hτ
    have hmem := List.mem_map_of_mem (f := t.leafTest?) hleaf
    rw [h.leafTests_eq, leafTest?, htarget, Option.bind_some] at hmem
    obtain ⟨x, -, hx⟩ := List.mem_map.1 hmem
    exact hx ▸ rfl
  -- ids come once, so no leaf names what another one names
  have hnodup : (((t.leaves root).filterMap t.leafTarget?).map Prod.snd).Nodup := by
    rw [← map_id_named hsome, hnamed]
    exact h.indexed.nodup_tests h.forest
  rw [targets_eq, Keyed.eraseDups_of_nodup hnodup.of_map, hnamed]

/-- **The run of a tree that has been loaded**, whatever the statuses of its tests are: it does not
skip the tests that its filter selects, and begins their requests in the order of the tests. -/
theorem Loaded.run_selected (h : Loaded t timeout scans) (hu : tree.pristine = t.pristine)
    (b : Backend (StateM σ)) (o : RunOptions) (w : σ) :
    ∃ summary tree' calls,
      b.Makes w (tree.run b o) (tree.run b.recorded o) (.ok summary, tree') calls ∧
      (∀ id, id ∈ (tree.tests.filter o.filter.selects).map (·.id) ↔
        ∃ r, summary.results[id]? = some r ∧ r.status ≠ .skipped) ∧
      (Call.begun calls).Perm ((tree.tests.filter o.filter.selects).map Test.request) ∧
      (o.mode = .sequential →
        Call.begun calls = (tree.tests.filter o.filter.selects).map Test.request) := by
  have hids := h.ready.nodup_targets_ids
  obtain ⟨κ, rs, calls, hs, hm, hseq⟩ := run_makes h.ready.distinct hids b o w
  have hnodup := nodup_named_ids (t := t) hids
  rw [h.named_targets] at hs hseq hnodup
  have hrequests : (tree.tests.filter o.filter.selects).map Test.request =
      (t.tests.filter o.filter.selects).map Test.request :=
    map_filter_tests_congr hu (fun _ => rfl) fun _ => rfl
  have hlisted : (tree.tests.filter o.filter.selects).map (·.id) =
      (t.tests.filter o.filter.selects).map (·.id) :=
    map_filter_tests_congr hu (fun _ => rfl) fun _ => rfl
  rw [run_eq_of_pristine_eq hu h.ready, run_eq_of_pristine_eq hu h.ready, hrequests, hlisted]
  refine ⟨_, _, calls, hm, fun id => ?_, hs.begun, fun hmode => ?_⟩
  · simp only [hs.getElem?_results hnodup, List.mem_map, List.mem_filter]
    constructor
    · rintro ⟨x, ⟨hx, hsel⟩, rfl⟩
      refine ⟨_, ⟨x, hx, rfl, rfl⟩, ?_⟩
      rw [ne_eq, o.filter.status_resultOf_eq_skipped_iff, hsel]
      nofun
    · rintro ⟨_, ⟨x, hx, rfl, rfl⟩, hstatus⟩
      rw [ne_eq, o.filter.status_resultOf_eq_skipped_iff, Bool.not_eq_false] at hstatus
      exact ⟨x, ⟨hx, hstatus⟩, rfl⟩
  · rw [hseq hmode]
    exact Call.begun_flatMap _ _

/-- A session calls the backend for its tests only. -/
theorem run_recorded (read : String → StateM σ (Except ReadError String))
    {a : Except InvalidTransition RunSummary × TestTree}
    (h : b.Makes w (s.tree.run b o) (s.tree.run b.recorded o) a calls) :
    (s.run b.recorded (fun path => silently (read path)) o).run (w, []) =
      (((s.run b read o).run w).1, ((s.run b read o).run w).2, calls) := by
  obtain ⟨r, tree⟩ := a
  have hrecorded := h.recorded []
  rw [List.nil_append] at hrecorded
  cases r with
  | error e =>
      simp only [Session.run, StateT.run_bind, h.plain, hrecorded]
      rfl
  | ok summary =>
      simp only [Session.run, StateT.run_bind, h.plain, hrecorded]
      cases s.config.coverage.tracefile with
      | none => rfl
      | some path => rfl

/-- **Listing and running select the same tests.** Whatever has become of a session since it loaded
some sources, and whatever the statuses of its tests are: the tests that a pattern lists are those
that the summary of a run with this pattern has and does not count as skipped. The backend begins
the requests of the listed tests, each once, and one after the other in the order of the listing.
The run ends with a summary unless the tracefile cannot be read. -/
theorem listing_run {sources : Sources} (h : Kept (s.loadSources sources).2 u) {text : String}
    {filter : TestFilter} (hfilter : TestFilter.ofPattern text = .ok filter)
    (b : Backend (StateM σ)) (read : String → StateM σ (Except ReadError String)) (mode : RunMode)
    (w : σ) :
    ∃ listed r u' w' calls, u.filterTests text = .ok listed ∧
      (u.run b read ⟨mode, filter⟩).run w = ((r, u'), w') ∧
      (u.run b.recorded (fun path => silently (read path)) ⟨mode, filter⟩).run (w, []) =
        ((r, u'), (w', calls)) ∧
      (∀ summary, r = .ok summary → ∀ id, id ∈ listed.map (·.id) ↔
        ∃ result, summary.results[id]? = some result ∧ result.status ≠ .skipped) ∧
      (Call.begun calls).Perm (listed.map Test.request) ∧
      (mode = .sequential → Call.begun calls = listed.map Test.request) ∧
      ((∀ path ∈ u.config.coverage.tracefile, ∀ w, ((read path).run w).1 ≠ .error .unreadable) →
        ∃ summary, r = .ok summary) := by
  obtain ⟨hload, hloaded⟩ := loadSources_eq s sources
  have hpristine : u.tree.pristine = (s.treeOf sources).pristine := by
    rw [h.pristine, hload]
  have hlisted : u.filterTests text = .ok (u.tree.tests.filter filter.selects) := by
    rw [filterTests, hfilter]
  obtain ⟨summary, tree, calls, hm, hresults, hbegun, hseq⟩ :=
    hloaded.run_selected hpristine b ⟨mode, filter⟩ w
  obtain ⟨w', hrun⟩ : ∃ w', (u.run b read ⟨mode, filter⟩).run w = _ := run_of_tree hm.plain
  have hrecorded := run_recorded read hm
  rw [hrun] at hrecorded
  refine ⟨_, _, _, w', calls, hlisted, hrun, hrecorded, fun summary' hok => ?_, hbegun, hseq,
    fun hread => ?_⟩
  · cases hrenewal : renewal u.config
        (u.config.coverage.tracefile.map fun path => ((read path).run (b.replay w calls)).1) with
    | error e =>
        rw [hrenewal] at hok
        cases hok
    | ok =>
        rw [hrenewal] at hok
        obtain rfl : summary = summary' := Except.ok.inj hok
        exact hresults
  · have htrace : (u.config.coverage.tracefile.map fun path =>
        ((read path).run (b.replay w calls)).1) ≠ some (.error .unreadable) := by
      intro heq
      obtain ⟨path, hpath, hunreadable⟩ := Option.map_eq_some_iff.1 heq
      exact hread path hpath _ hunreadable
    rw [renewal_eq_ok htrace]
    exact ⟨summary, rfl⟩

/-- The hypotheses of `listing_run` are satisfiable: of two files with a test each, a pattern
selects the test of the second one, which was left running. -/
theorem listing_run_left_running :
    let s : Session := { config := {}, provider := fun _ _ => [], excluded := [], coverage := {} }
    let sources : Sources :=
      (({} : Sources).insert "a.c" "// >>> f()\n// 1\nint f();").insert "b.c" "// >>> g()\n// 1\n"
    let loaded := (s.loadSources sources).2
    let u := { loaded with tree := loaded.tree.modifyCase 5 (·.modify 0 TestOp.start.apply) }
    let b : Backend (StateM (List RunEvent)) := .scripted fun _ => ⟨⟨0⟩, .ok "1"⟩
    let read : String → StateM (List RunEvent) (Except ReadError String) :=
      fun _ => pure (.error .missing)
    (u.tree.tests.map (·.status)) = [.pending, .running] ∧
    ∃ filter, TestFilter.ofPattern "^b" = .ok filter ∧
      ∃ listed summary u' log calls, u.filterTests "^b" = .ok listed ∧
        listed.map (·.id) = ["b.c:1:0"] ∧
        (u.run b read ⟨.sequential, filter⟩).run [] = ((.ok summary, u'), log) ∧
        (u.run b.recorded (fun path => silently (read path)) ⟨.sequential, filter⟩).run ([], []) =
          ((.ok summary, u'), (log, calls)) ∧
        Call.begun calls = listed.map Test.request ∧
        ∃ result, summary.results["b.c:1:0"]? = some result ∧ result.status ≠ .skipped := by
  intro s sources loaded u b read
  have hkept : Kept loaded u := ⟨rfl, rfl, pristine_changeTest loaded.tree 5 0 .start⟩
  have hconfig : u.config = {} :=
    hkept.config.trans (congrArg (·.2.config) (loadSources_eq s sources).1)
  have hids : (u.filterTests "^b").toOption.map (·.map (·.id)) = some ["b.c:1:0"] := by
    decide +kernel
  refine ⟨by decide +kernel, ?_⟩
  cases hfilter : TestFilter.ofPattern "^b" with
  | error e =>
      rw [filterTests, hfilter] at hids
      cases hids
  | ok filter =>
      obtain ⟨listed, r, u', log, calls, hlisted, hrun, hrecorded, hsame, -, hseq, hok⟩ :=
        listing_run hkept hfilter b read .sequential []
      obtain ⟨summary, rfl⟩ := hok fun path hpath => by
        rw [hconfig] at hpath
        cases hpath
      rw [hlisted] at hids
      have hids : listed.map (·.id) = ["b.c:1:0"] := Option.some.inj hids
      refine ⟨filter, rfl, listed, summary, u', log, calls, hlisted, hids, hrun, hrecorded,
        hseq rfl, (hsame summary rfl "b.c:1:0").1 ?_⟩
      rw [hids]
      exact List.mem_singleton.2 rfl

end Session
end DocExamples
