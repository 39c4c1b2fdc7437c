/-
# Runs do not depend on history

A session that has been loaded may run its tests with any filter and in any mode, be reset, and have
the status of its tests changed. All of this leaves what has been loaded, the pristine tree, and a
coverage that the next renewal forgets (`Aged.perform`). So whatever happened before, a run yields
what it yields right after loading (`run_after_history`).
-/

import DocExamples.Proofs.Run.Rerun
import DocExamples.Proofs.Session.Load
import DocExamples.Proofs.Session.Renew

namespace DocExamples

/-- What may happen to a session between loading and a run. -/
inductive SessionOp where
  | run (options : RunOptions)
  | reset
  /-- Changes the status of the test at a position of the case of a suite. -/
  | changeTest (suite : NodeId) (position : Nat) (op : TestOp)

namespace Session

open TestTree Backend

/-! ### Loaded trees are ready to run -/

namespace Loaded

variable {t : TestTree} {timeout : Duration} {scans : List Scan} {n : NodeId} {c : TestCase}
  {id : String} {τ : TestTarget} (h : Loaded t timeout scans)
include h

theorem exists_filed {g : NodeId} (hg : g ∈ t.children root) : ∃ scan, Filed t timeout scan g := by
  obtain ⟨⟨i, hi⟩, rfl⟩ := List.mem_iff_get.1 hg
  obtain ⟨hlength, hget⟩ := List.forall₂_iff_get.1 h.filed
  exact ⟨_, hget i (hlength ▸ hi) hi⟩

/-- **A suite of a loaded tree** is below the root, and the leaves before it name its tests. -/
theorem suite_named (hn : t.kind? n = some (.suite c)) :
    t.Below root n ∧ ∀ id ∈ t.ids n, (n, id) ∈ t.targets root := by
  obtain ⟨g, hg, hng⟩ := h.suites n c hn
  obtain ⟨scan, hscan⟩ := h.exists_filed hg
  have hbelow : ∀ m ∈ t.children g, t.Below root m := fun m hm =>
    (below_of_parent? ((h.forest.mem_children_iff root g).1 hg)).trans
      (below_of_parent? ((h.forest.mem_children_iff g m).1 hm))
  have hcontents := hscan.contents
  unfold ContentsOf at hcontents
  split_ifs at hcontents
  · rw [hcontents] at hng
    cases hng
  obtain ⟨leaves, suite, hnodes, hsuite, hleaves⟩ := hcontents
  -- the other nodes of the group are leaves
  have hns : n = suite := by
    obtain hmem | hmem := List.mem_append.1 (hnodes ▸ hng)
    · obtain ⟨id, hleaf⟩ := hleaves.kind? hmem
      rw [hn] at hleaf
      cases hleaf
    · exact List.mem_singleton.1 hmem
  subst hns
  refine ⟨hbelow n hng, fun id hid => ?_⟩
  rw [ids, case?_eq, hsuite] at hid
  have hmem : some (n, id) ∈ leaves.map t.leafTarget? := by
    rw [hleaves]
    exact List.mem_map_of_mem hid
  obtain ⟨leaf, hleaf, htarget⟩ := List.mem_map.1 hmem
  have hchild : leaf ∈ t.children g := hnodes ▸ List.mem_append_left _ hleaf
  exact h.forest.mem_targets_root_iff.2 ⟨leaf, hbelow leaf hchild, htarget⟩

/-- The index lists what leaves name. -/
theorem getElem?_index_of_mem_targets (hτ : τ ∈ t.targets root) : t.index[τ.2]? = some τ.1 := by
  obtain ⟨leaf, hleaf, htarget⟩ := mem_targets_iff.1 hτ
  have hmem := List.mem_map_of_mem (f := t.leafTest?) hleaf
  rw [h.leafTests_eq] at hmem
  obtain ⟨x, -, hx⟩ := List.mem_map.1 hmem
  rw [leafTest?, htarget] at hx
  obtain ⟨c, hc, hfind⟩ := testIn?_eq_some_iff.1 hx.symm
  have hid : τ.2 ∈ t.ids τ.1 :=
    mem_ids_iff.2 ⟨c, hc, x, List.mem_of_find?_eq_some hfind, id_of_testIn? hx.symm⟩
  obtain ⟨d, hsuite⟩ := isSuite_of_mem_ids hid
  exact (h.indexed.getElem?_iff τ.2 τ.1).2 ⟨(h.suite_named hsuite).1, hid⟩

/-- **A loaded tree is ready to run.** -/
theorem ready : t.Ready where
  nodup_ids τ hτ := h.indexed.nodup_ids τ.1
    ((h.indexed.getElem?_iff τ.2 τ.1).1 (h.getElem?_index_of_mem_targets hτ)).1
  nodup_targets_ids :=
    (List.nodup_map_iff_inj_on (nodup_targets t root)).2 fun σ hσ τ hτ heq => by
      have hindex := h.getElem?_index_of_mem_targets hσ
      rw [heq, h.getElem?_index_of_mem_targets hτ] at hindex
      exact Prod.ext (Option.some.inj hindex).symm heq
  named s id hid := by
    obtain ⟨c, hc⟩ := isSuite_of_mem_ids hid
    exact (h.suite_named hc).2 id hid

end Loaded

/-! ### What history leaves -/

section Perform

variable {m : Type → Type} [Monad m]

/-- The session after an operation. Runs read the tracefile by `read`. -/
def apply (b : Backend m) (read : String → m (Except ReadError String)) (s : Session) :
    SessionOp → m Session
  | .run o => do
    let (_, s) ← s.run b read o
    return s
  | .reset => return s.reset
  | .changeTest suite position op =>
    return { s with tree := s.tree.modifyCase suite (·.modify position op.apply) }

/-- The session after a sequence of operations. -/
def perform (b : Backend m) (read : String → m (Except ReadError String)) (s : Session)
    (ops : List SessionOp) : m Session := ops.foldlM (apply b read) s

end Perform

/-- **A step lemma holds along a history.** -/
theorem perform_of_apply {σ : Type} {P : Session → Prop} {b : Backend (StateM σ)}
    {read : String → StateM σ (Except ReadError String)}
    (hstep : ∀ s op w, P s → ∃ s' w', (apply b read s op).run w = (s', w') ∧ P s')
    {s : Session} (hs : P s) (ops : List SessionOp) (w : σ) :
    ∃ s' w', (s.perform b read ops).run w = (s', w') ∧ P s' := by
  induction ops generalizing s w with
  | nil => exact ⟨s, w, rfl, hs⟩
  | cons op ops ih =>
      obtain ⟨s', w', hop, hs'⟩ := hstep s op w hs
      obtain ⟨s'', w'', hops, hs''⟩ := ih hs' w'
      refine ⟨s'', w'', ?_, hs''⟩
      rw [Session.perform, List.foldlM_cons, StateT.run_bind, hop]
      exact hops

/-- What reading the tracefile of a configuration yields, if it names one. -/
def traceOf (file : String → Except ReadError String) (config : Config) :
    Option (Except ReadError String) := config.coverage.tracefile.map file

variable {σ σ₁ σ₂ : Type} {b : Backend (StateM σ)} {o : RunOptions} {s u : Session} {w w' : σ}
  {read : String → StateM σ (Except ReadError String)} {file : String → Except ReadError String}

/-- **The run of a session** is that of its tree and then a renewal of the coverage, with what
reading the tracefile yields at that time. -/
theorem run_of_tree {summary : RunSummary} {tree : TestTree}
    (htree : (s.tree.run b o).run w = ((.ok summary, tree), w')) :
    let trace := s.config.coverage.tracefile.map fun path => ((read path).run w').1
    ∃ w'', (s.run b read o).run w =
      (((renewal s.config trace).map fun () => summary, { s with
        tree
        coverage := renewed tree.tests s.scans s.coverage trace }), w'') := by
  intro trace
  have hrun : ∃ w'', (s.run b read o).run w = ((fun r : Except SessionError Unit × Session =>
      (r.1.map fun () => summary, r.2)) (({ s with tree } : Session).updateCoverage trace),
        w'') := by
    simp only [Session.run, StateT.run_bind, htree, trace]
    cases s.config.coverage.tracefile with
    | none => exact ⟨_, rfl⟩
    | some path => exact ⟨_, rfl⟩
  rwa [updateCoverage_eq] at hrun

/-- If the tracefile does not change, it does not matter when it is read. -/
theorem run_eq {summary : RunSummary} {tree : TestTree}
    (htree : (s.tree.run b o).run w = ((.ok summary, tree), w'))
    (hread : ∀ path w, ((read path).run w).1 = file path) :
    ∃ w'', (s.run b read o).run w =
      (((renewal s.config (traceOf file s.config)).map fun () => summary, { s with
        tree
        coverage := renewed tree.tests s.scans s.coverage (traceOf file s.config) }), w'') := by
  obtain ⟨w'', hrun⟩ : ∃ w'', (s.run b read o).run w = _ := run_of_tree htree
  simp only [hread] at hrun
  exact ⟨w'', hrun⟩

/-- **What a session may become** by its history: what has been loaded stays, the tree differs in
statuses and results only, and the next renewal of the coverage is as good as the first one. -/
structure Aged (file : String → Except ReadError String) (u s : Session) : Prop where
  config : s.config = u.config
  scans : s.scans = u.scans
  pristine : s.tree.pristine = u.tree.pristine
  sound : s.coverage.Sound
  renews : ∀ tests, (renewed tests u.scans s.coverage (traceOf file u.config)).files =
    (renewed tests u.scans {} (traceOf file u.config)).files

namespace Aged

/-- A run ends with a summary unless the tracefile cannot be read, and the session ages. -/
theorem run (h : Aged file u s) (hu : u.tree.Ready)
    (hread : ∀ path w, ((read path).run w).1 = file path) (b : Backend (StateM σ)) (o : RunOptions)
    (w : σ) : ∃ r s' w', (s.run b read o).run w = ((r, s'), w') ∧ Aged file u s' := by
  obtain ⟨summary, tree, w', htree, hpristine⟩ := (hu.of_pristine_eq h.pristine).run_ok b o w
  obtain ⟨w'', hrun⟩ := run_eq htree hread
  refine ⟨_, _, w'', hrun, h.config, h.scans, hpristine.trans h.pristine, ?_, fun tests => ?_⟩
  · exact sound_renewed h.sound _ _ _
  · rw [h.config, h.scans, files_renewed_renewed, h.renews]

theorem reset (h : Aged file u s) : Aged file u s.reset where
  config := h.config
  scans := h.scans
  pristine := (pristine_reset s.tree).trans h.pristine
  sound := s.coverage.sound_reset
  renews _ := files_renewed_reset s.coverage _ _ _

theorem changeTest (h : Aged file u s) (suite : NodeId) (i : ℕ) (op : TestOp) :
    Aged file u { s with tree := s.tree.modifyCase suite (·.modify i op.apply) } where
  config := h.config
  scans := h.scans
  pristine := (pristine_changeTest s.tree suite i op).trans h.pristine
  sound := h.sound
  renews := h.renews

/-- **One operation.** -/
theorem apply (h : Aged file u s) (hu : u.tree.Ready)
    (hread : ∀ path w, ((read path).run w).1 = file path) (b : Backend (StateM σ)) (op : SessionOp)
    (w : σ) : ∃ s' w', (s.apply b read op).run w = (s', w') ∧ Aged file u s' := by
  cases op with
  | run o =>
      obtain ⟨r, s', w', hrun, hs'⟩ := h.run hu hread b o w
      refine ⟨s', w', ?_, hs'⟩
      rw [Session.apply, StateT.run_bind, hrun]
      rfl
  | reset => exact ⟨_, _, rfl, h.reset⟩
  | changeTest suite i op => exact ⟨_, _, rfl, h.changeTest suite i op⟩

/-- **Any history.** -/
theorem perform (h : Aged file u s) (hu : u.tree.Ready)
    (hread : ∀ path w, ((read path).run w).1 = file path) (b : Backend (StateM σ))
    (ops : List SessionOp) (w : σ) :
    ∃ s' w', (s.perform b read ops).run w = (s', w') ∧ Aged file u s' :=
  perform_of_apply (fun _ op w hs => hs.apply hu hread b op w) h ops w

end Aged

/-! ### Runs after a history -/

/-- What a session loads depends on its configuration and its provider only. -/
theorem aged_loadSources {s₁ s₂ : Session} (hconfig : s₁.config = s₂.config)
    (hprovider : s₁.provider = s₂.provider) (sources : Sources)
    (file : String → Except ReadError String) :
    Aged file (s₂.loadSources sources).2 (s₁.loadSources sources).2 := by
  have htimeout : s₁.testTimeout = s₂.testTimeout := by rw [testTimeout, hconfig, testTimeout]
  have hscan : s₁.scanOf = s₂.scanOf := by
    funext source
    rw [scanOf, hprovider, scanOf]
  rw [(loadSources_eq s₁ sources).1, (loadSources_eq s₂ sources).1]
  refine ⟨hconfig, ?_, ?_, s₁.coverage.sound_reset,
    fun _ => files_renewed_reset s₁.coverage _ _ _⟩
  · rw [hscan]
  · rw [treeOf, treeOf, scansOf, scansOf, htimeout, hscan]

theorem passedCount_untimed (tests : List Test) :
    passedCount (tests.map Test.untimed) = passedCount tests := by
  funext path name
  rw [passedCount, passedCount, List.countP_map]
  rfl

/-- **Runs of sessions with one origin agree**, whatever has become of each of them. -/
theorem run_agree_of_aged {s₁ s₂ : Session} (h₁ : Aged file u s₁) (h₂ : Aged file u s₂)
    (hu : u.tree.Ready) (o : RunOptions) {reply : Request → Outcome} {b₁ : Backend (StateM σ₁)}
    {b₂ : Backend (StateM σ₂)} (hb₁ : b₁.Answers reply) (hb₂ : b₂.Answers reply)
    {read₁ : String → StateM σ₁ (Except ReadError String)}
    {read₂ : String → StateM σ₂ (Except ReadError String)}
    (hread₁ : ∀ path w, ((read₁ path).run w).1 = file path)
    (hread₂ : ∀ path w, ((read₂ path).run w).1 = file path) (w₁ : σ₁) (w₂ : σ₂) :
    ∃ (q₁ q₂ : RunSummary) (u₁ u₂ : Session) (w₁' : σ₁) (w₂' : σ₂),
      (s₁.run b₁ read₁ o).run w₁ =
        (((renewal u.config (traceOf file u.config)).map fun () => q₁, u₁), w₁') ∧
      (s₂.run b₂ read₂ o).run w₂ =
        (((renewal u.config (traceOf file u.config)).map fun () => q₂, u₂), w₂') ∧
      q₁.results.untimed = q₂.results.untimed ∧ u₁.tree.untimed = u₂.tree.untimed ∧
      u₁.coverage.files = u₂.coverage.files ∧ u₁.coverage.summary = u₂.coverage.summary := by
  obtain ⟨q₁, q₂, t₁, t₂, v₁, v₂, htree₁, htree₂, hresults, htrees⟩ :=
    run_agree_of_pristine_eq (h₁.pristine.trans h₂.pristine.symm)
      (hu.of_pristine_eq h₂.pristine) o hb₁ hb₂ w₁ w₂
  obtain ⟨w₁', hrun₁⟩ := run_eq htree₁ hread₁
  obtain ⟨w₂', hrun₂⟩ := run_eq htree₂ hread₂
  rw [h₁.config, h₁.scans] at hrun₁
  rw [h₂.config, h₂.scans] at hrun₂
  -- the statuses are the same, so both renewals count the same tests as passed
  have hpassed : passedCount t₁.tests = passedCount t₂.tests := by
    rw [← passedCount_untimed, ← passedCount_untimed t₂.tests, ← tests_mapTests, ← tests_mapTests]
    exact congrArg (fun t : TestTree => passedCount t.tests) htrees
  have hfiles : (renewed t₁.tests u.scans s₁.coverage (traceOf file u.config)).files =
      (renewed t₂.tests u.scans s₂.coverage (traceOf file u.config)).files := by
    rw [h₁.renews, h₂.renews, renewed_congr hpassed]
  exact ⟨q₁, q₂, _, _, w₁', w₂', hrun₁, hrun₂, hresults, htrees, hfiles,
    (sound_renewed h₁.sound _ _ _).summary_eq (sound_renewed h₂.sound _ _ _) hfiles⟩

/-- **Runs do not depend on history.** Take two sessions that load the same sources with the same
configuration and the same provider, and let anything happen to the first one: runs with any filters
and modes, resets, changes of the status of tests. If what requests yield is a function of the
request and the tracefile does not change, the next run of the first session and the first run of
the second one with the same options yield the same, apart from durations: the results and the
counts, or the same failure, which only a tracefile that cannot be read causes, and then the status
and the result of every test and the coverage with its totals. -/
theorem run_after_history (s₁ s₂ : Session) (hconfig : s₁.config = s₂.config)
    (hprovider : s₁.provider = s₂.provider) (sources : Sources) (ops : List SessionOp)
    (o : RunOptions) (reply : Request → Outcome) {b₁ : Backend (StateM σ₁)}
    {b₂ : Backend (StateM σ₂)} (hb₁ : b₁.Answers reply) (hb₂ : b₂.Answers reply)
    (file : String → Except ReadError String)
    {read₁ : String → StateM σ₁ (Except ReadError String)}
    {read₂ : String → StateM σ₂ (Except ReadError String)}
    (hread₁ : ∀ path w, ((read₁ path).run w).1 = file path)
    (hread₂ : ∀ path w, ((read₂ path).run w).1 = file path) (w₁ : σ₁) (w₂ : σ₂) :
    ∃ (r₁ r₂ : Except SessionError RunSummary) (u₁ u₂ : Session) (w₁' : σ₁) (w₂' : σ₂),
      ((s₁.loadSources sources).2.perform b₁ read₁ ops >>= (·.run b₁ read₁ o)).run w₁ =
        ((r₁, u₁), w₁') ∧
      ((s₂.loadSources sources).2.run b₂ read₂ o).run w₂ = ((r₂, u₂), w₂') ∧
      r₁.map (·.results.untimed) = r₂.map (·.results.untimed) ∧
      (∀ status, r₁.map (·.count status) = r₂.map (·.count status)) ∧
      r₁.map (·.total) = r₂.map (·.total) ∧
      (s₁.config.coverage.tracefile.map file ≠ some (.error .unreadable) → ∃ q, r₁ = .ok q) ∧
      u₁.tree.untimed = u₂.tree.untimed ∧
      u₁.coverage.files = u₂.coverage.files ∧ u₁.coverage.summary = u₂.coverage.summary := by
  have hu : (s₂.loadSources sources).2.tree.Ready := by
    obtain ⟨hload, hloaded⟩ := loadSources_eq s₂ sources
    rw [hload]
    exact hloaded.ready
  have hconfig' : (s₂.loadSources sources).2.config = s₁.config := by
    rw [(loadSources_eq s₂ sources).1, hconfig]
  -- both sessions are what the second one may become once it has loaded
  obtain ⟨s, w, hperform, hs⟩ :=
    (aged_loadSources hconfig hprovider sources file).perform hu hread₁ b₁ ops w₁
  obtain ⟨q₁, q₂, u₁, u₂, w₁', w₂', hrun₁, hrun₂, hresults, htrees, hfiles, hsummary⟩ :=
    run_agree_of_aged hs (aged_loadSources rfl rfl sources file) hu o hb₁ hb₂ hread₁ hread₂ w w₂
  have hmap {α : Type} (e : Except SessionError Unit) {f : RunSummary → α} (hf : f q₁ = f q₂) :
      (e.map fun () => q₁).map f = (e.map fun () => q₂).map f := by
    cases e with
    | error e => rfl
    | ok => exact congrArg Except.ok hf
  refine ⟨_, _, u₁, u₂, w₁', w₂', ?_, hrun₂, hmap _ hresults,
    fun status => hmap _ (RunSummary.count_eq_of_untimed hresults status),
    hmap _ (RunSummary.total_eq_of_untimed hresults), fun htrace => ?_, htrees, hfiles, hsummary⟩
  · rw [StateT.run_bind, hperform]
    exact hrun₁
  · have hreadable : traceOf file s₁.config ≠ some (.error .unreadable) := htrace
    rw [hconfig', renewal_eq_ok hreadable]
    exact ⟨q₁, rfl⟩

/-- The hypotheses of `run_after_history` are satisfiable: a session that had a group before loading
has run, a test of it has been started, it has been reset, it has run again all at once and a test
has been skipped, with a tracefile to be read each time and with requests that take longer from call
to call. -/
theorem run_after_history_restarted :
    let config : Config := { coverage := { tracefile := some "lcov.info" } }
    let s : Session := { config, provider := Scan.heuristic, excluded := [], coverage := {} }
    let old : Session := { s with tree := (TestTree.empty.createGroup "b.c" "b.c").2 }
    let sources : Sources := ({} : Sources).insert "a.c" "// >>> f()\n// 1\nint f();"
    let ops : List SessionOp :=
      [.run {}, .changeTest 2 0 .start, .reset, .run { mode := .parallel }, .changeTest 2 0 .skip]
    let reply : Request → Outcome := fun r => (r.settle false ⟨⟨0⟩, .ok r.code⟩).outcome
    let b : Backend (StateM Nat) :=
      ⟨fun _ => pure false, fun r w => (⟨⟨min w r.timeout.nanos⟩, .ok r.code⟩, w + 1), fun _ => []⟩
    let file : String → Except ReadError String := fun _ => .ok "SF:a.c\nDA:3,1\nend_of_record\n"
    let read : String → StateM Nat (Except ReadError String) := fun path w => (file path, w)
    old.config = s.config ∧ old.provider = s.provider ∧ b.Answers reply ∧
      (∀ path w, ((read path).run w).1 = file path) ∧
      ∃ (r₁ r₂ : Except SessionError RunSummary) (u₁ u₂ : Session) (w₁ w₂ : Nat),
        ((old.loadSources sources).2.perform b read ops >>= (·.run b read {})).run 0 =
          ((r₁, u₁), w₁) ∧
        ((s.loadSources sources).2.run b read {}).run 0 = ((r₂, u₂), w₂) ∧
        r₁.map (·.results.untimed) = r₂.map (·.results.untimed) ∧ (∃ q, r₁ = .ok q) ∧
        u₁.tree.untimed = u₂.tree.untimed ∧ u₁.coverage.files = u₂.coverage.files ∧
        u₁.coverage.summary = u₂.coverage.summary := by
  intro config s old sources ops reply b file read
  have hb : b.Answers reply := by
    intro r _ w
    have hle : ¬ r.timeout.nanos < min w r.timeout.nanos := Nat.not_lt.2 (Nat.min_le_right ..)
    have hexpires : r.expires ⟨min w r.timeout.nanos⟩ = r.expires ⟨0⟩ := by
      rw [Request.expires, Request.expires, decide_eq_false hle,
        decide_eq_false (Nat.not_lt_zero _)]
    change (r.settle false ⟨⟨min w r.timeout.nanos⟩, .ok r.code⟩).outcome =
      (r.settle false ⟨⟨0⟩, .ok r.code⟩).outcome
    unfold Request.settle
    rw [hexpires]
    split_ifs <;> rfl
  have hread : ∀ path w, ((read path).run w).1 = file path := fun _ _ => rfl
  have hreadable : old.config.coverage.tracefile.map file ≠ some (.error .unreadable) := nofun
  obtain ⟨r₁, r₂, u₁, u₂, w₁, w₂, h₁, h₂, hresults, -, -, hok, htree, hcoverage⟩ :=
    run_after_history old s rfl rfl sources ops {} reply hb hb file hread hread 0 0
  exact ⟨rfl, rfl, hb, hread, r₁, r₂, u₁, u₂, w₁, w₂, h₁, h₂, hresults, hok hreadable, htree,
    hcoverage⟩

end Session
end DocExamples
