/-
# Running tests all at once

The flights of several tests land in any order: right away, before the next test starts, or when
they are waited for, and a backend may list a position twice or not at all. Each step of such a run
keeps the flights those of their tests (`Flight.Of`), and lands a flight at most once: the requests
that are waiting are the ones asked for and the ones still waiting (`foldlM_landAt_makes`). So a run
begins the requests of the pending tests in order, asks for the completion of each once, and tests
that were all pending have verdicts in their own order, whatever the order in which they complete
(`runTogether_of_pending`).
-/

import DocExamples.Proofs.Run.Calls
import Mathlib.Data.List.Nodup
import Mathlib.Data.List.Perm.Basic
import Mathlib.Logic.Function.Basic

namespace DocExamples

open Backend

variable {σ : Type} {b : Backend (StateM σ)} {w : σ} {t : Test} {f : Flight}
  {tests : List Test} {fs : List Flight}

/-- The request of a test that can start. -/
def Test.pendingRequest (t : Test) : List Request :=
  if t.status = .pending then [t.request] else []

namespace Flight

/-- The request of a flight in the air. -/
def waiting (f : Flight) : List Request :=
  match f.answer with
  | none => [f.test.request]
  | some _ => []

/-- Whether a flight is one of a test: it was refused, it is in the air, or it has landed with a
verdict on what the backend gave. -/
inductive Of (b : Backend (StateM σ)) (t : Test) : Flight → Prop where
  | refused (h : t.status ≠ .pending) :
    Of b t { test := t, answer := some (.error ⟨t.status, .running⟩) }
  | flying (h : t.status = .pending) (hbegin : b.Begins t.request false) :
    Of b t { test := { t with status := .running } }
  | landed (c : Completion) (h : t.status = .pending) (hc : b.Gives t.request c) :
    Of b t { test := t.conclude (t.verdict c), answer := some (.ok (t.verdict c)) }

/-- **Starting a test** begins its request if it is pending. The request is asked for right away or
left waiting. -/
theorem launch_makes (b : Backend (StateM σ)) (w : σ) (t : Test) :
    ∃ f calls, Of b t f ∧ Call.begun calls = t.pendingRequest ∧
      Call.finished calls ++ f.waiting = t.pendingRequest ∧
      b.Makes w (launch b t) (launch b.recorded t) f calls := by
  unfold launch Test.start Test.pendingRequest
  by_cases h : t.status = .pending
  · rw [if_pos h, if_pos h]
    have hb := b.makes_begin w t.request
    cases hbegin : ((b.begin t.request).run w).1 with
    | false =>
        rw [hbegin] at hb
        exact ⟨_, [.begin t.request], .flying h ⟨w, hbegin⟩, rfl, rfl, hb.bind (.pure _)⟩
    | true =>
        rw [hbegin] at hb
        obtain ⟨c, hc, ha⟩ := Test.await_of_running (t := { t with status := .running }) rfl
          ⟨w, hbegin⟩ (b.replay w [.begin t.request])
        exact ⟨_, [.begin t.request, .finish t.request], .landed c h hc, rfl, rfl,
          hb.bind ha.bind_pure⟩
  · rw [if_neg h, if_neg h]
    exact ⟨_, _, .refused h, rfl, rfl, .pure _⟩

/-- **Waiting for a flight** asks for its completion if it is in the air. -/
theorem land_makes (hf : Of b t f) (w : σ) :
    ∃ g, Of b t g ∧ g.waiting = [] ∧
      b.Makes w (f.land b) (f.land b.recorded) g (f.waiting.map .finish) := by
  cases hf with
  | refused h => exact ⟨_, .refused h, rfl, .pure _⟩
  | flying h hbegin =>
      obtain ⟨c, hc, ha⟩ :=
        Test.await_of_running (t := { t with status := .running }) rfl hbegin w
      exact ⟨_, .landed c h hc, rfl, ha.bind_pure⟩
  | landed c h hc => exact ⟨_, .landed c h hc, rfl, .pure _⟩

/-- Starting tests begins the requests of the pending ones in order, and each of these is asked for
right away or left waiting. -/
theorem mapM_launch_makes (b : Backend (StateM σ)) (w : σ) (tests : List Test) :
    ∃ fs calls, List.Forall₂ (Of b) tests fs ∧
      Call.begun calls = tests.flatMap Test.pendingRequest ∧
      (Call.finished calls ++ fs.flatMap waiting).Perm (tests.flatMap Test.pendingRequest) ∧
      b.Makes w (tests.mapM (launch b)) (tests.mapM (launch b.recorded)) fs calls := by
  induction tests generalizing w with
  | nil => exact ⟨[], [], .nil, rfl, .rfl, .pure _⟩
  | cons t tests ih =>
      obtain ⟨f, first, hf, hbegun, hfinished, hm⟩ := launch_makes b w t
      obtain ⟨fs, later, hfs, hbeguns, hfinisheds, hms⟩ := ih (b.replay w first)
      refine ⟨f :: fs, first ++ later, .cons hf hfs, ?_, ?_, ?_⟩
      · rw [Call.begun_append, hbegun, hbeguns, List.flatMap_cons]
      · -- what waits first moves past what is asked for later
        rw [Call.finished_append, List.flatMap_cons, List.flatMap_cons, ← hfinished,
          List.append_assoc, List.append_assoc]
        refine .append_left _ ?_
        rw [← List.append_assoc]
        exact (List.perm_append_comm.append_right _).trans
          (List.append_assoc .. ▸ hfinisheds.append_left _)
      · rw [List.mapM_cons, List.mapM_cons]
        exact hm.bind hms.bind_pure

/-- Waiting for all flights asks for the completion of those in the air in order. -/
theorem mapM_land_makes (hfs : List.Forall₂ (Of b) tests fs) (w : σ) :
    ∃ gs, List.Forall₂ (Of b) tests gs ∧ (∀ g ∈ gs, g.waiting = []) ∧
      b.Makes w (fs.mapM (land b)) (fs.mapM (land b.recorded)) gs
        ((fs.flatMap waiting).map .finish) := by
  induction hfs generalizing w with
  | nil => exact ⟨[], .nil, by simp, .pure _⟩
  | @cons t f tests fs hf _ ih =>
      obtain ⟨g, hg, hw, hm⟩ := land_makes hf w
      obtain ⟨gs, hgs, hws, hms⟩ := ih (b.replay w (f.waiting.map .finish))
      refine ⟨g :: gs, .cons hg hgs, List.forall_mem_cons.2 ⟨hw, hws⟩, ?_⟩
      rw [List.mapM_cons, List.mapM_cons, List.flatMap_cons, List.map_append]
      exact hm.bind hms.bind_pure

/-- **One flight of several lands.** What was waiting is what is asked for and what still waits. -/
theorem landAt_makes (hfs : List.Forall₂ (Of b) tests fs) (i : ℕ) (w : σ) :
    ∃ gs asked, List.Forall₂ (Of b) tests gs ∧
      (asked ++ gs.flatMap waiting).Perm (fs.flatMap waiting) ∧
      b.Makes w (landAt b i fs) (landAt b.recorded i fs) gs (asked.map .finish) := by
  induction hfs generalizing i with
  | nil => exact ⟨[], [], .nil, .rfl, by cases i <;> exact .pure _⟩
  | @cons t f tests fs hf hfs ih =>
      cases i with
      | zero =>
          obtain ⟨g, hg, hw, hm⟩ := land_makes hf w
          exact ⟨g :: fs, f.waiting, .cons hg hfs, by simp [hw], hm.bind_pure⟩
      | succ i =>
          obtain ⟨gs, asked, hgs, hp, hm⟩ := ih i
          refine ⟨f :: gs, asked, .cons hf hgs, ?_, hm.bind_pure⟩
          rw [List.flatMap_cons, List.flatMap_cons, ← List.append_assoc]
          refine ((List.perm_append_comm).append_right _).trans ?_
          rw [List.append_assoc]
          exact hp.append_left _

/-- **Flights land in any order.** What was waiting is what is asked for and what still waits. -/
theorem foldlM_landAt_makes (hfs : List.Forall₂ (Of b) tests fs) (order : List ℕ) (w : σ) :
    ∃ gs asked, List.Forall₂ (Of b) tests gs ∧
      (asked ++ gs.flatMap waiting).Perm (fs.flatMap waiting) ∧
      b.Makes w (order.foldlM (fun fs i => landAt b i fs) fs)
        (order.foldlM (fun fs i => landAt b.recorded i fs) fs) gs (asked.map .finish) := by
  induction order generalizing fs w with
  | nil => exact ⟨fs, [], hfs, .rfl, .pure _⟩
  | cons i order ih =>
      obtain ⟨gs, asked, hgs, hp, hm⟩ := landAt_makes hfs i w
      obtain ⟨ks, later, hks, hq, hn⟩ := ih hgs (b.replay w (asked.map .finish))
      refine ⟨ks, asked ++ later, hks, ?_, ?_⟩
      · rw [List.append_assoc]
        exact (hq.append_left _).trans hp
      · rw [List.foldlM_cons, List.foldlM_cons, List.map_append]
        exact hm.bind hn

end Flight

/-- **Running tests at once** begins the requests of the pending ones in order and asks for the
completion of each of them once. -/
theorem runTogether_makes (b : Backend (StateM σ)) (w : σ) (tests : List Test) :
    ∃ (fs : List Flight) (calls : List Call),
      List.Forall₂ (Flight.Of b) tests fs ∧ (∀ f ∈ fs, f.waiting = []) ∧
      Call.begun calls = tests.flatMap Test.pendingRequest ∧
      (Call.finished calls).Perm (tests.flatMap Test.pendingRequest) ∧
      b.Makes w (runTogether b tests) (runTogether b.recorded tests)
        (fs.mapM Flight.result, fs.map (·.test)) calls := by
  obtain ⟨fs, calls, hfs, hbegun, hfinished, hm⟩ := Flight.mapM_launch_makes b w tests
  obtain ⟨gs, asked, hgs, hp, hn⟩ := Flight.foldlM_landAt_makes hfs
    (b.order (fs.map (·.test.request))) (b.replay w _)
  obtain ⟨ks, hks, hnone, hk⟩ := Flight.mapM_land_makes hgs (b.replay (b.replay w _) _)
  refine ⟨ks, _, hks, hnone, ?_, ?_, hm.bind (hn.bind hk.bind_pure)⟩
  · simpa using hbegun
  · rw [Call.finished_append, Call.finished_append, Call.finished_map_finish,
      Call.finished_map_finish]
    exact (hp.append_left _).trans hfinished

/-- The flights of pending tests with distinct ids, once none is in the air, have landed with
completions that the ids determine. -/
theorem exists_completion (hfs : List.Forall₂ (Flight.Of b) tests fs)
    (hnone : ∀ f ∈ fs, f.waiting = []) (hp : ∀ t ∈ tests, t.status = .pending)
    (hnd : (tests.map (·.id)).Nodup) :
    ∃ κ : String → Completion, (∀ t ∈ tests, b.Gives t.request (κ t.id)) ∧
      fs = tests.map fun t =>
        ⟨t.conclude (t.verdict (κ t.id)), some (.ok (t.verdict (κ t.id)))⟩ := by
  induction hfs with
  | nil => exact ⟨fun _ => ⟨⟨0⟩, .ok ""⟩, by simp, rfl⟩
  | @cons t f tests fs hf _ ih =>
      obtain ⟨hnone₁, hnone⟩ := List.forall_mem_cons.1 hnone
      obtain ⟨hp₁, hp⟩ := List.forall_mem_cons.1 hp
      obtain ⟨hid, hnd⟩ := List.nodup_cons.1 hnd
      obtain ⟨κ, hκ, rfl⟩ := ih hnone hp hnd
      have hne : ∀ u ∈ tests, u.id ≠ t.id := fun u hu h => hid (List.mem_map.2 ⟨u, hu, h⟩)
      cases hf with
      | refused h => exact absurd hp₁ h
      | flying h _ => cases hnone₁
      | landed c h hc =>
          refine ⟨Function.update κ t.id c, ?_, ?_⟩
          · refine List.forall_mem_cons.2 ⟨by simpa using hc, fun u hu => ?_⟩
            rw [Function.update_of_ne (hne u hu)]
            exact hκ u hu
          · rw [List.map_cons, Function.update_self]
            refine congrArg _ (List.map_congr_left fun u hu => ?_)
            rw [Function.update_of_ne (hne u hu)]

/-- **Pending tests with distinct ids that run at once** all end with a verdict on what the backend
gave. Their requests are begun in order and asked for once each. -/
theorem runTogether_of_pending (hp : ∀ t ∈ tests, t.status = .pending)
    (hnd : (tests.map (·.id)).Nodup) (b : Backend (StateM σ)) (w : σ) :
    ∃ (κ : String → Completion) (calls : List Call),
      (∀ t ∈ tests, b.Gives t.request (κ t.id)) ∧
      Call.begun calls = tests.map Test.request ∧
      (Call.finished calls).Perm (tests.map Test.request) ∧
      b.Makes w (runTogether b tests) (runTogether b.recorded tests)
        (.ok (tests.map fun t => (t.id, t.verdict (κ t.id))),
          tests.map fun t => t.conclude (t.verdict (κ t.id))) calls := by
  obtain ⟨fs, calls, hfs, hnone, hbegun, hfinished, hm⟩ := runTogether_makes b w tests
  obtain ⟨κ, hκ, rfl⟩ := exists_completion hfs hnone hp hnd
  have hreq : tests.flatMap Test.pendingRequest = tests.map Test.request := by
    rw [← List.flatMap_singleton' (tests.map _), List.flatMap_map]
    exact List.flatMap_congr fun t ht => if_pos (hp t ht)
  rw [hreq] at hbegun hfinished
  refine ⟨κ, calls, hκ, hbegun, hfinished, ?_⟩
  have hresult : (tests.map fun t => (⟨t.conclude (t.verdict (κ t.id)),
      some (.ok (t.verdict (κ t.id)))⟩ : Flight)).mapM Flight.result =
      .ok (tests.map fun t => (t.id, t.verdict (κ t.id))) := by
    rw [List.mapM_map]
    exact List.mapM_pure
  rwa [hresult, List.map_map] at hm

end DocExamples
