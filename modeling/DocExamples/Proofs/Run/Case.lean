/-
# Running the tests of a case

The tests of a case run one after the other or all at once. In turn, the run ends at the first test
that is not pending (`runInTurn_makes`); at once, every pending test runs, and the first one that is
not decides about the answer (`runTogether_settles`). So both give one answer, the refusal of the
first test that is not pending or the results of all tests, whether ids repeat or not, and differ
only in which tests run if there is a refusal (`run_runParallel`).
-/

import DocExamples.Proofs.Keyed
import DocExamples.Proofs.Run.Modes
import DocExamples.Test.Case
import Mathlib.Data.List.Forall2
import Mathlib.Data.List.TakeWhile

namespace DocExamples

open Backend

variable {σ : Type} {b : Backend (StateM σ)} {w : σ} {t : Test} {tests : List Test}
  {f : Flight} {fs : List Flight} {reply : Request → Outcome} {c : Completion}

/-! ### Tests and their completions -/

/-- A test with the completion of its request. -/
abbrev Completed := Test × Completion

namespace Completed

def result (e : Completed) : IdResult := (e.1.id, e.1.verdict e.2)

def after (e : Completed) : Test := e.1.conclude (e.1.verdict e.2)

def calls (e : Completed) : List Call := [.begin e.1.request, .finish e.1.request]

end Completed

namespace Test

/-- The result of a test whose request yields what `reply` says, apart from the duration. -/
def due (reply : Request → Outcome) (t : Test) : TestResult := t.judge (reply t.request) ⟨0⟩

/-- A test after it has run, apart from the duration. -/
def executed (reply : Request → Outcome) (t : Test) : Test := t.conclude (t.due reply)

theorem untimed_verdict_eq_due (hb : b.Answers reply) (hc : b.Gives t.request c) :
    (t.verdict c).untimed = t.due reply := by
  have houtcome : c.outcome = reply t.request := hc.outcome_eq hb
  rw [verdict, untimed_judge, houtcome, due]

theorem untimed_conclude_eq_executed (hb : b.Answers reply) (hc : b.Gives t.request c) :
    (t.conclude (t.verdict c)).untimed = t.executed reply := by
  rw [untimed_conclude, untimed_verdict_eq_due hb hc, executed]

end Test

/-! ### The answer -/

/-- The refusal of the first test that is not pending. -/
def refusal? (tests : List Test) : Option InvalidTransition :=
  (tests.find? (·.status != .pending)).map fun t => ⟨t.status, .running⟩

/-- What tests answer that have the given results if all of them run. -/
def answerOf {α : Type} (tests : List Test) (results : α) : Except InvalidTransition α :=
  match refusal? tests with
  | some e => .error e
  | none => .ok results

theorem refusal?_cons_of_pending (h : t.status = .pending) (tests : List Test) :
    refusal? (t :: tests) = refusal? tests := by
  rw [refusal?, List.find?_cons_of_neg (by simp [h]), refusal?]

theorem refusal?_cons_of_ne_pending (h : t.status ≠ .pending) (tests : List Test) :
    refusal? (t :: tests) = some ⟨t.status, .running⟩ := by
  rw [refusal?, List.find?_cons_of_pos (by simp [h])]
  rfl

theorem refusal?_eq_none_iff : refusal? tests = none ↔ ∀ t ∈ tests, t.status = .pending := by
  rw [refusal?, Option.map_eq_none_iff, List.find?_eq_none]
  simp

/-- Tests answer with results if all of them are pending. -/
theorem answerOf_eq_ok_iff {α : Type} {results : α} :
    (∃ r, answerOf tests results = .ok r) ↔ ∀ t ∈ tests, t.status = .pending := by
  rw [← refusal?_eq_none_iff]
  unfold answerOf
  cases refusal? tests <;> simp

/-- Results that are added in front of those of an answer. -/
theorem map_answerOf {α β : Type} (tests : List Test) (results : α) (f : α → β) :
    (answerOf tests results).map f = answerOf tests (f results) := by
  unfold answerOf
  cases refusal? tests <;> rfl

/-! ### One after the other -/

/-- **Running tests one after the other** makes the calls of the tests before the first one that is
not pending, concludes these tests with verdicts on what the backend gave, and leaves the rest. -/
theorem runInTurn_makes (b : Backend (StateM σ)) (w : σ) (tests : List Test) :
    ∃ es : List Completed, (∀ e ∈ es, b.Gives e.1.request e.2) ∧
      es.map Prod.fst = tests.takeWhile (·.status == .pending) ∧
      b.Makes w (runInTurn b tests) (runInTurn b.recorded tests)
        (answerOf tests (es.map Completed.result),
          es.map Completed.after ++ tests.dropWhile (·.status == .pending))
        (es.flatMap Completed.calls) := by
  induction tests generalizing w with
  | nil => exact ⟨[], by simp, rfl, .pure _⟩
  | cons t tests ih =>
      by_cases h : t.status = .pending
      · obtain ⟨c, hc, hrun⟩ := Test.run_of_pending h b w
        obtain ⟨es, hes, hreached, hm⟩ := ih (b.replay w (Completed.calls (t, c)))
        refine ⟨(t, c) :: es, List.forall_mem_cons.2 ⟨hc, hes⟩, ?_, ?_⟩
        · rw [List.takeWhile_cons_of_pos (by simp [h]), List.map_cons, hreached]
        · have hanswer : answerOf (t :: tests) (((t, c) :: es).map Completed.result) =
              (answerOf tests (es.map Completed.result)).map (Completed.result (t, c) :: ·) := by
            rw [map_answerOf, answerOf, refusal?_cons_of_pending h]
            rfl
          rw [hanswer, List.dropWhile_cons_of_pos (by simp [h]), List.flatMap_cons]
          exact hrun.bind hm.bind_pure
      · refine ⟨[], by simp, ?_, ?_⟩
        · rw [List.takeWhile_cons_of_neg (by simp [h])]
          rfl
        · rw [answerOf, refusal?_cons_of_ne_pending h, List.dropWhile_cons_of_neg (by simp [h]),
            runInTurn, runInTurn, Test.run_of_ne_pending h, Test.run_of_ne_pending h]
          exact .pure _

/-! ### All at once -/

/-- Whether `u` is what a test is after it has run if it could: a pending test has the verdict on
what the backend gave, and any other one is as it was. -/
def Test.Ran (b : Backend (StateM σ)) (t u : Test) : Prop :=
  if t.status = .pending then ∃ c, b.Gives t.request c ∧ u = t.conclude (t.verdict c) else u = t

/-- The requests of the tests that can start are those of the pending tests. -/
theorem flatMap_pendingRequest (tests : List Test) : tests.flatMap Test.pendingRequest =
    (tests.filter (·.status == .pending)).map Test.request := by
  induction tests with
  | nil => rfl
  | cons t tests ih =>
      rw [List.flatMap_cons, ih, Test.pendingRequest]
      by_cases h : t.status = .pending
      · rw [if_pos h, List.filter_cons_of_pos (by simp [h])]
        rfl
      · rw [if_neg h, List.filter_cons_of_neg (by simp [h])]
        rfl

/-- Flights of which none is in the air leave their tests as running these does. -/
theorem Flight.forall₂_ran (hfs : List.Forall₂ (Flight.Of b) tests fs)
    (hnone : ∀ f ∈ fs, f.waiting = []) : List.Forall₂ (Test.Ran b) tests (fs.map (·.test)) := by
  induction hfs with
  | nil => exact .nil
  | @cons t f tests fs hf _ ih =>
      obtain ⟨hnone₁, hnone⟩ := List.forall_mem_cons.1 hnone
      refine .cons ?_ (ih hnone)
      unfold Test.Ran
      cases hf with
      | refused h => rw [if_neg h]
      | flying h _ => cases hnone₁
      | landed c h hc =>
          rw [if_pos h]
          exact ⟨c, hc, rfl⟩

/-- **The answer of flights** once none is in the air: the first test that was not pending decides,
and without one there are the results of all tests. -/
theorem Flight.mapM_result (hfs : List.Forall₂ (Flight.Of b) tests fs)
    (hnone : ∀ f ∈ fs, f.waiting = []) :
    ∃ es : List Completed, (∀ e ∈ es, b.Gives e.1.request e.2) ∧
      es.map Prod.fst = tests.filter (·.status == .pending) ∧
      fs.mapM Flight.result = answerOf tests (es.map Completed.result) := by
  induction hfs with
  | nil => exact ⟨[], by simp, rfl, rfl⟩
  | @cons t f tests fs hf _ ih =>
      obtain ⟨hnone₁, hnone⟩ := List.forall_mem_cons.1 hnone
      obtain ⟨es, hes, hpending, hresult⟩ := ih hnone
      cases hf with
      | refused h =>
          refine ⟨es, hes, ?_, ?_⟩
          · rw [List.filter_cons_of_neg (by simp [h]), hpending]
          · rw [List.mapM_cons, answerOf, refusal?_cons_of_ne_pending h]
            rfl
      | flying h _ => cases hnone₁
      | landed c h hc =>
          refine ⟨(t, c) :: es, List.forall_mem_cons.2 ⟨hc, hes⟩, ?_, ?_⟩
          · rw [List.filter_cons_of_pos (by simp [h]), List.map_cons, hpending]
          · have hanswer : answerOf (t :: tests) (((t, c) :: es).map Completed.result) =
                (answerOf tests (es.map Completed.result)).map (Completed.result (t, c) :: ·) := by
              rw [map_answerOf, answerOf, refusal?_cons_of_pending h]
              rfl
            rw [List.mapM_cons, hresult, hanswer]
            rfl

/-- **Running tests all at once** begins the requests of the pending tests in order, asks for each
of them once, and runs the pending tests, whatever the order in which they complete. -/
theorem runTogether_settles (b : Backend (StateM σ)) (w : σ) (tests : List Test) :
    ∃ (es : List Completed) (us : List Test) (calls : List Call),
      (∀ e ∈ es, b.Gives e.1.request e.2) ∧
      es.map Prod.fst = tests.filter (·.status == .pending) ∧
      List.Forall₂ (Test.Ran b) tests us ∧
      Call.begun calls = (tests.filter (·.status == .pending)).map Test.request ∧
      (Call.finished calls).Perm ((tests.filter (·.status == .pending)).map Test.request) ∧
      b.Makes w (runTogether b tests) (runTogether b.recorded tests)
        (answerOf tests (es.map Completed.result), us) calls := by
  obtain ⟨fs, calls, hfs, hnone, hbegun, hfinished, hm⟩ := runTogether_makes b w tests
  obtain ⟨es, hes, hpending, hresult⟩ := Flight.mapM_result hfs hnone
  rw [flatMap_pendingRequest] at hbegun hfinished
  rw [hresult] at hm
  exact ⟨es, _, calls, hes, hpending, Flight.forall₂_ran hfs hnone, hbegun, hfinished, hm⟩

/-! ### Cases -/

section Answers

variable {es : List Completed} (hb : b.Answers reply)
  (hes : ∀ e ∈ es, b.Gives e.1.request e.2)
include hb hes

/-- The results of tests that have run, apart from durations. -/
theorem untimed_results : (Results.ofList (es.map Completed.result)).untimed =
    .ofList ((es.map Prod.fst).map fun t => (t.id, t.due reply)) := by
  rw [Results.ofList, Results.untimed, Keyed.map_insertMany, Results.ofList, List.map_map,
    List.map_map]
  refine congrArg _ (List.map_congr_left fun e he => ?_)
  exact congrArg (Prod.mk e.1.id) (Test.untimed_verdict_eq_due hb (hes e he))

/-- Tests that have run, apart from durations. -/
theorem untimed_after : (es.map Completed.after).map Test.untimed =
    (es.map Prod.fst).map (Test.executed reply) := by
  rw [List.map_map, List.map_map]
  exact List.map_congr_left fun e he => Test.untimed_conclude_eq_executed hb (hes e he)

end Answers

/-- Results count only if no test is refused. -/
theorem answerOf_congr {α : Type} {results results' : α}
    (h : (∀ t ∈ tests, t.status = .pending) → results = results') :
    answerOf tests results = answerOf tests results' := by
  unfold answerOf
  cases hr : refusal? tests with
  | some e => rfl
  | none => rw [h (refusal?_eq_none_iff.1 hr)]

namespace TestCase

variable {σ₁ σ₂ : Type} {b₁ : Backend (StateM σ₁)} {b₂ : Backend (StateM σ₂)}

/-- What running a case answers, apart from durations. -/
def answer (reply : Request → Outcome) (c : TestCase) : Except InvalidTransition Results :=
  answerOf c.tests (.ofList (c.tests.map fun t => (t.id, t.due reply)))

/-- The answer of tests of which those run that are reached if none is refused. -/
theorem untimed_answer (c : TestCase) {es : List Completed} (hb : b.Answers reply)
    (hes : ∀ e ∈ es, b.Gives e.1.request e.2)
    (hall : (∀ t ∈ c.tests, t.status = .pending) → es.map Prod.fst = c.tests) :
    ((answerOf c.tests (es.map Completed.result)).map Results.ofList).map Results.untimed =
      c.answer reply := by
  rw [map_answerOf, map_answerOf, answer]
  refine answerOf_congr fun h => ?_
  rw [untimed_results hb hes, hall h]

/-- If all tests were pending, all of them have run. -/
theorem map_untimed_of_pending {us : List Test} (hp : ∀ t ∈ tests, t.status = .pending)
    (h : List.Forall₂
      (fun t u => if t.status = .pending then u.untimed = t.executed reply else u = t) tests us) :
    us.map Test.untimed = tests.map (Test.executed reply) := by
  induction h with
  | nil => rfl
  | @cons t u tests us hu _ ih =>
      obtain ⟨ht, hp⟩ := List.forall_mem_cons.1 hp
      rw [if_pos ht] at hu
      rw [List.map_cons, List.map_cons, hu, ih hp]

/-- **A case that runs one after the other** runs the tests before the first one that is not
pending. -/
theorem run_makes (c : TestCase) (hb : b.Answers reply) (w : σ) :
    let reached := c.tests.takeWhile (·.status == .pending)
    ∃ r us calls, b.Makes w (c.run b) (c.run b.recorded)
        (r, { c with tests := us ++ c.tests.dropWhile (·.status == .pending) }) calls ∧
      r.map Results.untimed = c.answer reply ∧
      us.map Test.untimed = reached.map (Test.executed reply) ∧
      Call.begun calls = reached.map Test.request ∧
      Call.finished calls = reached.map Test.request := by
  intro reached
  obtain ⟨es, hes, hreached, hm⟩ := runInTurn_makes b w c.tests
  have hrun := hm.bind_pure (h := fun e => (e.1.map Results.ofList, { c with tests := e.2 }))
  have hbegun : Call.begun (es.flatMap Completed.calls) = (es.map Prod.fst).map Test.request := by
    rw [List.map_map]
    exact Call.begun_flatMap es _
  have hfinished : Call.finished (es.flatMap Completed.calls) =
      (es.map Prod.fst).map Test.request := by
    rw [List.map_map]
    exact Call.finished_flatMap es _
  refine ⟨_, _, _, hrun, ?_, ?_, ?_, ?_⟩
  · refine c.untimed_answer hb hes fun h => ?_
    rw [hreached]
    exact List.takeWhile_eq_self_iff.2 fun t ht => by simp [h t ht]
  · rw [untimed_after hb hes, hreached]
  · rw [hbegun, hreached]
  · rw [hfinished, hreached]

/-- **A case that runs all at once** runs the pending tests. -/
theorem runParallel_makes (c : TestCase) (hb : b.Answers reply) (w : σ) :
    let pending := c.tests.filter (·.status == .pending)
    ∃ r us calls, b.Makes w (c.runParallel b) (c.runParallel b.recorded)
        (r, { c with tests := us }) calls ∧
      r.map Results.untimed = c.answer reply ∧
      List.Forall₂ (fun t u => if t.status = .pending then u.untimed = t.executed reply else u = t)
        c.tests us ∧
      Call.begun calls = pending.map Test.request ∧
      (Call.finished calls).Perm (pending.map Test.request) := by
  intro pending
  obtain ⟨es, us, calls, hes, hpending, hran, hbegun, hfinished, hm⟩ :=
    runTogether_settles b w c.tests
  have hrun := hm.bind_pure (h := fun e => (e.1.map Results.ofList, { c with tests := e.2 }))
  refine ⟨_, us, calls, hrun, ?_, ?_, hbegun, hfinished⟩
  · refine c.untimed_answer hb hes fun h => ?_
    rw [hpending]
    exact List.filter_eq_self.2 fun t ht => by simp [h t ht]
  · refine hran.imp fun t u h => ?_
    unfold Test.Ran at h
    split_ifs at h ⊢ with hp
    · obtain ⟨d, hd, rfl⟩ := h
      exact Test.untimed_conclude_eq_executed hb hd
    · exact h

/-- **Running a case one after the other and all at once** gives one answer, if what requests yield
is a function of the request and the same for both backends, whatever the order in which requests
complete: the refusal of the first test that is not pending, or the results of all tests. If all
tests are pending, it also leaves the same tests.

* One after the other, the tests before the first one that is not pending run, and the rest stays
  as it is.
* All at once, the pending tests run, and the others stay as they are.
* The backends are asked for the tests that run, and for no others. -/
theorem run_runParallel (c : TestCase) (hb₁ : b₁.Answers reply) (hb₂ : b₂.Answers reply) (w₁ : σ₁)
    (w₂ : σ₂) :
    let reached := c.tests.takeWhile (·.status == .pending)
    let rest := c.tests.dropWhile (·.status == .pending)
    let pending := c.tests.filter (·.status == .pending)
    ∃ (r₁ r₂ : Except InvalidTransition Results) (us₁ us₂ : List Test) (w₁' : σ₁) (w₂' : σ₂)
      (calls₁ calls₂ : List Call),
      (c.run b₁).run w₁ = ((r₁, { c with tests := us₁ ++ rest }), w₁') ∧
      (c.run b₁.recorded).run (w₁, []) =
        ((r₁, { c with tests := us₁ ++ rest }), (w₁', calls₁)) ∧
      (c.runParallel b₂).run w₂ = ((r₂, { c with tests := us₂ }), w₂') ∧
      (c.runParallel b₂.recorded).run (w₂, []) = ((r₂, { c with tests := us₂ }), (w₂', calls₂)) ∧
      r₁.map Results.untimed = c.answer reply ∧ r₂.map Results.untimed = c.answer reply ∧
      us₁.map Test.untimed = reached.map (Test.executed reply) ∧
      List.Forall₂ (fun t u => if t.status = .pending then u.untimed = t.executed reply else u = t)
        c.tests us₂ ∧
      ((∀ t ∈ c.tests, t.status = .pending) →
        (us₁ ++ rest).map Test.untimed = us₂.map Test.untimed) ∧
      Call.begun calls₁ = reached.map Test.request ∧
      Call.finished calls₁ = reached.map Test.request ∧
      Call.begun calls₂ = pending.map Test.request ∧
      (Call.finished calls₂).Perm (pending.map Test.request) := by
  intro reached rest pending
  obtain ⟨r₁, us₁, calls₁, hm₁, hr₁, hus₁, hbegun₁, hfinished₁⟩ := c.run_makes hb₁ w₁
  obtain ⟨r₂, us₂, calls₂, hm₂, hr₂, hus₂, hbegun₂, hfinished₂⟩ := c.runParallel_makes hb₂ w₂
  refine ⟨r₁, r₂, us₁, us₂, _, _, calls₁, calls₂, hm₁.plain, hm₁.recorded [], hm₂.plain,
    hm₂.recorded [], hr₁, hr₂, hus₁, hus₂, fun hall => ?_, hbegun₁, hfinished₁, hbegun₂,
    hfinished₂⟩
  have hreached : reached = c.tests :=
    List.takeWhile_eq_self_iff.2 fun t ht => by simp [hall t ht]
  have hrest : rest = [] := List.dropWhile_eq_nil_iff.2 fun t ht => by simp [hall t ht]
  calc (us₁ ++ rest).map Test.untimed
      = us₁.map Test.untimed := by rw [hrest, List.append_nil]
    _ = reached.map (Test.executed reply) := hus₁
    _ = us₂.map Test.untimed := by rw [hreached, map_untimed_of_pending hall hus₂]

/-- The hypotheses of `run_runParallel` are satisfiable: two tests have one id, the last test was
skipped, and the requests complete in the order opposite to that in which they begin. -/
theorem run_runParallel_one_id :
    let c : TestCase := { id := "a", name := "a", tests := [.make "a:1:0" "one" "1",
      .make "a:1:0" "two" "2", (Test.make "a:2:1" "three" "3").skip.2] }
    let b : Backend (StateM Unit) :=
      ⟨fun _ => pure false, fun r => pure ⟨⟨0⟩, .ok r.code⟩,
        fun rs => (List.range rs.length).reverse⟩
    let reply : Request → Outcome := fun r => (r.settle false ⟨⟨0⟩, .ok r.code⟩).outcome
    b.Answers reply ∧ ∃ (r₁ r₂ : Except InvalidTransition Results) (us₁ us₂ : List Test),
      ((c.run b).run ()).1 = (r₁, { c with tests := us₁ ++ c.tests.drop 2 }) ∧
      ((c.runParallel b).run ()).1 = (r₂, { c with tests := us₂ }) ∧
      r₁.map Results.untimed = .error ⟨.skipped, .running⟩ ∧
      r₂.map Results.untimed = .error ⟨.skipped, .running⟩ := by
  intro c b reply
  have hb : b.Answers reply := fun _ _ _ => rfl
  obtain ⟨r₁, r₂, us₁, us₂, w₁, w₂, _, _, hrun, -, hpar, -, hr₁, hr₂, -⟩ :=
    run_runParallel c hb hb () ()
  exact ⟨hb, r₁, r₂, us₁, us₂, congrArg Prod.fst hrun, congrArg Prod.fst hpar, hr₁, hr₂⟩

end TestCase
end DocExamples
