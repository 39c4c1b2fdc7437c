/-
# The life of a test

A test is made pending. Then it is started, skipped, finished, run and reset in any order, and what
it expects, its code and its timeout change in between. A step is refused, or it starts the test, or
it concludes it with a result, or it resets it, or it leaves status and result alone
(`TestStep.effect`). So whatever has happened to a test, it has a result just when its status is
terminal, and the result has this status and what belongs to it (`Test.Consistent.perform`). From
there `lifecycle` reads off when a step is refused, what a refusal leaves, what ends a terminal
status and which status a finished test gets.
-/

import DocExamples.Proofs.Run.Calls

namespace DocExamples

/-! ### Results -/

/-- Whether a result has what belongs to its status and nothing else. -/
def TestResult.Fits (r : TestResult) : Prop :=
  match r.status with
  | .pending | .running => False
  | .skipped => r.output = none ∧ r.error = none ∧ r.duration = none
  | .passed => r.output.isSome ∧ r.error = none ∧ r.duration.isSome
  | .failed => r.output.isSome ∧ r.error.isSome ∧ r.duration.isSome
  | .error => r.output = none ∧ r.error.isSome ∧ r.duration.isSome

namespace TestResult

variable {r : TestResult}

theorem fits_skipped : skipped.Fits := ⟨rfl, rfl, rfl⟩

theorem Fits.isTerminal (h : r.Fits) : r.status.isTerminal = true := by
  unfold Fits at h
  cases hs : r.status with
  | pending | running =>
      rw [hs] at h
      exact h.elim
  | passed | failed | error | skipped => rfl

end TestResult

namespace Test

variable {t : Test} {outcome : Outcome} {duration : Duration}

/-- Every verdict fits. -/
theorem fits_judge (t : Test) (outcome : Outcome) (duration : Duration) :
    (t.judge outcome duration).Fits := by
  unfold judge
  split
  · exact ⟨rfl, rfl, rfl⟩
  · split
    · exact ⟨rfl, rfl, rfl⟩
    · split
      · exact ⟨rfl, rfl, rfl⟩
      · exact ⟨rfl, rfl, rfl⟩

/-- A verdict is an error if there is no output. -/
theorem judge_eq_error_iff :
    (t.judge outcome duration).status = .error ↔ ∃ e, outcome = .error e := by
  unfold judge
  split
  · simp
  · split
    · simp
    · split <;> simp

/-- A test fails if there is output and another one is expected. -/
theorem judge_eq_failed_iff :
    (t.judge outcome duration).status = .failed ↔ ∃ output expected,
      outcome = .ok output ∧ t.expected = some expected ∧ expected ≠ output := by
  unfold judge
  split
  · simp
  · split
    · simp_all
    · split <;> simp_all

end Test

/-! ### Steps -/

/-- Something that happens to a test: an operation on its status, a run with a backend in some
state, or a change of what it runs and expects. -/
inductive TestStep : Type 1 where
  | op (op : TestOp)
  | run {σ : Type} (backend : Backend (StateM σ)) (state : σ)
  | setExpected (expected : Option String)
  | setCode (code : String)
  | setTimeout (timeout : Duration)

/-- What a step answers, a refusal or the result of the test if there is one, and the test after
the step. -/
def TestStep.perform (t : Test) : TestStep → Except InvalidTransition (Option TestResult) × Test
  | op .start => t.start.map (·.map fun _ => none) id
  | op .skip => t.skip.map (·.map some) id
  | op (.finish outcome duration) => (t.finish outcome duration).map (·.map some) id
  | op .reset => (.ok none, t.reset)
  | run backend state => (StateT.run (t.run backend) state).1.map (·.map some) id
  | setExpected expected => (.ok none, { t with expected })
  | setCode code => (.ok none, { t with code })
  | setTimeout timeout => (.ok none, { t with timeout })

namespace Test

/-- The test after a sequence of steps. -/
def perform (t : Test) (steps : List TestStep) : Test :=
  steps.foldl (fun t step => (step.perform t).2) t

end Test

namespace TestStep

/-- **What a step can do**: be refused without a trace, start a pending test, conclude one that has
not ended, reset it, or leave its status and result as they are. -/
inductive Effect (t : Test) : TestStep → Except InvalidTransition (Option TestResult) × Test → Prop
  | refused (step : TestStep) (e : InvalidTransition) : Effect t step (.error e, t)
  | started (h : t.status = .pending) :
      Effect t (.op .start) (.ok none, { t with status := .running })
  | concluded (step : TestStep) (h : t.status.isTerminal = false) {r : TestResult} (hr : r.Fits) :
      Effect t step (.ok (some r), t.conclude r)
  | reset : Effect t (.op .reset) (.ok none, t.reset)
  | changed (step : TestStep) {u : Test} (hs : u.status = t.status) (hr : u.result = t.result) :
      Effect t step (.ok none, u)

/-- Every step does one of these. -/
theorem effect (t : Test) (step : TestStep) : step.Effect t (step.perform t) := by
  cases step with
  | op op =>
      cases op with
      | start =>
          by_cases h : t.status = .pending
          · have hstart : t.start = (.ok (), { t with status := .running }) := if_pos h
            rw [perform, hstart]
            exact .started h
          · have hstart : t.start = (.error ⟨t.status, .running⟩, t) := if_neg h
            rw [perform, hstart]
            exact .refused _ _
      | skip =>
          by_cases h : t.status = .pending
          · rw [perform, Test.skip_of_pending h]
            exact .concluded _ (h ▸ rfl) TestResult.fits_skipped
          · have hskip : t.skip = (.error ⟨t.status, .skipped⟩, t) := if_neg h
            rw [perform, hskip]
            exact .refused _ _
      | finish outcome duration =>
          by_cases h : t.status = .running
          · have hfinish : t.finish outcome duration =
                (.ok (t.judge outcome duration), t.conclude (t.judge outcome duration)) := if_pos h
            rw [perform, hfinish]
            exact .concluded _ (h ▸ rfl) (t.fits_judge outcome duration)
          · have hfinish : t.finish outcome duration =
                (.error ⟨t.status, (t.judge outcome duration).status⟩, t) := if_neg h
            rw [perform, hfinish]
            exact .refused _ _
      | reset => exact .reset
  | run b w =>
      by_cases h : t.status = .pending
      · obtain ⟨c, -, hm⟩ := Test.run_of_pending h b w
        rw [perform, hm.plain]
        exact .concluded _ (h ▸ rfl) (t.fits_judge c.outcome c.elapsed)
      · rw [perform, Test.run_of_ne_pending h b]
        exact .refused _ _
  | setExpected expected => exact .changed _ rfl rfl
  | setCode code => exact .changed _ rfl rfl
  | setTimeout timeout => exact .changed _ rfl rfl

end TestStep

/-! ### Tests -/

/-- Whether a test has a result just when its status is terminal, and the result that belongs to
the status. -/
structure Test.Consistent (t : Test) : Prop where
  result_eq_none : t.status.isTerminal = false → t.result = none
  exists_result : t.status.isTerminal = true → ∃ r, t.result = some r ∧ r.status = t.status ∧ r.Fits

namespace Test

variable {t : Test}

theorem consistent_make (id name code : String) : (make id name code).Consistent where
  result_eq_none _ := rfl
  exists_result h := by cases h

theorem consistent_conclude (t : Test) {r : TestResult} (hr : r.Fits) :
    (t.conclude r).Consistent where
  result_eq_none h := by
    have hfalse : true = false := hr.isTerminal.symm.trans h
    exact absurd hfalse Bool.noConfusion
  exists_result _ := ⟨r, rfl, rfl, hr⟩

namespace Consistent

/-- A change that leaves the status and the result leaves a test consistent. -/
theorem congr {u : Test} (ht : t.Consistent) (hs : u.status = t.status)
    (hr : u.result = t.result) : u.Consistent where
  result_eq_none h := by
    rw [hr]
    exact ht.result_eq_none (hs ▸ h)
  exists_result h := by
    rw [hr, hs]
    exact ht.exists_result (hs ▸ h)

/-- **Every step leaves a test consistent.** -/
theorem step (ht : t.Consistent) (step : TestStep) : (step.perform t).2.Consistent := by
  have heffect := step.effect t
  generalize step.perform t = answer at heffect ⊢
  cases heffect with
  | refused => exact ht
  | started h =>
      have hresult : t.result = none := ht.result_eq_none (h ▸ rfl)
      exact ⟨fun _ => hresult, nofun⟩
  | concluded _ _ hr => exact t.consistent_conclude hr
  | reset => exact ⟨fun _ => rfl, nofun⟩
  | changed _ hs hr => exact ht.congr hs hr

/-- Every sequence of steps leaves a test consistent. -/
theorem perform (ht : t.Consistent) (steps : List TestStep) : (t.perform steps).Consistent := by
  induction steps generalizing t with
  | nil => exact ht
  | cons step steps ih => exact ih (ht.step step)

end Consistent

/-- A step that is refused changes nothing. -/
theorem eq_of_perform_eq_error {step : TestStep} {e : InvalidTransition} {u : Test}
    (h : step.perform t = (.error e, u)) : u = t := by
  have heffect := step.effect t
  rw [h] at heffect
  cases heffect
  rfl

/-- Only a reset ends a terminal status. -/
theorem eq_reset_of_status_ne {step : TestStep} (ht : t.status.isTerminal = true)
    (h : (step.perform t).2.status ≠ t.status) : step = .op .reset := by
  have heffect := step.effect t
  generalize step.perform t = answer at heffect h
  cases heffect with
  | refused => exact absurd rfl h
  | started hp =>
      rw [hp] at ht
      cases ht
  | concluded _ hn => exact absurd (ht.symm.trans hn) Bool.noConfusion
  | reset => rfl
  | changed _ hs => exact absurd hs h

/-- **The life of a test.** Whatever has happened to a test since it was made,

* it has no result while it is pending or running, and otherwise one with its status;
* the result of a skipped test has nothing else, that of a passed one an output and a duration,
  that of a failed one an output, an error and a duration, and that of an error an error and a
  duration;
* it can be started and skipped just when it is pending, and finished just when it is running;
* a step that is refused changes nothing, and only a reset ends a terminal status;
* finishing gives it the status and the result that are answered: an error if there was no output,
  a failure if there was another one than expected then, and otherwise a pass. -/
theorem lifecycle (id name code : String) (steps : List TestStep) :
    let t := (make id name code).perform steps
    (t.status = .pending ∨ t.status = .running → t.result = none) ∧
      (t.status ≠ .pending → t.status ≠ .running → ∃ r, t.result = some r ∧ r.status = t.status) ∧
      (∀ r, t.result = some r →
        (r.status = .skipped → r.output = none ∧ r.error = none ∧ r.duration = none) ∧
        (r.status = .passed → r.output.isSome ∧ r.error = none ∧ r.duration.isSome) ∧
        (r.status = .failed → r.output.isSome ∧ r.error.isSome ∧ r.duration.isSome) ∧
        (r.status = .error → r.output = none ∧ r.error.isSome ∧ r.duration.isSome)) ∧
      (t.start.1 = .ok () ↔ t.status = .pending) ∧
      ((∃ r, t.skip.1 = .ok r) ↔ t.status = .pending) ∧
      (∀ outcome duration, (∃ r, (t.finish outcome duration).1 = .ok r) ↔ t.status = .running) ∧
      (∀ (step : TestStep) e u, step.perform t = (.error e, u) → u = t) ∧
      (∀ step : TestStep, t.status.isTerminal = true → (step.perform t).2.status ≠ t.status →
        step = .op .reset) ∧
      ∀ outcome duration r u, t.finish outcome duration = (.ok r, u) →
        u.status = r.status ∧ u.result = some r ∧
        (r.status = .error ↔ ∃ e, outcome = .error e) ∧
        (r.status = .failed ↔ ∃ output expected,
          outcome = .ok output ∧ t.expected = some expected ∧ expected ≠ output) ∧
        (r.status = .passed ↔ ∃ output, outcome = .ok output ∧
          ∀ expected, t.expected = some expected → expected = output) := by
  intro t
  have ht : t.Consistent := (consistent_make id name code).perform steps
  refine ⟨fun h => ?_, fun hp hr => ?_, fun r hr => ?_, start_eq_ok_iff, skip_eq_ok_iff,
    fun _ _ => finish_eq_ok_iff, fun _ _ _ => eq_of_perform_eq_error,
    fun _ => eq_reset_of_status_ne, fun outcome duration r u h => ?_⟩
  · refine ht.result_eq_none ?_
    rcases h with h | h
    · rw [h]
      rfl
    · rw [h]
      rfl
  · have hterminal : t.status.isTerminal = true := by
      cases hs : t.status with
      | pending => exact absurd hs hp
      | running => exact absurd hs hr
      | passed | failed | error | skipped => rfl
    obtain ⟨r, hresult, hstatus, -⟩ := ht.exists_result hterminal
    exact ⟨r, hresult, hstatus⟩
  · have hfits : r.Fits := by
      cases hs : t.status.isTerminal with
      | false =>
          rw [ht.result_eq_none hs] at hr
          cases hr
      | true =>
          obtain ⟨r', hresult, -, hfits⟩ := ht.exists_result hs
          rw [hresult] at hr
          exact Option.some.inj hr ▸ hfits
    unfold TestResult.Fits at hfits
    refine ⟨fun h => ?_, fun h => ?_, fun h => ?_, fun h => ?_⟩
    all_goals
      rw [h] at hfits
      exact hfits
  · have hrunning : t.status = .running := finish_eq_ok_iff.1 ⟨r, by rw [h]⟩
    have hfinish : t.finish outcome duration =
        (.ok (t.judge outcome duration), t.conclude (t.judge outcome duration)) := if_pos hrunning
    obtain ⟨hr, hu⟩ := Prod.mk.inj (hfinish.symm.trans h)
    obtain rfl := Except.ok.inj hr
    subst hu
    exact ⟨rfl, rfl, judge_eq_error_iff, judge_eq_failed_iff, judge_eq_passed_iff⟩

end Test
end DocExamples
