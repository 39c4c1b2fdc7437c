/-
# Operations on a test

Starting, skipping, finishing and resetting change the status and the result of a test and nothing
else, whether they are refused or not. A test that ends is concluded: its status is that of its
result.
-/

import DocExamples.Test.Basic

namespace DocExamples

/-- An operation on the status of a test. -/
inductive TestOp where
  | start
  | skip
  | finish (outcome : Outcome) (duration : Duration)
  | reset

namespace TestOp

/-- The test after an operation. -/
def apply (t : Test) : TestOp → Test
  | start => t.start.2
  | skip => t.skip.2
  | finish outcome duration => (t.finish outcome duration).2
  | reset => t.reset

/-- **Only the status and the result change.** -/
theorem apply_eq (t : Test) (op : TestOp) :
    ∃ status result, op.apply t = { t with status, result } := by
  cases op with
  | start =>
      by_cases h : t.status = .pending
      · exact ⟨.running, t.result, by simp [apply, Test.start, h]⟩
      · exact ⟨t.status, t.result, by simp [apply, Test.start, h]⟩
  | skip =>
      by_cases h : t.status = .pending
      · exact ⟨.skipped, some .skipped, by simp [apply, Test.skip, h]⟩
      · exact ⟨t.status, t.result, by simp [apply, Test.skip, h]⟩
  | finish outcome duration =>
      by_cases h : t.status = .running
      · exact ⟨(t.judge outcome duration).status, some (t.judge outcome duration),
          by simp [apply, Test.finish, h]⟩
      · exact ⟨t.status, t.result, by simp [apply, Test.finish, h]⟩
  | reset => exact ⟨_, _, rfl⟩

theorem id_apply (t : Test) (op : TestOp) : (op.apply t).id = t.id := by
  obtain ⟨_, _, h⟩ := op.apply_eq t
  rw [h]

end TestOp

namespace Test

/-- The test with a result. -/
def conclude (t : Test) (r : TestResult) : Test := { t with status := r.status, result := some r }

/-- A pending test that is skipped has the result of skipped tests. -/
theorem skip_of_pending {t : Test} (h : t.status = .pending) :
    t.skip = (.ok .skipped, t.conclude .skipped) := if_pos h

end Test
end DocExamples
