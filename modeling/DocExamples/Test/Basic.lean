/-
# Tests

A test is an example made ready to run. Its status and its result change together: starting and
skipping need a pending test, finishing a running one, and an operation that is refused changes
nothing. Every operation returns its answer together with the test as it is afterwards.
-/

import DocExamples.Duration
import DocExamples.Example
import DocExamples.Test.Status
import DocExamples.Text.Search

namespace DocExamples

/-- Why the code of a test produced no output. -/
inductive ExecutionError where
  | compile (message : String)
  | runtime (message : String)
  | timeout (limit : Duration)
  | unavailable (message : String)
  | io (message : String)
deriving DecidableEq, Repr

def ExecutionError.message : ExecutionError → String
  | compile m => "Compilation failed: " ++ m
  | runtime m => "Runtime error: " ++ m
  | timeout d => "Timed out after " ++ d.display
  | unavailable m => "Backend unavailable: " ++ m
  | io m => "I/O error: " ++ m

/-- What running the code of a test yields. -/
abbrev Outcome := Except ExecutionError String

/-- How a test ended. -/
structure TestResult where
  status : TestStatus
  output : Option String := none
  /-- The mismatch or the failure in words. -/
  error : Option String := none
  /-- The time spent running; skipped tests have none. -/
  duration : Option Duration := none
deriving DecidableEq, Repr, Inhabited

def TestResult.skipped : TestResult := { status := .skipped }

/-- A change of status that is not allowed. -/
structure InvalidTransition where
  source : TestStatus
  target : TestStatus
deriving DecidableEq, Repr

def InvalidTransition.message (e : InvalidTransition) : String :=
  "Invalid transition: " ++ e.source.name ++ " -> " ++ e.target.name

/-- What a backend is asked to run. -/
structure Request where
  testId : String
  code : String
  sourceFile : String
  timeout : Duration
deriving DecidableEq, Repr, Inhabited

/-- An example made ready to run. -/
structure Test where
  /-- The file, the line and the number of the example, with colons between them. -/
  id : String
  name : String
  code : String
  expected : Option String := none
  description : String := ""
  timeout : Duration := .ofMillis 5000
  sourceFile : String
  /-- The name of the declaration that the example documents. -/
  declaration : Option String := none
  status : TestStatus := .pending
  result : Option TestResult := none
deriving DecidableEq, Repr, Inhabited

/-- The file of a test id: what stands before its last two colons, or the whole id if it has
fewer. -/
def fileOfId (id : String) : String :=
  match (Text.cutLast? ':' id.toList).bind fun (before, _) => Text.cutLast? ':' before with
  | some (file, _) => String.ofList file
  | none => id

namespace Test

/-- A pending test. -/
def make (id name code : String) : Test := { id, name, code, sourceFile := fileOfId id }

/-- The test of the example with the given number in its file. -/
def ofExample (e : Example) (parent : Option Declaration) (index : Nat) (timeout : Duration) :
    Test :=
  let place := e.location.display
  let name := match parent with
    | some d => d.name ++ " - Test " ++ toString (index + 1)
    | none => "DocTest " ++ toString (index + 1)
  { make (place ++ ":" ++ toString index) name e.code with
    description := "Test at " ++ place
    timeout
    expected := e.expected
    declaration := parent.map (·.name) }

/-- The test of an example whose number has 64 bits; the largest one has no successor, which the
name of the test needs. -/
def ofNumbered? (e : Example) (parent : Option Declaration) (index : UInt64)
    (timeout : Duration) : Option Test :=
  if index.toNat + 1 < UInt64.size then some (ofExample e parent index.toNat timeout) else none

def request (t : Test) : Request := ⟨t.id, t.code, t.sourceFile, t.timeout⟩

/-- A pending test starts to run. -/
def start (t : Test) : Except InvalidTransition Unit × Test :=
  if t.status = .pending then (.ok (), { t with status := .running })
  else (.error ⟨t.status, .running⟩, t)

theorem start_eq_ok_iff {t : Test} : t.start.1 = .ok () ↔ t.status = .pending := by
  by_cases h : t.status = .pending <;> simp [start, h]

/-- A pending test is skipped. -/
def skip (t : Test) : Except InvalidTransition TestResult × Test :=
  if t.status = .pending then
    (.ok .skipped, { t with status := .skipped, result := some .skipped })
  else (.error ⟨t.status, .skipped⟩, t)

theorem skip_eq_ok_iff {t : Test} : (∃ r, t.skip.1 = .ok r) ↔ t.status = .pending := by
  by_cases h : t.status = .pending <;> simp [skip, h]

/-- The result of a test whose code yielded `outcome`: an error if there is no output, otherwise
a pass unless the output differs from what is expected. -/
def judge (t : Test) (outcome : Outcome) (duration : Duration) : TestResult :=
  match outcome with
  | .error e => { status := .error, error := some e.message, duration := some duration }
  | .ok output =>
    let passed : TestResult :=
      { status := .passed, output := some output, duration := some duration }
    match t.expected with
    | none => passed
    | some expected =>
      if expected = output then passed
      else {
        status := .failed
        output := some output
        error := some ("Expected: " ++ expected ++ ", Got: " ++ output)
        duration := some duration }

/-- Every verdict ends the test. -/
theorem isTerminal_judge (t : Test) (outcome : Outcome) (duration : Duration) :
    (t.judge outcome duration).status.isTerminal = true := by
  unfold judge
  split
  · rfl
  · split
    · rfl
    · split <;> rfl

/-- A test passes if there is output and none other is expected. -/
theorem judge_eq_passed_iff {t : Test} {outcome : Outcome} {duration : Duration} :
    (t.judge outcome duration).status = .passed ↔
      ∃ output, outcome = .ok output ∧
        ∀ expected, t.expected = some expected → expected = output := by
  unfold judge
  split
  · simp
  · split
    · simp_all
    · split <;> simp_all

/-- A running test ends. -/
def finish (t : Test) (outcome : Outcome) (duration : Duration) :
    Except InvalidTransition TestResult × Test :=
  let result := t.judge outcome duration
  if t.status = .running then
    (.ok result, { t with status := result.status, result := some result })
  else (.error ⟨t.status, result.status⟩, t)

theorem finish_eq_ok_iff {t : Test} {outcome : Outcome} {duration : Duration} :
    (∃ r, (t.finish outcome duration).1 = .ok r) ↔ t.status = .running := by
  by_cases h : t.status = .running <;> simp [finish, h]

/-- The test as it was before it ran. -/
def reset (t : Test) : Test := { t with status := .pending, result := none }

end Test
end DocExamples
