/-
# Backends

A backend runs code. It is told of a request when the test starts. A request may have completed
right away; otherwise it is under way and asked for later, so that several requests can be under way
at once, and `order` says which of them complete first. A request under way whose completion takes
longer than its timeout has timed out, and so has every one without any time. What has completed
right away has not timed out, whatever the timeout.
-/

import DocExamples.Test.Basic

namespace DocExamples

/-- The end of a request: how long it took and what it yielded. -/
structure Completion where
  elapsed : Duration
  outcome : Outcome

/-- Whether a request under way is over before it completes. -/
def Request.expires (r : Request) (elapsed : Duration) : Bool :=
  r.timeout.nanos == 0 || r.timeout.nanos < elapsed.nanos

/-- The completion as it counts for the request, which came right away or was waited for. -/
def Request.settle (r : Request) (atOnce : Bool) (c : Completion) : Completion :=
  if !atOnce && r.expires c.elapsed then ⟨r.timeout, .error (.timeout r.timeout)⟩ else c

/-- Something that runs code, with effects in `m`. -/
structure Backend (m : Type → Type) where
  /-- Tells of a request, and answers whether it has completed right away. -/
  begin : Request → m Bool
  finish : Request → m Completion
  /-- The positions of requests under way in the order of their completion. Those not listed
  complete last, in the order they were begun. -/
  order : List Request → List Nat := fun _ => []

variable {m : Type → Type} [Monad m]

namespace Test

/-- Ends a test whose code is running, or has run right away. -/
def await (backend : Backend m) (atOnce : Bool) (t : Test) :
    m (Except InvalidTransition TestResult × Test) := do
  let c ← backend.finish t.request
  let settled := t.request.settle atOnce c
  return t.finish settled.outcome settled.elapsed

/-- Runs a test from its start to its end. -/
def run (backend : Backend m) (t : Test) : m (Except InvalidTransition TestResult × Test) := do
  match t.start with
  | (.error e, t) => return (.error e, t)
  | (.ok (), t) => do
    let atOnce ← backend.begin t.request
    t.await backend atOnce

end Test

/-- The result of each test that has run. -/
abbrev IdResult := String × TestResult

/-- Runs tests one after the other and stops at the first one that cannot be started. The tests
are returned as they are afterwards. -/
def runInTurn (backend : Backend m) :
    List Test → m (Except InvalidTransition (List IdResult) × List Test)
  | [] => return (.ok [], [])
  | t :: rest => do
    match ← t.run backend with
    | (.error e, t) => return (.error e, t :: rest)
    | (.ok r, t) => do
      let (rs, rest) ← runInTurn backend rest
      return (rs.map ((t.id, r) :: ·), t :: rest)

/-- A test under way: it is running as long as there is no answer. -/
structure Flight where
  test : Test
  answer : Option (Except InvalidTransition TestResult) := none

namespace Flight

/-- Starts a test, which ends before the next one starts if its request has completed right
away. -/
def launch (backend : Backend m) (t : Test) : m Flight := do
  match t.start with
  | (.error e, t) => return { test := t, answer := some (.error e) }
  | (.ok (), t) => do
    if ← backend.begin t.request then do
      let (r, t) ← t.await backend true
      return { test := t, answer := some r }
    else return { test := t }

/-- Waits for the end of a test, unless it has come already. -/
def land (backend : Backend m) (f : Flight) : m Flight := do
  match f.answer with
  | some _ => return f
  | none => do
    let (r, t) ← f.test.await backend false
    return { test := t, answer := some r }

/-- The result of a test that has ended. -/
def result (f : Flight) : Except InvalidTransition IdResult :=
  match f.answer with
  | some (.ok r) => .ok (f.test.id, r)
  | some (.error e) => .error e
  | none => .error ⟨f.test.status, f.test.status⟩

/-- Waits for the flight at a position. -/
def landAt (backend : Backend m) : Nat → List Flight → m (List Flight)
  | _, [] => return []
  | 0, f :: rest => return (← f.land backend) :: rest
  | n + 1, f :: rest => return f :: (← landAt backend n rest)

end Flight

/-- Starts all tests in order, then waits for those under way in the order in which they complete.
The first test that cannot be started decides about the answer, but all others run to their
end. -/
def runTogether (backend : Backend m) (tests : List Test) :
    m (Except InvalidTransition (List IdResult) × List Test) := do
  let flights ← tests.mapM (Flight.launch backend)
  let order := backend.order (flights.map (·.test.request))
  let flights ← order.foldlM (fun fs i => Flight.landAt backend i fs) flights
  let flights ← flights.mapM (Flight.land backend)
  return (flights.mapM Flight.result, flights.map (·.test))

end DocExamples
