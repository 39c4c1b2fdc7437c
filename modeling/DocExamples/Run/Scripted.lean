/-
# Scripted backends

A scripted backend answers every request by a fixed function and keeps a log of what it was asked
to do. Nothing completes right away, and no time passes: a request takes as long as its reply says,
and one that expires first leaves no end in the log.
-/

import DocExamples.Run.Backend

namespace DocExamples

/-- What a scripted backend has seen of a test. -/
inductive RunEvent where
  | started (id : String)
  | ended (id : String)
deriving DecidableEq, Repr

def RunEvent.display : RunEvent → String
  | started id => "start " ++ id
  | ended id => "end " ++ id

/-- The backend that gives the replies of a function. Of the requests under way the one with the
shortest reply completes first. -/
def Backend.scripted (reply : Request → Completion) : Backend (StateM (List RunEvent)) where
  begin r := do
    modify (· ++ [.started r.testId])
    return false
  finish r := do
    unless r.expires (reply r).elapsed do
      modify (· ++ [.ended r.testId])
    return reply r
  order rs :=
    let timed := rs.zipIdx.map fun (r, i) => ((reply r).elapsed.nanos, i)
    (timed.mergeSort fun a b => a.1 ≤ b.1).map (·.2)

end DocExamples
