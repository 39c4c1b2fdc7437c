/-
# Test status

A test is pending until it is started or skipped; a running test passes, fails or ends with an
error. Only a reset leaves the last four states.
-/

namespace DocExamples

/-- Where a test is in its life. -/
inductive TestStatus where
  | pending | running | passed | failed | error | skipped
deriving DecidableEq, Repr, Inhabited

namespace TestStatus

def all : List TestStatus := [pending, running, passed, failed, error, skipped]

/-- Whether only a reset leaves the state. -/
def isTerminal : TestStatus → Bool
  | pending | running => false
  | _ => true

/-- The mark of the state in listings. -/
def symbol : TestStatus → String
  | pending => "·"
  | running => "…"
  | passed => "✓"
  | failed => "✗"
  | error => "!"
  | skipped => "-"

def name : TestStatus → String
  | pending => "pending"
  | running => "running"
  | passed => "passed"
  | failed => "failed"
  | error => "error"
  | skipped => "skipped"

end TestStatus
end DocExamples
