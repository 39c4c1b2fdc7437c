/-
# Run reports

The results of a run as a data file: the totals, one entry for each test in the order of the ids,
and the totals of the coverage if there are any. Durations are whole milliseconds.
-/

import DocExamples.Coverage.Summary
import DocExamples.Document.Json
import DocExamples.Run.Engine

namespace DocExamples
namespace RunSummary

def resultDocument (id : String) (r : TestResult) : Document :=
  .present [
    ("id", some (.text id)),
    ("status", some (.text r.status.name)),
    ("output", r.output.map .text),
    ("error", r.error.map .text),
    ("duration", r.duration.map fun d => .nat (d.millis % UInt64.size))]

/-- The report of a run that took the given time. -/
def report (s : RunSummary) (duration : Duration) (coverage : Option CoverageSummary) : Document :=
  .present [
    ("summary", some (.table [
      ("totalTests", .nat s.total),
      ("passed", .nat (s.count .passed)),
      ("failed", .nat (s.count .failed)),
      ("skipped", .nat (s.count .skipped)),
      ("errors", .nat (s.count .error)),
      ("duration", .nat (duration.millis % UInt64.size))])),
    ("tests", some (.list (s.results.toList.map fun (id, r) => resultDocument id r))),
    ("coverage", coverage.map CoverageSummary.toDocument)]

end RunSummary
end DocExamples
