/-
# Selecting tests

A filter selects a test by a pattern in its name, id or description, by a part of its file or by
a part of its name. One of them suffices, and a filter without any criterion selects every test.
-/

import DocExamples.Pattern.Parse
import DocExamples.Test.Basic

namespace DocExamples

/-- Which tests to run. -/
structure TestFilter where
  pattern : Option Pattern := none
  /-- Parts of the file of a test id. -/
  files : List String := []
  /-- Parts of the name of a test. -/
  functions : List String := []

namespace TestFilter

def isEmpty (f : TestFilter) : Bool :=
  f.pattern.isNone && f.files.isEmpty && f.functions.isEmpty

/-- Whether the filter selects a test. -/
def selects (f : TestFilter) (t : Test) : Bool :=
  f.isEmpty ||
    f.pattern.any (fun p => p.occursIn t.name || p.occursIn t.id || p.occursIn t.description) ||
    f.files.any (fun part => Text.contains (fileOfId t.id) part) ||
    f.functions.any (fun part => Text.contains t.name part)

/-- A text that is no pattern. -/
structure InvalidPattern where
  pattern : String
deriving DecidableEq, Repr

/-- The message, up to the account of what is wrong with the pattern. -/
def InvalidPattern.message (e : InvalidPattern) : String :=
  "Invalid filter pattern '" ++ e.pattern ++ "': "

/-- The filter of a pattern. -/
def ofPattern (text : String) : Except InvalidPattern TestFilter :=
  match Pattern.read text with
  | .ok p => .ok { pattern := some p }
  | .error _ => .error ⟨text⟩

end TestFilter
end DocExamples
