/-
# Named sets of characters

A named set is the union of some general categories, except that membership is toggled at
the listed edges. Names are written without what is ignored in them: case, blanks, hyphens,
underscores and a leading `is`.
-/

import DocExamples.Unicode.Category

namespace DocExamples
namespace Unicode

/-- A set of characters with the names it goes by. -/
structure NamedSet where
  names : List String
  categories : List Category := []
  toggled : List Nat := []

namespace NamedSet

/-- The characters of the set. -/
def set (s : NamedSet) : CharSet :=
  match s.categories with
  | [] => ⟨s.toggled⟩
  | ks => (Category.set ks).symmDiff ⟨s.toggled⟩

/-- The set of a name. -/
def find? (name : String) (sets : List NamedSet) : Option CharSet :=
  (sets.find? (·.names.contains name)).map set

end NamedSet
end Unicode
end DocExamples
