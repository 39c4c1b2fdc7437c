/-
# The patterns as they are written

The patterns of the built-in provider are written as regular expressions (`writtenPatterns`). What
these write down differs from the patterns that are tried in how rows are nested and in the numbers
of the groups. Neither makes a difference to what matches, or to what the groups of a name capture
(`forall₂_writes`).
-/

import DocExamples.Pattern.Parse
import DocExamples.Proofs.Pattern.Nesting
import DocExamples.Scan.Heuristic
import Mathlib.Data.List.Forall2

namespace DocExamples
namespace Scan

/-- How the patterns are written, in the order in which they are tried. -/
def writtenPatterns : List String :=
  let callable := "(?:(?:inline|static|constexpr|virtual|extern)\\s+)*(?:const\\s+)?" ++
    "(?:(?P<ret>[\\w:<>]+)[\\s*&]+)?(?P<name>\\w+)\\s*\\([^)]*\\)\\s*(?:const)?\\s*" ++
    "(?:override)?\\s*(?:noexcept)?\\s*[\x7b;]"
  ["^\\s*template\\s*<[^>]*>\\s*(?:class|struct)\\s+(?P<name>\\w+)",
    "^\\s*class\\s+(?P<name>\\w+)",
    "^\\s*struct\\s+(?P<name>\\w+)",
    "^\\s*union\\s+(?P<name>\\w+)",
    "^\\s*namespace\\s+(?P<name>\\w+)",
    "^\\s*template\\s*<[^>]*>\\s*" ++ callable,
    "^\\s*" ++ callable]

/-- The numbers of the groups with a name in a pattern that is tried for a kind, the last one
first. -/
def groupNumbers (kind : DeclarationKind) : List (String × ℕ) :=
  if kind.isCallable then [("name", nameGroup), ("ret", returnGroup)] else [("name", nameGroup)]

/-- How much larger these numbers are than those that the groups are written with: without a type
in front of it, the name is the first group. -/
def groupShift (kind : DeclarationKind) : ℕ := if kind.isCallable then 0 else 1

/-- The text writes down a pattern that matches where the one that is tried does and captures the
same under its groups. -/
def Writes (written : String) (entry : Pattern × DeclarationKind) : Prop :=
  ∃ form names, Pattern.form? written = some (form, names) ∧
    names.map (Prod.map id (· + groupShift entry.2)) = groupNumbers entry.2 ∧
    ∀ text, entry.1.match? text =
      (form.pattern.match? text).map (Reached.renumber (· + groupShift entry.2) [])

/-- What a text writes down, with the numbers that groups have in the patterns that are tried and
with its rows flattened. -/
def flatForm? (kind : DeclarationKind) (written : String) :
    Option (Pattern × List (String × ℕ)) :=
  (Pattern.form? written).map fun (form, names) =>
    ((form.pattern.renumber (· + groupShift kind)).flat,
      names.map (Prod.map id (· + groupShift kind)))

theorem writes_of_flatForm? {written : String} {entry : Pattern × DeclarationKind}
    (h : flatForm? entry.2 written = some (entry.1.flat, groupNumbers entry.2)) :
    Writes written entry := by
  obtain ⟨⟨form, names⟩, hform, heq⟩ := Option.map_eq_some_iff.1 h
  obtain ⟨hflat, hnames⟩ := Prod.mk.inj heq
  refine ⟨form, names, hform, hnames, fun text => ?_⟩
  rw [← Pattern.match?_renumber, ← Pattern.match?_flat, ← hflat, Pattern.match?_flat]

/-- **Every pattern that is tried is written down** as a regular expression. -/
theorem forall₂_writes : List.Forall₂ Writes writtenPatterns declarationPatterns := by
  have hflat : ∀ pair ∈ writtenPatterns.zip declarationPatterns,
      flatForm? pair.2.2 pair.1 = some (pair.2.1.flat, groupNumbers pair.2.2) := by
    decide +kernel
  exact List.forall₂_iff_zip.2 ⟨by decide, fun hpair => writes_of_flatForm? (hflat _ hpair)⟩

end Scan
end DocExamples
