/-
# Fields between separators

A text without separators is one field, and a separator between two texts ends the last field of
the one and starts the first of the other (`splitOn_append`). So fields that are joined are found
again (`splitOn_intercalate`).
-/

import DocExamples.Text.Search
import Mathlib.Data.List.Basic

namespace DocExamples
namespace Text

variable {sep : Char} {f s : List Char} {fields : List (List Char)}

theorem splitOn_of_not_mem (h : sep ∉ f) : splitOn sep f = [f] := by
  induction f with
  | nil => rfl
  | cons c f ih =>
      have hc : c ≠ sep := fun he => h (he ▸ List.mem_cons_self)
      simp [splitOn, hc, ih fun hm => h (List.mem_cons_of_mem c hm)]

/-- The fields of two texts with a separator between them. -/
theorem splitOn_append (s rest : List Char) :
    splitOn sep (s ++ sep :: rest) = splitOn sep s ++ splitOn sep rest := by
  induction s with
  | nil => simp [splitOn]
  | cons c s ih =>
      rw [List.cons_append, splitOn, splitOn, ih]
      split
      · rfl
      · cases hs : splitOn sep s with
        | nil => exact absurd hs (splitOn_ne_nil sep s)
        | cons field more => rfl

/-- Fields that are joined are found again. -/
theorem splitOn_intercalate (hne : fields ≠ []) (h : ∀ f ∈ fields, sep ∉ f) :
    splitOn sep ([sep].intercalate fields) = fields := by
  induction fields with
  | nil => exact absurd rfl hne
  | cons f fields ih =>
      obtain ⟨hf, hfields⟩ := List.forall_mem_cons.1 h
      cases fields with
      | nil => rw [List.intercalate_singleton, splitOn_of_not_mem hf]
      | cons f' fields =>
          rw [List.intercalate_cons_cons, List.append_assoc, List.singleton_append, splitOn_append,
            splitOn_of_not_mem hf, ih (List.cons_ne_nil _ _) hfields]
          rfl

/-! ### The last separator -/

theorem cutLast?_eq_none_iff : cutLast? sep s = none ↔ sep ∉ s := by
  rw [cutLast?, Option.map_eq_none_iff, cut?_eq_none_iff, List.mem_reverse]

/-- What stands before the last separator has one separator less. -/
theorem count_of_cutLast? {a b : List Char} (h : cutLast? sep s = some (a, b)) :
    s.count sep = a.count sep + 1 := by
  obtain ⟨rfl, hb⟩ := cutLast?_eq_some_iff.1 h
  rw [List.count_append, List.count_cons_self, List.count_eq_zero.2 hb]

end Text
end DocExamples
