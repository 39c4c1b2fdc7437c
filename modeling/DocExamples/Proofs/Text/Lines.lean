/-
# Lines that survive being written

A text that is written with a line feed after it is read back as one line if it has no line feed in
it and no carriage return at its end (`OneLine`). Several such texts are read back in their order
(`lines_flatMap`). Whatever is written before a line feed, the lines after it do not depend on it
(`lines_append_lineFeed`).
-/

import DocExamples.Text.Lines
import Mathlib.Data.List.DropRight

namespace DocExamples
namespace Text

variable {c : Char} {a b l : List Char} {ls : List (List Char)}

/-- Whether a text is one line: it has no line feed in it and no carriage return at its end. -/
def OneLine (cs : List Char) : Prop := '\n' ∉ cs ∧ cs.getLast? ≠ some '\r'

instance (cs : List Char) : Decidable (OneLine cs) :=
  inferInstanceAs (Decidable ('\n' ∉ cs ∧ cs.getLast? ≠ some '\r'))

namespace OneLine

/-- A text without line feeds and carriage returns is one line. -/
theorem of_forall (h : ∀ c ∈ l, c ≠ '\n' ∧ c ≠ '\r') : OneLine l :=
  ⟨fun hm => (h _ hm).1 rfl, fun hm => (h _ (List.mem_of_mem_getLast? hm)).2 rfl⟩

theorem append (ha : OneLine a) (hb : OneLine b) : OneLine (a ++ b) := by
  refine ⟨fun hm => (List.mem_append.1 hm).elim ha.1 hb.1, fun hl => ?_⟩
  rw [List.getLast?_append] at hl
  cases h : b.getLast? with
  | none => exact ha.2 (by simpa [h] using hl)
  | some c => exact hb.2 (by simpa [h] using hl)

/-- What a line ends with is one line. -/
theorem of_append (h : OneLine (a ++ b)) : OneLine b := by
  refine ⟨fun hm => h.1 (List.mem_append_right a hm), fun hl => h.2 ?_⟩
  rw [List.getLast?_append, hl]
  rfl

end OneLine

/-- **A line that is written** before a line feed is read back. -/
theorem lines_append (hl : OneLine l) (rest : List Char) :
    lines (l ++ '\n' :: rest) = l :: lines rest := by
  induction l with
  | nil => simp [lines]
  | cons c l ih =>
      have hc : c ≠ '\n' := fun h => hl.1 (h ▸ List.mem_cons_self)
      have hl' : OneLine l := hl.of_append (a := [c])
      -- the carriage return before the line feed would be the last character of the line
      have hcr : ∀ more, c = '\r' → l ++ '\n' :: rest ≠ '\n' :: more := by
        intro more hcr heq
        cases l with
        | nil => exact hl.2 (by rw [hcr]; rfl)
        | cons d l => exact hl'.1 (by simp [(List.cons.inj heq).1])
      rw [List.cons_append, lines.eq_4 _ _ hc hcr, ih hl']

/-- **Lines that are written** one after the other are read back in their order. -/
theorem lines_flatMap (hls : ∀ l ∈ ls, OneLine l) : lines (ls.flatMap (· ++ ['\n'])) = ls := by
  induction ls with
  | nil => rfl
  | cons l ls ih =>
      obtain ⟨hl, hls⟩ := List.forall_mem_cons.1 hls
      rw [List.flatMap_cons, List.append_assoc, List.singleton_append, lines_append hl, ih hls]

/-! ### Texts one after another -/

theorem lines_ne_nil (h : a ≠ []) : lines a ≠ [] := by
  rw [lines.eq_def]
  repeat' split
  all_goals simp_all

/-- A character that is no part of the end of a line belongs to the first line. -/
theorem lines_cons_append (hfeed : c ≠ '\n') (ha : ∀ u, c = '\r' → a ≠ '\n' :: u)
    (hb : ∀ u, c = '\r' → b ≠ '\n' :: u) (hne : b ≠ []) (h : lines a = lines b ++ ls) :
    lines (c :: a) = lines (c :: b) ++ ls := by
  rw [lines.eq_4 c a hfeed ha, lines.eq_4 c b hfeed hb, h]
  cases hlines : lines b with
  | nil => exact absurd hlines (lines_ne_nil hne)
  | cons l ls => rfl

/-- **A line feed ends a line**, whatever comes after it. -/
theorem lines_append_lineFeed (a b : List Char) :
    lines (a ++ '\n' :: b) = lines (a ++ ['\n']) ++ lines b := by
  induction a with
  | nil => rfl
  | cons c a ih =>
      by_cases hfeed : c = '\n'
      · simp [hfeed, lines, ih]
      by_cases hreturn : c = '\r' ∧ (a = [] ∨ ∃ u, a = '\n' :: u)
      · obtain ⟨rfl, rfl | ⟨u, rfl⟩⟩ := hreturn
        · rfl
        · simpa [lines] using ih
      · have hother : ∀ more u, c = '\r' → a ++ '\n' :: more ≠ '\n' :: u := by
          rintro more u hc h
          cases a with
          | nil => exact hreturn ⟨hc, .inl rfl⟩
          | cons d a => exact hreturn ⟨hc, .inr ⟨a, by rw [(List.cons.inj h).1]⟩⟩
        exact lines_cons_append hfeed (hother b) (hother []) (by simp) ih

/-- What a text begins with is on its first line, if it ends no line. -/
theorem exists_lines_append (hne : a ≠ []) (h : ∀ c ∈ a, c ≠ '\n' ∧ c ≠ '\r') (b : List Char) :
    ∃ l ls, lines (a ++ b) = (a ++ l) :: ls := by
  induction a with
  | nil => exact absurd rfl hne
  | cons c a ih =>
      obtain ⟨⟨hfeed, hreturn⟩, h⟩ := List.forall_mem_cons.1 h
      rw [List.cons_append, lines.eq_4 c _ hfeed fun _ hc => absurd hc hreturn]
      by_cases ha : a = []
      · subst ha
        cases lines ([] ++ b) with
        | nil => exact ⟨[], [], rfl⟩
        | cons l ls => exact ⟨l, ls, rfl⟩
      · obtain ⟨l, ls, hlines⟩ := ih ha h
        exact ⟨l, ls, by rw [hlines]; rfl⟩

/-! ### Carriage returns -/

/-- A text without line feeds is one line once the carriage returns at its end are dropped. -/
theorem oneLine_rdropWhile (h : '\n' ∉ l) : OneLine (l.rdropWhile (· == '\r')) := by
  refine ⟨fun hm => h ((List.rdropWhile_prefix _ l).subset hm), fun hl => ?_⟩
  have hne : l.rdropWhile (· == '\r') ≠ [] := fun hnil => by
    rw [hnil] at hl
    cases hl
  rw [List.getLast?_eq_some_getLast hne] at hl
  exact List.rdropWhile_last_not _ l hne (by simpa using hl)

theorem rdropWhile_cons_of_neg {p : Char → Bool} (hc : ¬ p c) :
    (c :: l).rdropWhile p = c :: l.rdropWhile p := by
  rw [List.rdropWhile, List.rdropWhile, List.reverse_cons, List.dropWhile_append]
  split_ifs with h
  · simp [hc, List.isEmpty_iff.1 h]
  · simp

theorem rdropWhile_eq_self (hl : OneLine l) : l.rdropWhile (· == '\r') = l := by
  refine List.rdropWhile_eq_self_iff.2 fun hne h => hl.2 ?_
  rw [List.getLast?_eq_some_getLast hne]
  simpa using h

end Text
end DocExamples
