/-
# Blank characters and trimming

The blank characters are those with the Unicode property `White_Space`, twenty-five in all.
Trimming drops them from both ends of a text and leaves the inside alone.
-/

namespace DocExamples
namespace Text

/-- The Unicode property `White_Space`. -/
def isBlank (c : Char) : Bool :=
  let n := c.toNat
  (9 ≤ n && n ≤ 13) || n == 32 || n == 133 || n == 160 || n == 5760 ||
    (8192 ≤ n && n ≤ 8202) || n == 8232 || n == 8233 || n == 8239 || n == 8287 || n == 12288

/-- Drops the blanks at the front. -/
def trimLeft (cs : List Char) : List Char := cs.dropWhile isBlank

/-- Drops the blanks at the end. -/
def trimRight (cs : List Char) : List Char := (cs.reverse.dropWhile isBlank).reverse

/-- Drops the blanks at both ends. -/
def trim (cs : List Char) : List Char := trimRight (trimLeft cs)

/-- `trim` on strings. -/
def trimmed (s : String) : String := String.ofList (trim s.toList)

/-- What is left after trimming the front begins with no blank. -/
theorem isBlank_head?_trimLeft {cs : List Char} {c : Char} (h : (trimLeft cs).head? = some c) :
    isBlank c = false := by
  have := List.head?_dropWhile_not isBlank cs
  simp_all [trimLeft]

/-- What is left after trimming the end ends in no blank. -/
theorem isBlank_getLast?_trimRight {cs : List Char} {c : Char}
    (h : (trimRight cs).getLast? = some c) : isBlank c = false := by
  rw [trimRight, List.getLast?_reverse] at h
  exact isBlank_head?_trimLeft h

theorem trimLeft_eq_self {cs : List Char} (h : ∀ c, cs.head? = some c → isBlank c = false) :
    trimLeft cs = cs := by
  cases cs with
  | nil => rfl
  | cons c cs => simp [trimLeft, h c rfl]

theorem trimRight_eq_self {cs : List Char} (h : ∀ c, cs.getLast? = some c → isBlank c = false) :
    trimRight cs = cs := by
  have := @trimLeft_eq_self cs.reverse (by simpa using h)
  rw [trimRight, ← trimLeft, this, List.reverse_reverse]

theorem trimRight_prefix (cs : List Char) : trimRight cs <+: cs := by
  rw [← List.reverse_suffix, trimRight, List.reverse_reverse]
  exact List.dropWhile_suffix isBlank

/-- A trimmed text begins with no blank. -/
theorem isBlank_head?_trim {cs : List Char} {c : Char} (h : (trim cs).head? = some c) :
    isBlank c = false := by
  obtain ⟨rest, hr⟩ := trimRight_prefix (trimLeft cs)
  refine @isBlank_head?_trimLeft cs c ?_
  rw [← hr, List.head?_append, ← trim, h]; rfl

/-- Trimming changes nothing exactly if there is no blank at either end. -/
theorem trim_eq_self_iff {cs : List Char} :
    trim cs = cs ↔ (∀ c, cs.head? = some c → isBlank c = false) ∧
      ∀ c, cs.getLast? = some c → isBlank c = false := by
  constructor
  · intro h
    rw [← h]
    exact ⟨fun c => isBlank_head?_trim, fun c => isBlank_getLast?_trimRight⟩
  · rintro ⟨hhead, hlast⟩
    rw [trim, trimLeft_eq_self hhead, trimRight_eq_self hlast]

/-- A trimmed text has no blank at either end, so trimming it again changes nothing. -/
theorem trim_trim (cs : List Char) : trim (trim cs) = trim cs :=
  trim_eq_self_iff.2 ⟨fun _ => isBlank_head?_trim, fun _ => isBlank_getLast?_trimRight⟩

end Text
end DocExamples
