/-
# Prefixes, occurrences and splitting

Searching in texts as lists of characters: what follows a given beginning, where a text occurs
inside another one, and how a separator character cuts a text into fields.
-/

namespace DocExamples
namespace Text

/-- What follows `p` at the front of `s`. -/
def after? : (p s : List Char) → Option (List Char)
  | [], s => some s
  | _ :: _, [] => none
  | a :: p, b :: s => if a = b then after? p s else none

theorem after?_eq_some_iff {p s rest : List Char} : after? p s = some rest ↔ s = p ++ rest := by
  induction p generalizing s with
  | nil => simp [after?, eq_comm]
  | cons a p ih =>
    cases s with
    | nil => simp [after?]
    | cons b s =>
      by_cases h : a = b
      · subst h; simp [after?, ih]
      · simp [after?, h, Ne.symm h]

/-- What follows a prefix is the text without as many characters as the prefix has. -/
theorem after?_eq_drop (p s : List Char) :
    after? p s = if p.isPrefixOf s then some (s.drop p.length) else none := by
  induction p generalizing s with
  | nil => rfl
  | cons a p ih =>
    cases s with
    | nil => rfl
    | cons b s => by_cases h : a = b <;> simp [after?, h, ih]

theorem isSome_after?_iff {p s : List Char} : (after? p s).isSome = true ↔ p <+: s := by
  simp only [Option.isSome_iff_exists, after?_eq_some_iff]
  exact exists_congr fun _ => eq_comm

/-- `after?` on strings. -/
def afterText? (p s : String) : Option String := (after? p.toList s.toList).map String.ofList

/-- The position of the first occurrence of `p` in `s`. -/
def indexOf? (p : List Char) : (s : List Char) → Option Nat
  | [] => if p.isEmpty then some 0 else none
  | c :: s => if (after? p (c :: s)).isSome then some 0 else (indexOf? p s).map (· + 1)

/-- Whether `p` occurs in `s`. -/
def occursIn (p s : List Char) : Bool := (indexOf? p s).isSome

/-- The first occurrence of a text is behind what its first character is not in. -/
theorem indexOf?_append {c : Char} {before : List Char} (h : c ∉ before) (p rest : List Char) :
    indexOf? (c :: p) (before ++ (c :: p) ++ rest) = some before.length := by
  induction before with
  | nil =>
      have hafter : after? (c :: p) ((c :: p) ++ rest) = some rest := after?_eq_some_iff.2 rfl
      rw [List.nil_append, List.cons_append, indexOf?, ← List.cons_append, hafter]
      rfl
  | cons d before ih =>
      have hne : c ≠ d := fun he => h (he ▸ List.mem_cons_self)
      have hafter : after? (c :: p) (d :: before ++ (c :: p) ++ rest) = none := by
        simp [after?, hne]
      rw [List.cons_append, List.cons_append, indexOf?, ← List.cons_append, ← List.cons_append,
        hafter, ih fun hmem => h (List.mem_cons_of_mem d hmem)]
      rfl

/-- `occursIn` on strings. -/
def contains (s p : String) : Bool := occursIn p.toList s.toList

/-- The fields of a text between the separators `sep`; one more than there are separators. -/
def splitOn (sep : Char) : List Char → List (List Char)
  | [] => [[]]
  | c :: rest =>
    if c = sep then [] :: splitOn sep rest
    else
      match splitOn sep rest with
      | [] => [[c]]
      | field :: more => (c :: field) :: more

theorem splitOn_ne_nil (sep : Char) (s : List Char) : splitOn sep s ≠ [] := by
  cases s with
  | nil => simp [splitOn]
  | cons c rest =>
    simp only [splitOn]
    split
    · simp
    · split <;> simp

/-- The parts before and after the first `sep`. -/
def cut? (sep : Char) : List Char → Option (List Char × List Char)
  | [] => none
  | c :: rest =>
    if c = sep then some ([], rest)
    else (cut? sep rest).map fun (a, b) => (c :: a, b)

theorem cut?_eq_none_iff {sep : Char} {s : List Char} : cut? sep s = none ↔ sep ∉ s := by
  induction s with
  | nil => simp [cut?]
  | cons c rest ih =>
    by_cases h : c = sep
    · simp [cut?, h]
    · simp only [cut?, if_neg h, Option.map_eq_none_iff, ih, List.mem_cons, not_or]
      exact ⟨fun hn => ⟨fun e => h e.symm, hn⟩, And.right⟩

/-- The first separator cuts the text: there is none before it. -/
theorem cut?_eq_some_iff {sep : Char} {s a b : List Char} :
    cut? sep s = some (a, b) ↔ s = a ++ sep :: b ∧ sep ∉ a := by
  induction s generalizing a with
  | nil => simp [cut?]
  | cons c rest ih =>
    by_cases h : c = sep
    · cases a <;> simp_all [cut?, eq_comm]
    · cases a with
      | nil => simp [cut?, h]
      | cons d a =>
        simp only [cut?, h, if_false, Option.map_eq_some_iff, Prod.exists, Prod.mk.injEq,
          List.cons.injEq, List.cons_append, List.mem_cons]
        grind

/-- The parts before and after the last `sep`. -/
def cutLast? (sep : Char) (s : List Char) : Option (List Char × List Char) :=
  (cut? sep s.reverse).map fun (after, before) => (before.reverse, after.reverse)

/-- The last separator cuts the text: there is none after it. -/
theorem cutLast?_eq_some_iff {sep : Char} {s a b : List Char} :
    cutLast? sep s = some (a, b) ↔ s = a ++ sep :: b ∧ sep ∉ b := by
  have hc : cutLast? sep s = some (a, b) ↔ cut? sep s.reverse = some (b.reverse, a.reverse) := by
    rw [cutLast?, Option.map_eq_some_iff, Prod.exists]
    constructor
    · rintro ⟨x, y, h, e⟩
      simp only [Prod.mk.injEq] at e
      rw [h, ← e.1, ← e.2, List.reverse_reverse, List.reverse_reverse]
    · exact fun h => ⟨_, _, h, by simp⟩
  rw [hc, cut?_eq_some_iff, List.mem_reverse, ← List.reverse_inj]
  simp

/-- Every `a` replaced by the text `b`. -/
def replaceChar (a : Char) (b : List Char) (s : List Char) : List Char :=
  s.flatMap fun c => if c = a then b else [c]

end Text
end DocExamples
