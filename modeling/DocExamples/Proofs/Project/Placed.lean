/-
# Putting named items into a list

A list of items with distinct names is a map from names to items that keeps an order besides. To put
an item into it is to replace the item of its name where that stands, or else to append it
(`Placed`). The names stay distinct, the name leads to the new item from then on, and every other
name leads where it led before (`Placed.find?_eq`).
-/

import DocExamples.Project.Basic
import DocExamples.Proofs.KeyedList

namespace DocExamples
namespace Project

variable {α : Type} {name : α → String} {x y : α} {l l' before after : List α} {n : String}

/-- The list `l'` is `l` with `x` in the place of the item of its name, or else at the end. -/
inductive Placed (name : α → String) (x : α) : List α → List α → Prop where
  | replaced (before : List α) (y : α) (after : List α) (h : name y = name x) :
      Placed name x (before ++ y :: after) (before ++ x :: after)
  | appended (l : List α) (h : name x ∉ l.map name) : Placed name x l (l ++ [x])

namespace Placed

theorem cons (h : Placed name x l l') (hy : name y ≠ name x) :
    Placed name x (y :: l) (y :: l') := by
  cases h with
  | replaced before z after hz => exact replaced (y :: before) z after hz
  | appended l hx => exact appended (y :: l) (by simpa [hy.symm] using hx)

theorem mem (h : Placed name x l l') : x ∈ l' := by
  cases h <;> simp

/-- Besides the item only what was there is in the list. -/
theorem mem_of_mem (h : Placed name x l l') (hy : y ∈ l') : y = x ∨ y ∈ l := by
  cases h with
  | replaced before z after hz =>
      rw [List.mem_append, List.mem_cons] at hy ⊢
      tauto
  | appended l hx => simpa [or_comm] using hy

/-- Names that were distinct stay distinct. -/
theorem nodup (h : Placed name x l l') (hl : (l.map name).Nodup) : (l'.map name).Nodup := by
  cases h with
  | replaced before y after hy =>
      rw [List.map_append, List.map_cons, hy] at hl
      rwa [List.map_append, List.map_cons]
  | appended l hx =>
      rw [List.map_append, List.map_singleton, ← List.concat_eq_append]
      exact hl.concat hx

/-- Putting in what is there changes nothing. -/
theorem eq_of_mem (h : Placed name x l l') (hl : (l.map name).Nodup) (hx : x ∈ l) : l' = l := by
  cases h with
  | replaced before y after hy =>
      have hmem : y ∈ before ++ y :: after := List.mem_append_right _ List.mem_cons_self
      rw [List.inj_on_of_nodup_map hl hmem hx hy]
  | appended l hnot => exact absurd (List.mem_map_of_mem hx) hnot

/-- **Looking up** after an item has been put in. -/
theorem find?_eq (h : Placed name x l l') (hl : (l.map name).Nodup) (n : String) :
    l'.find? (name · == n) = if n = name x then some x else l.find? (name · == n) := by
  by_cases hn : n = name x
  · rw [if_pos hn]
    exact (Keyed.find?_eq_some_iff (h.nodup hl)).2 ⟨h.mem, hn.symm⟩
  · rw [if_neg hn]
    have hx : ¬ (name x == n) = true := fun hx => hn (eq_of_beq hx).symm
    cases h with
    | replaced before y after hy =>
        rw [List.find?_append, List.find?_append, List.find?_cons_of_neg hx (a := x),
          List.find?_cons_of_neg (by rwa [hy]) (a := y)]
    | appended l _ =>
        rw [List.find?_append, List.find?_cons_of_neg hx (a := x), List.find?_nil, Option.or_none]

/-- The item is the only one of its name. -/
theorem filter_eq (h : Placed name x l l') (hl : (l.map name).Nodup) :
    l'.filter (name · == name x) = [x] := Keyed.filter_key_eq (h.nodup hl) h.mem

end Placed

/-! ### The functions on lists -/

/-- **Putting an item in the first place of its name** puts it into the list. -/
theorem placed_putFirst (hx : name x = n) (l : List α) :
    Placed name x l (putFirst (name · == n) x l) := by
  subst hx
  induction l with
  | nil => exact .appended [] List.not_mem_nil
  | cons y l ih =>
      rw [putFirst]
      split_ifs with hy
      · exact .replaced [] y l (eq_of_beq hy)
      · exact ih.cons fun h => hy (beq_iff_eq.2 h)

theorem modifyFirst_of_find?_eq_none {f : α → α} (h : l.find? (name · == n) = none) :
    modifyFirst (name · == n) f l = l := by
  induction l with
  | nil => rfl
  | cons y l ih =>
      obtain ⟨hy, hl⟩ := List.forall_mem_cons.1 (List.find?_eq_none.1 h)
      rw [modifyFirst, if_neg hy, ih (List.find?_eq_none.2 hl)]

/-- **Changing the first item of a name** puts the changed item into the list. -/
theorem placed_modifyFirst {f : α → α} (hf : ∀ y, name (f y) = name y)
    (h : l.find? (name · == n) = some x) : Placed name (f x) l (modifyFirst (name · == n) f l) := by
  induction l with
  | nil => cases h
  | cons y l ih =>
      rw [modifyFirst]
      split_ifs with hy
      · rw [List.find?_cons_of_pos hy (a := y), Option.some.injEq] at h
        exact h ▸ .replaced [] y l (hf y).symm
      · rw [List.find?_cons_of_neg hy (a := y)] at h
        have hx : name x = n := by simpa using List.find?_some h
        exact (ih h).cons fun heq => hy (beq_iff_eq.2 (heq.trans ((hf x).trans hx)))

end Project
end DocExamples
