/-
# Lists without repetition

In a list of items with distinct keys, the first item with a key is the only one
(`find?_eq_some_iff`, `filter_key_eq`), and to leave out what has the key of an item is to leave out
that item (`filter_key_ne`). A list without its repetitions has none (`nodup_eraseDups`), and is the
list itself if that had none (`eraseDups_of_nodup`).
-/

import Mathlib.Data.List.Nodup

namespace DocExamples
namespace Keyed

variable {α κ : Type} {key : α → κ} {l before after : List α} {x : α} {k : κ}

theorem notMem_keys_of_nodup (h : ((before ++ x :: after).map key).Nodup) :
    key x ∉ (before ++ after).map key := by
  rw [List.map_append, List.map_cons, List.nodup_middle, ← List.map_append] at h
  exact (List.nodup_cons.1 h).1

variable [BEq κ] [LawfulBEq κ]

/-- **The first item with a key** is the item of the list that has it. -/
theorem find?_eq_some_iff (hl : (l.map key).Nodup) :
    l.find? (key · == k) = some x ↔ x ∈ l ∧ key x = k := by
  constructor
  · exact fun h => ⟨List.mem_of_find?_eq_some h, by simpa using List.find?_some h⟩
  · rintro ⟨hx, rfl⟩
    have hsome : (l.find? (key · == key x)).isSome := List.find?_isSome.2 ⟨x, hx, by simp⟩
    obtain ⟨y, hy⟩ := Option.isSome_iff_exists.1 hsome
    have hkey : key y = key x := by simpa using List.find?_some hy
    rw [hy, List.inj_on_of_nodup_map hl (List.mem_of_find?_eq_some hy) hx hkey]

theorem filter_key_ne (hl : ((before ++ x :: after).map key).Nodup) :
    (before ++ x :: after).filter (key · != key x) = before ++ after := by
  have hx : key x ∉ (before ++ after).map key := notMem_keys_of_nodup hl
  have hkeep : ∀ y ∈ before ++ after, (key y != key x) = true := fun y hy =>
    bne_iff_ne.2 fun h => hx (List.mem_map.2 ⟨y, hy, h⟩)
  rw [List.filter_append, List.filter_cons_of_neg (by simp), ← List.filter_append,
    List.filter_eq_self.2 hkeep]

theorem filter_key_eq (hl : (l.map key).Nodup) (hx : x ∈ l) : l.filter (key · == key x) = [x] := by
  obtain ⟨before, after, rfl⟩ := List.append_of_mem hx
  have hdrop : ∀ y ∈ before ++ after, ¬ (key y == key x) = true := fun y hy h =>
    notMem_keys_of_nodup hl (List.mem_map.2 ⟨y, hy, eq_of_beq h⟩)
  rw [List.forall_mem_append] at hdrop
  rw [List.filter_append, List.filter_cons_of_pos (by simp), List.filter_eq_nil_iff.2 hdrop.1,
    List.filter_eq_nil_iff.2 hdrop.2, List.nil_append]

/-! ### Leaving out repetitions -/

theorem nodup_eraseDups (ks : List κ) : ks.eraseDups.Nodup := by
  match ks with
  | [] => exact List.nodup_nil
  | k :: ks =>
      rw [List.eraseDups_cons, List.nodup_cons, List.mem_eraseDups]
      exact ⟨by simp, nodup_eraseDups _⟩
termination_by ks.length
decreasing_by exact Nat.lt_succ_of_le (List.length_filter_le _ ks)

/-- Items without repetition stay as they are. -/
theorem eraseDups_of_nodup {ks : List κ} (h : ks.Nodup) : ks.eraseDups = ks := by
  induction ks with
  | nil => rfl
  | cons k ks ih =>
      obtain ⟨hk, hks⟩ := List.nodup_cons.1 h
      have hkeep : (ks.filter fun k' => !k' == k) = ks := by
        refine List.filter_eq_self.2 fun k' hk' => ?_
        simpa using fun heq : k' = k => hk (heq ▸ hk')
      rw [List.eraseDups_cons, hkeep, ih hks]

end Keyed
end DocExamples
