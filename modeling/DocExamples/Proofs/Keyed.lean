/-
# Maps and lists of entries

What is found in a map after a list of entries with distinct keys has been put in
(`getElem?_insertMany_eq_some_iff`). The entries of a map have distinct keys, so one map can be put
into another (`getElem?_insertMany_toList`), and putting them into the empty map, in any order,
gives the map again (`insertMany_of_perm`). A key that a list has more than once gets one of the
values there (`exists_mem_getElem?_insertMany`). A list of entries forgets what was put in before
under the same keys (`insertMany_insertMany`).
-/

import Mathlib.Data.List.Nodup
import Std.Data.ExtTreeMap

namespace DocExamples
namespace Keyed

variable {α β : Type} [Ord α] [Std.TransOrd α] {m : Std.ExtTreeMap α β} {l : List (α × β)}
  {k : α} {v : β}

/-- **Looking up after inserting a list.** With distinct keys in the list, a key of the list has
the value the list gives it, and any other key has the value it had. -/
theorem getElem?_insertMany_eq_some_iff [Std.LawfulEqOrd α] (hl : (l.map Prod.fst).Nodup) :
    (m.insertMany l)[k]? = some v ↔ (k, v) ∈ l ∨ k ∉ l.map Prod.fst ∧ m[k]? = some v := by
  classical
  by_cases hk : k ∈ l.map Prod.fst
  · obtain ⟨⟨k', w⟩, hw, rfl⟩ := List.mem_map.1 hk
    have hdistinct : l.Pairwise fun a b => ¬ compare a.1 b.1 = .eq :=
      (List.pairwise_map.1 hl).imp fun h => by simpa using h
    rw [Std.ExtTreeMap.getElem?_insertMany_list_of_mem (k := k') (v := w) (by simp) hdistinct hw]
    constructor
    · intro h
      exact Or.inl (Option.some.inj h ▸ hw)
    · rintro (h | ⟨h, -⟩)
      · rw [(Prod.mk.inj (List.inj_on_of_nodup_map hl hw h rfl)).2]
      · exact absurd hk h
  · have hf : (l.map Prod.fst).contains k = false := by
      simpa [List.contains_iff_mem] using hk
    rw [Std.ExtTreeMap.getElem?_insertMany_list_of_contains_eq_false hf]
    constructor
    · exact fun h => Or.inr ⟨hk, h⟩
    · rintro (h | ⟨-, h⟩)
      · exact absurd (List.mem_map_of_mem h) hk
      · exact h

/-- The entries of a map have distinct keys. -/
theorem nodup_map_fst_toList (m : Std.ExtTreeMap α β) : (m.toList.map Prod.fst).Nodup := by
  rw [Std.ExtTreeMap.map_fst_toList_eq_keys]
  exact Std.ExtTreeMap.nodup_keys

/-- **Looking up after one map is put into another.** -/
theorem getElem?_insertMany_toList [Std.LawfulEqOrd α] (m m' : Std.ExtTreeMap α β) (k : α) :
    (m.insertMany m'.toList)[k]? = (m'[k]?).or m[k]? := by
  refine Option.ext fun v => ?_
  rw [getElem?_insertMany_eq_some_iff (nodup_map_fst_toList m'),
    Std.ExtTreeMap.mem_toList_iff_getElem?_eq_some, Std.ExtTreeMap.map_fst_toList_eq_keys,
    Std.ExtTreeMap.mem_keys, Std.ExtTreeMap.mem_iff_isSome_getElem?]
  cases m'[k]? <;> simp

/-- Putting the entries of a map into the empty map, in any order, gives the map. -/
theorem insertMany_of_perm [Std.LawfulEqOrd α] (h : l.Perm m.toList) :
    ({} : Std.ExtTreeMap α β).insertMany l = m := by
  have hl : (l.map Prod.fst).Nodup := (h.map Prod.fst).nodup_iff.2 (nodup_map_fst_toList m)
  refine Std.ExtTreeMap.ext_getElem? fun k => Option.ext fun v => ?_
  rw [getElem?_insertMany_eq_some_iff hl, h.mem_iff,
    Std.ExtTreeMap.mem_toList_iff_getElem?_eq_some, Std.ExtTreeMap.getElem?_empty]
  simp

theorem insertMany_toList [Std.LawfulEqOrd α] (m : Std.ExtTreeMap α β) :
    ({} : Std.ExtTreeMap α β).insertMany m.toList = m := insertMany_of_perm .rfl

/-- A key of the list has a value that does not depend on the map. -/
theorem getElem?_insertMany_of_mem [Std.LawfulEqOrd α] (h : k ∈ l.map Prod.fst)
    (m : Std.ExtTreeMap α β) : (m.insertMany l)[k]? =
      l.findSomeRev? fun e => if compare e.1 k = .eq then some e.2 else none := by
  classical
  obtain ⟨e, he, rfl⟩ := List.mem_map.1 h
  refine Std.ExtTreeMap.getElem?_insertMany_list.trans (Option.or_of_isSome ?_)
  rw [List.findSomeRev?_eq_findSome?_reverse, List.findSome?_isSome_iff]
  exact ⟨e, List.mem_reverse.2 he, by simp⟩

/-- A key of the list has one of the values that the list gives it. -/
theorem exists_mem_getElem?_insertMany [Std.LawfulEqOrd α] (h : k ∈ l.map Prod.fst)
    (m : Std.ExtTreeMap α β) : ∃ v, (k, v) ∈ l ∧ (m.insertMany l)[k]? = some v := by
  rw [getElem?_insertMany_of_mem h, List.findSomeRev?_eq_findSome?_reverse]
  obtain ⟨e, he, rfl⟩ := List.mem_map.1 h
  cases hv : l.reverse.findSome? fun e' => if compare e'.1 e.1 = .eq then some e'.2 else none with
  | none => simpa using List.findSome?_eq_none_iff.1 hv e (List.mem_reverse.2 he)
  | some v =>
      obtain ⟨e', he', heq⟩ := List.exists_of_findSome?_eq_some hv
      split_ifs at heq with hk
      refine ⟨v, ?_, rfl⟩
      rw [← Std.LawfulEqCmp.eq_of_compare hk, ← Option.some.inj heq]
      exact List.mem_reverse.1 he'

/-- A list of entries forgets an earlier one that had no other keys. -/
theorem insertMany_insertMany [Std.LawfulEqOrd α] {l l' : List (α × β)}
    (h : ∀ k ∈ l'.map Prod.fst, k ∈ l.map Prod.fst) (m : Std.ExtTreeMap α β) :
    (m.insertMany l').insertMany l = m.insertMany l := by
  classical
  refine Std.ExtTreeMap.ext_getElem? fun k => ?_
  by_cases hk : k ∈ l.map Prod.fst
  · rw [getElem?_insertMany_of_mem hk, getElem?_insertMany_of_mem hk]
  · have hk' : k ∉ l'.map Prod.fst := fun hmem => hk (h k hmem)
    rw [Std.ExtTreeMap.getElem?_insertMany_list_of_contains_eq_false (by simpa using hk),
      Std.ExtTreeMap.getElem?_insertMany_list_of_contains_eq_false (by simpa using hk'),
      Std.ExtTreeMap.getElem?_insertMany_list_of_contains_eq_false (by simpa using hk)]

/-- Changing all values commutes with putting a list of entries in. -/
theorem map_insertMany [Std.LawfulEqOrd α] {γ : Type} (f : β → γ) (m : Std.ExtTreeMap α β)
    (l : List (α × β)) : (m.insertMany l).map (fun _ => f) =
      (m.map fun _ => f).insertMany (l.map fun e => (e.1, f e.2)) := by
  induction l generalizing m with
  | nil => rfl
  | cons e l ih =>
      have hinsert : (m.insert e.1 e.2).map (fun _ => f) =
          (m.map fun _ => f).insert e.1 (f e.2) := by
        refine Std.ExtTreeMap.ext_getElem? fun k => ?_
        rw [Std.ExtTreeMap.getElem?_map, Std.ExtTreeMap.getElem?_insert,
          Std.ExtTreeMap.getElem?_insert, Std.ExtTreeMap.getElem?_map]
        split_ifs <;> rfl
      rw [List.map_cons, Std.ExtTreeMap.insertMany_cons, Std.ExtTreeMap.insertMany_cons, ih,
        hinsert]

/-- A value that is put in only if there is none is found behind the one that was there. -/
theorem getElem?_insertIfNew [Std.LawfulEqOrd α] [DecidableEq α] (m : Std.ExtTreeMap α β)
    (k a : α) (v : β) :
    (m.insertIfNew k v)[a]? = (m[a]?).or (if k = a then some v else none) := by
  simp only [Std.ExtTreeMap.getElem?_insertIfNew, Std.ExtTreeMap.mem_iff_isSome_getElem?]
  by_cases h : k = a
  · subst h
    cases m[k]? <;> simp
  · simp [h]

/-- A value that is put in before another one under the same key is forgotten. -/
theorem insert_insertIfNew [Std.LawfulEqOrd α] (m : Std.ExtTreeMap α β) (k : α) (v w : β) :
    (m.insertIfNew k v).insert k w = m.insert k w := by
  refine Std.ExtTreeMap.ext_getElem? fun k' => ?_
  rw [Std.ExtTreeMap.getElem?_insert, Std.ExtTreeMap.getElem?_insert,
    Std.ExtTreeMap.getElem?_insertIfNew]
  by_cases h : compare k k' = .eq <;> simp [h]

end Keyed
end DocExamples
