/-
# Joining entries into a map

Entries are joined into a map one after the other, and a key that the map lacks counts as a zero.
What a key holds in the end is what joining its own entries in their order gives, and nothing else
can make the whole fail (`joinAll?_eq_some_iff`, `exists_joinAll?_iff`). If the zero is neutral,
maps are joined key by key, those that lack the key included (`joinEntries?_eq_some_iff`), and
joining maps is associative if joining values is (`joinEntries?_assoc`).
-/

import DocExamples.Coverage.Record
import DocExamples.Proofs.Keyed

namespace DocExamples
namespace Keyed

/-! ### The values under a key -/

section ValuesAt

variable {α β : Type} [DecidableEq α] {l l' : List (α × β)} {e : α × β} {k : α}

/-- The values that a list has under a key, in their order. -/
def valuesAt (l : List (α × β)) (k : α) : List β :=
  l.filterMap fun e => if e.1 = k then some e.2 else none

theorem valuesAt_cons_self (l : List (α × β)) (k : α) (v : β) :
    valuesAt ((k, v) :: l) k = v :: valuesAt l k := by
  simp [valuesAt]

theorem valuesAt_cons_of_ne (h : e.1 ≠ k) (l : List (α × β)) :
    valuesAt (e :: l) k = valuesAt l k := by
  simp [valuesAt, h]

theorem valuesAt_append (l l' : List (α × β)) (k : α) :
    valuesAt (l ++ l') k = valuesAt l k ++ valuesAt l' k := List.filterMap_append

theorem valuesAt_eq_nil_iff : valuesAt l k = [] ↔ k ∉ l.map Prod.fst := by
  rw [valuesAt, List.filterMap_eq_nil_iff, List.mem_map]
  constructor
  · rintro h ⟨e, he, rfl⟩
    simpa using h e he
  · intro h e he
    exact if_neg fun hk => h ⟨e, he, hk⟩

/-- Permuted entries have the same values under a key, permuted. -/
theorem valuesAt_perm (h : l.Perm l') (k : α) : (valuesAt l k).Perm (valuesAt l' k) :=
  h.filterMap _

end ValuesAt

variable {α β : Type} [Ord α] [Std.TransOrd α] {zero : α → β} {join : β → β → Option β}
  {m r : Std.ExtTreeMap α β} {l : List (α × β)} {e : α × β} {k : α}

/-! ### Joining any entries -/

/-- Joins entries into a map one after the other. -/
def joinAll? (zero : α → β) (join : β → β → Option β) (m : Std.ExtTreeMap α β)
    (l : List (α × β)) : Option (Std.ExtTreeMap α β) :=
  l.foldlM (fun m e => (join (m.getD e.1 (zero e.1)) e.2).map fun w => m.insert e.1 w) m

theorem joinAll?_cons_eq_some_iff : joinAll? zero join m (e :: l) = some r ↔
    ∃ w, join (m.getD e.1 (zero e.1)) e.2 = some w ∧
      joinAll? zero join (m.insert e.1 w) l = some r := by
  rw [joinAll?, List.foldlM_cons]
  constructor
  · intro h
    obtain ⟨m', hm', h⟩ := Option.bind_eq_some_iff.1 h
    obtain ⟨w, hw, rfl⟩ := Option.map_eq_some_iff.1 hm'
    exact ⟨w, hw, h⟩
  · rintro ⟨w, hw, h⟩
    exact Option.bind_eq_some_iff.2 ⟨m.insert e.1 w, Option.map_eq_some_iff.2 ⟨w, hw, rfl⟩, h⟩

variable [Std.LawfulEqOrd α]

/-- A map is known by what it holds and by its keys. -/
theorem eq_of_getD (zero : α → β)
    (h : ∀ k, m.getD k (zero k) = r.getD k (zero k) ∧ (k ∈ m ↔ k ∈ r)) : m = r := by
  refine Std.ExtTreeMap.ext_getElem? fun k => ?_
  obtain ⟨hget, hmem⟩ := h k
  rw [Std.ExtTreeMap.mem_iff_isSome_getElem?, Std.ExtTreeMap.mem_iff_isSome_getElem?] at hmem
  rw [Std.ExtTreeMap.getD_eq_getD_getElem?, Std.ExtTreeMap.getD_eq_getD_getElem?] at hget
  cases hm : m[k]? with
  | none =>
      cases hr : r[k]? with
      | none => rfl
      | some w => simp [hm, hr] at hmem
  | some v =>
      cases hr : r[k]? with
      | none => simp [hm, hr] at hmem
      | some w => simpa [hm, hr] using hget

variable [DecidableEq α]

/-- A map has at most one value under a key. -/
theorem valuesAt_toList (m : Std.ExtTreeMap α β) (k : α) :
    valuesAt m.toList k = (m[k]?).toList := by
  cases hk : m[k]? with
  | none =>
      refine valuesAt_eq_nil_iff.2 fun hmem => ?_
      rw [Std.ExtTreeMap.map_fst_toList_eq_keys, Std.ExtTreeMap.mem_keys,
        Std.ExtTreeMap.mem_iff_isSome_getElem?, hk] at hmem
      cases hmem
  | some v =>
      obtain ⟨before, after, hl⟩ :=
        List.append_of_mem (Std.ExtTreeMap.mem_toList_iff_getElem?_eq_some.2 hk)
      -- the keys are distinct, so the entries before and after have other ones
      have hnodup := nodup_map_fst_toList m
      rw [hl, List.map_append, List.map_cons, List.nodup_middle, List.nodup_cons,
        ← List.map_append] at hnodup
      have hothers := valuesAt_eq_nil_iff.2 hnodup.1
      rw [valuesAt_append, List.append_eq_nil_iff] at hothers
      rw [hl, valuesAt_append, valuesAt_cons_self, hothers.1, hothers.2]
      rfl

theorem getD_insert_self_or_of_ne (m : Std.ExtTreeMap α β) (k₀ k : α) (w z : β) :
    (m.insert k₀ w).getD k z = if k₀ = k then w else m.getD k z := by
  rw [Std.ExtTreeMap.getD_insert]
  simp only [Std.LawfulEqCmp.compare_eq_iff_eq]

/-- The first entry is joined under its own key and leaves the others as they are. -/
theorem foldlM_valuesAt_cons {v w : β} (hw : join (m.getD k (zero k)) v = some w) (k' : α) :
    (valuesAt ((k, v) :: l) k').foldlM join (m.getD k' (zero k')) =
      (valuesAt l k').foldlM join ((m.insert k w).getD k' (zero k')) := by
  rw [getD_insert_self_or_of_ne]
  by_cases hk : k = k'
  · subst hk
    rw [valuesAt_cons_self, List.foldlM_cons, hw, if_pos rfl]
    rfl
  · rw [valuesAt_cons_of_ne hk, if_neg hk]

/-- **What a key holds** after some entries have been joined in is what joining its own entries
gives, and the keys are those of the map and of the entries. -/
theorem joinAll?_eq_some_iff : joinAll? zero join m l = some r ↔
    ∀ k, (valuesAt l k).foldlM join (m.getD k (zero k)) = some (r.getD k (zero k)) ∧
      (k ∈ r ↔ k ∈ m ∨ k ∈ l.map Prod.fst) := by
  induction l generalizing m with
  | nil =>
      constructor
      · intro h
        obtain rfl := Option.some.inj h
        exact fun k => ⟨rfl, by simp⟩
      · intro h
        refine congrArg some (eq_of_getD zero fun k => ?_)
        obtain ⟨hget, hmem⟩ := h k
        exact ⟨Option.some.inj hget, by simpa using hmem.symm⟩
  | cons e l ih =>
      obtain ⟨k₀, v⟩ := e
      have hmem : ∀ w k, (k ∈ m.insert k₀ w ∨ k ∈ l.map Prod.fst) ↔
          (k ∈ m ∨ k ∈ ((k₀, v) :: l).map Prod.fst) := by
        intro w k
        rw [Std.ExtTreeMap.mem_insert, Std.LawfulEqCmp.compare_eq_iff_eq, List.map_cons,
          List.mem_cons]
        tauto
      rw [joinAll?_cons_eq_some_iff]
      constructor
      · rintro ⟨w, hw, h⟩ k
        rw [foldlM_valuesAt_cons hw, ← hmem w]
        exact ih.1 h k
      · intro h
        obtain ⟨hfirst, -⟩ := h k₀
        rw [valuesAt_cons_self, List.foldlM_cons] at hfirst
        obtain ⟨w, hw, -⟩ := Option.bind_eq_some_iff.1 hfirst
        refine ⟨w, hw, ih.2 fun k => ?_⟩
        rw [← foldlM_valuesAt_cons hw, hmem w]
        exact h k

/-- **Joining entries succeeds** if joining the entries of each key does. -/
theorem exists_joinAll?_iff : (∃ r, joinAll? zero join m l = some r) ↔
    ∀ k, ∃ v, (valuesAt l k).foldlM join (m.getD k (zero k)) = some v := by
  constructor
  · rintro ⟨r, hr⟩ k
    exact ⟨_, (joinAll?_eq_some_iff.1 hr k).1⟩
  · induction l generalizing m with
    | nil => exact fun _ => ⟨m, rfl⟩
    | cons e l ih =>
        obtain ⟨k₀, v⟩ := e
        intro h
        obtain ⟨u, hu⟩ := h k₀
        rw [valuesAt_cons_self, List.foldlM_cons] at hu
        obtain ⟨w, hw, -⟩ := Option.bind_eq_some_iff.1 hu
        obtain ⟨r, hr⟩ := ih fun k => by
          rw [← foldlM_valuesAt_cons hw]
          exact h k
        exact ⟨r, joinAll?_cons_eq_some_iff.2 ⟨w, hw, hr⟩⟩

/-! ### Joining maps -/

open FileCoverage

/-- Whether a value is neutral on both sides of a join. -/
structure Neutral (zero : β) (join : β → β → Option β) : Prop where
  zero_join : ∀ v, join zero v = some v
  join_zero : ∀ v, join v zero = some v

variable {zero : β} {a b c : Std.ExtTreeMap α β}

theorem foldlM_valuesAt_toList (hz : Neutral zero join) (b : Std.ExtTreeMap α β) (k : α) (v : β) :
    (valuesAt b.toList k).foldlM join v = join v (b.getD k zero) := by
  rw [valuesAt_toList, Std.ExtTreeMap.getD_eq_getD_getElem?]
  cases b[k]? with
  | none => exact (hz.join_zero v).symm
  | some w =>
      rw [Option.toList_some, List.foldlM_cons, Option.getD_some]
      cases join v w <;> rfl

/-- **Maps are joined key by key.** -/
theorem joinEntries?_eq_some_iff (hz : Neutral zero join) : joinEntries? zero join a b = some c ↔
    ∀ k, join (a.getD k zero) (b.getD k zero) = some (c.getD k zero) ∧
      (k ∈ c ↔ k ∈ a ∨ k ∈ b) := by
  have hall : joinEntries? zero join a b = joinAll? (fun _ => zero) join a b.toList := rfl
  rw [hall, joinAll?_eq_some_iff]
  simp only [foldlM_valuesAt_toList hz, Std.ExtTreeMap.map_fst_toList_eq_keys,
    Std.ExtTreeMap.mem_keys]

/-- A map that is joined with an empty one stays as it is. -/
theorem joinEntries?_empty (hz : Neutral zero join) (a : Std.ExtTreeMap α β) :
    joinEntries? zero join a {} = some a :=
  (joinEntries?_eq_some_iff hz).2 fun _ => ⟨by simp [hz.join_zero], by simp⟩

theorem empty_joinEntries? (hz : Neutral zero join) (a : Std.ExtTreeMap α β) :
    joinEntries? zero join {} a = some a :=
  (joinEntries?_eq_some_iff hz).2 fun _ => ⟨by simp [hz.zero_join], by simp⟩

/-- Joining maps succeeds if it does for each key. -/
theorem exists_joinEntries?_iff (hz : Neutral zero join) :
    (∃ c, joinEntries? zero join a b = some c) ↔
      ∀ k, ∃ v, join (a.getD k zero) (b.getD k zero) = some v := by
  have hall : joinEntries? zero join a b = joinAll? (fun _ => zero) join a b.toList := rfl
  rw [hall, exists_joinAll?_iff]
  simp only [foldlM_valuesAt_toList hz]

/-- **What is done key by key after a join** may be done to each joined value. -/
theorem bind_joinEntries?_eq_some_iff (hz : Neutral zero join)
    {F : Std.ExtTreeMap α β → Option (Std.ExtTreeMap α β)} {f : α → β → Option β} {p : α → Prop}
    (hF : ∀ m r, F m = some r ↔
      ∀ k, f k (m.getD k zero) = some (r.getD k zero) ∧ (k ∈ r ↔ k ∈ m ∨ p k)) :
    (joinEntries? zero join a b).bind F = some r ↔
      ∀ k, (join (a.getD k zero) (b.getD k zero)).bind (f k) = some (r.getD k zero) ∧
        (k ∈ r ↔ (k ∈ a ∨ k ∈ b) ∨ p k) := by
  constructor
  · intro h k
    obtain ⟨m, hm, hr⟩ := Option.bind_eq_some_iff.1 h
    obtain ⟨hjoin, hmem⟩ := (joinEntries?_eq_some_iff hz).1 hm k
    rw [hjoin, ← hmem]
    exact (hF m r).1 hr k
  · intro h
    obtain ⟨m, hm⟩ := (exists_joinEntries?_iff (a := a) (b := b) hz).2 fun k => by
      obtain ⟨v, hv, -⟩ := Option.bind_eq_some_iff.1 (h k).1
      exact ⟨v, hv⟩
    refine Option.bind_eq_some_iff.2 ⟨m, hm, (hF m r).2 fun k => ?_⟩
    obtain ⟨hjoin, hmem⟩ := (joinEntries?_eq_some_iff hz).1 hm k
    obtain ⟨hget, hkeys⟩ := h k
    rw [hjoin] at hget
    rw [hmem]
    exact ⟨hget, hkeys⟩

/-- **Joining maps is associative** if joining values is, failures included. -/
theorem joinEntries?_assoc (hz : Neutral zero join)
    (hassoc : ∀ x y z, (join x y).bind (fun w => join w z) = (join y z).bind fun w => join x w)
    (a b c : Std.ExtTreeMap α β) :
    (joinEntries? zero join a b).bind (fun m => joinEntries? zero join m c) =
      (joinEntries? zero join b c).bind fun m => joinEntries? zero join a m := by
  refine Option.ext fun r => ?_
  have hlast : ∀ m r, joinEntries? zero join m c = some r ↔
      ∀ k, join (m.getD k zero) (c.getD k zero) = some (r.getD k zero) ∧
        (k ∈ r ↔ k ∈ m ∨ k ∈ c) := fun m r => joinEntries?_eq_some_iff hz
  have hfirst : ∀ m r, joinEntries? zero join a m = some r ↔
      ∀ k, join (a.getD k zero) (m.getD k zero) = some (r.getD k zero) ∧
        (k ∈ r ↔ k ∈ m ∨ k ∈ a) := fun m r => by
    rw [joinEntries?_eq_some_iff hz]
    simp only [or_comm]
  rw [bind_joinEntries?_eq_some_iff hz (f := fun k v => join v (c.getD k zero)) hlast,
    bind_joinEntries?_eq_some_iff hz (f := fun k => join (a.getD k zero)) hfirst]
  refine forall_congr' fun k => ?_
  rw [hassoc, or_comm (b := k ∈ a), or_assoc]

/-- **Joining maps one after the other** joins the values of each key one after the other. -/
theorem foldlM_joinEntries?_eq_some_iff (hz : Neutral zero join)
    {ms : List (Std.ExtTreeMap α β)} : ms.foldlM (joinEntries? zero join) m = some r ↔
      ∀ k, (ms.map (·.getD k zero)).foldlM join (m.getD k zero) = some (r.getD k zero) ∧
        (k ∈ r ↔ k ∈ m ∨ ∃ m' ∈ ms, k ∈ m') := by
  induction ms generalizing m r with
  | nil =>
      constructor
      · intro h
        obtain rfl := Option.some.inj h
        exact fun k => ⟨rfl, by simp⟩
      · intro h
        refine congrArg some (eq_of_getD (fun _ => zero) fun k => ?_)
        obtain ⟨hget, hmem⟩ := h k
        exact ⟨Option.some.inj hget, by simpa using hmem.symm⟩
  | cons m' ms ih =>
      rw [List.foldlM_cons]
      refine (bind_joinEntries?_eq_some_iff hz
        (f := fun k v => (ms.map (·.getD k zero)).foldlM join v)
        (p := fun k => ∃ m' ∈ ms, k ∈ m') fun m r => ih).trans ?_
      simp only [List.exists_mem_cons_iff, or_assoc]
      rfl

/-- Joining maps one after the other succeeds if it does for each key. -/
theorem exists_foldlM_joinEntries?_iff (hz : Neutral zero join)
    {ms : List (Std.ExtTreeMap α β)} : (∃ r, ms.foldlM (joinEntries? zero join) m = some r) ↔
      ∀ k, ∃ v, (ms.map (·.getD k zero)).foldlM join (m.getD k zero) = some v := by
  constructor
  · rintro ⟨r, hr⟩ k
    exact ⟨_, ((foldlM_joinEntries?_eq_some_iff hz).1 hr k).1⟩
  · induction ms generalizing m with
    | nil => exact fun _ => ⟨m, rfl⟩
    | cons m' ms ih =>
        intro h
        obtain ⟨u, hu⟩ := (exists_joinEntries?_iff (a := m) (b := m') hz).2 fun k => by
          obtain ⟨v, hv⟩ := h k
          obtain ⟨w, hw, -⟩ := Option.bind_eq_some_iff.1 hv
          exact ⟨w, hw⟩
        obtain ⟨r, hr⟩ := ih (m := u) fun k => by
          obtain ⟨v, hv⟩ := h k
          have hjoin := ((joinEntries?_eq_some_iff hz).1 hu k).1
          rw [List.map_cons, List.foldlM_cons, hjoin] at hv
          exact ⟨v, hv⟩
        exact ⟨r, Option.bind_eq_some_iff.2 ⟨u, hu, hr⟩⟩

end Keyed
end DocExamples
