/-
# Merging records of coverage

Merging adds up a count of 64 bits for each line, branch and function, and joins what else is known
of them by an associative operation with a neutral value (`Adds`). So merging is associative, its
failures included (`merge?_assoc`), and leaves a record that is merged with an empty one
(`merge?_empty`, `empty_merge?`).
-/

import DocExamples.Proofs.Coverage.Join
import Mathlib.Algebra.Order.Ring.Nat

namespace DocExamples
namespace FileCoverage

open Keyed

/-! ### Joins that add up counts -/

/-- Whether a join adds up the counts of two values, if the sum fits in 64 bits, and joins the rest
of them by an associative operation; the zero counts nothing, and its rest is neutral. -/
structure Adds {β ρ : Type} (zero : β) (join : β → β → Option β) (count : β → UInt64)
    (rest : β → ρ) (op : ρ → ρ → ρ) : Prop where
  eq_some_iff : ∀ a b s, join a b = some s ↔
    (count s).toNat = (count a).toNat + (count b).toNat ∧ rest s = op (rest a) (rest b)
  exists_eq : ∀ n r, ∃ v, count v = n ∧ rest v = r
  count_zero : count zero = 0
  op_assoc : ∀ r s t, op (op r s) t = op r (op s t)
  zero_op : ∀ r, op (rest zero) r = r
  op_zero : ∀ r, op r (rest zero) = r

namespace Adds

variable {β ρ : Type} {zero : β} {join : β → β → Option β} {count : β → UInt64} {rest : β → ρ}
  {op : ρ → ρ → ρ} (h : Adds zero join count rest op) {a b s : β} {vs : List β}
include h

theorem neutral : Neutral zero join where
  zero_join v := (h.eq_some_iff zero v v).2 ⟨by simp [h.count_zero], (h.zero_op _).symm⟩
  join_zero v := (h.eq_some_iff v zero v).2 ⟨by simp [h.count_zero], (h.op_zero _).symm⟩

/-- A join succeeds exactly if the sum of the counts fits in 64 bits. -/
theorem exists_iff : (∃ s, join a b = some s) ↔
    (count a).toNat + (count b).toNat < UInt64.size := by
  constructor
  · rintro ⟨s, hs⟩
    rw [← ((h.eq_some_iff a b s).1 hs).1]
    exact (count s).toNat_lt
  · intro hlt
    obtain ⟨s, hcount, hrest⟩ :=
      h.exists_eq (.ofNat ((count a).toNat + (count b).toNat)) (op (rest a) (rest b))
    refine ⟨s, (h.eq_some_iff a b s).2 ⟨?_, hrest⟩⟩
    rw [hcount, UInt64.toNat_ofNat_of_lt' hlt]

/-- Values with one count and one rest are the same. -/
theorem eq_of_count (hcount : (count s).toNat = (count a).toNat) (hrest : rest s = rest a) :
    s = a := by
  have hs : join a zero = some s :=
    (h.eq_some_iff a zero s).2 ⟨by simp [h.count_zero, hcount], by rw [hrest, h.op_zero]⟩
  exact Option.some.inj (hs.symm.trans (h.neutral.join_zero a))

/-- Joining is associative: the sums on the way fit if the sum of all three does. -/
theorem assoc (x y z : β) :
    (join x y).bind (fun w => join w z) = (join y z).bind fun w => join x w := by
  refine Option.ext fun s => ?_
  rw [Option.bind_eq_some_iff, Option.bind_eq_some_iff]
  have hfits : (count s).toNat < UInt64.size := (count s).toNat_lt
  constructor
  · rintro ⟨w, hw, hs⟩
    obtain ⟨hwcount, hwrest⟩ := (h.eq_some_iff _ _ _).1 hw
    obtain ⟨hscount, hsrest⟩ := (h.eq_some_iff _ _ _).1 hs
    obtain ⟨v, hv⟩ := (h.exists_iff (a := y) (b := z)).2 (by omega)
    obtain ⟨hvcount, hvrest⟩ := (h.eq_some_iff _ _ _).1 hv
    refine ⟨v, hv, (h.eq_some_iff _ _ _).2 ⟨by omega, ?_⟩⟩
    rw [hsrest, hwrest, hvrest, h.op_assoc]
  · rintro ⟨v, hv, hs⟩
    obtain ⟨hvcount, hvrest⟩ := (h.eq_some_iff _ _ _).1 hv
    obtain ⟨hscount, hsrest⟩ := (h.eq_some_iff _ _ _).1 hs
    obtain ⟨w, hw⟩ := (h.exists_iff (a := x) (b := y)).2 (by omega)
    obtain ⟨hwcount, hwrest⟩ := (h.eq_some_iff _ _ _).1 hw
    refine ⟨w, hw, (h.eq_some_iff _ _ _).2 ⟨by omega, ?_⟩⟩
    rw [hsrest, hwrest, hvrest, h.op_assoc]

/-- **Joining values one after the other** adds up all counts. -/
theorem foldlM_eq_some_iff : vs.foldlM join a = some s ↔
    (count s).toNat = (count a).toNat + (vs.map fun v => (count v).toNat).sum ∧
      rest s = (vs.map rest).foldl op (rest a) := by
  induction vs generalizing a with
  | nil =>
      constructor
      · intro hs
        obtain rfl := Option.some.inj hs
        exact ⟨rfl, rfl⟩
      · rintro ⟨hcount, hrest⟩
        exact congrArg some (h.eq_of_count hcount hrest).symm
  | cons v vs ih =>
      rw [List.foldlM_cons, List.map_cons, List.sum_cons, List.map_cons, List.foldl_cons]
      constructor
      · intro hs
        obtain ⟨w, hw, hs⟩ := Option.bind_eq_some_iff.1 hs
        obtain ⟨hwcount, hwrest⟩ := (h.eq_some_iff _ _ _).1 hw
        obtain ⟨hscount, hsrest⟩ := ih.1 hs
        exact ⟨by omega, by rw [hsrest, hwrest]⟩
      · rintro ⟨hcount, hrest⟩
        have hfits : (count s).toNat < UInt64.size := (count s).toNat_lt
        obtain ⟨w, hw⟩ := (h.exists_iff (a := a) (b := v)).2 (by omega)
        obtain ⟨hwcount, hwrest⟩ := (h.eq_some_iff _ _ _).1 hw
        exact Option.bind_eq_some_iff.2
          ⟨w, hw, ih.2 ⟨by omega, by rw [hrest, hwrest]⟩⟩

/-- Joining values one after the other succeeds exactly if the sum of all counts fits. -/
theorem exists_foldlM_iff : (∃ s, vs.foldlM join a = some s) ↔
    (count a).toNat + (vs.map fun v => (count v).toNat).sum < UInt64.size := by
  constructor
  · rintro ⟨s, hs⟩
    rw [← (h.foldlM_eq_some_iff.1 hs).1]
    exact (count s).toNat_lt
  · intro hlt
    obtain ⟨s, hcount, hrest⟩ := h.exists_eq
      (.ofNat ((count a).toNat + (vs.map fun v => (count v).toNat).sum))
      ((vs.map rest).foldl op (rest a))
    refine ⟨s, h.foldlM_eq_some_iff.2 ⟨?_, hrest⟩⟩
    rw [hcount, UInt64.toNat_ofNat_of_lt' hlt]

variable {α : Type} [Ord α] [Std.TransOrd α] [Std.LawfulEqOrd α] [DecidableEq α]
  {ms : List (Std.ExtTreeMap α β)} {r : Std.ExtTreeMap α β}

/-- **Joining maps one after the other** into the empty map adds up the counts of each key. -/
theorem foldlM_joinEntries? (hr : ms.foldlM (joinEntries? zero join) {} = some r) (k : α) :
    (count (r.getD k zero)).toNat = (ms.map fun m => (count (m.getD k zero)).toNat).sum ∧
      rest (r.getD k zero) = (ms.map fun m => rest (m.getD k zero)).foldl op (rest zero) ∧
      (k ∈ r ↔ ∃ m ∈ ms, k ∈ m) := by
  obtain ⟨hget, hmem⟩ := (foldlM_joinEntries?_eq_some_iff h.neutral).1 hr k
  obtain ⟨hcount, hrest⟩ := h.foldlM_eq_some_iff.1 hget
  refine ⟨?_, ?_, ?_⟩
  · simpa [h.count_zero, Function.comp_def] using hcount
  · simpa [Function.comp_def] using hrest
  · simpa using hmem

/-- Joining maps one after the other succeeds exactly if the sum of the counts of each key fits. -/
theorem exists_foldlM_joinEntries?_iff (ms : List (Std.ExtTreeMap α β)) :
    (∃ r, ms.foldlM (joinEntries? zero join) {} = some r) ↔
      ∀ k, (ms.map fun m => (count (m.getD k zero)).toNat).sum < UInt64.size := by
  rw [Keyed.exists_foldlM_joinEntries?_iff h.neutral]
  refine forall_congr' fun k => ?_
  rw [h.exists_foldlM_iff]
  simp [h.count_zero, Function.comp_def]

end Adds

/-! ### Lines, branches and functions -/

theorem addCounts?_eq_some_iff {a b s : UInt64} :
    addCounts? a b = some s ↔ s.toNat = a.toNat + b.toNat := by
  unfold addCounts?
  split_ifs with hlt
  · rw [Option.some.injEq, ← UInt64.toNat_inj, UInt64.toNat_add, Nat.mod_eq_of_lt hlt, eq_comm]
  · constructor
    · nofun
    · intro hs
      have := s.toNat_lt
      exact absurd (hs ▸ this) hlt

theorem adds_lines : Adds 0 addCounts? id (fun _ => ()) fun _ _ => () where
  eq_some_iff _ _ _ := addCounts?_eq_some_iff.trans (and_iff_left rfl).symm
  exists_eq n _ := ⟨n, rfl, rfl⟩
  count_zero := rfl
  op_assoc _ _ _ := rfl
  zero_op _ := rfl
  op_zero _ := rfl

theorem toNat_max (a b : UInt64) : (max a b).toNat = max a.toNat b.toNat := by
  have hmax : max a b = if a ≤ b then b else a := rfl
  rw [hmax]
  split_ifs with hle
  · exact (Nat.max_eq_right hle).symm
  · exact (Nat.max_eq_left (Nat.le_of_not_le hle)).symm

theorem adds_branches : Adds {} mergeBranch? (·.taken) (·.total) max where
  eq_some_iff a b s := by
    rw [mergeBranch?, Option.map_eq_some_iff]
    constructor
    · rintro ⟨taken, htaken, rfl⟩
      exact ⟨addCounts?_eq_some_iff.1 htaken, rfl⟩
    · rintro ⟨htaken, htotal⟩
      exact ⟨s.taken, addCounts?_eq_some_iff.2 htaken, by rw [← htotal]⟩
  exists_eq taken total := ⟨⟨taken, total⟩, rfl, rfl⟩
  count_zero := rfl
  op_assoc r s t := by
    rw [← UInt64.toNat_inj]
    simp only [toNat_max, Nat.max_assoc]
  zero_op r := by
    rw [← UInt64.toNat_inj, toNat_max]
    exact Nat.zero_max _
  op_zero r := by
    rw [← UInt64.toNat_inj, toNat_max]
    exact Nat.max_zero _

/-- The line of a function and whether it was executed, by two records: the first known line, and
whether either says so. -/
def joinPlaces (a b : UInt32 × Bool) : UInt32 × Bool :=
  (if a.1 = 0 then b.1 else a.1, a.2 || b.2)

theorem adds_functions :
    Adds {} mergeFunction? (·.hits) (fun f => (f.line, f.executed)) joinPlaces where
  eq_some_iff a b s := by
    rw [mergeFunction?, Option.map_eq_some_iff, Prod.mk.injEq]
    constructor
    · rintro ⟨hits, hhits, rfl⟩
      exact ⟨addCounts?_eq_some_iff.1 hhits, rfl, rfl⟩
    · rintro ⟨hhits, hline, hexecuted⟩
      refine ⟨s.hits, addCounts?_eq_some_iff.2 hhits, ?_⟩
      obtain ⟨line, executed, hits⟩ := s
      obtain rfl : line = _ := hline
      obtain rfl : executed = _ := hexecuted
      rfl
  exists_eq hits place := ⟨⟨place.1, place.2, hits⟩, rfl, rfl⟩
  count_zero := rfl
  op_assoc r s t := by
    refine Prod.ext ?_ (Bool.or_assoc ..)
    simp only [joinPlaces]
    split_ifs <;> simp_all
  zero_op r := by simp [joinPlaces]
  op_zero r := by
    refine Prod.ext ?_ (Bool.or_false _)
    simp only [joinPlaces]
    split_ifs with hr
    · exact hr.symm
    · rfl

/-! ### Records -/

variable {a b c f g : FileCoverage} {fs : List FileCoverage}

/-- **A merge joins** the lines, the branches and the functions, and keeps the path. -/
theorem merge?_eq_some_iff : a.merge? b = some c ↔ c.path = a.path ∧
    joinEntries? 0 addCounts? a.lines b.lines = some c.lines ∧
    joinEntries? {} mergeBranch? a.branches b.branches = some c.branches ∧
    joinEntries? {} mergeFunction? a.functions b.functions = some c.functions := by
  rw [merge?]
  constructor
  · intro h
    obtain ⟨lines, hlines, h⟩ := Option.bind_eq_some_iff.1 h
    obtain ⟨branches, hbranches, h⟩ := Option.bind_eq_some_iff.1 h
    obtain ⟨functions, hfunctions, h⟩ := Option.bind_eq_some_iff.1 h
    obtain rfl := Option.some.inj h
    exact ⟨rfl, hlines, hbranches, hfunctions⟩
  · rintro ⟨hpath, hlines, hbranches, hfunctions⟩
    rw [hlines, hbranches, hfunctions, ← hpath]
    rfl

/-- Records are the same if their paths, lines, branches and functions are. -/
theorem eq_of_parts (hpath : f.path = g.path) (hlines : f.lines = g.lines)
    (hbranches : f.branches = g.branches) (hfunctions : f.functions = g.functions) : f = g := by
  cases f
  cases g
  simp_all

/-- **Merging is associative**, the lines of functions and failures included. -/
theorem merge?_assoc (a b c : FileCoverage) :
    (a.merge? b).bind (fun f => f.merge? c) = (b.merge? c).bind fun f => a.merge? f := by
  have hlines := joinEntries?_assoc adds_lines.neutral adds_lines.assoc a.lines b.lines c.lines
  have hbranches :=
    joinEntries?_assoc adds_branches.neutral adds_branches.assoc a.branches b.branches c.branches
  have hfunctions := joinEntries?_assoc adds_functions.neutral adds_functions.assoc
    a.functions b.functions c.functions
  rw [Option.ext_iff] at hlines hbranches hfunctions
  simp only [Option.bind_eq_some_iff] at hlines hbranches hfunctions
  refine Option.ext fun g => ?_
  rw [Option.bind_eq_some_iff, Option.bind_eq_some_iff]
  constructor
  · rintro ⟨d, hab, hdc⟩
    obtain ⟨hpath, hl, hb, hf⟩ := merge?_eq_some_iff.1 hab
    obtain ⟨hpath', hl', hb', hf'⟩ := merge?_eq_some_iff.1 hdc
    obtain ⟨lines, hbcl, hal⟩ := (hlines _).1 ⟨_, hl, hl'⟩
    obtain ⟨branches, hbcb, hab⟩ := (hbranches _).1 ⟨_, hb, hb'⟩
    obtain ⟨functions, hbcf, haf⟩ := (hfunctions _).1 ⟨_, hf, hf'⟩
    exact ⟨⟨b.path, lines, branches, functions⟩,
      merge?_eq_some_iff.2 ⟨rfl, hbcl, hbcb, hbcf⟩,
      merge?_eq_some_iff.2 ⟨hpath'.trans hpath, hal, hab, haf⟩⟩
  · rintro ⟨d, hbc, had⟩
    obtain ⟨-, hl, hb, hf⟩ := merge?_eq_some_iff.1 hbc
    obtain ⟨hpath, hl', hb', hf'⟩ := merge?_eq_some_iff.1 had
    obtain ⟨lines, habl, hcl⟩ := (hlines _).2 ⟨_, hl, hl'⟩
    obtain ⟨branches, habb, hcb⟩ := (hbranches _).2 ⟨_, hb, hb'⟩
    obtain ⟨functions, habf, hcf⟩ := (hfunctions _).2 ⟨_, hf, hf'⟩
    exact ⟨⟨a.path, lines, branches, functions⟩,
      merge?_eq_some_iff.2 ⟨rfl, habl, habb, habf⟩,
      merge?_eq_some_iff.2 ⟨hpath, hcl, hcb, hcf⟩⟩

/-- A record that is merged with an empty one stays as it is. -/
theorem merge?_empty (f : FileCoverage) (path : String) : f.merge? { path } = some f :=
  merge?_eq_some_iff.2 ⟨rfl, joinEntries?_empty adds_lines.neutral _,
    joinEntries?_empty adds_branches.neutral _, joinEntries?_empty adds_functions.neutral _⟩

/-- A record that is merged into an empty one is taken over, apart from the path. -/
theorem empty_merge? (f : FileCoverage) (path : String) :
    ({ path } : FileCoverage).merge? f = some { f with path } :=
  merge?_eq_some_iff.2 ⟨rfl, empty_joinEntries? adds_lines.neutral _,
    empty_joinEntries? adds_branches.neutral _, empty_joinEntries? adds_functions.neutral _⟩

end FileCoverage
end DocExamples
