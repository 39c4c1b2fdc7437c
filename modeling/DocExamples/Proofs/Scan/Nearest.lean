/-
# The nearest declaration above a line

The search goes through the declarations in their order and keeps the best one so far. What it knows
then is kept by one more declaration (`Nearest.Of.consider`), so it finds the declaration on the
greatest line above, and the first one there (`nearestPreceding_eq_some_iff`). The distance that it
starts from is one that a declaration can have, so it misses what is a whole range of lines away
(`nearestPreceding_whole_range`). If the lines of the declarations increase, it finds the last
declaration above (`Ascending.nearestPreceding_eq_some_iff`).
-/

import DocExamples.Scan.Attach
import Mathlib.Data.List.Induction
import Mathlib.Data.UInt

namespace DocExamples
namespace Scan

variable {line : UInt32} {ds : List Declaration} {d e : Declaration} {i j : ℕ} {best : Nearest}

/-- Whether the search finds a declaration if it is the only one above a line. It misses one that is
as far away as a line can be. -/
def InReach (line : UInt32) (d : Declaration) : Prop :=
  d.line < line ∧ line - d.line < 4294967295

/-- Of two declarations above a line the one with the greater line is the nearer one. -/
theorem sub_lt_sub_iff (hd : d.line < line) (he : e.line < line) :
    line - d.line < line - e.line ↔ e.line < d.line := by
  rw [UInt32.lt_iff_toNat_lt] at hd he
  rw [UInt32.lt_iff_toNat_lt, UInt32.lt_iff_toNat_lt,
    UInt32.toNat_sub_of_le _ _ (UInt32.le_iff_toNat_le.2 hd.le),
    UInt32.toNat_sub_of_le _ _ (UInt32.le_iff_toNat_le.2 he.le)]
  omega

/-- The distance that is never undercut is that from the last line to line 0. -/
theorem inReach_iff_imp_ne :
    InReach line d ↔ d.line < line ∧ (line = 4294967295 → d.line ≠ 0) := by
  refine and_congr_right fun hlt => ?_
  have hmax : (4294967295 : UInt32).toNat = 4294967295 := rfl
  have hbound := line.toNat_lt
  rw [UInt32.lt_iff_toNat_lt] at hlt ⊢
  rw [UInt32.toNat_sub_of_le _ _ (UInt32.le_iff_toNat_le.2 hlt.le), ne_eq, ← UInt32.toNat_inj,
    ← UInt32.toNat_inj, UInt32.toNat_zero]
  omega

/-- A declaration on a line from 1 on is in reach from below. -/
theorem inReach_iff (hd : 0 < d.line) : InReach line d ↔ d.line < line := by
  rw [inReach_iff_imp_ne]
  exact and_iff_left fun _ => (UInt32.ne_of_lt hd).symm

/-- What the search knows after some declarations: either it has found none, or the one that it has
found is the first one at its distance; and none is nearer. -/
structure Nearest.Of (line : UInt32) (ds : List Declaration) (best : Nearest) : Prop where
  least : ∀ d ∈ ds, d.line < line → ¬ line - d.line < best.distance
  start : best.index = none → best.distance = 4294967295
  found : ∀ i, best.index = some i → ∃ d, ds[i]? = some d ∧ InReach line d ∧
    line - d.line = best.distance
  first : ∀ i, best.index = some i → ∀ j e, j < i → ds[j]? = some e → e.line < line →
    best.distance < line - e.line

/-- A declaration that was there before is found where it was. -/
theorem getElem?_of_getElem?_concat (h : (ds ++ [d])[j]? = some e) (hj : j < ds.length) :
    ds[j]? = some e := by
  rwa [List.getElem?_append_left hj] at h

namespace Nearest.Of

variable (h : Of line ds best)
include h

/-- A declaration that is nearer than the best one becomes the best one. -/
theorem nearer (hline : d.line < line) (hnear : line - d.line < best.distance) :
    Of line (ds ++ [d]) ⟨some ds.length, line - d.line⟩ where
  least e he hlt hnearer := by
    obtain he | he := List.mem_append.1 he
    · exact h.least e he hlt (UInt32.lt_trans hnearer hnear)
    · rw [List.mem_singleton.1 he] at hnearer
      exact UInt32.lt_irrefl _ hnearer
  start := nofun
  found i hi := by
    obtain rfl := Option.some.inj hi
    have hmax : best.distance ≤ 4294967295 :=
      UInt32.le_iff_toNat_le.2 (Nat.le_of_lt_succ best.distance.toNat_lt)
    exact ⟨d, List.getElem?_concat_length, ⟨hline, UInt32.lt_of_lt_of_le hnear hmax⟩, rfl⟩
  first i hi j e hj he hlt := by
    obtain rfl := Option.some.inj hi
    have hmem : e ∈ ds := List.mem_of_getElem? (getElem?_of_getElem?_concat he hj)
    exact UInt32.lt_of_lt_of_le hnear (UInt32.not_lt.1 (h.least e hmem hlt))

/-- Any other declaration changes nothing. -/
theorem farther (hfar : ¬ (d.line < line ∧ line - d.line < best.distance)) :
    Of line (ds ++ [d]) best where
  least e he hlt hnearer := by
    obtain he | he := List.mem_append.1 he
    · exact h.least e he hlt hnearer
    · obtain rfl := List.mem_singleton.1 he
      exact hfar ⟨hlt, hnearer⟩
  start := h.start
  found i hi := by
    obtain ⟨e, he, hreach⟩ := h.found i hi
    rw [List.getElem?_append_left (List.getElem?_eq_some_iff.1 he).1]
    exact ⟨e, he, hreach⟩
  first i hi j e hj he hlt := by
    obtain ⟨_, hfound, -⟩ := h.found i hi
    have hlength : j < ds.length := hj.trans (List.getElem?_eq_some_iff.1 hfound).1
    exact h.first i hi j e hj (getElem?_of_getElem?_concat he hlength) hlt

/-- **One more declaration.** -/
theorem consider (d : Declaration) :
    Of line (ds ++ [d]) (best.consider line (d, ds.length)) := by
  unfold Nearest.consider
  split_ifs with hnear
  · exact h.nearer hnear.1 hnear.2
  · exact h.farther hnear

end Nearest.Of

/-- **All declarations.** -/
theorem Nearest.of_foldl (line : UInt32) (ds : List Declaration) :
    Of line ds (ds.zipIdx.foldl (Nearest.consider line) {}) := by
  induction ds using List.reverseRecOn with
  | nil => exact ⟨nofun, fun _ => rfl, nofun, nofun⟩
  | append_singleton ds d ih =>
      rw [List.zipIdx_append, List.foldl_append, Nat.zero_add]
      exact ih.consider d

/-- **The declaration that is found** is the first one on the greatest line above. -/
theorem nearestPreceding_eq_some_iff : nearestPreceding line ds = some i ↔
    ∃ d, ds[i]? = some d ∧ InReach line d ∧
      ∀ j e, ds[j]? = some e → e.line < line → e.line ≤ d.line ∧ (j < i → e.line < d.line) := by
  have hof := Nearest.of_foldl line ds
  constructor
  · intro h
    obtain ⟨d, hd, hreach, hdistance⟩ := hof.found i h
    refine ⟨d, hd, hreach, fun j e he hlt => ⟨?_, fun hj => ?_⟩⟩
    · refine UInt32.not_lt.1 fun hnearer => hof.least e (List.mem_of_getElem? he) hlt ?_
      rw [← hdistance]
      exact (sub_lt_sub_iff hlt hreach.1).2 hnearer
    · have hfirst := hof.first i h j e hj he hlt
      rw [← hdistance] at hfirst
      exact (sub_lt_sub_iff hreach.1 hlt).1 hfirst
  · rintro ⟨d, hd, hreach, hgreatest⟩
    cases hindex : nearestPreceding line ds with
    | none =>
        have hleast := hof.least d (List.mem_of_getElem? hd) hreach.1
        rw [hof.start hindex] at hleast
        exact absurd hreach.2 hleast
    | some k =>
        obtain ⟨d', hd', hreach', hdistance⟩ := hof.found k hindex
        obtain ⟨hle, hlt⟩ := hgreatest k d' hd' hreach'.1
        obtain hki | rfl | hik := lt_trichotomy k i
        · -- the one found would be farther away
          have hleast := hof.least d (List.mem_of_getElem? hd) hreach.1
          rw [← hdistance, sub_lt_sub_iff hreach.1 hreach'.1] at hleast
          exact absurd (hlt hki) hleast
        · rfl
        · -- the one given comes first, so the one found would be nearer
          have hfirst := hof.first k hindex i d hik hd hreach.1
          rw [← hdistance, sub_lt_sub_iff hreach'.1 hreach.1] at hfirst
          exact absurd hfirst (UInt32.not_lt.2 hle)

/-- No declaration is found exactly if none is in reach. -/
theorem nearestPreceding_eq_none_iff :
    nearestPreceding line ds = none ↔ ∀ d ∈ ds, ¬ InReach line d := by
  have hof := Nearest.of_foldl line ds
  constructor
  · intro h d hd hreach
    have hleast := hof.least d hd hreach.1
    rw [hof.start h] at hleast
    exact hleast hreach.2
  · intro h
    refine Option.eq_none_iff_forall_ne_some.2 fun i hi => ?_
    obtain ⟨d, hd, hreach, -⟩ := hof.found i hi
    exact h d (List.mem_of_getElem? hd) hreach

/-! ### The whole range of lines -/

/-- Whether a position is that of the first declaration on the greatest line above. -/
def IsNearest (line : UInt32) (ds : List Declaration) (i : ℕ) : Prop :=
  ∃ d, ds[i]? = some d ∧ d.line < line ∧
    ∀ j e, ds[j]? = some e → e.line < line → e.line ≤ d.line ∧ (j < i → e.line < d.line)

/-- Whether declarations are above a line and all of them too far away, on line 0 seen from the last
line that a number can hold. -/
structure OutOfReach (line : UInt32) (ds : List Declaration) : Prop where
  last : line = 4294967295
  above : ∃ d ∈ ds, d.line < line
  onZero : ∀ d ∈ ds, d.line < line → d.line = 0

/-- The nearest declaration is in reach unless all above are out of reach. -/
theorem IsNearest.inReach_iff (h : IsNearest line ds i) (hd : ds[i]? = some d) :
    InReach line d ↔ ¬ OutOfReach line ds := by
  obtain ⟨d', hd', hline, hgreatest⟩ := h
  obtain rfl := Option.some.inj (hd.symm.trans hd')
  have hmem : d ∈ ds := List.mem_of_getElem? hd
  rw [inReach_iff_imp_ne]
  constructor
  · exact fun hreach hout => hreach.2 hout.last (hout.onZero d hmem hline)
  · refine fun hout => ⟨hline, fun hlast hzero => hout ⟨hlast, ⟨d, hmem, hline⟩, ?_⟩⟩
    -- nothing above is on a greater line than the nearest declaration
    intro e he hlt
    obtain ⟨j, hj⟩ := List.mem_iff_getElem?.1 he
    have hle := (hgreatest j e hj hlt).1
    rw [hzero] at hle
    exact UInt32.le_zero_iff.1 hle

/-- None is in reach exactly if none is above or all above are out of reach. -/
theorem forall_not_inReach_iff :
    (∀ d ∈ ds, ¬ InReach line d) ↔ (∀ d ∈ ds, ¬ d.line < line) ∨ OutOfReach line ds := by
  constructor
  · intro h
    by_cases habove : ∃ d ∈ ds, d.line < line
    · have hfar (d) (hd : d ∈ ds) (hlt : d.line < line) : line = 4294967295 ∧ d.line = 0 := by
        have hout := h d hd
        rw [inReach_iff_imp_ne] at hout
        tauto
      obtain ⟨d, hd, hlt⟩ := habove
      exact .inr ⟨(hfar d hd hlt).1, ⟨d, hd, hlt⟩, fun e he hlt => (hfar e he hlt).2⟩
    · exact .inl fun d hd hlt => habove ⟨d, hd, hlt⟩
  · rintro (h | h) d hd hreach
    · exact h d hd hreach.1
    · exact (inReach_iff_imp_ne.1 hreach).2 h.last (h.onZero d hd hreach.1)

/-- **On any lines** the search finds the first declaration on the greatest line above, and nothing
exactly if none is above, unless all above are out of reach. -/
theorem nearestPreceding_whole_range (line : UInt32) (ds : List Declaration) :
    (nearestPreceding line ds = none ↔ (∀ d ∈ ds, ¬ d.line < line) ∨ OutOfReach line ds) ∧
      ∀ i, nearestPreceding line ds = some i ↔ IsNearest line ds i ∧ ¬ OutOfReach line ds := by
  refine ⟨nearestPreceding_eq_none_iff.trans forall_not_inReach_iff, fun i => ?_⟩
  rw [nearestPreceding_eq_some_iff]
  constructor
  · rintro ⟨d, hd, hreach, hgreatest⟩
    have hnearest : IsNearest line ds i := ⟨d, hd, hreach.1, hgreatest⟩
    exact ⟨hnearest, (hnearest.inReach_iff hd).1 hreach⟩
  · rintro ⟨hnearest, hout⟩
    have ⟨d, hd, _, hgreatest⟩ := hnearest
    exact ⟨d, hd, (hnearest.inReach_iff hd).2 hout, hgreatest⟩

/-- A declaration on line 0 is missed from the last line, though it is the nearest one above. -/
theorem nearestPreceding_line_zero_missed :
    let d : Declaration := ⟨"f", .function, ⟨"a.cpp", 0, 1⟩, none, []⟩
    nearestPreceding 4294967295 [d] = none ∧ d.line < 4294967295 ∧
      IsNearest 4294967295 [d] 0 := by
  intro d
  have hline : d.line < 4294967295 := by decide
  refine ⟨by decide, hline, d, rfl, hline, fun j e he _ => ?_⟩
  obtain rfl := List.mem_singleton.1 (List.mem_of_getElem? he)
  exact ⟨UInt32.le_refl _, fun hj => absurd hj (Nat.not_lt_zero j)⟩

/-! ### Declarations on increasing lines -/

/-- Whether declarations are on increasing lines, from line 1 on. -/
structure Ascending (ds : List Declaration) : Prop where
  increasing : ds.Pairwise fun d e => d.line < e.line
  positive : ∀ d ∈ ds, 0 < d.line

theorem Ascending.line_lt (h : Ascending ds) (hd : ds[i]? = some d) (he : ds[j]? = some e)
    (hij : i < j) : d.line < e.line := by
  obtain ⟨hi, rfl⟩ := List.getElem?_eq_some_iff.1 hd
  obtain ⟨hj, rfl⟩ := List.getElem?_eq_some_iff.1 he
  exact List.pairwise_iff_getElem.1 h.increasing i j hi hj hij

/-- **On increasing lines** the last declaration above is found. -/
theorem Ascending.nearestPreceding_eq_some_iff (h : Ascending ds) :
    nearestPreceding line ds = some i ↔ (∃ d, ds[i]? = some d ∧ d.line < line) ∧
      ∀ j d, i < j → ds[j]? = some d → ¬ d.line < line := by
  rw [Scan.nearestPreceding_eq_some_iff]
  constructor
  · rintro ⟨d, hd, hreach, hgreatest⟩
    refine ⟨⟨d, hd, hreach.1⟩, fun j e hij he hlt => ?_⟩
    exact absurd (h.line_lt hd he hij) (UInt32.not_lt.2 (hgreatest j e he hlt).1)
  · rintro ⟨⟨d, hd, hline⟩, hlast⟩
    refine ⟨d, hd, (inReach_iff (h.positive d (List.mem_of_getElem? hd))).2 hline,
      fun j e he hlt => ?_⟩
    obtain hji | rfl | hij := lt_trichotomy j i
    · have hless := h.line_lt he hd hji
      exact ⟨UInt32.le_of_lt hless, fun _ => hless⟩
    · obtain rfl := Option.some.inj (hd.symm.trans he)
      exact ⟨UInt32.le_refl _, fun hlt => absurd hlt (lt_irrefl _)⟩
    · exact absurd hlt (hlast j e hij he)

/-- On increasing lines none is found exactly if none is above. -/
theorem Ascending.nearestPreceding_eq_none_iff (h : Ascending ds) :
    nearestPreceding line ds = none ↔ ∀ d ∈ ds, ¬ d.line < line := by
  rw [Scan.nearestPreceding_eq_none_iff]
  exact forall₂_congr fun d hd => not_congr (inReach_iff (h.positive d hd))

end Scan
end DocExamples
