/-
# Valid configurations

A configuration has no fault exactly if every test has some time, the patterns of excluded paths can
be read and the thresholds are percentages (`fault?_eq_none_iff`). The patterns are all that a
session needs of it (`Session.exists_ofConfig_iff`). A percentage is a number, since what is not a
number compares with nothing.
-/

import DocExamples.Session.Basic

namespace DocExamples

/-! ### Patterns -/

namespace Session

variable {patterns : List String}

/-- Texts are read as patterns if each of them is one. -/
theorem exists_readPatterns_iff :
    (∃ l, readPatterns patterns = .ok l) ↔
      ∀ p ∈ patterns, ∃ pattern, Pattern.read p = .ok pattern := by
  induction patterns with
  | nil => simp [readPatterns]
  | cons p rest ih =>
      rw [List.forall_mem_cons, ← ih, readPatterns]
      cases Pattern.read p with
      | error e => simp
      | ok pattern => cases readPatterns rest <;> simp [Except.map]

/-- A configuration makes a session if its patterns of excluded paths can be read. -/
theorem exists_ofConfig_iff (c : Config) (provider : Provider) :
    (∃ s, ofConfig c provider = .ok s) ↔
      ∀ p ∈ c.source.excludePatterns, ∃ pattern, Pattern.read p = .ok pattern := by
  rw [← exists_readPatterns_iff, ofConfig]
  cases readPatterns c.source.excludePatterns <;> simp [Except.map]

end Session

/-! ### Thresholds -/

theorem Metric.mem_all (m : Metric) : m ∈ all := by
  cases m <;> decide

theorem Thresholds.mem_configured {t : Thresholds} {m : Metric} {x : Float} :
    (m, x) ∈ t.configured ↔ t.get? m = some x := by
  rw [configured, List.mem_filterMap]
  constructor
  · rintro ⟨m', -, h⟩
    obtain ⟨x', hx, heq⟩ := Option.map_eq_some_iff.1 h
    obtain ⟨rfl, rfl⟩ := Prod.mk.inj heq
    exact hx
  · exact fun h => ⟨m, m.mem_all, by rw [h, Option.map_some]⟩

namespace Config

/-- What something is at most is a number. -/
theorem isNaN_eq_false_of_le {x y : Float} (h : x ≤ y) : y.isNaN = false := by
  have hle : x.toModel.unpack.le y.toModel.unpack = true := of_decide_eq_true h
  rw [Float.isNaN, Float.Model.isNaN]
  cases hy : y.toModel.unpack with
  | notANumber =>
      have hnone : x.toModel.unpack.compare .notANumber = none := by
        cases x.toModel.unpack <;> rfl
      rw [hy, Float.Model.UnpackedFloat.le, hnone] at hle
      exact absurd hle Bool.false_ne_true
  | zero | finite | infinity => rfl

theorem isPercentage_iff (x : Float) : isPercentage x = true ↔ 0.0 ≤ x ∧ x ≤ 100.0 := by
  simp [isPercentage]

/-! ### Configurations -/

/-- What is required of a configuration. -/
structure Valid (c : Config) : Prop where
  time : 0 < c.run.timeoutMillis
  patterns : ∀ p ∈ c.source.excludePatterns, ∃ pattern, Pattern.read p = .ok pattern
  thresholds : ∀ m x, c.coverage.thresholds.get? m = some x → 0.0 ≤ x ∧ x ≤ 100.0

/-- **A configuration has no fault** exactly if it is valid. -/
theorem fault?_eq_none_iff (c : Config) : c.fault? = none ↔ c.Valid := by
  have hthresholds : (c.coverage.thresholds.configured.find? fun e => !isPercentage e.2) = none ↔
      ∀ m x, c.coverage.thresholds.get? m = some x → 0.0 ≤ x ∧ x ≤ 100.0 := by
    simp only [List.find?_eq_none, Prod.forall, Thresholds.mem_configured, ← isPercentage_iff,
      Bool.not_eq_true', Bool.not_eq_false]
  by_cases htime : c.run.timeoutMillis = 0
  · have hinvalid : ¬ c.Valid := fun h => absurd htime (Nat.ne_of_gt h.time)
    simp [fault?, htime, hinvalid]
  · rw [fault?, if_neg htime, Option.or_eq_none_iff, List.findSome?_eq_none_iff,
      Option.map_eq_none_iff, hthresholds]
    constructor
    · rintro ⟨hpatterns, hpercentages⟩
      refine ⟨Nat.pos_of_ne_zero htime, fun p hp => ?_, hpercentages⟩
      have hnone := hpatterns p hp
      split at hnone
      · next pattern hread => exact ⟨pattern, hread⟩
      · cases hnone
    · refine fun hvalid => ⟨fun p hp => ?_, hvalid.thresholds⟩
      obtain ⟨pattern, hread⟩ := hvalid.patterns p hp
      rw [hread]

/-- What a configuration is settled to is what the environment makes of it, and it is valid. -/
theorem settle_eq_ok_iff {env : Environment} {c c' : Config} :
    c.settle env = .ok c' ↔ c' = c.override env ∧ c'.Valid := by
  rw [settle]
  cases h : (c.override env).fault? with
  | none =>
      have hvalid : (c.override env).Valid := (fault?_eq_none_iff _).1 h
      constructor
      · rintro ⟨⟩
        exact ⟨rfl, hvalid⟩
      · rintro ⟨rfl, -⟩
        rfl
  | some e =>
      constructor
      · rintro ⟨⟩
      · rintro ⟨rfl, hvalid⟩
        rw [(fault?_eq_none_iff _).2 hvalid] at h
        cases h

end Config
end DocExamples
