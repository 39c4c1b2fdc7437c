/-
# Whole numbers in decimal

A whole number is written with digits only and at least one. Reading the digits gives the number
back (`nat?_toString`), also where a limit is set that the number stays below and blanks are cut off
first (`bounded?_toString`, `trim_toString`). So different numbers are written differently.
-/

import DocExamples.Decimal.Read
import DocExamples.Text.Blank
import Mathlib.Data.Nat.Notation

namespace DocExamples

/-- No digit is blank. -/
theorem Text.isBlank_of_isDigit {c : Char} (h : c.isDigit = true) : isBlank c = false := by
  obtain ⟨h₁, h₂⟩ := Char.isDigit_iff_toNat.1 h
  have hlow : 48 ≤ c.toNat := h₁
  have hhigh : c.toNat ≤ 57 := h₂
  simp [isBlank]
  omega

namespace Decimal

variable {n : ℕ} {c : Char}

theorem isDigit_of_mem_toString (h : c ∈ (toString n).toList) : c.isDigit = true := by
  rw [Nat.toString_eq_repr, Nat.toList_repr] at h
  exact Nat.isDigit_of_mem_toDigits (by decide) (by decide) h

theorem not_mem_toString (h : c.isDigit = false) (n : ℕ) : c ∉ (toString n).toList := by
  intro hc
  rw [isDigit_of_mem_toString hc] at h
  cases h

theorem toList_toString_ne_nil (n : ℕ) : (toString n).toList ≠ [] := by
  rw [Nat.toString_eq_repr, Nat.toList_repr]
  exact Nat.toDigits_ne_nil

theorem ofDigits_toString (n : ℕ) : ofDigits (toString n).toList = n := by
  have hstep : (fun (n : ℕ) (d : Char) => n * 10 + (d.toNat - 48)) =
      fun n d => 10 * n + (d.toNat - '0'.toNat) := by
    funext n d
    rw [Nat.mul_comm]
    rfl
  rw [Nat.toString_eq_repr, Nat.toList_repr, ofDigits, hstep, ← Nat.ofDigitChars_eq_foldl]
  exact Nat.ofDigitChars_ten_toDigits

/-- **The digits of a number are read back as the number.** -/
theorem nat?_toString (n : ℕ) : nat? (toString n).toList = some n := by
  have hall : (toString n).toList.all Char.isDigit = true :=
    List.all_eq_true.2 fun _ => isDigit_of_mem_toString
  simp only [nat?, hall, List.isEmpty_eq_false_iff.2 (toList_toString_ne_nil n), ofDigits_toString]
  rfl

/-- Different numbers are written differently. -/
theorem toString_inj {m n : ℕ} : toString m = toString n ↔ m = n := by
  refine ⟨fun h => Option.some.inj ?_, congrArg _⟩
  rw [← nat?_toString m, ← nat?_toString n, h]

/-- The digits of a number below the limit are read back as the number. -/
theorem bounded?_toString {limit : ℕ} (h : n < limit) :
    bounded? limit (toString n).toList = some n := by
  have hplus : '+' ∉ (toString n).toList := not_mem_toString (by decide) n
  unfold bounded?
  split
  · next heq => exact absurd (heq ▸ List.mem_cons_self) hplus
  · rw [nat?_toString]
    exact if_pos h

/-- There is nothing to trim around a number. -/
theorem trim_toString (n : ℕ) : Text.trim (toString n).toList = (toString n).toList := by
  have hblank : ∀ c ∈ (toString n).toList, Text.isBlank c = false := fun c hc =>
    Text.isBlank_of_isDigit (isDigit_of_mem_toString hc)
  rw [Text.trim, Text.trimLeft_eq_self fun c hc => hblank c (List.mem_of_mem_head? hc),
    Text.trimRight_eq_self fun c hc => hblank c (List.mem_of_mem_getLast? hc)]

end Decimal
end DocExamples
