/-
# Whole numbers in free text

A field holds a whole number if it has digits in it and else only blanks around them, with a plus
sign before them allowed (`Numeral`). A field is read by trimming it and taking the plus sign away,
and that finds the number that the field holds, if it is below the limit (`bounded?_trim_iff`).
-/

import DocExamples.Decimal.Read
import DocExamples.Proofs.Decimal.Whole
import Mathlib.Data.List.TakeWhile
import Mathlib.Tactic.SplitIfs

namespace DocExamples

namespace Text

variable {s before after : List Char}

/-- Blanks around a trimmed text are trimmed. -/
theorem trim_append (hbefore : ∀ c ∈ before, isBlank c) (hafter : ∀ c ∈ after, isBlank c)
    (hs : trim s = s) (hne : s ≠ []) : trim (before ++ s ++ after) = s := by
  obtain ⟨hhead, hlast⟩ := trim_eq_self_iff.1 hs
  have hleft : trimLeft (before ++ s ++ after) = s ++ after := by
    rw [List.append_assoc, trimLeft, List.dropWhile_append_of_pos hbefore]
    refine trimLeft_eq_self fun c hc => hhead c ?_
    obtain ⟨d, s', rfl⟩ := List.exists_cons_of_ne_nil hne
    exact hc
  have hright : ∀ c ∈ after.reverse, isBlank c := fun c hc => hafter c (List.mem_reverse.1 hc)
  rw [trim, hleft, trimRight, List.reverse_append, List.dropWhile_append_of_pos hright]
  exact trimRight_eq_self hlast

/-- A text is a trimmed text with blanks around it. -/
theorem exists_trim (s : List Char) : ∃ before after,
    (∀ c ∈ before, isBlank c) ∧ (∀ c ∈ after, isBlank c) ∧ s = before ++ trim s ++ after := by
  refine ⟨s.takeWhile isBlank, ((trimLeft s).reverse.takeWhile isBlank).reverse, fun c hc => ?_,
    fun c hc => ?_, ?_⟩
  · exact List.mem_takeWhile_imp hc
  · exact List.mem_takeWhile_imp (List.mem_reverse.1 hc)
  · have hleft : trim s ++ ((trimLeft s).reverse.takeWhile isBlank).reverse = trimLeft s := by
      rw [trim, trimRight, ← List.reverse_append, List.takeWhile_append_dropWhile,
        List.reverse_reverse]
    rw [List.append_assoc, hleft]
    exact List.takeWhile_append_dropWhile.symm

end Text

namespace Decimal

open Text

variable {field digits : List Char} {n limit : ℕ}

/-- Whether a field holds a number: its digits, perhaps after a plus sign, with blanks around. -/
def Numeral (field : List Char) (n : ℕ) : Prop :=
  ∃ before after sign digits, (∀ c ∈ before, isBlank c) ∧ (∀ c ∈ after, isBlank c) ∧
    (sign = [] ∨ sign = ['+']) ∧ nat? digits = some n ∧ field = before ++ (sign ++ digits) ++ after

theorem nat?_eq_some_iff :
    nat? digits = some n ↔ digits ≠ [] ∧ (∀ c ∈ digits, c.isDigit) ∧ ofDigits digits = n := by
  rw [nat?]
  split_ifs with h
  · refine iff_of_false (by simp) fun hdigits => ?_
    simp [hdigits.1, List.all_eq_true.2 hdigits.2.1] at h
  · simp_all

/-- Digits, with a sign or without, have no blanks around them. -/
theorem trim_sign_append {sign : List Char} (hsign : sign = [] ∨ sign = ['+'])
    (h : nat? digits = some n) : trim (sign ++ digits) = sign ++ digits := by
  obtain ⟨-, hdigit, -⟩ := nat?_eq_some_iff.1 h
  have hblank : ∀ c ∈ sign ++ digits, isBlank c = false := by
    intro c hc
    obtain hc | hc := List.mem_append.1 hc
    · obtain rfl | rfl := hsign
      · cases hc
      · rw [List.mem_singleton.1 hc]
        decide
    · exact isBlank_of_isDigit (hdigit c hc)
  exact trim_eq_self_iff.2 ⟨fun c hc => hblank c (List.mem_of_mem_head? hc),
    fun c hc => hblank c (List.mem_of_mem_getLast? hc)⟩

/-- **A field that holds a number** is read as the number if that is below the limit. -/
theorem bounded?_trim_iff :
    bounded? limit (trim field) = some n ↔ Numeral field n ∧ n < limit := by
  constructor
  · intro h
    obtain ⟨m, hm, hlimit⟩ := Option.bind_eq_some_iff.1 h
    split_ifs at hlimit with hlt
    obtain rfl := Option.some.inj hlimit
    obtain ⟨before, after, hbefore, hafter, hfield⟩ := exists_trim field
    refine ⟨?_, hlt⟩
    split at hm
    · next rest hplus =>
      rw [hplus] at hfield
      exact ⟨before, after, ['+'], rest, hbefore, hafter, .inr rfl, hm, hfield⟩
    · exact ⟨before, after, [], trim field, hbefore, hafter, .inl rfl, hm, hfield⟩
  · rintro ⟨⟨before, after, sign, digits, hbefore, hafter, hsign, hdigits, rfl⟩, hlt⟩
    obtain ⟨hne, hdigit, -⟩ := nat?_eq_some_iff.1 hdigits
    rw [trim_append hbefore hafter (trim_sign_append hsign hdigits) (by simp [hne])]
    obtain rfl | rfl := hsign
    · unfold bounded?
      split
      · next rest hplus =>
        -- a plus sign is no digit
        rw [List.nil_append] at hplus
        cases hdigit '+' (hplus ▸ List.mem_cons_self)
      · exact Option.bind_eq_some_iff.2 ⟨n, hdigits, if_pos hlt⟩
    · exact Option.bind_eq_some_iff.2 ⟨n, hdigits, if_pos hlt⟩

end Decimal
end DocExamples
