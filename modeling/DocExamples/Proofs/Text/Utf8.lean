/-
# Decoding what was encoded

Decoding the bytes of a text gives the text back (`decodeLossy_encode`). This follows from one step:
the bytes of a character at the front of the input are read as that character, and what follows them
is left (`decodeStep_encodeChar`). There are as many bytes as characters exactly if no character
takes more than one (`width_eq_length_iff`).
-/

import DocExamples.Text.Utf8
import Mathlib.Data.Nat.Notation
import Mathlib.Tactic.SplitIfs

namespace DocExamples
namespace Text

variable {n k v s lo hi : ℕ} {rest : List UInt8}

/-- Whether a first byte announces `k` further ones, contributes the bits `v`, and admits `s` as
the second byte. -/
def Announces (b k v s : ℕ) : Prop :=
  ∃ lo hi, leadByte? b = some (k, v, lo, hi) ∧ lo ≤ s ∧ s ≤ hi

theorem announces_two (h₁ : 0x80 ≤ n) (h₂ : n < 0x800) :
    Announces (0xC0 + n / 64) 1 (n / 64) (0x80 + n % 64) := by
  refine ⟨0x80, 0xBF, ?_, by omega, by omega⟩
  rw [leadByte?, if_neg (by omega), if_pos (by omega), Nat.add_sub_cancel_left]

/-- The bounds of the second of three bytes admit every code point but the surrogates. -/
theorem announces_three (h₁ : 0x800 ≤ n) (h₂ : n < 0x10000) (h₃ : n < 0xD800 ∨ 0xDFFF < n) :
    Announces (0xE0 + n / 4096) 2 (n / 4096) (0x80 + n / 64 % 64) := by
  obtain h | h | ⟨h₀, h⟩ : n / 4096 = 0 ∨ n / 4096 = 13 ∨ n / 4096 ≠ 0 ∧ n / 4096 ≠ 13 := by omega
  · exact ⟨0xA0, 0xBF, by rw [h]; rfl, by omega, by omega⟩
  · exact ⟨0x80, 0x9F, by rw [h]; rfl, by omega, by omega⟩
  · refine ⟨0x80, 0xBF, ?_, by omega, by omega⟩
    rw [leadByte?, if_neg (by omega), if_neg (by omega), if_neg (by omega), if_neg (by omega),
      if_pos (by omega), Nat.add_sub_cancel_left]

/-- The bounds of the second of four bytes admit every code point up to the last one. -/
theorem announces_four (h₁ : 0x10000 ≤ n) (h₂ : n < 0x110000) :
    Announces (0xF0 + n / 262144) 3 (n / 262144) (0x80 + n / 4096 % 64) := by
  obtain h | h | ⟨h₀, h⟩ : n / 262144 = 0 ∨ n / 262144 = 4 ∨ 1 ≤ n / 262144 ∧ n / 262144 ≤ 3 := by
    omega
  · exact ⟨0x90, 0xBF, by rw [h]; rfl, by omega, by omega⟩
  · exact ⟨0x80, 0x8F, by rw [h]; rfl, by omega, by omega⟩
  · refine ⟨0x80, 0xBF, ?_, by omega, by omega⟩
    rw [leadByte?, if_neg (by omega), if_neg (by omega), if_neg (by omega), if_neg (by omega),
      if_neg (by omega), if_neg (by omega), if_pos (by omega), Nat.add_sub_cancel_left]

/-- A further byte within its bounds adds its bits. -/
theorem continuation_cons (hn : n < 256) (hlo : lo ≤ n) (hhi : n ≤ hi) :
    continuation (k + 1) v lo hi (n.toUInt8 :: rest) =
      ((continuation k (v * 64 + (n - 0x80)) 0x80 0xBF rest).1,
        (continuation k (v * 64 + (n - 0x80)) 0x80 0xBF rest).2 + 1) := by
  rw [continuation, Nat.toUInt8, UInt8.toNat_ofNat_of_lt' hn, if_pos ⟨hlo, hhi⟩]

/-- What follows an announced second byte is read on top of the bits of both. -/
theorem decodeStep_of_announces (h : Announces n (k + 1) v s) (hn : n < 256) (hs : s < 256) :
    decodeStep n.toUInt8 (s.toUInt8 :: rest) =
      ((continuation k (v * 64 + (s - 0x80)) 0x80 0xBF rest).1.map Char.ofNat,
        rest.drop (continuation k (v * 64 + (s - 0x80)) 0x80 0xBF rest).2) := by
  obtain ⟨lo, hi, hlead, hlo, hhi⟩ := h
  rw [decodeStep, Nat.toUInt8, UInt8.toNat_ofNat_of_lt' hn, hlead]
  dsimp only
  rw [continuation_cons hs hlo hhi, List.drop_succ_cons]

/-- **The bytes of a character** at the front of the input are read as that character. -/
theorem decodeStep_encodeChar (c : Char) (rest : List UInt8) :
    ∃ b bytes, encodeChar c = b :: bytes ∧ decodeStep b (bytes ++ rest) = (some c, rest) := by
  have hvalid : c.toNat < 0xD800 ∨ 0xDFFF < c.toNat ∧ c.toNat < 0x110000 := c.valid
  have hc : ∀ v, v = c.toNat → Char.ofNat v = c := fun v h => h ▸ Char.ofNat_toNat c
  unfold encodeChar
  generalize c.toNat = n at hvalid hc
  dsimp only
  split_ifs with h₁ h₂ h₃
  · refine ⟨_, _, rfl, ?_⟩
    rw [decodeStep, Nat.toUInt8, UInt8.toNat_ofNat_of_lt' (Nat.lt_trans h₁ (by decide)), leadByte?,
      if_pos h₁]
    simp [continuation, hc]
  · refine ⟨_, _, rfl, ?_⟩
    rw [List.singleton_append,
      decodeStep_of_announces (announces_two (by omega) h₂) (by omega) (by omega)]
    simp only [continuation, Option.map_some, List.drop_zero]
    rw [hc _ (by omega)]
  · refine ⟨_, _, rfl, ?_⟩
    simp only [List.cons_append, List.nil_append]
    rw [decodeStep_of_announces (announces_three (by omega) h₃ (by omega)) (by omega) (by omega),
      continuation_cons (by omega) (by omega) (by omega)]
    simp only [continuation, Option.map_some, List.drop_succ_cons, List.drop_zero]
    rw [hc _ (by omega)]
  · refine ⟨_, _, rfl, ?_⟩
    simp only [List.cons_append, List.nil_append]
    rw [decodeStep_of_announces (announces_four (by omega) (by omega)) (by omega) (by omega),
      continuation_cons (by omega) (by omega) (by omega),
      continuation_cons (by omega) (by omega) (by omega)]
    simp only [continuation, Option.map_some, List.drop_succ_cons, List.drop_zero]
    rw [hc _ (by omega)]

/-- The bytes of a text are read as its characters. -/
theorem decodeRuns_encode (cs : List Char) : decodeRuns (encode cs) = cs.map some := by
  induction cs with
  | nil => rw [encode, List.flatMap_nil, decodeRuns, List.map_nil]
  | cons c cs ih =>
      obtain ⟨b, bytes, hb, hstep⟩ := decodeStep_encodeChar c (encode cs)
      have henc : encode (c :: cs) = b :: (bytes ++ encode cs) := by
        rw [encode, List.flatMap_cons, hb, List.cons_append, encode]
      rw [henc, decodeRuns, hstep, ih, List.map_cons]

/-- **Lossy decoding** undoes encoding. -/
theorem decodeLossy_encode (cs : List Char) : decodeLossy (encode cs) = cs := by
  rw [decodeLossy, decodeRuns_encode, List.map_map]
  exact List.map_id cs

/-! ### Widths -/

theorem one_le_charWidth (c : Char) : 1 ≤ charWidth c := by
  unfold charWidth
  dsimp only
  split_ifs <;> omega

theorem charWidth_eq_one_iff {c : Char} : charWidth c = 1 ↔ c.toNat < 128 := by
  unfold charWidth
  dsimp only
  split_ifs <;> omega

theorem width_append (cs cs' : List Char) : width (cs ++ cs') = width cs + width cs' := by
  simp only [← length_encode, encode, List.flatMap_append, List.length_append]

theorem width_cons (c : Char) (cs : List Char) : width (c :: cs) = charWidth c + width cs := rfl

theorem length_le_width (cs : List Char) : cs.length ≤ width cs := by
  induction cs with
  | nil => exact Nat.le_refl _
  | cons c cs ih =>
      have hc := one_le_charWidth c
      rw [List.length_cons, width_cons]
      omega

/-- **Counting bytes is counting characters** exactly if none of them takes more than one byte. -/
theorem width_eq_length_iff {cs : List Char} : width cs = cs.length ↔ ∀ c ∈ cs, c.toNat < 128 := by
  induction cs with
  | nil => simp [width]
  | cons c cs ih =>
      have hc := one_le_charWidth c
      have hcs := length_le_width cs
      rw [List.length_cons, width_cons, List.forall_mem_cons, ← ih, ← charWidth_eq_one_iff]
      omega

end Text
end DocExamples
