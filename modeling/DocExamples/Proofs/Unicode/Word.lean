/-
# What is no word character

The table of runs ascends, so a set of general categories has the characters whose category is one
of them (`Category.mem_set`). All blanks are control characters or separators, and a slash is
punctuation, so neither is a word character (`mem_word_of_isBlank`, `mem_word_slash`).
-/

import DocExamples.Proofs.Text.CharSet
import DocExamples.Unicode.PropertyName

namespace DocExamples
namespace Unicode

variable {wanted : ℕ → Bool} {inside : Bool} {runs ns : List ℕ} {n : ℕ} {c : Char}
  {ks : List Category}

/-- Whether numbers ascend. -/
def ascends : List ℕ → Bool
  | a :: b :: ns => a < b && ascends (b :: ns)
  | _ => true

theorem pairwise_of_ascends (h : ascends ns = true) : ns.Pairwise (· < ·) := by
  refine List.isChain_iff_pairwise.1 ?_
  induction ns with
  | nil => exact .nil
  | cons a ns ih =>
      cases ns with
      | nil => exact .singleton a
      | cons b ns =>
          obtain ⟨hab, h⟩ := Bool.and_eq_true_iff.1 h
          exact .cons_cons (of_decide_eq_true hab) (ih h)

/-! ### Tables of runs -/

/-- The number that a table of runs has for a code point. -/
def valueAt? : List ℕ → ℕ → Option ℕ
  | [], _ => none
  | r :: runs, n => if n < r / 32 then none else (valueAt? runs n).or (some (r % 32))

theorem mem_of_mem_edgesWhere {e : ℕ} (h : e ∈ edgesWhere wanted inside runs) :
    e ∈ runs.map (· / 32) := by
  induction runs generalizing inside with
  | nil => cases h
  | cons r runs ih =>
      rw [edgesWhere] at h
      split at h
      · exact List.mem_cons_of_mem _ (ih h)
      · obtain rfl | h := List.mem_cons.1 h
        · exact List.mem_cons_self
        · exact List.mem_cons_of_mem _ (ih h)

theorem pairwise_edgesWhere (h : (runs.map (· / 32)).Pairwise (· < ·)) :
    (edgesWhere wanted inside runs).Pairwise (· < ·) := by
  induction runs generalizing inside with
  | nil => exact .nil
  | cons r runs ih =>
      obtain ⟨hr, h⟩ := List.pairwise_cons.1 h
      rw [edgesWhere]
      split
      · exact ih h
      · exact List.pairwise_cons.2 ⟨fun e he => hr e (mem_of_mem_edgesWhere he), ih h⟩

/-- **The edges of a table** are where it begins to be wanted, or ceases to be. -/
theorem within_edgesWhere (h : (runs.map (· / 32)).Pairwise (· < ·)) :
    (inside != CharSet.within (edgesWhere wanted inside runs) n) =
      (valueAt? runs n).elim inside wanted := by
  induction runs generalizing inside with
  | nil => simp [edgesWhere, CharSet.within, valueAt?]
  | cons r runs ih =>
      obtain ⟨hr, hruns⟩ := List.pairwise_cons.1 h
      rw [valueAt?]
      split
      · next hlt =>
          rw [CharSet.within_eq_false fun e he => ?_, Bool.bne_false, Option.elim_none]
          obtain rfl | he := List.mem_cons.1 (mem_of_mem_edgesWhere he)
          · exact hlt
          · exact Nat.lt_trans hlt (hr e he)
      · next hle =>
          have hor : ((valueAt? runs n).or (some (r % 32))).elim inside wanted =
              (valueAt? runs n).elim (wanted (r % 32)) wanted := by
            cases valueAt? runs n <;> rfl
          rw [hor, edgesWhere]
          split
          · next heq => rw [eq_of_beq heq, ih hruns]
          · next hne =>
              have hwanted : wanted (r % 32) = !inside := by
                cases hw : wanted (r % 32) <;> cases inside <;> simp_all
              rw [CharSet.within_cons (Nat.le_of_not_lt hle), hwanted, ← ih hruns]
              cases inside <;> simp

/-! ### General categories -/

namespace Category

/-- The category of a character, by the table. -/
def of? (c : Char) : Option Category :=
  (valueAt? (runs1 ++ runs2 ++ runs3) c.toNat).bind fun number => all[number]?

theorem ascends_runs : ascends ((runs1 ++ runs2 ++ runs3).map (· / 32)) = true := by
  decide +kernel

theorem ascending_set (ks : List Category) : (set ks).Ascending :=
  pairwise_edgesWhere (pairwise_of_ascends ascends_runs)

/-- **A set of categories** has the characters whose category is one of them. -/
theorem mem_set (ks : List Category) (c : Char) :
    (set ks).mem c = (of? c).any fun k => decide (k ∈ ks) := by
  have hwithin : (false != (set ks).mem c) = (valueAt? (runs1 ++ runs2 ++ runs3) c.toNat).elim
      false fun number => (all[number]?).any fun k => decide (k ∈ ks) :=
    within_edgesWhere (pairwise_of_ascends ascends_runs)
  rw [Bool.false_bne] at hwithin
  rw [hwithin, of?]
  cases valueAt? (runs1 ++ runs2 ++ runs3) c.toNat <;> rfl

/-- A character of some categories has no other category. -/
theorem mem_set_of_disjoint {ks' : List Category} (h : (set ks).mem c = true)
    (hdisjoint : ∀ k ∈ ks, k ∉ ks') : (set ks').mem c = false := by
  rw [mem_set] at h ⊢
  cases hk : of? c with
  | none => rfl
  | some k =>
      rw [hk] at h
      exact decide_eq_false (hdisjoint k (of_decide_eq_true h))

/-- The control characters and the separators. -/
theorem set_blank : set [.cc, .zs, .zl, .zp] =
    ⟨[0, 33, 127, 161, 5760, 5761, 8192, 8203, 8232, 8234, 8239, 8240, 8287, 8288, 12288,
      12289]⟩ := by
  decide +kernel

theorem mem_set_of_isBlank (h : Text.isBlank c = true) :
    (set [.cc, .zs, .zl, .zp]).mem c = true := by
  simp only [Text.isBlank, Bool.or_eq_true, Bool.and_eq_true, decide_eq_true_eq, beq_iff_eq] at h
  simp only [set_blank, CharSet.mem, CharSet.within]
  simp
  omega

end Category

/-! ### Word characters -/

theorem ascends_alphabetic : ascends alphabetic.toggled = true := by decide +kernel

/-- No blank lies between edges that are toggled for letters. -/
theorem within_alphabetic (h : Text.isBlank c = true) :
    CharSet.within alphabetic.toggled c.toNat = false := by
  have hpair := pairwise_of_ascends ascends_alphabetic
  simp only [Text.isBlank, Bool.or_eq_true, Bool.and_eq_true, decide_eq_true_eq, beq_iff_eq] at h
  obtain h | h | h | h : c.toNat < 837 ∨ c.toNat = 5760 ∨
      8192 ≤ c.toNat ∧ c.toNat ≤ 8287 ∨ c.toNat = 12288 := by omega
  · exact if_pos h
  · exact CharSet.within_between hpair (k := 91) rfl rfl (by omega) (by omega)
  · exact CharSet.within_between hpair (k := 129) rfl rfl (by omega) (by omega)
  · exact CharSet.within_between hpair (k := 131) rfl rfl (by omega) (by omega)

theorem ascending_alphabetic : alphabetic.set.Ascending :=
  CharSet.ascending_combine (Category.ascending_set _) (pairwise_of_ascends ascends_alphabetic)

theorem ascending_joinControl : joinControl.set.Ascending :=
  List.pairwise_pair.2 (by decide)

theorem ascending_word : CharSet.word.Ascending :=
  CharSet.ascending_combine (Category.ascending_set _)
    (CharSet.ascending_combine ascending_alphabetic ascending_joinControl)

theorem mem_word (c : Char) : CharSet.word.mem c =
    ((Category.set [.mn, .mc, .me, .nd, .pc]).mem c ||
      ((Category.set alphabetic.categories).mem c != CharSet.within alphabetic.toggled c.toNat ||
        CharSet.within [8204, 8206] c.toNat)) := by
  have halphabetic : alphabetic.set.mem c =
      ((Category.set alphabetic.categories).mem c !=
        CharSet.within alphabetic.toggled c.toNat) :=
    CharSet.mem_combine rfl (Category.ascending_set _) (pairwise_of_ascends ascends_alphabetic) c
  have hrest : (alphabetic.set.union joinControl.set).mem c =
      (alphabetic.set.mem c || CharSet.within [8204, 8206] c.toNat) :=
    CharSet.mem_combine rfl ascending_alphabetic ascending_joinControl c
  rw [← halphabetic, ← hrest]
  exact CharSet.mem_combine rfl (Category.ascending_set _)
    (CharSet.ascending_combine ascending_alphabetic ascending_joinControl) c

/-- **No blank** is a word character. -/
theorem mem_word_of_isBlank (h : Text.isBlank c = true) : CharSet.word.mem c = false := by
  have hset := Category.mem_set_of_isBlank h
  have hjoin : CharSet.within [8204, 8206] c.toNat = false := by
    simp only [Text.isBlank, Bool.or_eq_true, Bool.and_eq_true, decide_eq_true_eq, beq_iff_eq] at h
    simp [CharSet.within]
    omega
  rw [mem_word, Category.mem_set_of_disjoint hset (by decide),
    Category.mem_set_of_disjoint hset (by decide), within_alphabetic h, hjoin]
  rfl

/-- **A slash** is no word character. -/
theorem mem_word_slash : CharSet.word.mem '/' = false := by
  have hset : (Category.set [.po]).mem '/' = true := by decide +kernel
  rw [mem_word, Category.mem_set_of_disjoint hset (by decide),
    Category.mem_set_of_disjoint hset (by decide)]
  rfl

end Unicode
end DocExamples
