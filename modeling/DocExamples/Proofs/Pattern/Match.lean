/-
# What a match is

A match of a pattern from one place to another is made of matches of its parts (`Match`). Every end
that `Pattern.ends` lists is the end of such a match (`match_of_mem_ends`): choosing which ends come
first, and listing no place twice, adds none. From there on a property of matches is an induction on
the pattern. A match goes forward and stays in the text (`Match.place_le`, `Match.place_le_size`).
It is empty, which only some patterns allow, or begins with one of the characters that the pattern
can begin with (`Match.first`). What a group captures is what its pattern has matched
(`Match.forall_groups`), and a group that is always passed is always captured
(`Match.exists_captured`).
-/

import DocExamples.Pattern.Basic

namespace DocExamples
namespace Pattern

/-- A number of steps, one after the other. -/
def Steps {α : Type} (step : α → α → Prop) : Nat → α → α → Prop
  | 0, a, b => a = b
  | n + 1, a, b => ∃ c, step a c ∧ Steps step n c b

/-- A match of a pattern that begins at `r` and ends at `e`. -/
def Match (text : Array Char) : Pattern → Reached → Reached → Prop
  | .empty, r, e => e = r
  | .chars s, r, e =>
    ∃ c, text[r.place]? = some c ∧ s.mem c = true ∧ e = { r with place := r.place + 1 }
  | .anchor a word, r, e =>
    let before := if r.place = 0 then none else text[r.place - 1]?
    a.holds word.mem before text[r.place]? = true ∧ e = r
  | .seq p q, r, e => ∃ m, Match text p r m ∧ Match text q m e
  | .alt p q, r, e => Match text p r e ∨ Match text q r e
  | .times p least most _, r, e =>
    ∃ n, least ≤ n ∧ (∀ k, most = some k → n ≤ max least k) ∧ Steps (Match text p) n r e
  | .group index p, r, e =>
    ∃ m, Match text p r m ∧ e = { m with groups := (index, r.place, m.place) :: m.groups }

variable {text : Array Char} {p q : Pattern} {r e : Reached} {rs : List Reached} {n : Nat}
  {step : Reached → List Reached}

/-! ### Ends are ends of matches -/

theorem mem_of_mem_firstPerPlace {seen : List Nat} (h : e ∈ firstPerPlace seen rs) : e ∈ rs := by
  induction rs generalizing seen with
  | nil => exact h
  | cons r rs ih =>
      rw [firstPerPlace] at h
      split at h
      · exact List.mem_cons_of_mem r (ih h)
      · obtain rfl | h := List.mem_cons.1 h
        · exact List.mem_cons_self
        · exact List.mem_cons_of_mem r (ih h)

theorem exists_of_mem_advance (h : e ∈ advance step rs) : ∃ r ∈ rs, e ∈ step r := by
  unfold advance at h
  split at h
  · exact ⟨_, List.mem_cons_self, h⟩
  · exact List.mem_flatMap.1 (mem_of_mem_firstPerPlace h)

theorem steps_of_mem_advanceBy (h : e ∈ advanceBy step n rs) :
    ∃ r ∈ rs, Steps (fun a b => b ∈ step a) n r e := by
  induction n generalizing rs with
  | zero => exact ⟨e, h, rfl⟩
  | succ n ih =>
      rw [advanceBy] at h
      split at h
      · cases h
      · obtain ⟨m, hm, hsteps⟩ := ih h
        obtain ⟨r, hr, hstep⟩ := exists_of_mem_advance hm
        exact ⟨r, hr, m, hstep, hsteps⟩

theorem steps_of_mem_layers {seen : List Nat} {layer : List Reached}
    (hlayer : layer ∈ layers step n seen rs) (h : e ∈ layer) :
    ∃ k ≤ n, ∃ r ∈ rs, Steps (fun a b => b ∈ step a) k r e := by
  induction n generalizing seen rs with
  | zero =>
      obtain rfl := List.mem_singleton.1 hlayer
      exact ⟨0, Nat.le_refl 0, e, h, rfl⟩
  | succ n ih =>
      have hfirst : layer = rs → ∃ k ≤ n + 1, ∃ r ∈ rs, Steps (fun a b => b ∈ step a) k r e := by
        rintro rfl
        exact ⟨0, Nat.zero_le _, e, h, rfl⟩
      rw [layers] at hlayer
      split at hlayer
      · exact hfirst (List.mem_singleton.1 hlayer)
      · obtain heq | hlayer := List.mem_cons.1 hlayer
        · exact hfirst heq
        · obtain ⟨k, hk, m, hm, hsteps⟩ := ih hlayer
          obtain ⟨r, hr, hstep⟩ := exists_of_mem_advance (List.mem_filter.1 hm).1
          exact ⟨k + 1, Nat.succ_le_succ hk, r, hr, m, hstep, hsteps⟩

theorem steps_of_mem_upTo {greedy : Bool} (h : e ∈ upTo step n greedy rs) :
    ∃ k ≤ n, ∃ r ∈ rs, Steps (fun a b => b ∈ step a) k r e := by
  unfold upTo at h
  obtain ⟨layer, hlayer, he⟩ := List.mem_flatten.1 h
  have hmem : layer ∈ layers step n (rs.map (·.place)) rs := by
    cases greedy with
    | true => exact List.mem_reverse.1 hlayer
    | false => exact hlayer
  exact steps_of_mem_layers hmem he

namespace Steps

variable {α : Type} {R S : α → α → Prop} {a b c : α} {k : Nat}

theorem imp (h : ∀ a b, R a b → S a b) (hsteps : Steps R n a b) : Steps S n a b := by
  induction n generalizing a with
  | zero => exact hsteps
  | succ n ih =>
      obtain ⟨c, hstep, hsteps⟩ := hsteps
      exact ⟨c, h a c hstep, ih hsteps⟩

theorem append (h : Steps R n a b) (h' : Steps R k b c) : Steps R (n + k) a c := by
  induction n generalizing a with
  | zero =>
      obtain rfl : a = b := h
      rwa [Nat.zero_add]
  | succ n ih =>
      obtain ⟨m, hstep, h⟩ := h
      rw [Nat.succ_add]
      exact ⟨m, hstep, ih h⟩

/-- What every step keeps is kept. -/
theorem keep {P : α → Prop} (h : ∀ a b, R a b → P a → P b) (hsteps : Steps R n a b) (ha : P a) :
    P b := by
  induction n generalizing a with
  | zero => exact hsteps ▸ ha
  | succ n ih =>
      obtain ⟨c, hstep, hsteps⟩ := hsteps
      exact ih hsteps (h a c hstep ha)

end Steps

/-- **Every end that is listed** is the end of a match. -/
theorem match_of_mem_ends (h : e ∈ ends text p r) : Match text p r e := by
  induction p generalizing r e with
  | empty => exact List.mem_singleton.1 h
  | chars s =>
      rw [ends] at h
      split at h
      · next c hc =>
        obtain ⟨hs, h⟩ := List.mem_ite_nil_right.1 h
        exact ⟨c, hc, hs, List.mem_singleton.1 h⟩
      · cases h
  | anchor a word =>
      rw [ends] at h
      obtain ⟨hholds, h⟩ := List.mem_ite_nil_right.1 h
      exact ⟨hholds, List.mem_singleton.1 h⟩
  | seq p q ihp ihq =>
      rw [ends] at h
      obtain ⟨m, hm, he⟩ := exists_of_mem_advance h
      exact ⟨m, ihp hm, ihq he⟩
  | alt p q ihp ihq =>
      rw [ends] at h
      exact (List.mem_append.1 (mem_of_mem_firstPerPlace h)).imp ihp ihq
  | times p least most greedy ih =>
      have hmany : ∀ more, (∀ n, most = some n → more ≤ n - least) →
          e ∈ upTo (ends text p) more greedy (advanceBy (ends text p) least [r]) →
          Match text (.times p least most greedy) r e := by
        intro more hmore h
        obtain ⟨k, hk, m, hm, hlast⟩ := steps_of_mem_upTo h
        obtain ⟨r', hr', hfirst⟩ := steps_of_mem_advanceBy hm
        obtain rfl := List.mem_singleton.1 hr'
        refine ⟨least + k, Nat.le_add_right .., fun n hn => ?_,
          (hfirst.imp fun _ _ => ih).append (hlast.imp fun _ _ => ih)⟩
        have := hmore n hn
        omega
      cases most with
      | none =>
          rw [ends] at h
          exact hmany _ (fun n hn => by cases hn) h
      | some n =>
          rw [ends] at h
          exact hmany _ (fun n' hn => Option.some.inj hn ▸ Nat.min_le_left ..) h
  | group index p ih =>
      obtain ⟨m, hm, rfl⟩ := List.mem_map.1 h
      exact ⟨m, ih hm, rfl⟩

/-- What `Pattern.match?` finds is a match from some place in the text. -/
theorem exists_match_of_match? (h : p.match? text = some e) :
    ∃ i ≤ text.size, Match text p { place := i } e := by
  obtain ⟨i, hi, he⟩ := List.exists_of_findSome?_eq_some h
  exact ⟨i, Nat.lt_succ_iff.1 (List.mem_range.1 hi), match_of_mem_ends (List.mem_of_head? he)⟩

/-! ### Places -/

namespace Match

/-- A match goes forward. -/
theorem place_le (h : Match text p r e) : r.place ≤ e.place := by
  induction p generalizing r e with
  | empty =>
      obtain rfl : e = r := h
      exact Nat.le_refl _
  | chars s =>
      obtain ⟨c, -, -, rfl⟩ := h
      exact Nat.le_succ _
  | anchor a word =>
      obtain ⟨-, rfl⟩ := h
      exact Nat.le_refl _
  | seq p q ihp ihq =>
      obtain ⟨m, hp, hq⟩ := h
      exact Nat.le_trans (ihp hp) (ihq hq)
  | alt p q ihp ihq => exact h.elim ihp ihq
  | times p least most greedy ih =>
      obtain ⟨n, -, -, hsteps⟩ := h
      exact hsteps.keep (P := fun m => r.place ≤ m.place)
        (fun a b hab ha => Nat.le_trans ha (ih hab)) (Nat.le_refl _)
  | group index p ih =>
      obtain ⟨m, hm, rfl⟩ := h
      show r.place ≤ m.place
      exact ih hm

/-- A match stays in the text. -/
theorem place_le_size (h : Match text p r e) (hr : r.place ≤ text.size) : e.place ≤ text.size := by
  induction p generalizing r e with
  | empty =>
      obtain rfl : e = r := h
      exact hr
  | chars s =>
      obtain ⟨c, hc, -, rfl⟩ := h
      exact (Array.getElem?_eq_some_iff.1 hc).1
  | anchor a word =>
      obtain ⟨-, rfl⟩ := h
      exact hr
  | seq p q ihp ihq =>
      obtain ⟨m, hp, hq⟩ := h
      exact ihq hq (ihp hp hr)
  | alt p q ihp ihq => exact h.elim (ihp · hr) (ihq · hr)
  | times p least most greedy ih =>
      obtain ⟨n, -, -, hsteps⟩ := h
      exact hsteps.keep (P := fun m => m.place ≤ text.size) (fun a b hab ha => ih hab ha) hr
  | group index p ih =>
      obtain ⟨m, hm, rfl⟩ := h
      show m.place ≤ text.size
      exact ih hm hr

end Match

/-! ### How matches begin -/

/-- Whether a pattern can have an empty match, as far as its shape tells. -/
def nullable : Pattern → Bool
  | .empty | .anchor .. => true
  | .chars _ => false
  | .seq p q => p.nullable && q.nullable
  | .alt p q => p.nullable || q.nullable
  | .times p least .. => least == 0 || p.nullable
  | .group _ p => p.nullable

/-- Whether a match of a pattern can begin with a character, as far as its shape tells. -/
def canBegin (c : Char) : Pattern → Bool
  | .empty | .anchor .. => false
  | .chars s => s.mem c
  | .seq p q => p.canBegin c || p.nullable && q.canBegin c
  | .alt p q => p.canBegin c || q.canBegin c
  | .times p .. => p.canBegin c
  | .group _ p => p.canBegin c

theorem canBegin_seq {c : Char} (hp : p.canBegin c = false)
    (hq : p.nullable = true → q.canBegin c = false) : (Pattern.seq p q).canBegin c = false := by
  rw [canBegin, hp, Bool.false_or]
  cases hnull : p.nullable with
  | false => rfl
  | true => exact hq hnull

/-- **A match is empty or begins** with a character that the pattern can begin with. -/
theorem Match.first (h : Match text p r e) :
    e.place = r.place ∧ p.nullable = true ∨
      ∃ c, text[r.place]? = some c ∧ p.canBegin c = true := by
  induction p generalizing r e with
  | empty =>
      obtain rfl : e = r := h
      exact .inl ⟨rfl, rfl⟩
  | chars s =>
      obtain ⟨c, hc, hs, -⟩ := h
      exact .inr ⟨c, hc, hs⟩
  | anchor a word =>
      obtain ⟨-, rfl⟩ := h
      exact .inl ⟨rfl, rfl⟩
  | seq p q ihp ihq =>
      obtain ⟨m, hp, hq⟩ := h
      obtain ⟨hm, hnull⟩ | ⟨c, hc, hbegin⟩ := ihp hp
      · obtain ⟨he, hnull'⟩ | ⟨c, hc, hbegin⟩ := ihq hq
        · exact .inl ⟨he.trans hm, by simp [nullable, hnull, hnull']⟩
        · exact .inr ⟨c, hm ▸ hc, by simp [canBegin, hnull, hbegin]⟩
      · exact .inr ⟨c, hc, by simp [canBegin, hbegin]⟩
  | alt p q ihp ihq =>
      obtain h | h := h
      · exact (ihp h).imp (fun h => ⟨h.1, by simp [nullable, h.2]⟩)
          fun ⟨c, hc, hbegin⟩ => ⟨c, hc, by simp [canBegin, hbegin]⟩
      · exact (ihq h).imp (fun h => ⟨h.1, by simp [nullable, h.2]⟩)
          fun ⟨c, hc, hbegin⟩ => ⟨c, hc, by simp [canBegin, hbegin]⟩
  | times p least most greedy ih =>
      obtain ⟨n, hn, -, hsteps⟩ := h
      -- empty steps at the front do not move, so the first step that does begins at `r`
      have hmany : e.place = r.place ∧ (n = 0 ∨ p.nullable = true) ∨
          ∃ c, text[r.place]? = some c ∧ p.canBegin c = true := by
        clear hn
        induction n generalizing r with
        | zero =>
            obtain rfl : r = e := hsteps
            exact .inl ⟨rfl, .inl rfl⟩
        | succ n ihn =>
            obtain ⟨m, hm, hsteps⟩ := hsteps
            obtain ⟨hplace, hnull⟩ | hbegin := ih hm
            · rw [← hplace]
              exact (ihn hsteps).imp_left fun h => ⟨h.1, .inr hnull⟩
            · exact .inr hbegin
      refine hmany.imp_left fun h => ⟨h.1, ?_⟩
      obtain rfl | hnull := h.2
      · simp [nullable, Nat.le_zero.1 hn]
      · simp [nullable, hnull]
  | group index p ih =>
      obtain ⟨m, hm, rfl⟩ := h
      have hfirst := ih hm
      exact hfirst

/-- A match of a pattern that has no empty match is not empty. -/
theorem Match.place_lt (h : Match text p r e) (hnull : p.nullable = false) :
    r.place < e.place := by
  induction p generalizing r e with
  | empty | anchor => cases hnull
  | chars s =>
      obtain ⟨c, -, -, rfl⟩ := h
      exact Nat.lt_succ_self _
  | seq p q ihp ihq =>
      obtain ⟨m, hp, hq⟩ := h
      obtain hnull | hnull := Bool.and_eq_false_iff.1 hnull
      · exact Nat.lt_of_lt_of_le (ihp hp hnull) hq.place_le
      · exact Nat.lt_of_le_of_lt hp.place_le (ihq hq hnull)
  | alt p q ihp ihq =>
      obtain ⟨hp, hq⟩ := Bool.or_eq_false_iff.1 hnull
      exact h.elim (ihp · hp) (ihq · hq)
  | times p least most greedy ih =>
      obtain ⟨n, hn, -, hsteps⟩ := h
      obtain ⟨hleast, hnull⟩ := Bool.or_eq_false_iff.1 hnull
      cases n with
      | zero => exact absurd (Nat.le_zero.1 hn) (by simpa using hleast)
      | succ n =>
          obtain ⟨m, hm, hsteps⟩ := hsteps
          exact hsteps.keep (P := fun m => r.place < m.place)
            (fun a b hab ha => Nat.lt_of_lt_of_le ha hab.place_le) (ih hm hnull)
  | group index p ih =>
      obtain ⟨m, hm, rfl⟩ := h
      show r.place < m.place
      exact ih hm hnull

/-! ### What groups capture -/

/-- The groups in a pattern with their numbers. -/
def groupsIn : Pattern → List (Nat × Pattern)
  | .empty | .chars _ | .anchor .. => []
  | .seq p q | .alt p q => p.groupsIn ++ q.groupsIn
  | .times p .. => p.groupsIn
  | .group index p => (index, p) :: p.groupsIn

/-- Whether every match of a pattern passes a group of a number, as far as its shape tells. -/
def passes (index : Nat) : Pattern → Bool
  | .empty | .chars _ | .anchor .. => false
  | .seq p q => p.passes index || q.passes index
  | .alt p q => p.passes index && q.passes index
  | .times p least .. => least != 0 && p.passes index
  | .group i p => i == index || p.passes index

namespace Match

/-- **What a match captures** has every property that the matches of its groups have. -/
theorem forall_groups {P : Nat × Nat × Nat → Prop} (h : Match text p r e)
    (hp : ∀ g ∈ p.groupsIn, ∀ r e, r.place ≤ text.size → Match text g.2 r e →
      P (g.1, r.place, e.place))
    (hsize : r.place ≤ text.size) (hr : ∀ g ∈ r.groups, P g) : ∀ g ∈ e.groups, P g := by
  induction p generalizing r e with
  | empty =>
      obtain rfl : e = r := h
      exact hr
  | chars s =>
      obtain ⟨c, -, -, rfl⟩ := h
      exact hr
  | anchor a word =>
      obtain ⟨-, rfl⟩ := h
      exact hr
  | seq p q ihp ihq =>
      obtain ⟨m, hm, he⟩ := h
      obtain ⟨hp, hq⟩ := List.forall_mem_append.1 hp
      exact ihq he hq (hm.place_le_size hsize) (ihp hm hp hsize hr)
  | alt p q ihp ihq =>
      obtain ⟨hp, hq⟩ := List.forall_mem_append.1 hp
      exact h.elim (ihp · hp hsize hr) (ihq · hq hsize hr)
  | times p least most greedy ih =>
      obtain ⟨n, -, -, hsteps⟩ := h
      exact (hsteps.keep (P := fun m => m.place ≤ text.size ∧ ∀ g ∈ m.groups, P g)
        (fun a b hab ha => ⟨hab.place_le_size ha.1, ih hab hp ha.1 ha.2⟩) ⟨hsize, hr⟩).2
  | group index p ih =>
      obtain ⟨m, hm, rfl⟩ := h
      obtain ⟨hgroup, hp⟩ := List.forall_mem_cons.1 hp
      exact List.forall_mem_cons.2 ⟨hgroup r m hsize hm, ih hm hp hsize hr⟩

/-- What has been captured stays. -/
theorem groups_subset (h : Match text p r e) : r.groups ⊆ e.groups := by
  induction p generalizing r e with
  | empty =>
      obtain rfl : e = r := h
      exact List.Subset.refl _
  | chars s =>
      obtain ⟨c, -, -, rfl⟩ := h
      exact List.Subset.refl _
  | anchor a word =>
      obtain ⟨-, rfl⟩ := h
      exact List.Subset.refl _
  | seq p q ihp ihq =>
      obtain ⟨m, hp, hq⟩ := h
      exact List.Subset.trans (ihp hp) (ihq hq)
  | alt p q ihp ihq => exact h.elim ihp ihq
  | times p least most greedy ih =>
      obtain ⟨n, -, -, hsteps⟩ := h
      exact hsteps.keep (P := fun m => r.groups ⊆ m.groups)
        (fun a b hab ha => List.Subset.trans ha (ih hab)) (List.Subset.refl _)
  | group index p ih =>
      obtain ⟨m, hm, rfl⟩ := h
      exact List.subset_cons_of_subset _ (ih hm)

/-- **A group that every match passes** is captured. -/
theorem exists_captured {index : Nat} (h : Match text p r e) (hp : p.passes index = true) :
    ∃ span, (index, span) ∈ e.groups := by
  induction p generalizing r e with
  | empty | chars | anchor => cases hp
  | seq p q ihp ihq =>
      obtain ⟨m, hm, he⟩ := h
      obtain hp | hq := Bool.or_eq_true_iff.1 hp
      · obtain ⟨span, hspan⟩ := ihp hm hp
        exact ⟨span, he.groups_subset hspan⟩
      · exact ihq he hq
  | alt p q ihp ihq =>
      obtain ⟨hp, hq⟩ := Bool.and_eq_true_iff.1 hp
      exact h.elim (ihp · hp) (ihq · hq)
  | times p least most greedy ih =>
      obtain ⟨n, hn, -, hsteps⟩ := h
      obtain ⟨hleast, hp⟩ := Bool.and_eq_true_iff.1 hp
      cases n with
      | zero => exact absurd (Nat.le_zero.1 hn) (by simpa using hleast)
      | succ n =>
          obtain ⟨m, hm, hsteps⟩ := hsteps
          obtain ⟨span, hspan⟩ := ih hm hp
          exact ⟨span, hsteps.keep (P := fun m => (index, span) ∈ m.groups)
            (fun a b hab ha => hab.groups_subset ha) hspan⟩
  | group i p ih =>
      obtain ⟨m, hm, rfl⟩ := h
      obtain hi | hp := Bool.or_eq_true_iff.1 hp
      · obtain rfl : i = index := by simpa using hi
        exact ⟨_, List.mem_cons_self⟩
      · obtain ⟨span, hspan⟩ := ih hm hp
        exact ⟨span, List.mem_cons_of_mem _ hspan⟩

end Match

end Pattern
end DocExamples
