/-
# Sets by their edges

A sweep over the edges of two sets that ascend takes their edges in order, and membership changes
there as the operation says (`sweep_spec`). So what it answers are the ascending edges of the set of
all code points for which the operation holds (`ascending_combine`, `mem_combine`).
-/

import DocExamples.Text.CharSet
import Mathlib.Data.List.Basic
import Mathlib.Data.Nat.Notation

namespace DocExamples
namespace CharSet

variable {ds es : List ℕ} {d e n fuel : ℕ} {p q : Bool} {op : Bool → Bool → Bool} {s t : CharSet}

/-- Whether the edges of a set ascend. -/
def Ascending (s : CharSet) : Prop := s.edges.Pairwise (· < ·)

theorem within_eq_false (h : ∀ e ∈ es, n < e) : within es n = false := by
  cases es with
  | nil => rfl
  | cons e es => rw [within, if_pos (h e List.mem_cons_self)]

theorem within_cons (h : e ≤ n) : within (e :: es) n = !within es n := by
  rw [within, if_neg (Nat.not_lt.2 h)]

/-- Between an edge that leads out of a set and the next one there is nothing of the set. -/
theorem within_between {k : ℕ} (hes : es.Pairwise (· < ·)) (hout : es[2 * k + 1]? = some e)
    (hin : es[2 * k + 2]? = some d) (he : e ≤ n) (hd : n < d) : within es n = false := by
  induction k generalizing es with
  | zero =>
      obtain _ | ⟨a, _ | ⟨b, _ | ⟨c, es⟩⟩⟩ := es
      · cases hin
      · cases hin
      · cases hin
      · obtain rfl : b = e := Option.some.inj hout
        obtain rfl : c = d := Option.some.inj hin
        have hab : a < b := (List.pairwise_cons.1 hes).1 b List.mem_cons_self
        rw [within_cons (by omega), within_cons he, within, if_pos hd]
        rfl
  | succ k ih =>
      obtain _ | ⟨a, _ | ⟨b, es⟩⟩ := es
      · cases hin
      · cases hin
      · have hmem : e ∈ es := List.mem_of_getElem? hout
        obtain ⟨ha, hb⟩ := List.pairwise_cons.1 hes
        obtain ⟨hb, hes⟩ := List.pairwise_cons.1 hb
        have hae : a < e := ha e (List.mem_cons_of_mem _ hmem)
        have hbe : b < e := hb e hmem
        rw [within_cons (by omega), within_cons (by omega), Bool.not_not]
        exact ih hes hout hin

/-- The first of the edges of both sets. -/
theorem of_nextEdge? (hds : ds.Pairwise (· < ·)) (hes : es.Pairwise (· < ·))
    (h : nextEdge? ds es = some e) :
    (ds.head? = some e ∨ es.head? = some e) ∧ (∀ d ∈ ds, e ≤ d) ∧ ∀ d ∈ es, e ≤ d := by
  have hfirst : ∀ {a : ℕ} {l : List ℕ}, (a :: l).Pairwise (· < ·) → e ≤ a →
      ∀ d ∈ a :: l, e ≤ d := by
    intro a l hl ha d hd
    obtain rfl | hd := List.mem_cons.1 hd
    · exact ha
    · exact Nat.le_trans ha (Nat.le_of_lt ((List.pairwise_cons.1 hl).1 d hd))
  match ds, es with
  | [], [] => cases h
  | [], a :: es =>
      obtain rfl := Option.some.inj h
      exact ⟨.inr rfl, fun _ hd => absurd hd List.not_mem_nil, hfirst hes (Nat.le_refl _)⟩
  | a :: ds, [] =>
      obtain rfl := Option.some.inj h
      exact ⟨.inl rfl, hfirst hds (Nat.le_refl _), fun _ hd => absurd hd List.not_mem_nil⟩
  | a :: ds, b :: es =>
      have hmin := Option.some.inj h
      split at hmin
      · next hlt => exact ⟨.inl (by simp [hmin]), hfirst hds (by omega), hfirst hes (by omega)⟩
      · next hle => exact ⟨.inr (by simp [hmin]), hfirst hds (by omega), hfirst hes (by omega)⟩

/-- Edges without one that none of them is below. -/
theorem take_spec (hes : es.Pairwise (· < ·)) (hle : ∀ d ∈ es, e ≤ d) :
    ∃ here rest, take e es = (here, rest) ∧ (es.head? = some e → here = true) ∧
      rest.length + here.toNat = es.length ∧ rest.Pairwise (· < ·) ∧
      (∀ d ∈ rest, d ∈ es ∧ e < d) ∧ ∀ n, e ≤ n → within es n = (here != within rest n) := by
  cases es with
  | nil => exact ⟨false, [], rfl, by simp, rfl, .nil, by simp, fun n _ => rfl⟩
  | cons a es =>
      obtain ⟨ha, hes'⟩ := List.pairwise_cons.1 hes
      by_cases heq : a = e
      · subst heq
        exact ⟨true, es, by simp [take], fun _ => rfl, rfl, hes',
          fun d hd => ⟨List.mem_cons_of_mem _ hd, ha d hd⟩, fun n hn => by simp [within_cons hn]⟩
      · have hlt : e < a := Nat.lt_of_le_of_ne (hle a List.mem_cons_self) (Ne.symm heq)
        refine ⟨false, a :: es, by simp [take, heq], by simp [heq], rfl, hes, fun d hd => ⟨hd, ?_⟩,
          fun n _ => by simp⟩
        obtain rfl | hd := List.mem_cons.1 hd
        · exact hlt
        · exact Nat.lt_trans hlt (ha d hd)

/-- An edge in front of ascending edges, where it is one: the value of `f` changes there, and from
there on it changes at the edges. -/
theorem within_change (before : Bool) (f : ℕ → Bool) {after : Bool} (hes : es.Pairwise (· < ·))
    (hlater : ∀ d ∈ es, e < d) (hbefore : ∀ n < e, f n = before)
    (hfrom : ∀ n, e ≤ n → (after != within es n) = f n) :
    (if after == before then es else e :: es).Pairwise (· < ·) ∧
      ∀ n, (before != within (if after == before then es else e :: es) n) = f n := by
  split
  · next heq =>
      refine ⟨hes, fun n => ?_⟩
      obtain hn | hn := Nat.lt_or_ge n e
      · rw [within_eq_false fun d hd => Nat.lt_trans hn (hlater d hd), hbefore n hn, Bool.bne_false]
      · rw [← eq_of_beq heq, hfrom n hn]
  · next hne =>
      refine ⟨List.pairwise_cons.2 ⟨hlater, hes⟩, fun n => ?_⟩
      obtain hn | hn := Nat.lt_or_ge n e
      · rw [within, if_pos hn, hbefore n hn, Bool.bne_false]
      · have hafter : before = !after := by cases after <;> cases before <;> simp_all
        rw [within_cons hn, ← hfrom n hn, hafter]
        cases after <;> simp

/-- **A sweep** over ascending edges answers ascending edges out of them, and membership changes at
these as the operation says. -/
theorem sweep_spec (hds : ds.Pairwise (· < ·)) (hes : es.Pairwise (· < ·))
    (hfuel : ds.length + es.length ≤ fuel) :
    (sweep op fuel p q ds es).Pairwise (· < ·) ∧
      (∀ d ∈ sweep op fuel p q ds es, d ∈ ds ∨ d ∈ es) ∧
      ∀ n, (op p q != within (sweep op fuel p q ds es) n) =
        op (p != within ds n) (q != within es n) := by
  induction fuel generalizing p q ds es with
  | zero =>
      obtain rfl : ds = [] := List.length_eq_zero_iff.1 (by omega)
      obtain rfl : es = [] := List.length_eq_zero_iff.1 (by omega)
      simp [sweep, within]
  | succ fuel ih =>
      cases hnext : nextEdge? ds es with
      | none =>
          obtain ⟨rfl, rfl⟩ : ds = [] ∧ es = [] := by
            cases ds <;> cases es <;> simp_all [nextEdge?]
          simp [sweep, nextEdge?, within]
      | some e =>
          obtain ⟨hhead, hled, hlee⟩ := of_nextEdge? hds hes hnext
          obtain ⟨left, ds', htakeD, hleft, hlenD, hds', hmemD, hwithinD⟩ := take_spec hds hled
          obtain ⟨right, es', htakeE, hright, hlenE, hes', hmemE, hwithinE⟩ := take_spec hes hlee
          -- one of the sets has the edge, so the fuel lasts
          have hfuel' : ds'.length + es'.length ≤ fuel := by
            obtain hhead | hhead := hhead
            · rw [hleft hhead, Bool.toNat_true] at hlenD
              omega
            · rw [hright hhead, Bool.toNat_true] at hlenE
              omega
          obtain ⟨hpair, hmem, hwithin⟩ := ih (p := p != left) (q := q != right) hds' hes' hfuel'
          have hlater : ∀ d ∈ sweep op fuel (p != left) (q != right) ds' es',
              (d ∈ ds ∨ d ∈ es) ∧ e < d := fun d hd =>
            (hmem d hd).elim (fun hd => (hmemD d hd).imp_left .inl)
              fun hd => (hmemE d hd).imp_left .inr
          rw [sweep, hnext]
          simp only [htakeD, htakeE]
          obtain ⟨hpair', hwithin'⟩ := within_change (op p q)
            (fun n => op (p != within ds n) (q != within es n)) hpair
            (fun d hd => (hlater d hd).2)
            (fun n hn => by
              rw [within_eq_false fun d hd => Nat.lt_of_lt_of_le hn (hled d hd),
                within_eq_false fun d hd => Nat.lt_of_lt_of_le hn (hlee d hd), Bool.bne_false,
                Bool.bne_false])
            (fun n hn => by
              rw [hwithin, hwithinD n hn, hwithinE n hn, Bool.bne_assoc, Bool.bne_assoc])
          refine ⟨hpair', fun d hd => ?_, hwithin'⟩
          split at hd
          · exact (hlater d hd).1
          · obtain rfl | hd := List.mem_cons.1 hd
            · exact hhead.imp List.mem_of_head? List.mem_of_head?
            · exact (hlater d hd).1

/-- The edges of a combination ascend if those of both sets do. -/
theorem ascending_combine (hs : s.Ascending) (ht : t.Ascending) : (combine op s t).Ascending :=
  (sweep_spec hs ht (Nat.le_refl _)).1

/-- **A character is in a combination** of two sets if the operation holds of it. -/
theorem mem_combine (hop : op false false = false) (hs : s.Ascending) (ht : t.Ascending)
    (c : Char) : (combine op s t).mem c = op (s.mem c) (t.mem c) := by
  have hwithin : (op false false != within (combine op s t).edges c.toNat) =
      op (false != s.mem c) (false != t.mem c) := (sweep_spec hs ht (Nat.le_refl _)).2.2 c.toNat
  rwa [hop, Bool.false_bne, Bool.false_bne, Bool.false_bne] at hwithin

theorem mem_union (hs : s.Ascending) (ht : t.Ascending) (c : Char) :
    (s.union t).mem c = (s.mem c || t.mem c) := mem_combine rfl hs ht c

end CharSet
end DocExamples
