/-
# Patterns that match alike

What a pattern matches depends neither on how its rows are nested (`ends_flat`) nor on the numbers
of its groups (`ends_renumber`). The ends of a match have distinct places (`nodup_ends`) and their
places depend on the place of its start alone (`places_ends`). So when steps are taken one after the
other, dropping what reaches a place again makes no difference until the last of them.
-/

import DocExamples.Proofs.Pattern.Match
import Mathlib.Data.List.Nodup
import Mathlib.Data.Nat.Notation

namespace DocExamples

/-- The same match with other numbers for what was captured, and with more that had been captured
before. -/
def Reached.renumber (f : ℕ → ℕ) (before : List (ℕ × ℕ × ℕ)) (r : Reached) : Reached :=
  { r with groups := r.groups.map (Prod.map f id) ++ before }

namespace Pattern

variable {text : Array Char} {step step' g : Reached → List Reached} {φ : Reached → Reached}
  {r r' : Reached} {rs : List Reached} {seen seen' : List ℕ} {n : ℕ}

/-! ### Groups -/

/-- The pattern with other numbers for its groups. -/
def renumber (f : ℕ → ℕ) : Pattern → Pattern
  | .empty => .empty
  | .chars s => .chars s
  | .anchor a word => .anchor a word
  | .seq p q => .seq (p.renumber f) (q.renumber f)
  | .alt p q => .alt (p.renumber f) (q.renumber f)
  | .times p least most greedy => .times (p.renumber f) least most greedy
  | .group index p => .group (f index) (p.renumber f)

theorem renumber_id (p : Pattern) : p.renumber id = p := by
  induction p with
  | empty | chars | anchor => rfl
  | seq p q ihp ihq | alt p q ihp ihq => rw [renumber, ihp, ihq]
  | times p least most greedy ih => rw [renumber, ih]
  | group index p ih =>
      rw [renumber, ih]
      rfl

section Map

variable (hφ : ∀ r, (φ r).place = r.place)
include hφ

theorem map_place_map (rs : List Reached) : (rs.map φ).map (·.place) = rs.map (·.place) := by
  rw [List.map_map]
  exact List.map_congr_left fun r _ => hφ r

theorem firstPerPlace_map (seen : List ℕ) (rs : List Reached) :
    firstPerPlace seen (rs.map φ) = (firstPerPlace seen rs).map φ := by
  induction rs generalizing seen with
  | nil => rfl
  | cons r rs ih =>
      rw [List.map_cons, firstPerPlace, firstPerPlace, hφ, ih, ih]
      split <;> rfl

variable (hstep : ∀ r, step' (φ r) = (step r).map φ)
include hstep

theorem advance_map (rs : List Reached) :
    advance step' (rs.map φ) = (advance step rs).map φ := by
  have hmany : firstPerPlace [] ((rs.map φ).flatMap step') =
      (firstPerPlace [] (rs.flatMap step)).map φ := by
    rw [← firstPerPlace_map hφ, List.flatMap_map, List.map_flatMap, funext hstep]
  cases rs with
  | nil => rfl
  | cons r rs =>
      cases rs with
      | nil => exact hstep r
      | cons r' rs => exact hmany

theorem advanceBy_map (n : ℕ) (rs : List Reached) :
    advanceBy step' n (rs.map φ) = (advanceBy step n rs).map φ := by
  induction n generalizing rs with
  | zero => rfl
  | succ n ih =>
      rw [advanceBy, advanceBy, List.isEmpty_map, advance_map hφ hstep, ih]
      split <;> rfl

theorem layers_map (n : ℕ) (seen : List ℕ) (rs : List Reached) :
    layers step' n seen (rs.map φ) = (layers step n seen rs).map (List.map φ) := by
  induction n generalizing seen rs with
  | zero => rfl
  | succ n ih =>
      have hnew : ∀ rs : List Reached, (rs.map φ).filter (fun r => !seen.contains r.place) =
          (rs.filter fun r => !seen.contains r.place).map φ := by
        intro rs
        rw [List.filter_map]
        exact congrArg _ (List.filter_congr fun r _ => by rw [Function.comp_apply, hφ])
      rw [layers, layers, advance_map hφ hstep, hnew, List.isEmpty_map, map_place_map hφ, ih]
      split <;> rfl

theorem upTo_map (n : ℕ) (greedy : Bool) (rs : List Reached) :
    upTo step' n greedy (rs.map φ) = (upTo step n greedy rs).map φ := by
  unfold upTo
  dsimp only
  rw [map_place_map hφ, layers_map hφ hstep, List.map_flatten]
  cases greedy with
  | true => rw [if_pos rfl, if_pos rfl, List.map_reverse]
  | false => rfl

end Map

/-- **The numbers of the groups** make no difference to a match but to what it has captured them
under, and what had been captured before makes none at all. -/
theorem ends_renumber (text : Array Char) (f : ℕ → ℕ) (before : List (ℕ × ℕ × ℕ)) (p : Pattern)
    (r : Reached) : (p.renumber f).ends text (r.renumber f before) =
      (p.ends text r).map (Reached.renumber f before) := by
  have hplace : ∀ r : Reached, (r.renumber f before).place = r.place := fun _ => rfl
  induction p generalizing r with
  | empty => rfl
  | chars s =>
      rw [renumber, ends, ends, hplace]
      split
      · split <;> rfl
      · rfl
  | anchor a word =>
      rw [renumber, ends, ends, hplace, apply_ite (List.map (Reached.renumber f before))]
      rfl
  | seq p q ihp ihq =>
      rw [renumber, ends, ends, ihp, advance_map hplace ihq]
  | alt p q ihp ihq =>
      rw [renumber, ends, ends, ihp, ihq, ← List.map_append, firstPerPlace_map hplace]
  | times p least most greedy ih =>
      have hmany : ∀ more, upTo ((p.renumber f).ends text) more greedy
          (advanceBy ((p.renumber f).ends text) least [r.renumber f before]) =
            (upTo (p.ends text) more greedy (advanceBy (p.ends text) least [r])).map
              (Reached.renumber f before) := by
        intro more
        rw [← upTo_map hplace ih, ← advanceBy_map hplace ih]
        rfl
      cases most with
      | none => exact hmany _
      | some n => exact hmany _
  | group index p ih =>
      rw [renumber, ends, ends, ih, List.map_map, List.map_map]
      rfl

/-- **The places of the ends** of a match depend on the place of its start alone. -/
theorem places_ends (p : Pattern) (h : r.place = r'.place) :
    (p.ends text r).map (·.place) = (p.ends text r').map (·.place) := by
  have hstart : ∀ r : Reached, (p.ends text r).map (·.place) =
      (p.ends text { place := r.place }).map (·.place) := by
    intro r
    have hends := ends_renumber text id r.groups p { place := r.place }
    rw [renumber_id, show Reached.renumber id r.groups { place := r.place } = r from rfl] at hends
    rw [hends, map_place_map (φ := Reached.renumber id r.groups) fun _ => rfl]
  rw [hstart r, hstart r', h]

/-! ### Places -/

theorem firstPerPlace_cons_of_mem (h : r.place ∈ seen) :
    firstPerPlace seen (r :: rs) = firstPerPlace seen rs := if_pos (List.contains_iff_mem.2 h)

theorem firstPerPlace_cons_of_notMem (h : r.place ∉ seen) :
    firstPerPlace seen (r :: rs) = r :: firstPerPlace (r.place :: seen) rs :=
  if_neg (mt List.contains_iff_mem.1 h)

theorem firstPerPlace_congr (h : ∀ n, n ∈ seen ↔ n ∈ seen') (rs : List Reached) :
    firstPerPlace seen rs = firstPerPlace seen' rs := by
  induction rs generalizing seen seen' with
  | nil => rfl
  | cons r rs ih =>
      by_cases hr : r.place ∈ seen
      · rw [firstPerPlace_cons_of_mem hr, firstPerPlace_cons_of_mem ((h _).1 hr), ih h]
      · have hmore : ∀ n, n ∈ r.place :: seen ↔ n ∈ r.place :: seen' := fun n => by
          rw [List.mem_cons, List.mem_cons, h]
        rw [firstPerPlace_cons_of_notMem hr, firstPerPlace_cons_of_notMem (mt (h _).2 hr), ih hmore]

theorem firstPerPlace_append (seen : List ℕ) (rs rs' : List Reached) :
    firstPerPlace seen (rs ++ rs') =
      firstPerPlace seen rs ++ firstPerPlace (rs.map (·.place) ++ seen) rs' := by
  induction rs generalizing seen with
  | nil => rfl
  | cons r rs ih =>
      rw [List.cons_append, List.map_cons]
      by_cases hr : r.place ∈ seen
      · rw [firstPerPlace_cons_of_mem hr, firstPerPlace_cons_of_mem hr, ih]
        exact congrArg _ (firstPerPlace_congr (fun n => by grind) rs')
      · rw [firstPerPlace_cons_of_notMem hr, firstPerPlace_cons_of_notMem hr, ih]
        exact congrArg (r :: _ ++ ·) (firstPerPlace_congr (fun n => by grind) rs')

/-- What is kept reaches distinct places, none of which was reached before. -/
theorem nodup_firstPerPlace (seen : List ℕ) (rs : List Reached) :
    ((firstPerPlace seen rs).map (·.place)).Nodup ∧
      ∀ r ∈ firstPerPlace seen rs, r.place ∉ seen := by
  induction rs generalizing seen with
  | nil => exact ⟨List.nodup_nil, fun _ h => nomatch h⟩
  | cons r rs ih =>
      by_cases hr : r.place ∈ seen
      · rw [firstPerPlace_cons_of_mem hr]
        exact ih seen
      · rw [firstPerPlace_cons_of_notMem hr]
        obtain ⟨hnodup, hnew⟩ := ih (r.place :: seen)
        refine ⟨List.nodup_cons.2 ⟨fun hmem => ?_, hnodup⟩, List.forall_mem_cons.2 ⟨hr, ?_⟩⟩
        · obtain ⟨e, he, hplace⟩ := List.mem_map.1 hmem
          exact hnew e he (hplace ▸ List.mem_cons_self)
        · exact fun e he hmem => hnew e he (List.mem_cons_of_mem _ hmem)

/-- Distinct places that were not reached before are all kept. -/
theorem firstPerPlace_eq_self (hnodup : (rs.map (·.place)).Nodup)
    (hnew : ∀ r ∈ rs, r.place ∉ seen) : firstPerPlace seen rs = rs := by
  induction rs generalizing seen with
  | nil => rfl
  | cons r rs ih =>
      obtain ⟨hr, hrs⟩ := List.forall_mem_cons.1 hnew
      obtain ⟨hmem, hnodup⟩ := List.nodup_cons.1 hnodup
      rw [firstPerPlace_cons_of_notMem hr, ih hnodup]
      rintro e he heq
      obtain heq | hseen := List.mem_cons.1 heq
      · exact hmem (List.mem_map.2 ⟨e, he, heq⟩)
      · exact hrs e he hseen

section Nodup

variable (hstep : ∀ r, ((step r).map (·.place)).Nodup)
include hstep

theorem nodup_advance (rs : List Reached) : ((advance step rs).map (·.place)).Nodup := by
  cases rs with
  | nil => exact List.nodup_nil
  | cons r rs =>
      cases rs with
      | nil => exact hstep r
      | cons r' rs => exact (nodup_firstPerPlace [] _).1

theorem nodup_advanceBy (n : ℕ) (hrs : (rs.map (·.place)).Nodup) :
    ((advanceBy step n rs).map (·.place)).Nodup := by
  induction n generalizing rs with
  | zero => exact hrs
  | succ n ih =>
      rw [advanceBy]
      split
      · exact List.nodup_nil
      · exact ih (nodup_advance hstep rs)

/-- The layers after the first one reach distinct places, none of which was reached before. -/
theorem nodup_layers (n : ℕ) (seen : List ℕ) (rs : List Reached) :
    ∃ later, layers step n seen rs = rs :: later ∧ (later.flatten.map (·.place)).Nodup ∧
      ∀ r ∈ later.flatten, r.place ∉ seen := by
  induction n generalizing seen rs with
  | zero => exact ⟨[], rfl, List.nodup_nil, fun _ h => nomatch h⟩
  | succ n ih =>
      rw [layers]
      split
      · exact ⟨[], rfl, List.nodup_nil, fun _ h => nomatch h⟩
      · generalize hnext : (advance step rs).filter (fun r => !seen.contains r.place) = next
        obtain ⟨later, hlayers, hnodup, hnew⟩ := ih (next.map (·.place) ++ seen) next
        have hnextNew : ∀ r ∈ next, r.place ∉ seen := by
          intro r hr
          rw [← hnext] at hr
          simpa using (List.mem_filter.1 hr).2
        have hnextNodup : (next.map (·.place)).Nodup :=
          hnext ▸ (nodup_advance hstep rs).sublist (List.filter_sublist.map _)
        refine ⟨next :: later, congrArg _ hlayers, ?_, fun r hr => ?_⟩
        · rw [List.flatten_cons, List.map_append, List.nodup_append']
          refine ⟨hnextNodup, hnodup, fun n hn hlater => ?_⟩
          obtain ⟨r, hr, rfl⟩ := List.mem_map.1 hlater
          exact hnew r hr (List.mem_append_left _ hn)
        · obtain hr | hr := List.mem_append.1 hr
          · exact hnextNew r hr
          · exact fun hseen => hnew r hr (List.mem_append_right _ hseen)

theorem nodup_upTo (n : ℕ) (greedy : Bool) (hrs : (rs.map (·.place)).Nodup) :
    ((upTo step n greedy rs).map (·.place)).Nodup := by
  obtain ⟨later, hlayers, hnodup, hnew⟩ := nodup_layers hstep n (rs.map (·.place)) rs
  have hall : ((layers step n (rs.map (·.place)) rs).flatten.map (·.place)).Nodup := by
    rw [hlayers, List.flatten_cons, List.map_append, List.nodup_append']
    refine ⟨hrs, hnodup, fun n hn hlater => ?_⟩
    obtain ⟨r, hr, rfl⟩ := List.mem_map.1 hlater
    exact hnew r hr hn
  unfold upTo
  cases greedy with
  | true => exact ((List.reverse_perm _).flatten.map _).nodup_iff.2 hall
  | false => exact hall

end Nodup

/-- **No place is listed twice.** -/
theorem nodup_ends (p : Pattern) (r : Reached) : ((p.ends text r).map (·.place)).Nodup := by
  have hone : ∀ (c : Bool) (r : Reached),
      ((if c = true then [r] else []).map (·.place)).Nodup := by
    intro c r
    cases c with
    | false => exact List.nodup_nil
    | true => exact List.nodup_singleton _
  induction p generalizing r with
  | empty => exact List.nodup_singleton _
  | chars s =>
      rw [ends]
      split
      · exact hone _ _
      · exact List.nodup_nil
  | anchor a word => exact hone _ _
  | seq p q ihp ihq => exact nodup_advance ihq _
  | alt p q ihp ihq => exact (nodup_firstPerPlace [] _).1
  | times p least most greedy ih =>
      exact nodup_upTo ih _ greedy (nodup_advanceBy ih least (List.nodup_singleton _))
  | group index p ih =>
      rw [ends, List.map_map]
      exact ih r

/-! ### Nesting -/

/-- Where steps do not list a place twice, taking one from each of several matches keeps the first
match that reaches each place. -/
theorem advance_eq (hstep : ∀ r, ((step r).map (·.place)).Nodup) (rs : List Reached) :
    advance step rs = firstPerPlace [] (rs.flatMap step) := by
  cases rs with
  | nil => rfl
  | cons r rs =>
      cases rs with
      | nil =>
          rw [List.flatMap_singleton, firstPerPlace_eq_self (hstep r) fun _ _ => List.not_mem_nil]
          rfl
      | cons r' rs => rfl

/-- What is kept of a list that has been thinned out is what is kept of the whole list. -/
theorem firstPerPlace_firstPerPlace (h : ∀ n ∈ seen', n ∈ seen) (rs : List Reached) :
    firstPerPlace seen (firstPerPlace seen' rs) = firstPerPlace seen rs := by
  induction rs generalizing seen seen' with
  | nil => rfl
  | cons r rs ih =>
      by_cases hr' : r.place ∈ seen'
      · rw [firstPerPlace_cons_of_mem hr', firstPerPlace_cons_of_mem (h _ hr'), ih h]
      · rw [firstPerPlace_cons_of_notMem hr']
        by_cases hr : r.place ∈ seen
        · rw [firstPerPlace_cons_of_mem hr, firstPerPlace_cons_of_mem hr,
            ih (List.forall_mem_cons.2 ⟨hr, h⟩)]
        · rw [firstPerPlace_cons_of_notMem hr, firstPerPlace_cons_of_notMem hr,
            ih fun n hn => List.mem_cons.2 ((List.mem_cons.1 hn).imp_right (h n))]

/-- Every place that a list reaches is kept once. -/
theorem mem_places_firstPerPlace (seen : List ℕ) (rs : List Reached) :
    n ∈ (firstPerPlace seen rs).map (·.place) ++ seen ↔ n ∈ rs.map (·.place) ++ seen := by
  induction rs generalizing seen with
  | nil => rfl
  | cons r rs ih =>
      by_cases hr : r.place ∈ seen
      · rw [firstPerPlace_cons_of_mem hr, ih]
        grind
      · rw [firstPerPlace_cons_of_notMem hr]
        have hplaces := ih (r.place :: seen)
        grind

/-- Each step may keep the first match that reaches each place. -/
theorem firstPerPlace_flatMap_firstPerPlace (seen : List ℕ) (rs : List Reached) :
    firstPerPlace seen (rs.flatMap fun r => firstPerPlace [] (g r)) =
      firstPerPlace seen (rs.flatMap g) := by
  induction rs generalizing seen with
  | nil => rfl
  | cons r rs ih =>
      rw [List.flatMap_cons, List.flatMap_cons, firstPerPlace_append, firstPerPlace_append, ih,
        firstPerPlace_firstPerPlace fun _ h => absurd h List.not_mem_nil]
      refine congrArg _ (firstPerPlace_congr (fun n => ?_) _)
      have hplaces := mem_places_firstPerPlace (n := n) [] (g r)
      grind

/-- If where steps lead depends on the place alone, then of the matches that the next steps are
taken from those may be dropped that reach a place again. -/
theorem firstPerPlace_flatMap (hg : ∀ r r', r.place = r'.place →
      (g r).map (·.place) = (g r').map (·.place))
    (hseen : ∀ r, r.place ∈ seen' → ∀ e ∈ g r, e.place ∈ seen) (rs : List Reached) :
    firstPerPlace seen ((firstPerPlace seen' rs).flatMap g) =
      firstPerPlace seen (rs.flatMap g) := by
  induction rs generalizing seen seen' with
  | nil => rfl
  | cons r rs ih =>
      rw [List.flatMap_cons, firstPerPlace_append]
      by_cases hr : r.place ∈ seen'
      · -- what `r` leads to has been reached, so nothing of it is kept
        have hall := hseen r hr
        have hnone : firstPerPlace seen (g r) = [] := by
          refine List.eq_nil_iff_forall_not_mem.2 fun e he => ?_
          exact (nodup_firstPerPlace seen (g r)).2 e he (hall e (mem_of_mem_firstPerPlace he))
        rw [firstPerPlace_cons_of_mem hr, ih hseen, hnone, List.nil_append]
        exact firstPerPlace_congr (fun n => by grind) _
      · rw [firstPerPlace_cons_of_notMem hr, List.flatMap_cons, firstPerPlace_append, ih]
        intro r' hr' e he
        obtain hr' | hr' := List.mem_cons.1 hr'
        · refine List.mem_append_left _ ?_
          rw [← hg r' r hr']
          exact List.mem_map_of_mem he
        · exact List.mem_append_right _ (hseen r' hr' e he)

/-- **Rows may be nested** to either side. -/
theorem ends_seq_assoc (p q q' : Pattern) :
    ends text (.seq (.seq p q) q') = ends text (.seq p (.seq q q')) := by
  funext r
  have hq : ∀ r, ends text (.seq q q') r =
      firstPerPlace [] ((q.ends text r).flatMap (q'.ends text)) :=
    fun r => advance_eq (nodup_ends q') _
  have hplaces : ∀ r r' : Reached, r.place = r'.place →
      (q'.ends text r).map (·.place) = (q'.ends text r').map (·.place) :=
    fun _ _ => places_ends q'
  rw [ends, ends, advance_eq (nodup_ends q'), advance_eq (nodup_ends q),
    firstPerPlace_flatMap hplaces (fun _ h => absurd h List.not_mem_nil), List.flatMap_assoc, ends,
    advance_eq (nodup_ends _), funext hq, firstPerPlace_flatMap_firstPerPlace]

/-- `p` and then `q`, where what `p` is a row of is not nested deeper. -/
def before : (p q : Pattern) → Pattern
  | .seq p p', q => .seq p (p'.before q)
  | p, q => .seq p q

/-- The pattern with its rows nested to the right. -/
def flat : Pattern → Pattern
  | .empty => .empty
  | .chars s => .chars s
  | .anchor a word => .anchor a word
  | .seq p q => p.flat.before q.flat
  | .alt p q => .alt p.flat q.flat
  | .times p least most greedy => .times p.flat least most greedy
  | .group index p => .group index p.flat

theorem ends_before (p q : Pattern) : (p.before q).ends text = ends text (.seq p q) := by
  induction p with
  | seq p p' ihp ihp' =>
      rw [before, ends_seq_assoc]
      funext r
      rw [ends, ends, ihp']
  | _ => rfl

/-- **The nesting of rows** makes no difference to a match. -/
theorem ends_flat (p : Pattern) : p.flat.ends text = p.ends text := by
  induction p with
  | empty | chars | anchor => rfl
  | seq p q ihp ihq =>
      funext r
      rw [flat, ends_before, ends, ends, ihp, ihq]
  | alt p q ihp ihq =>
      funext r
      rw [flat, ends, ends, ihp, ihq]
  | times p least most greedy ih =>
      funext r
      cases most with
      | none => rw [flat, ends, ends, ih]
      | some n => rw [flat, ends, ends, ih]
  | group index p ih =>
      funext r
      rw [flat, ends, ends, ih]

theorem match?_flat (p : Pattern) (text : Array Char) : p.flat.match? text = p.match? text := by
  rw [match?, match?, ends_flat]

theorem match?_renumber (f : ℕ → ℕ) (p : Pattern) (text : Array Char) :
    (p.renumber f).match? text = (p.match? text).map (Reached.renumber f []) := by
  have hstart : ∀ i, ((p.renumber f).ends text { place := i }).head? =
      ((p.ends text { place := i }).head?).map (Reached.renumber f []) := by
    intro i
    rw [← List.head?_map, ← ends_renumber]
    rfl
  rw [match?, match?, List.map_findSome?, funext hstart]
  rfl

end Pattern
end DocExamples
