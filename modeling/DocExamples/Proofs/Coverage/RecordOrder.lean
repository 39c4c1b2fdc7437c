/-
# The order of the records in a block

Records that are about different things can be put in any order (`OneEach.findSomeRev?_eq`), with
one exception: a function that has been called already is known, and an `FN:` that comes then is too
late to give it a line (`OneEach.findSome?_start?`). So two orders of the same records say the same
exactly if they agree on which functions are placed before their calls (`read_reordered`).
-/

import DocExamples.Proofs.Coverage.Records
import Mathlib.Data.List.Nodup
import Mathlib.Data.List.Pairwise

namespace DocExamples

theorem FileCoverage.eq_of_fields {f f' : FileCoverage} (hpath : f.path = f'.path)
    (hlines : f.lines = f'.lines) (hbranches : f.branches = f'.branches)
    (hfunctions : f.functions = f'.functions) : f = f' := by
  cases f
  cases f'
  simp_all

namespace Tracefile

/-- Whether no two records are about the same. -/
def OneEach (es : List Entry) : Prop := (es.filterMap Entry.topic?).Nodup

/-- Whether a record comes before another one. -/
def Before (es : List Entry) (e e' : Entry) : Prop := es.idxOf e < es.idxOf e'

instance (es : List Entry) : Decidable (OneEach es) := inferInstanceAs (Decidable (List.Nodup _))

instance (es : List Entry) (e e' : Entry) : Decidable (Before es e e') :=
  inferInstanceAs (Decidable (_ < _))

variable {α : Type} {es es' : List Entry} {e e' : Entry} {g : Entry → Option α} {v : α} {t : Topic}
  {name : String} {n : UInt32} {hits c : UInt64}

theorem OneEach.of_perm (h : OneEach es) (hperm : es.Perm es') : OneEach es' :=
  (hperm.filterMap Entry.topic?).nodup_iff.1 h

theorem OneEach.eq (h : OneEach es) (he : e ∈ es) (he' : e' ∈ es) (ht : e.topic? = some t)
    (ht' : e'.topic? = some t) : e = e' := by
  rw [OneEach, List.Nodup, List.pairwise_filterMap] at h
  have hsymm : Std.Symm fun a b : Entry =>
      ∀ t, a.topic? = some t → ∀ t', b.topic? = some t' → t ≠ t' :=
    ⟨fun _ _ hne t ht t' ht' => (hne t' ht' t ht).symm⟩
  by_contra hne
  exact h.forall he he' hne t ht t ht' rfl

namespace OneEach

/-! ### Records of one topic -/

theorem findSome?_eq_some_iff (h : OneEach es)
    (hg : ∀ e ∈ es, ∀ v, g e = some v → e.topic? = some t) :
    es.findSome? g = some v ↔ ∃ e ∈ es, g e = some v := by
  refine ⟨List.exists_of_findSome?_eq_some, fun ⟨e, he, hv⟩ => ?_⟩
  have hsome : (es.findSome? g).isSome :=
    List.findSome?_isSome_iff.2 ⟨e, he, by rw [hv]; rfl⟩
  obtain ⟨w, hw⟩ := Option.isSome_iff_exists.1 hsome
  obtain ⟨e', he', hw'⟩ := List.exists_of_findSome?_eq_some hw
  obtain rfl := h.eq he he' (hg e he v hv) (hg e' he' w hw')
  rw [hw, ← hw', hv]

/-- **The first record about something** stays the first one in any order. -/
theorem findSome?_eq (h : OneEach es) (hperm : es.Perm es')
    (hg : ∀ e ∈ es, ∀ v, g e = some v → e.topic? = some t) : es.findSome? g = es'.findSome? g := by
  have hg' : ∀ e ∈ es', ∀ v, g e = some v → e.topic? = some t := fun e he =>
    hg e (hperm.mem_iff.2 he)
  refine Option.ext fun v => ?_
  rw [h.findSome?_eq_some_iff hg, (h.of_perm hperm).findSome?_eq_some_iff hg']
  exact exists_congr fun e => and_congr_left fun _ => hperm.mem_iff

theorem findSomeRev?_count?_eq_some_iff (h : OneEach es) :
    es.findSomeRev? (Entry.count? t) = some c ↔ ∃ e ∈ es, e.count? t = some c := by
  have hreverse : OneEach es.reverse := h.of_perm (List.reverse_perm es).symm
  rw [List.findSomeRev?_eq_findSome?_reverse,
    hreverse.findSome?_eq_some_iff fun e _ _ => Entry.topic?_of_count?]
  simp only [List.mem_reverse]

/-- **The count of something** is the same in any order. -/
theorem findSomeRev?_count?_eq (h : OneEach es) (hperm : es.Perm es') (t : Topic) :
    es.findSomeRev? (Entry.count? t) = es'.findSomeRev? (Entry.count? t) := by
  refine Option.ext fun c => ?_
  rw [h.findSomeRev?_count?_eq_some_iff, (h.of_perm hperm).findSomeRev?_count?_eq_some_iff]
  exact exists_congr fun e => and_congr_left fun _ => hperm.mem_iff

/-! ### Functions -/

/-- The line of a function that has both records is known only if it comes first. -/
theorem findSome?_start? (h : OneEach es) (hplace : .function n name ∈ es)
    (hcalls : .calls hits name ∈ es) : es.findSome? (Entry.start? name) =
      some (if Before es (.function n name) (.calls hits name) then n else 0) := by
  induction es with
  | nil => cases hplace
  | cons e es ih =>
      by_cases hfirst : e = .function n name
      · subst hfirst
        simp [Entry.start?, Before]
      by_cases hlate : e = .calls hits name
      · subst hlate
        simp [Entry.start?, Before]
      have hother : e.start? name = none := by
        refine Option.eq_none_iff_forall_ne_some.2 fun v hv => ?_
        obtain ⟨m, rfl⟩ | ⟨m, rfl⟩ := Entry.eq_of_start? hv
        · exact hfirst (h.eq List.mem_cons_self hplace rfl rfl)
        · exact hlate (h.eq List.mem_cons_self hcalls rfl rfl)
      have htail : OneEach es := h.sublist ((List.sublist_cons_self e es).filterMap _)
      have hbefore : Before (e :: es) (.function n name) (.calls hits name) ↔
          Before es (.function n name) (.calls hits name) := by
        rw [Before, Before, List.idxOf_cons_ne _ hfirst, List.idxOf_cons_ne _ hlate,
          Nat.succ_lt_succ_iff]
      rw [List.findSome?_cons, hother, ih htail (List.mem_of_ne_of_mem (Ne.symm hfirst) hplace)
        (List.mem_of_ne_of_mem (Ne.symm hlate) hcalls), if_congr hbefore rfl rfl]

/-- **The first record about a function** gives the same line in any order in which it is placed
before its calls as often as in the other one. -/
theorem findSome?_start?_eq (h : OneEach es) (hperm : es.Perm es')
    (hplaced : ∀ n hits, n ≠ 0 → .function n name ∈ es → .calls hits name ∈ es →
      (Before es (.function n name) (.calls hits name) ↔
        Before es' (.function n name) (.calls hits name))) :
    es.findSome? (Entry.start? name) = es'.findSome? (Entry.start? name) := by
  by_cases hplace : ∃ n, .function n name ∈ es
  · obtain ⟨n, hplace⟩ := hplace
    by_cases hcalls : ∃ hits, .calls hits name ∈ es
    · obtain ⟨hits, hcalls⟩ := hcalls
      rw [h.findSome?_start? hplace hcalls, (h.of_perm hperm).findSome?_start?
        (hperm.mem_iff.1 hplace) (hperm.mem_iff.1 hcalls)]
      by_cases hn : n = 0
      · simp [hn]
      · rw [if_congr (hplaced n hits hn hplace hcalls) rfl rfl]
    · refine h.findSome?_eq hperm (t := .place name) fun e he v hv => ?_
      obtain ⟨m, rfl⟩ | ⟨m, rfl⟩ := Entry.eq_of_start? hv
      · rfl
      · exact absurd ⟨m, he⟩ hcalls
  · refine h.findSome?_eq hperm (t := .calls name) fun e he v hv => ?_
    obtain ⟨m, rfl⟩ | ⟨m, rfl⟩ := Entry.eq_of_start? hv
    · exact absurd ⟨m, he⟩ hplace
    · rfl

end OneEach

/-! ### Blocks -/

namespace Block

variable {b b' : Block}

theorem lines_of_perm (h : OneEach b.entries) (hperm : b.entries.Perm b'.entries) :
    b.coverage.lines = b'.coverage.lines := by
  refine Std.ExtTreeMap.ext_getElem? fun n => ?_
  rw [lines_coverage, lines_coverage, h.findSomeRev?_count?_eq hperm]

theorem branches_of_perm (h : OneEach b.entries) (hperm : b.entries.Perm b'.entries) :
    b.coverage.branches = b'.coverage.branches := by
  refine Std.ExtTreeMap.ext_getElem? fun id => ?_
  rw [branches_coverage, branches_coverage, h.findSomeRev?_count?_eq hperm]

/-- The calls of a function, and whether there were any, are the same in any order. -/
theorem calls_of_perm (h : OneEach b.entries) (hperm : b.entries.Perm b'.entries) (name : String) :
    (b.coverage.functions[name]?).map (fun fn => (fn.executed, fn.hits)) =
      (b'.coverage.functions[name]?).map fun fn => (fn.executed, fn.hits) := by
  have hknown : (b.entries.findSome? (Entry.start? name)).isSome =
      (b'.entries.findSome? (Entry.start? name)).isSome := by
    rw [Bool.eq_iff_iff, List.findSome?_isSome_iff, List.findSome?_isSome_iff]
    exact exists_congr fun e => and_congr_left fun _ => hperm.mem_iff
  rw [functions_coverage, functions_coverage, h.findSomeRev?_count?_eq hperm]
  revert hknown
  cases b.entries.findSome? (Entry.start? name) <;>
    cases b'.entries.findSome? (Entry.start? name) <;> simp [FunctionHits.ofHits]

/-- **A function with both records** has the line of the one if it comes before the other one. -/
theorem functions_of_mem (h : OneEach b.entries) (hplace : .function n name ∈ b.entries)
    (hcalls : .calls hits name ∈ b.entries) : b.coverage.functions[name]? =
      some (.ofHits (if Before b.entries (.function n name) (.calls hits name) then n else 0)
        hits) := by
  have hlast : b.entries.findSomeRev? (Entry.count? (.calls name)) = some hits :=
    h.findSomeRev?_count?_eq_some_iff.2 ⟨_, hcalls, if_pos rfl⟩
  rw [functions_coverage, h.findSome?_start? hplace hcalls, hlast]
  rfl

/-- **Two orders of the same records** say the same exactly if the same functions are placed before
their calls. -/
theorem coverage_eq_iff (hpath : b.path = b'.path) (h : OneEach b.entries)
    (hperm : b.entries.Perm b'.entries) : b.coverage = b'.coverage ↔
      ∀ n hits name, n ≠ 0 → .function n name ∈ b.entries → .calls hits name ∈ b.entries →
        (Before b.entries (.function n name) (.calls hits name) ↔
          Before b'.entries (.function n name) (.calls hits name)) := by
  constructor
  · intro heq n hits name hn hplace hcalls
    have hfunction := functions_of_mem h hplace hcalls
    rw [heq, functions_of_mem (h.of_perm hperm) (hperm.mem_iff.1 hplace) (hperm.mem_iff.1 hcalls)]
      at hfunction
    have hline := congrArg FunctionHits.line (Option.some.inj hfunction)
    simp only [FunctionHits.ofHits] at hline
    split_ifs at hline with hbefore' hbefore hbefore <;> simp_all
  · intro horder
    have hfunctions : b.coverage.functions = b'.coverage.functions := by
      refine Std.ExtTreeMap.ext_getElem? fun name => ?_
      rw [functions_coverage, functions_coverage, h.findSomeRev?_count?_eq hperm,
        h.findSome?_start?_eq hperm fun n hits hn hplace hcalls =>
          horder n hits name hn hplace hcalls]
    have hpaths : b.coverage.path = b'.coverage.path := by
      rw [path_coverage, path_coverage, hpath]
    exact FileCoverage.eq_of_fields hpaths (lines_of_perm h hperm) (branches_of_perm h hperm)
      hfunctions

end Block

/-- **The order of the records in a block.** Let the last blocks of a file in two texts have the
same records in any two orders, no two of them about the same. Then the file has the same lines,
branches and functions, called equally often, in both. A function with both records has the line
that its `FN:` states if that comes before its `FNDA:`, and line zero otherwise. So both texts say
the same of the file exactly if all functions that are placed on a line are placed before their
calls in both or in none of them. -/
theorem read_reordered {t t' path : String} {b b' : Block} (hb : lastBlock? t path = some b)
    (hb' : lastBlock? t' path = some b') (h : OneEach b.entries)
    (hperm : b.entries.Perm b'.entries) :
    ∃ f f', (read t)[path]? = some f ∧ (read t')[path]? = some f' ∧
      f.lines = f'.lines ∧ f.branches = f'.branches ∧
      (∀ name : String, (f.functions[name]?).map (fun fn => (fn.executed, fn.hits)) =
        (f'.functions[name]?).map fun fn => (fn.executed, fn.hits)) ∧
      (∀ n hits name, .function n name ∈ b.entries → .calls hits name ∈ b.entries →
        f.functions[name]? = some (.ofHits
          (if Before b.entries (.function n name) (.calls hits name) then n else 0) hits)) ∧
      (f = f' ↔ ∀ n hits name, n ≠ 0 →
        .function n name ∈ b.entries → .calls hits name ∈ b.entries →
          (Before b.entries (.function n name) (.calls hits name) ↔
            Before b'.entries (.function n name) (.calls hits name))) := by
  have hpath : b.path = b'.path := (path_of_lastBlock? hb).trans (path_of_lastBlock? hb').symm
  refine ⟨b.coverage, b'.coverage, ?_, ?_, Block.lines_of_perm h hperm,
    Block.branches_of_perm h hperm, Block.calls_of_perm h hperm,
    fun n hits name => Block.functions_of_mem h, Block.coverage_eq_iff hpath h hperm⟩
  · rw [getElem?_read, hb, Option.map_some]
  · rw [getElem?_read, hb', Option.map_some]

/-- The records of one function are apart and far from where they were, those of another function
have no line. -/
theorem read_reordered_placed_first :
    let t := "SF:a.c\nFN:3,f\nDA:3,2\nFNDA:2,f\nFNDA:1,g\nend_of_record\n"
    let t' := "SF:a.c\nFNDA:1,g\nend_of_record\nFN:3,f\nFNDA:2,f\nDA:3,2\n"
    ∃ b b', lastBlock? t "a.c" = some b ∧ lastBlock? t' "a.c" = some b' ∧ OneEach b.entries ∧
      b.entries.Perm b'.entries ∧ (read t)["a.c"]? = (read t')["a.c"]? := by
  intro t t'
  let b : Block := ⟨"a.c", ["FN:3,f".toList, "DA:3,2".toList, "FNDA:2,f".toList,
    "FNDA:1,g".toList, "end_of_record".toList]⟩
  let b' : Block := ⟨"a.c", ["FNDA:1,g".toList, "end_of_record".toList, "FN:3,f".toList,
    "FNDA:2,f".toList, "DA:3,2".toList]⟩
  have hb : lastBlock? t "a.c" = some b := by decide +kernel
  have hb' : lastBlock? t' "a.c" = some b' := by decide +kernel
  have hone : OneEach b.entries := by decide +kernel
  have hperm : b.entries.Perm b'.entries := by decide +kernel
  obtain ⟨f, f', hf, hf', -, -, -, -, heq⟩ := read_reordered hb hb' hone hperm
  refine ⟨b, b', hb, hb', hone, hperm, ?_⟩
  rw [hf, hf', heq.2]
  intro n hits name hn hplace hcalls
  have hentries : b.entries = [.function 3 "f", .line 3 2, .calls 2 "f", .calls 1 "g", .other] := by
    decide +kernel
  obtain ⟨rfl, rfl⟩ : n = 3 ∧ name = "f" := by simpa [hentries] using hplace
  obtain rfl : hits = 2 := by simpa [hentries] using hcalls
  decide +kernel

/-- **An order that loses a line.** The same two records of a function say that it is on line 3 in
one order, and nothing about its line in the other one. -/
theorem line_lost_after_calls :
    let t := "SF:a.c\nFN:3,f\nFNDA:2,f\n"
    let t' := "SF:a.c\nFNDA:2,f\nFN:3,f\n"
    ∃ b b', lastBlock? t "a.c" = some b ∧ lastBlock? t' "a.c" = some b' ∧ OneEach b.entries ∧
      b.entries.Perm b'.entries ∧ (read t)["a.c"]? ≠ (read t')["a.c"]? := by
  intro t t'
  let b : Block := ⟨"a.c", ["FN:3,f".toList, "FNDA:2,f".toList]⟩
  let b' : Block := ⟨"a.c", ["FNDA:2,f".toList, "FN:3,f".toList]⟩
  refine ⟨b, b', by decide +kernel, by decide +kernel, by decide +kernel, by decide +kernel,
    fun heq => ?_⟩
  have hlines : ((read t)["a.c"]?).map (fun f => (f.functions["f"]?).map (·.line)) ≠
      ((read t')["a.c"]?).map fun f => (f.functions["f"]?).map (·.line) := by decide +kernel
  exact hlines (by rw [heq])

end Tracefile
end DocExamples
