/-
# The comment of a declaration

The comment of a declaration is the run of comments that ends at the nearest line above it that is
not blank. If that line is no comment, or there is none, it is the comment right below the
declaration (`CommentedBy`). This determines the comment, and it is the one that the scan attaches
(`commentedBy_iff`). What is a comment and what is its text is up to `CommentOf`. So nothing counts
beyond a line that is no comment and has something below it (`attachedComment?_append`).
-/

import DocExamples.Proofs.Scan.CommentLine
import DocExamples.Scan.Heuristic
import DocExamples.Text.Lines
import Mathlib.Data.List.DropRight

namespace DocExamples
namespace Scan

variable {α : Type} {p : α → Bool} {l before after : List α} {lines : List String}
  {line : String} {i : ℕ} {c : Option String}

/-- Whether `c` is the comment of the line at `i`. -/
inductive CommentedBy (lines : List String) (i : ℕ) : Option String → Prop
  /-- The longest run of comments that only blank lines separate from the line at `i`. The last of
  them is the nearest line above that is not blank. -/
  | above {before run gap : List String} (hsplit : lines.take i = before ++ run ++ gap)
      (hgap : ∀ line ∈ gap, isBlankLine line = true) (hne : run ≠ [])
      (hrun : ∀ line ∈ run, (commentText? line).isSome = true)
      (hlongest : ∀ line ∈ before.getLast?, commentText? line = none) :
      CommentedBy lines i (some (Text.joinLines (run.filterMap commentText?)))
  /-- The line right below, if it is a comment, where the nearest line above that is not blank is
  none or is missing. -/
  | below {before gap : List String} (hsplit : lines.take i = before ++ gap)
      (hgap : ∀ line ∈ gap, isBlankLine line = true)
      (hcode : ∀ line ∈ before.getLast?, isBlankLine line = false ∧ commentText? line = none) :
      CommentedBy lines i (lines[i + 1]?.bind commentText?)

/-! ### Splitting at the end -/

/-- What a list ends in, if it is the longest end of its sort. -/
theorem rtakeWhile_append (hafter : ∀ a ∈ after, p a = true)
    (hbefore : ∀ a ∈ before.getLast?, p a = false) : (before ++ after).rtakeWhile p = after := by
  have hnil : before.reverse.takeWhile p = [] := by
    cases hlast : before.reverse with
    | nil => rfl
    | cons a rest =>
        refine List.takeWhile_cons_of_neg ?_
        rw [hbefore a (by rw [List.getLast?_eq_head?_reverse, hlast]; rfl)]
        exact Bool.false_ne_true
  rw [List.rtakeWhile, List.reverse_append,
    List.takeWhile_append_of_pos fun a ha => hafter a (List.mem_reverse.1 ha), hnil,
    List.append_nil, List.reverse_reverse]

/-- What comes before the longest end of a sort. -/
theorem rdropWhile_append (hafter : ∀ a ∈ after, p a = true)
    (hbefore : ∀ a ∈ before.getLast?, p a = false) : (before ++ after).rdropWhile p = before := by
  have hsplit := List.rdropWhile_append_rtakeWhile (p := p) (l := before ++ after)
  rw [rtakeWhile_append hafter hbefore] at hsplit
  exact List.append_cancel_right hsplit

/-- The longest end of a sort is not followed by more of it. -/
theorem eq_false_of_mem_getLast?_rdropWhile (l : List α) :
    ∀ a ∈ (l.rdropWhile p).getLast?, p a = false := by
  intro a ha
  have hne : l.rdropWhile p ≠ [] := by
    rintro hnil
    rw [hnil] at ha
    cases ha
  obtain rfl : (l.rdropWhile p).getLast hne = a :=
    Option.some.inj ((List.getLast?_eq_some_getLast hne).symm.trans ha)
  simpa using List.rdropWhile_last_not p l hne

/-! ### The comment that is attached -/

/-- A comment is not blank. -/
theorem isBlankLine_of_commentText? (h : (commentText? line).isSome = true) :
    isBlankLine line = false := by
  obtain ⟨rest, hrest⟩ := isSome_commentText?_iff.1 h
  by_contra hblank
  have hall : ∀ c ∈ line.toList, Text.isBlank c = true := by simpa [isBlankLine] using hblank
  have htrim : Text.trimLeft line.toList = [] := List.dropWhile_eq_nil_iff.2 hall
  rw [Text.trim, htrim] at hrest
  cases hrest

/-- The comment is looked for at the end of what is above the line without the blank lines. -/
theorem attachedComment?_eq (lines : List String) (i : ℕ) : attachedComment? lines i =
    let run := ((lines.take i).rdropWhile isBlankLine).rtakeWhile fun line =>
      (commentText? line).isSome
    if run = [] then lines[i + 1]?.bind commentText?
    else some (Text.joinLines (run.filterMap commentText?)) := by
  rw [attachedComment?]
  simp only [List.takeWhile_map, List.rdropWhile, List.rtakeWhile, List.reverse_reverse,
    List.isEmpty_iff, List.map_eq_nil_iff, List.reverse_eq_nil_iff, ← List.map_reverse,
    List.filterMap_map, Function.comp_def, Text.joinLines]
  rfl

/-- **What the scan attaches** is the comment of the line. -/
theorem CommentedBy.eq (h : CommentedBy lines i c) : attachedComment? lines i = c := by
  rw [attachedComment?_eq]
  cases h with
  | @above before run gap hsplit hgap hne hrun hlongest =>
      have hlast : ∀ line ∈ (before ++ run).getLast?, isBlankLine line = false := by
        intro line hline
        rw [List.getLast?_append_of_ne_nil _ hne] at hline
        exact isBlankLine_of_commentText? (hrun line (List.mem_of_getLast? hline))
      have hbefore : ∀ line ∈ before.getLast?, (commentText? line).isSome = false := by
        intro line hline
        rw [hlongest line hline]
        rfl
      simp only [hsplit, rdropWhile_append hgap hlast, rtakeWhile_append hrun hbefore]
      rw [if_neg hne]
  | @below before gap hsplit hgap hcode =>
      have hlast : ∀ line ∈ before.getLast?, isBlankLine line = false := fun line hline =>
        (hcode line hline).1
      have hnone : before.rtakeWhile (fun line => (commentText? line).isSome) = [] := by
        rw [← List.append_nil before]
        refine rtakeWhile_append (fun line hline => nomatch hline) fun line hline => ?_
        rw [(hcode line hline).2]
        rfl
      simp only [hsplit, rdropWhile_append hgap hlast, hnone]
      rw [if_pos trivial]

theorem exists_commentedBy (lines : List String) (i : ℕ) : ∃ c, CommentedBy lines i c := by
  have hgap : (lines.take i).rdropWhile isBlankLine ++ (lines.take i).rtakeWhile isBlankLine =
      lines.take i := List.rdropWhile_append_rtakeWhile
  have hblank : ∀ line ∈ (lines.take i).rtakeWhile isBlankLine, isBlankLine line = true :=
    fun line hline => List.mem_rtakeWhile_imp hline
  have hlast := eq_false_of_mem_getLast?_rdropWhile (p := isBlankLine) (lines.take i)
  generalize (lines.take i).rdropWhile isBlankLine = top at hgap hlast
  have hrun : top.rdropWhile (fun line => (commentText? line).isSome) ++
      top.rtakeWhile (fun line => (commentText? line).isSome) = top :=
    List.rdropWhile_append_rtakeWhile
  have hlongest := eq_false_of_mem_getLast?_rdropWhile
    (p := fun line => (commentText? line).isSome) top
  by_cases hne : top.rtakeWhile (fun line => (commentText? line).isSome) = []
  · rw [hne, List.append_nil] at hrun
    rw [hrun] at hlongest
    exact ⟨_, .below hgap.symm hblank fun line hline =>
      ⟨hlast line hline, by simpa using hlongest line hline⟩⟩
  · rw [← hrun] at hgap
    have hcomments : ∀ line ∈ top.rtakeWhile (fun line => (commentText? line).isSome),
        (commentText? line).isSome = true := fun line hline =>
      List.mem_rtakeWhile_imp (p := fun line => (commentText? line).isSome) hline
    exact ⟨_, .above hgap.symm hblank hne hcomments fun line hline => by
      simpa using hlongest line hline⟩

/-- **Every line has one comment**, or one lack of a comment: what the scan attaches. -/
theorem commentedBy_iff : CommentedBy lines i c ↔ attachedComment? lines i = c := by
  refine ⟨CommentedBy.eq, ?_⟩
  rintro rfl
  obtain ⟨c, hc⟩ := exists_commentedBy lines i
  exact hc.eq ▸ hc

/-- **Nothing counts beyond a line** that is no comment, if that line or one between it and the
declaration is not blank. -/
theorem attachedComment?_append {stop : String} (hstop : commentText? stop = none)
    (before rest : List String) {n : ℕ}
    (hline : ∃ line ∈ stop :: rest.take n, isBlankLine line = false) :
    attachedComment? (before ++ stop :: rest) (before.length + (n + 1)) =
      attachedComment? (stop :: rest) (n + 1) := by
  obtain ⟨c, hc⟩ := exists_commentedBy (stop :: rest) (n + 1)
  rw [hc.eq]
  have htake : (before ++ stop :: rest).take (before.length + (n + 1)) =
      before ++ (stop :: rest).take (n + 1) := List.take_length_add_append _
  refine CommentedBy.eq ?_
  cases hc with
  | @above before' run gap hsplit hgap hne hrun hlongest =>
      have hall : (before ++ stop :: rest).take (before.length + (n + 1)) =
          (before ++ before') ++ run ++ gap := by
        rw [htake, hsplit]
        simp
      refine .above hall hgap hne hrun ?_
      -- the run does not reach back over the line that is no comment
      have hbefore' : before' ≠ [] := by
        rintro rfl
        obtain ⟨first, run, rfl⟩ := List.exists_cons_of_ne_nil hne
        have hfirst : stop = first := (List.cons.inj hsplit).1
        have hcomment := hrun first List.mem_cons_self
        rw [← hfirst, hstop] at hcomment
        cases hcomment
      rwa [List.getLast?_append_of_ne_nil _ hbefore']
  | @below before' gap hsplit hgap hcode =>
      have hall : (before ++ stop :: rest).take (before.length + (n + 1)) =
          (before ++ before') ++ gap := by
        rw [htake, hsplit, List.append_assoc]
      have hnext : (stop :: rest)[n + 1 + 1]? =
          (before ++ stop :: rest)[before.length + (n + 1) + 1]? := by
        rw [List.getElem?_append_right (by omega)]
        congr 1
        omega
      rw [hnext]
      refine .below hall hgap ?_
      have hbefore' : before' ≠ [] := by
        rintro rfl
        obtain ⟨line, hmem, hblank⟩ := hline
        rw [hgap line (by rw [List.nil_append] at hsplit; exact hsplit ▸ hmem)] at hblank
        cases hblank
      rwa [List.getLast?_append_of_ne_nil _ hbefore']

/-- **The comments of declarations.** The declarations of a file are those of its lines that declare
something, each with the comment of its line. That is the run of comments above that ends at the
nearest line that is not blank, joined by line feeds, or the comment right below if that line is no
comment or missing; a line has one comment or none. It does not change if lines are put before a
line that is no comment, unless all is blank from there to the declaration. A comment is a line that
starts with one of the comment markers once it is trimmed, and its text is what follows the longest
one that fits, trimmed; a blank line has blanks only. -/
theorem heuristic_commentedBy (file : String) (lines : List String) :
    (∀ d, d ∈ heuristic file lines ↔ ∃ i line m, lines[i]? = some line ∧
      matchLine? line = some m ∧ CommentedBy lines i d.comment ∧
      d = { name := m.name, kind := m.kind, location := ⟨file, .ofNat (i + 1), m.column⟩,
            comment := d.comment }) ∧
    (∀ i, ∃! c, CommentedBy lines i c) ∧
    (∀ stop, commentText? stop = none → ∀ before n,
      (∃ line ∈ stop :: lines.take n, isBlankLine line = false) →
      ∀ c, CommentedBy (before ++ stop :: lines) (before.length + (n + 1)) c ↔
        CommentedBy (stop :: lines) (n + 1) c) ∧
    (∀ line text, commentText? line = some text ↔ CommentOf line.toList text.toList) ∧
    ∀ line, isBlankLine line = true ↔ ∀ c ∈ line.toList, Text.isBlank c = true := by
  refine ⟨fun d => ?_, fun i => ?_, fun stop hstop before n hline c => ?_,
    fun _ _ => commentText?_eq_some_iff, fun line => List.all_eq_true⟩
  · simp only [heuristic, List.mem_filterMap, Prod.exists, List.mem_zipIdx_iff_getElem?,
      Option.map_eq_some_iff, commentedBy_iff]
    constructor
    · rintro ⟨line, i, hline, m, hm, rfl⟩
      exact ⟨i, line, m, hline, hm, rfl, rfl⟩
    · rintro ⟨i, line, m, hline, hm, hc, hd⟩
      exact ⟨line, i, hline, m, hm, by rw [hc, ← hd]⟩
  · obtain ⟨c, hc⟩ := exists_commentedBy lines i
    exact ⟨c, hc, fun c' hc' => hc'.eq.symm.trans hc.eq⟩
  · rw [commentedBy_iff, commentedBy_iff, attachedComment?_append hstop before lines hline]

/-- Blank lines are skipped below the run and end it above, and an empty comment is a line of it. -/
theorem heuristic_commentedBy_empty_line :
    let lines := ["// far", "", "//", "/// near", " ", "int f();", "// below"]
    CommentedBy lines 5 (some "\nnear") ∧
      { name := "f", kind := .function, location := ⟨"a.c", 6, 5⟩, comment := some "\nnear" } ∈
        heuristic "a.c" lines := by
  intro lines
  have hcomment : CommentedBy lines 5 (some "\nnear") := commentedBy_iff.2 (by decide)
  have hmatch : matchLine? "int f();" = some ⟨"f", .function, 5⟩ := by decide +kernel
  obtain ⟨hmem, -⟩ := heuristic_commentedBy "a.c" lines
  exact ⟨hcomment, (hmem _).2 ⟨5, "int f();", _, rfl, hmatch, hcomment, rfl⟩⟩

end Scan
end DocExamples
