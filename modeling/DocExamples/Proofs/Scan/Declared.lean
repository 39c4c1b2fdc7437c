/-
# What declares nothing

Every pattern of the built-in provider asks for blanks at the start of the line and then for a body
that begins with neither a blank nor a slash (`body_canBegin`). So the body of a match begins where
the blanks of the line end, and a line whose first other character is a slash declares nothing. In
particular no comment does (`declares_nothing_of_comment`).
-/

import DocExamples.Proofs.Pattern.Match
import DocExamples.Proofs.Scan.Association
import DocExamples.Proofs.Scan.CommentLine
import DocExamples.Proofs.Unicode.Word

namespace DocExamples
namespace Text

/-- The blank characters one by one. -/
def blanks : List Char :=
  [9, 10, 11, 12, 13, 32, 133, 160, 5760, 8192, 8193, 8194, 8195, 8196, 8197, 8198, 8199, 8200,
    8201, 8202, 8232, 8233, 8239, 8287, 12288].map Char.ofNat

theorem mem_blanks_of_isBlank {c : Char} (h : isBlank c = true) : c ∈ blanks := by
  rw [← Char.ofNat_toNat c]
  refine List.mem_map_of_mem ?_
  simp only [isBlank, Bool.or_eq_true, Bool.and_eq_true, decide_eq_true_eq, beq_iff_eq] at h
  simp only [List.mem_cons]
  omega

theorem isBlank_of_mem_blanks : ∀ c ∈ blanks, isBlank c = true := List.all_eq_true.1 (by decide)

end Text

namespace Scan

variable {line : String} {text : Array Char} {i : ℕ} {m e : Reached}
  {entry : Pattern × DeclarationKind} {before : List Char} {rest : List Char}

/-! ### The patterns -/

/-- What a pattern asks for after the blanks at the start of the line. -/
def body : Pattern → Pattern
  | .seq _ q => q
  | p => p

theorem eq_seq_body : ∀ entry ∈ declarationPatterns, entry.1 = .seq indentation (body entry.1) := by
  simp only [declarationPatterns, List.forall_mem_cons]
  exact ⟨rfl, rfl, rfl, rfl, rfl, rfl, rfl, fun _ h => nomatch h⟩

/-- What may stand in front of the type that a callable returns, and the marks in that type, begin
with other characters. -/
theorem heads_canBegin {c : Char} (hc : c ∈ '/' :: Text.blanks) :
    (Pattern.seq (anyOf (["inline", "static", "constexpr", "virtual", "extern"].map literally))
        (oneOrMore .blank)).canBegin c = false ∧
      (Pattern.seq (literally "const") (oneOrMore .blank)).canBegin c = false ∧
      (CharSet.ofList [':', '<', '>']).mem c = false := by
  have hall : ('/' :: Text.blanks).all (fun c =>
      !((Pattern.seq (anyOf (["inline", "static", "constexpr", "virtual", "extern"].map literally))
          (oneOrMore .blank)).canBegin c ||
        (Pattern.seq (literally "const") (oneOrMore .blank)).canBegin c ||
        (CharSet.ofList [':', '<', '>']).mem c)) = true := by
    decide +kernel
  simpa [and_assoc] using List.all_eq_true.1 hall c hc

/-- A callable begins with a word. -/
theorem callable_canBegin {c : Char} (hc : c ∈ '/' :: Text.blanks) :
    callable.canBegin c = false := by
  obtain ⟨hheads, hconst, hmarks⟩ := heads_canBegin hc
  have hword : CharSet.word.mem c = false := by
    obtain rfl | hc := List.mem_cons.1 hc
    · exact Unicode.mem_word_slash
    · exact Unicode.mem_word_of_isBlank (Text.isBlank_of_mem_blanks c hc)
  have htype : (CharSet.word.union (.ofList [':', '<', '>'])).mem c = false := by
    have hascending : (CharSet.ofList [':', '<', '>']).Ascending :=
      Unicode.pairwise_of_ascends (by decide +kernel)
    have hmem := CharSet.mem_union Unicode.ascending_word hascending c
    rw [hmem, hword, hmarks]
    rfl
  have hmany : ∀ s, (oneOrMore s).nullable ≠ true := fun s => Bool.false_ne_true
  exact Pattern.canBegin_seq hheads fun _ => Pattern.canBegin_seq hconst fun _ =>
    Pattern.canBegin_seq (Pattern.canBegin_seq htype fun hnull => absurd hnull (hmany _)) fun _ =>
      Pattern.canBegin_seq hword fun hnull => absurd hnull (hmany _)

/-- **A body begins** with neither a blank nor a slash, and is never empty. -/
theorem body_canBegin : ∀ entry ∈ declarationPatterns, (body entry.1).nullable = false ∧
    ∀ c ∈ '/' :: Text.blanks, (body entry.1).canBegin c = false := by
  have hnull : ∀ entry ∈ declarationPatterns, (body entry.1).nullable = false := by
    decide +kernel
  -- all but the last one begin with a given word
  have hwords : ∀ entry ∈ declarationPatterns.dropLast,
      ('/' :: Text.blanks).all (fun c => !(body entry.1).canBegin c) = true := by
    decide +kernel
  intro entry hentry
  refine ⟨hnull entry hentry, fun c hc => ?_⟩
  obtain hentry | hlast : entry ∈ declarationPatterns.dropLast ∨
      entry ∈ [(row [indentation, callable], DeclarationKind.function)] := List.mem_append.1 hentry
  · simpa using List.all_eq_true.1 (hwords entry hentry) c hc
  · rw [List.mem_singleton.1 hlast]
    exact callable_canBegin hc

/-! ### Matches -/

/-- The blanks at the start of the line are matched from the start on. -/
theorem isBlank_of_match_indentation (hi : i ≤ text.size)
    (h : Pattern.Match text indentation { place := i } m) :
    ∀ j < m.place, ∀ c, text[j]? = some c → Text.isBlank c = true := by
  obtain ⟨start, ⟨hstart, rfl⟩, n, -, -, hsteps⟩ := h
  obtain rfl : i = 0 := by
    by_contra hne
    have hsize : text.size ≤ i - 1 := by simpa [Anchor.holds, hne] using hstart
    omega
  refine hsteps.keep (P := fun m => ∀ j < m.place, ∀ c, text[j]? = some c → Text.isBlank c = true)
    ?_ (fun j hj => absurd hj (Nat.not_lt_zero j))
  rintro a b ⟨c, hc, hblank, rfl⟩ ha j hj d hd
  obtain hj | rfl := Nat.lt_succ_iff_lt_or_eq.1 hj
  · exact ha j hj d hd
  · obtain rfl : c = d := Option.some.inj (hc.symm.trans hd)
    rwa [← CharSet.mem_blank]

/-- **A slash after the blanks** at the start of a line keeps all patterns from matching. -/
theorem match?_eq_none_of_slash (hentry : entry ∈ declarationPatterns)
    (hbefore : ∀ c ∈ before, Text.isBlank c = true) :
    entry.1.match? (before ++ '/' :: rest).toArray = none := by
  refine Option.eq_none_iff_forall_ne_some.2 fun e he => ?_
  obtain ⟨i, hi, hmatch⟩ := Pattern.exists_match_of_match? he
  rw [eq_seq_body entry hentry] at hmatch
  obtain ⟨m, hindent, hbody⟩ := hmatch
  obtain ⟨hnull, hbegin⟩ := body_canBegin entry hentry
  obtain ⟨-, hnull'⟩ | ⟨c, hc, hcan⟩ := hbody.first
  · rw [hnull] at hnull'
    cases hnull'
  · -- the blanks that the pattern has taken end before the slash or at it
    have hslash : (before ++ '/' :: rest).toArray[before.length]? = some '/' := by simp
    have hplace : m.place ≤ before.length := by
      by_contra hlt
      have hblank := isBlank_of_match_indentation hi hindent _ (Nat.lt_of_not_le hlt) _ hslash
      cases hblank
    have hmem : c ∈ '/' :: Text.blanks := by
      obtain hlt | heq := Nat.lt_or_eq_of_le hplace
      · refine List.mem_cons_of_mem _ (Text.mem_blanks_of_isBlank (hbefore c ?_))
        rw [List.getElem?_toArray, List.getElem?_append_left hlt] at hc
        exact List.mem_of_getElem? hc
      · rw [heq, hslash] at hc
        exact Option.some.inj hc ▸ List.mem_cons_self
    rw [hbegin c hmem] at hcan
    cases hcan

theorem matchLine?_eq_none (h : ∀ entry ∈ declarationPatterns,
    entry.1.match? line.toList.toArray = none) : matchLine? line = none := by
  unfold matchLine?
  dsimp only
  rw [List.findSome?_eq_none_iff.2 fun entry hentry => Option.map_eq_none_iff.2 (h entry hentry)]

/-- **A comment declares nothing.** A line that starts with two slashes once it is trimmed is
matched by none of the patterns, so it is no declaration, and in a text with fewer than 2³² lines no
declaration is on such a line, although examples may be. -/
theorem declares_nothing_of_comment (h : (commentText? line).isSome = true) :
    ['/', '/'] <+: Text.trim line.toList ∧
      (∀ entry ∈ declarationPatterns, entry.1.match? line.toList.toArray = none) ∧
      matchLine? line = none ∧
      ∀ file text i, (Text.linesOf text)[i]? = some line → (Text.linesOf text).length < 2 ^ 32 →
        ∀ d ∈ (Scan.ofText heuristic file text).declarations, d.line ≠ .ofNat (i + 1) := by
  have hnone : ∀ entry ∈ declarationPatterns, entry.1.match? line.toList.toArray = none := by
    obtain ⟨cs, hcs⟩ := Option.isSome_iff_exists.1 (Option.isSome_map.symm.trans h)
    obtain ⟨before, between, after, hbefore, -, marker, hmarker, hline⟩ :=
      exists_of_commentChars? hcs
    obtain ⟨tail, rfl⟩ : ∃ tail, marker = '/' :: tail := by
      simp only [commentMarkers, List.mem_cons, List.not_mem_nil, or_false] at hmarker
      obtain rfl | rfl | rfl := hmarker
      · exact ⟨_, rfl⟩
      · exact ⟨_, rfl⟩
      · exact ⟨_, rfl⟩
    have hslash : line.toList = before ++ '/' :: (tail ++ between ++ cs ++ after) := by
      rw [hline]
      simp
    intro entry hentry
    rw [hslash]
    exact match?_eq_none_of_slash hentry hbefore
  refine ⟨isSome_commentText?_iff.1 h, hnone, matchLine?_eq_none hnone,
    fun file text i hi hlength d hd heq => ?_⟩
  obtain ⟨⟨other, j⟩, hj, hd⟩ := List.mem_filterMap.1 hd
  obtain ⟨m, hm, rfl⟩ := Option.map_eq_some_iff.1 hd
  have hget : (Text.linesOf text)[j]? = some other := List.mem_zipIdx_iff_getElem?.1 hj
  obtain rfl : j = i := by
    have hjlt := (List.getElem?_eq_some_iff.1 hget).1
    have hilt := (List.getElem?_eq_some_iff.1 hi).1
    have hnumber := congrArg UInt32.toNat heq
    rw [toNat_number (by omega)] at hnumber
    have hj' : (UInt32.ofNat (j + 1)).toNat = j + 1 := toNat_number (by omega)
    exact Nat.succ.inj (hj'.symm.trans hnumber)
  obtain rfl : other = line := Option.some.inj (hget.symm.trans hi)
  rw [matchLine?_eq_none hnone] at hm
  cases hm

/-- The hypothesis of `declares_nothing_of_comment` is satisfiable: a prototype behind a blank of
two bytes and two slashes is no declaration, and nothing is declared on the second line of a text
that has it there. -/
theorem declares_nothing_of_comment_prototype :
    let line := "\u00a0// int f();"
    let text := "int g();\n\u00a0// int f();\n"
    (commentText? line).isSome = true ∧ matchLine? line = none ∧
      (Text.linesOf text)[1]? = some line ∧
      ∀ d ∈ (Scan.ofText heuristic "a.h" text).declarations, d.line ≠ 2 := by
  intro line text
  have hcomment : (commentText? line).isSome = true := by decide
  have hline : (Text.linesOf text)[1]? = some line := by decide
  obtain ⟨-, -, hnone, htext⟩ := declares_nothing_of_comment hcomment
  exact ⟨hcomment, hnone, hline, htext "a.h" text 1 hline (by decide)⟩

end Scan
end DocExamples
