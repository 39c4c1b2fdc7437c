/-
# Which expectations can be met

What a program prints is compared after it was trimmed, so an output that is expected can be met
exactly if it is trimmed itself (`Test.attainable_iff`). The outputs that blocks expect are never
empty and end in no blank: each text of a block is trimmed, and the empty ones at the end are
dropped. Those at the front are kept. A block whose output starts with an empty comment expects a
text that starts with a line feed, which no program meets (`expected_attainable`).
-/

import DocExamples.Proofs.Scan.Grammar
import DocExamples.Proofs.Text.Utf8
import DocExamples.Run.Compile
import DocExamples.Test.Basic

namespace DocExamples

/-- Whether the output of some program lets a test pass. -/
def Test.Attainable (t : Test) : Prop :=
  ∃ output duration, (t.judge (.ok (Compiler.shown output)) duration).status = .passed

namespace Compiler

variable {c : Compiler} {programs : Programs} {files : FileTree} {env : Environment}
  {r : Request} {w : Workshop} {binary source sourceFile x : String}

theorem trimmed_shown (bytes : List UInt8) : Text.trimmed (shown bytes) = shown bytes := by
  rw [Text.trimmed, shown, String.toList_ofList, Text.trim_trim]

/-- A text that a program prints is shown trimmed. -/
theorem shown_encode (x : String) : shown (Text.encode x.toList) = Text.trimmed x := by
  rw [shown, Text.decodeLossy_encode, Text.trimmed]

theorem runBinary_eq_ok (h : (runBinary programs files env binary).1 = .ok x) :
    ∃ output, x = shown output := by
  unfold runBinary at h
  split at h
  · cases h
  · dsimp only at h
    split at h
    · exact ⟨_, (Except.ok.inj h).symm⟩
    · cases h

theorem compileAndRun_eq_ok
    (h : (c.compileAndRun programs files env sourceFile source binary).1 = .ok x) :
    ∃ output, x = shown output := by
  unfold compileAndRun at h
  split at h
  · cases h
  · cases h
  · split at h
    · exact runBinary_eq_ok h
    · cases h

/-- **What the compiler's backend gives back** is the output of a program as it is shown. -/
theorem execute_eq_ok (h : (c.execute r w).1.outcome = .ok x) : ∃ output, x = shown output := by
  unfold execute at h
  dsimp only at h
  split at h
  · cases h
  · exact compileAndRun_eq_ok h

end Compiler

namespace Test

variable {t : Test} {x : String}

/-- **An expected output can be met** exactly if it is trimmed. -/
theorem attainable_iff (h : t.expected = some x) : t.Attainable ↔ Text.trimmed x = x := by
  constructor
  · rintro ⟨output, duration, hpass⟩
    obtain ⟨shown, hshown, heq⟩ := judge_eq_passed_iff.1 hpass
    rw [heq x h, ← Except.ok.inj hshown, Compiler.trimmed_shown]
  · intro htrim
    refine ⟨Text.encode x.toList, ⟨0⟩, judge_eq_passed_iff.2 ⟨_, rfl, fun expected he => ?_⟩⟩
    rw [Compiler.shown_encode, htrim]
    exact Option.some.inj (he.symm.trans h)

/-- A test that passes with the compiler's backend is one that can pass. -/
theorem attainable_of_execute {c : Compiler} {r : Request} {w : Workshop} {duration : Duration}
    (h : (t.judge (c.execute r w).1.outcome duration).status = .passed) : t.Attainable := by
  obtain ⟨x, hx, -⟩ := judge_eq_passed_iff.1 h
  obtain ⟨output, rfl⟩ := Compiler.execute_eq_ok hx
  exact ⟨output, duration, hx ▸ h⟩

end Test

namespace Scan

variable {file x : String} {lines : List String} {text : List Char} {texts : List (List Char)}
  {e : Example}

theorem trim_of_commentChars? {line : List Char} (h : commentChars? line = some text) :
    Text.trim text = text := by
  obtain ⟨rest, -, rfl⟩ := Option.map_eq_some_iff.1 h
  exact Text.trim_trim rest

/-- The texts of a block are trimmed. -/
theorem trim_of_mem_otherTexts (h : text ∈ otherTexts (blockTexts lines)) :
    Text.trim text = text := by
  obtain ⟨line, -, hline⟩ := List.mem_filterMap.1 (List.mem_filter.1 h).1
  exact trim_of_commentChars? hline

theorem toList_joined (texts : List (List Char)) :
    (joined texts).toList = ['\n'].intercalate texts := by
  rw [joined, Text.joinLines, String.toList_intercalate, List.map_map]
  congr 1
  exact (List.map_congr_left fun _ _ => String.toList_ofList).trans (List.map_id texts)

/-- Joined texts end as the last of them does, if that one is not empty. -/
theorem getLast?_intercalate {sep : List Char} (h : texts.getLast? = some text)
    (hne : text ≠ []) : (sep.intercalate texts).getLast? = text.getLast? := by
  induction texts with
  | nil => cases h
  | cons first rest ih =>
      cases rest with
      | nil => rw [List.intercalate_singleton, show first = text from Option.some.inj h]
      | cons second rest =>
          rw [List.getLast?_cons_cons] at h
          rw [List.intercalate_cons_cons, List.getLast?_append, ih h,
            List.getLast?_eq_some_getLast hne, Option.some_or]

/-- **Texts without blanks at their ends**, the last of them not empty, are joined to a text without
a blank at its end. There is none at its front either exactly if the first of them is not empty. -/
theorem joined_trimmed (htrim : ∀ text ∈ texts, Text.trim text = text) (hne : texts ≠ [])
    (hlast : texts.getLast hne ≠ []) :
    joined texts ≠ "" ∧ Text.trimRight (joined texts).toList = (joined texts).toList ∧
      (Text.trimmed (joined texts) = joined texts ↔ texts.head? ≠ some []) := by
  have hend : (joined texts).toList.getLast? = (texts.getLast hne).getLast? := by
    rw [toList_joined]
    exact getLast?_intercalate (List.getLast?_eq_some_getLast hne) hlast
  have hblank : ∀ c, (joined texts).toList.getLast? = some c → Text.isBlank c = false := by
    intro c hc
    exact (Text.trim_eq_self_iff.1 (htrim _ (List.getLast_mem hne))).2 c (hend ▸ hc)
  refine ⟨fun h => ?_, Text.trimRight_eq_self hblank, ?_⟩
  · rw [h, List.getLast?_eq_some_getLast hlast] at hend
    cases hend
  · rw [Text.trimmed, ← String.toList_inj, String.toList_ofList, Text.trim_eq_self_iff,
      and_iff_left hblank, toList_joined]
    match texts, hne with
    | [] :: [], _ => exact absurd rfl hlast
    | [] :: second :: rest, _ =>
        -- the line feed after the empty text comes first
        rw [List.intercalate_cons_cons]
        simp [show Text.isBlank '\n' = true from rfl]
    | (c :: first) :: rest, _ =>
        have hc := (Text.trim_eq_self_iff.1 (htrim _ List.mem_cons_self)).1 c rfl
        cases rest <;> simp [List.intercalate_singleton, List.intercalate_cons_cons, hc]

/-- **The examples of a file** are each the example of a marker. If it expects an output, that is
not empty and has no blank at its end. Its test can be met exactly if the output is trimmed, and
this is exactly if the first text in the block of the marker that is no code is not empty. -/
theorem expected_attainable (he : e ∈ exampleBlocks file lines) (hx : e.expected = some x) :
    x ≠ "" ∧ Text.trimRight x.toList = x.toList ∧
      ∃ i line, lines[i]? = some line ∧ isMarker line = true ∧
        e = markedExample file i line (lines.drop (i + 1)) ∧
        (Text.trimmed x = x ↔
          (otherTexts (blockTexts (lines.drop (i + 1)))).head? ≠ some []) ∧
        ∀ parent number timeout, (Test.ofExample e parent number timeout).Attainable ↔
          (otherTexts (blockTexts (lines.drop (i + 1)))).head? ≠ some [] := by
  rw [exampleBlocks_eq_map] at he
  obtain ⟨⟨line, i⟩, hmem, rfl⟩ := List.mem_map.1 he
  obtain ⟨hline, hmark⟩ := List.mem_filter.1 hmem
  have hline : lines[i]? = some line := List.mem_zipIdx_iff_getElem?.1 hline
  generalize htexts : otherTexts (blockTexts (lines.drop (i + 1))) = texts
  obtain ⟨hne, rfl⟩ : texts.rdropWhile List.isEmpty ≠ [] ∧
      joined (texts.rdropWhile List.isEmpty) = x := by
    simpa [markedExample, htexts] using hx
  have hprefix := List.rdropWhile_prefix List.isEmpty texts
  have hlast := List.rdropWhile_last_not List.isEmpty texts hne
  obtain ⟨hempty, hright, hleft⟩ := joined_trimmed
    (fun text ht => trim_of_mem_otherTexts (htexts ▸ hprefix.subset ht)) hne (by simpa using hlast)
  -- something is left, so what was dropped at the end was not the first text
  have hhead : (texts.rdropWhile List.isEmpty).head? = texts.head? := by
    obtain ⟨dropped, hdropped⟩ := hprefix
    rw [← List.head?_append_of_ne_nil _ hne, hdropped]
  rw [hhead] at hleft
  refine ⟨hempty, hright, i, line, hline, hmark, rfl, ?_, fun parent number timeout => ?_⟩
  · rw [htexts]
    exact hleft
  · rw [htexts, ← hleft]
    exact Test.attainable_iff hx

/-- The hypotheses of `expected_attainable` are satisfiable: an empty comment between two others
does not keep the output from being met. -/
theorem expected_attainable_inner_empty :
    (Test.ofExample ⟨"f()", some "1\n\n2", ⟨"a", 1, 4⟩, none⟩ none 0 ⟨0⟩).Attainable := by
  have he : ⟨"f()", some "1\n\n2", ⟨"a", 1, 4⟩, none⟩ ∈
      exampleBlocks "a" ["// >>> f()", "// 1", "//", "// 2", "//"] := by decide
  obtain ⟨-, -, i, line, -, -, -, htrim, hmeet⟩ := expected_attainable he rfl
  exact (hmeet none 0 ⟨0⟩).2 (htrim.1 (by decide))

/-- An empty comment right after the marker is the first line of the expected output, and the
compiler's backend never lets the test pass. -/
theorem not_attainable_leading_empty :
    ∃ e ∈ exampleBlocks "a.cpp" ["/// >>> f()", "///", "/// 5"],
      e.expected = some "\n5" ∧ Text.trimmed "\n5" ≠ "\n5" ∧
        ∀ (c : Compiler) (w : Workshop) (parent : Option Declaration) (number : ℕ)
          (timeout duration : Duration),
          let t := Test.ofExample e parent number timeout
          (t.judge (c.execute t.request w).1.outcome duration).status ≠ .passed := by
  refine ⟨⟨"f()", some "\n5", ⟨"a.cpp", 1, 5⟩, none⟩, by decide, rfl, by decide, ?_⟩
  intro c w parent number timeout duration t hpass
  have hmeet : Text.trimmed "\n5" = "\n5" :=
    (Test.attainable_iff rfl).1 (Test.attainable_of_execute hpass)
  exact absurd hmeet (by decide)

end Scan
end DocExamples
