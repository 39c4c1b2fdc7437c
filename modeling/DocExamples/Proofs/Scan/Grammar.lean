/-
# The grammar of example blocks

The examples of a file are those of its markers, one for each and in their order
(`exampleBlocks_eq`). A marker is a comment whose text starts with three closing angles; its block
is the longest run of comments after it that are no markers. What is a comment and what is its text
is up to `CommentOf`. The scan reads the lines once and keeps
the block that is open. What such a block still gets is the run at the front of the lines that are
left, and the examples after it are those of a scan that has no block open (`blocksFrom_eq`).
-/

import DocExamples.Proofs.Scan.CommentLine
import DocExamples.Scan.ExampleBlock
import Mathlib.Data.List.DropRight

namespace DocExamples
namespace Scan

/-- Whether a line is a marker: a comment whose text starts with three closing angles. -/
def isMarker (line : String) : Bool := (commentChars? line.toList).any openMarker.isPrefixOf

/-- Whether a line goes on with a block: a comment that is no marker. -/
def goesOn (line : String) : Bool := (commentChars? line.toList).isSome && !isMarker line

/-- The texts of the longest run of comments at the front that are no markers. -/
def blockTexts (lines : List String) : List (List Char) :=
  (lines.takeWhile goesOn).filterMap fun line => commentChars? line.toList

/-- The lines of code among the texts of a block: those that start with three dots, trimmed after
the dots. -/
def codeTexts (texts : List (List Char)) : List (List Char) :=
  (texts.filter moreMarker.isPrefixOf).map fun text => Text.trim (text.drop moreMarker.length)

/-- The other texts of a block. -/
def otherTexts (texts : List (List Char)) : List (List Char) :=
  texts.filter fun text => !moreMarker.isPrefixOf text

/-- The example of the marker on the line at `index`, which the lines `rest` follow. Its code is
what the marker and the lines of code in its block leave after their marks; its output is the other
texts without the empty ones at the end, and there is none if nothing is left. -/
def markedExample (file : String) (index : ℕ) (line : String) (rest : List String) : Example :=
  let first := Text.trim (((commentChars? line.toList).getD []).drop openMarker.length)
  let output := (otherTexts (blockTexts rest)).rdropWhile List.isEmpty
  { code := joined (first :: codeTexts (blockTexts rest))
    expected := if output = [] then none else some (joined output)
    location := ⟨file, .ofNat (index + 1), markerColumn line⟩ }

/-- A block with further texts. -/
def OpenBlock.extend (b : OpenBlock) (texts : List (List Char)) : OpenBlock :=
  { b with
    code := (codeTexts texts).reverse ++ b.code
    output := (otherTexts texts).reverse ++ b.output }

variable {file line : String} {rest : List String} {text : List Char}

/-- **What a line means for blocks**: a line that is no comment, a marker, a line of code or a line
of output. -/
theorem BlockLine.of_cases (line : String) :
    commentChars? line.toList = none ∧ of line = .other ∨
      ∃ text, commentChars? line.toList = some text ∧
        (openMarker.isPrefixOf text = true ∧
            of line = .opening (Text.trim (text.drop openMarker.length)) ∨
          openMarker.isPrefixOf text = false ∧
            (moreMarker.isPrefixOf text = true ∧
                of line = .more (Text.trim (text.drop moreMarker.length)) ∨
              moreMarker.isPrefixOf text = false ∧ of line = .output text)) := by
  unfold of
  cases commentChars? line.toList with
  | none => exact Or.inl ⟨rfl, rfl⟩
  | some text =>
      refine Or.inr ⟨text, rfl, ?_⟩
      simp only [Text.after?_eq_drop]
      cases ho : openMarker.isPrefixOf text with
      | true => exact Or.inl ⟨rfl, rfl⟩
      | false =>
          refine Or.inr ⟨rfl, ?_⟩
          cases hm : moreMarker.isPrefixOf text with
          | true => exact Or.inl ⟨rfl, rfl⟩
          | false => exact Or.inr ⟨rfl, rfl⟩

/-- A line that goes on with a block adds its text to it. -/
theorem blockTexts_cons_of_goesOn (hc : commentChars? line.toList = some text)
    (ho : openMarker.isPrefixOf text = false) (rest : List String) :
    blockTexts (line :: rest) = text :: blockTexts rest := by
  have hgo : goesOn line = true := by simp [goesOn, isMarker, hc, ho]
  rw [blockTexts, List.takeWhile_cons_of_pos hgo]
  exact List.filterMap_cons_some hc

/-- A line that is no comment, or a marker, ends the block before it. -/
theorem blockTexts_cons_of_not_goesOn (h : goesOn line = false) (rest : List String) :
    blockTexts (line :: rest) = [] := by
  rw [blockTexts, List.takeWhile_cons_of_neg (by simp [h]), List.filterMap_nil]

/-- **The open block** gets the texts of the run at the front of the lines, and the other examples
are those of a scan without an open block. -/
theorem blocksFrom_eq (file : String) (index : ℕ) (block : Option OpenBlock)
    (lines : List String) :
    blocksFrom file index block lines =
      (block.map fun b => (b.extend (blockTexts lines)).close file).toList ++
        blocksFrom file index none lines := by
  induction lines generalizing index block with
  | nil => cases block <;> simp [blocksFrom, blockTexts, OpenBlock.extend, codeTexts, otherTexts]
  | cons line rest ih =>
      have hend : goesOn line = false → (block.map (OpenBlock.close file)) =
          block.map fun b => (b.extend (blockTexts (line :: rest))).close file := by
        intro h
        rw [blockTexts_cons_of_not_goesOn h]
        rfl
      obtain ⟨hc, h⟩ | ⟨text, hc, ⟨ho, h⟩ | ⟨ho, ⟨hm, h⟩ | ⟨hm, h⟩⟩⟩ := BlockLine.of_cases line
      · rw [← hend (by simp [goesOn, hc])]
        simp [blocksFrom, h]
      · rw [← hend (by simp [goesOn, isMarker, hc, ho])]
        simp [blocksFrom, h]
      · rw [blockTexts_cons_of_goesOn hc ho, blocksFrom, blocksFrom, h]
        dsimp only
        rw [ih, Option.map_map]
        simp [OpenBlock.extend, codeTexts, otherTexts, hm, Function.comp_def]
      · rw [blockTexts_cons_of_goesOn hc ho, blocksFrom, blocksFrom, h]
        dsimp only
        rw [ih, Option.map_map]
        simp [OpenBlock.extend, codeTexts, otherTexts, hm, Function.comp_def]

/-- A block that a marker opens becomes the example of the marker. -/
theorem close_extend_eq (hc : commentChars? line.toList = some text) (index : ℕ) :
    (OpenBlock.extend
      { line := .ofNat (index + 1), column := markerColumn line
        code := [Text.trim (text.drop openMarker.length)] } (blockTexts rest)).close file =
      markedExample file index line rest := by
  unfold OpenBlock.close OpenBlock.extend markedExample
  simp [hc, List.rdropWhile]

/-- The examples of the lines after `before`, when no block is open. -/
theorem blocksFrom_none (file : String) (before lines : List String) :
    blocksFrom file before.length none lines =
      ((lines.zipIdx before.length).filter fun e => isMarker e.1).map fun e =>
        markedExample file e.2 e.1 ((before ++ lines).drop (e.2 + 1)) := by
  induction lines generalizing before with
  | nil => rfl
  | cons line rest ih =>
      have hrest : blocksFrom file (before.length + 1) none rest =
          ((rest.zipIdx (before.length + 1)).filter fun e => isMarker e.1).map fun e =>
            markedExample file e.2 e.1 ((before ++ line :: rest).drop (e.2 + 1)) := by
        simpa using ih (before ++ [line])
      rw [List.zipIdx_cons, List.filter_cons]
      obtain ⟨hc, h⟩ | ⟨text, hc, ⟨ho, h⟩ | ⟨ho, ⟨hm, h⟩ | ⟨hm, h⟩⟩⟩ := BlockLine.of_cases line
      · simp [blocksFrom, h, hrest, isMarker, hc]
      · have hmark : isMarker line = true := by simp [isMarker, hc, ho]
        rw [blocksFrom, h, if_pos hmark]
        dsimp only
        rw [blocksFrom_eq, hrest, Option.map_some, close_extend_eq hc]
        simp
      · simp [blocksFrom, h, hrest, isMarker, hc, ho]
      · simp [blocksFrom, h, hrest, isMarker, hc, ho]

/-- The examples of a file are those of its markers. -/
theorem exampleBlocks_eq_map (file : String) (lines : List String) :
    exampleBlocks file lines =
      (lines.zipIdx.filter fun e => isMarker e.1).map fun e =>
        markedExample file e.2 e.1 (lines.drop (e.2 + 1)) :=
  blocksFrom_none file [] lines

/-- **The examples of a file are those of its markers**, one for each marker and in their order. A
comment is a line that starts with one of the comment markers once it is trimmed, and its text is
what follows the longest one that fits, trimmed. -/
theorem exampleBlocks_eq (file : String) (lines : List String) :
    exampleBlocks file lines =
        ((lines.zipIdx.filter fun e => isMarker e.1).map fun e =>
          markedExample file e.2 e.1 (lines.drop (e.2 + 1))) ∧
      (∀ line text, commentChars? line = some text ↔ CommentOf line text) ∧
      openMarker = ['>', '>', '>'] ∧ moreMarker = ['.', '.', '.'] :=
  ⟨exampleBlocks_eq_map file lines, fun _ _ => commentChars?_eq_some_iff, rfl, rfl⟩

/-- Code and output may interleave, and empty texts count only between others. A marker ends the
block before it, and a line that is no comment ends the last one. -/
theorem exampleBlocks_eq_interleaved :
    let lines := ["// >>> f(", "// ... 1)", "// 2", "//", "//! ... g()", "/// 3", "//", "// >>>h",
      "", "// 4"]
    ((lines.zipIdx.filter fun e => isMarker e.1).map fun e =>
        markedExample "a" e.2 e.1 (lines.drop (e.2 + 1))) =
      [⟨"f(\n1)\ng()", some "2\n\n3", ⟨"a", 1, 4⟩, none⟩, ⟨"h", none, ⟨"a", 8, 4⟩, none⟩] ∧
      CommentOf "//! ... g()".toList "... g()".toList := by
  intro lines
  obtain ⟨heq, hcomment, -⟩ := exampleBlocks_eq "a" lines
  rw [← heq, ← hcomment]
  decide

end Scan
end DocExamples
