/-
# What comment lines look like

A comment starts with a marker once it is trimmed; the longest marker that it starts with counts,
and its text is what follows that marker, trimmed again (`CommentOf`). This is how comments are read
(`commentChars?_eq_some_iff`). So a comment line is blanks, a marker, blanks, its text and blanks
(`exists_of_commentChars?`), and a line is one exactly if it starts with two slashes once it is
trimmed (`isSome_commentText?_iff`).
-/

import DocExamples.Proofs.Decimal.Numeral
import DocExamples.Scan.Comment

namespace DocExamples
namespace Scan

variable {cs text : List Char} {line : String}

/-- What a comment starts with. -/
def commentMarkers : List (List Char) := [['/', '/', '/'], ['/', '/', '!'], ['/', '/']]

/-- Whether the characters of a line are a comment with a text. Trimmed, they are a marker and
something that is the text once it is trimmed, and they start with no longer marker. -/
def CommentOf (line text : List Char) : Prop :=
  ∃ marker ∈ commentMarkers, ∃ rest, Text.trim line = marker ++ rest ∧ text = Text.trim rest ∧
    ∀ longer ∈ commentMarkers, longer <+: Text.trim line → longer.length ≤ marker.length

/-- **A comment and its text** are what a comment line is taken for. -/
theorem commentChars?_eq_some_iff : commentChars? cs = some text ↔ CommentOf cs text := by
  have hlength : ∀ longer ∈ commentMarkers, longer.length ≤ 3 := by decide
  have hafter : ∀ {marker rest : List Char}, Text.trim cs = marker ++ rest →
      Text.after? marker (Text.trim cs) = some rest := Text.after?_eq_some_iff.2
  simp only [commentChars?, Option.map_eq_some_iff]
  constructor
  · rintro ⟨rest, hrest, rfl⟩
    rw [Option.or_assoc, Option.or_eq_some_iff] at hrest
    obtain h | ⟨hslashes, hrest⟩ := hrest
    · exact ⟨_, by decide, rest, Text.after?_eq_some_iff.1 h, rfl, fun longer hlonger _ =>
        hlength longer hlonger⟩
    · obtain h | ⟨hbang, h⟩ := Option.or_eq_some_iff.1 hrest
      · exact ⟨_, by decide, rest, Text.after?_eq_some_iff.1 h, rfl, fun longer hlonger _ =>
          hlength longer hlonger⟩
      · refine ⟨_, by decide, rest, Text.after?_eq_some_iff.1 h, rfl, ?_⟩
        -- neither of the longer markers fits
        rintro longer hlonger ⟨tail, htail⟩
        simp only [commentMarkers, List.mem_cons, List.not_mem_nil, or_false] at hlonger
        obtain rfl | rfl | rfl := hlonger
        · rw [hafter htail.symm] at hslashes
          cases hslashes
        · rw [hafter htail.symm] at hbang
          cases hbang
        · rfl
  · rintro ⟨marker, hmarker, rest, htrim, rfl, hlongest⟩
    refine ⟨rest, ?_, rfl⟩
    have hnone : ∀ longer ∈ commentMarkers, marker.length < longer.length →
        Text.after? longer (Text.trim cs) = none := by
      intro longer hlonger hlt
      by_contra h
      obtain ⟨tail, htail⟩ := Option.ne_none_iff_exists'.1 h
      exact absurd (hlongest longer hlonger ⟨tail, (Text.after?_eq_some_iff.1 htail).symm⟩)
        (Nat.not_le.2 hlt)
    simp only [commentMarkers, List.mem_cons, List.not_mem_nil, or_false] at hmarker
    obtain rfl | rfl | rfl := hmarker
    · rw [hafter htrim]
      rfl
    · have hslashes : Text.after? ['/', '/', '/'] (Text.trim cs) = none := by
        rw [htrim]
        rfl
      rw [hslashes, hafter htrim]
      rfl
    · rw [hnone _ (by decide) (by decide), hnone ['/', '/', '!'] (by decide) (by decide),
        hafter htrim]
      rfl

theorem commentText?_eq_some_iff {text : String} :
    commentText? line = some text ↔ CommentOf line.toList text.toList := by
  rw [← commentChars?_eq_some_iff, commentText?, Option.map_eq_some_iff]
  constructor
  · rintro ⟨cs, hcs, rfl⟩
    rw [hcs, String.toList_ofList]
  · exact fun h => ⟨_, h, String.ofList_toList⟩

/-- **A comment line** is blanks, a marker, blanks, its text and blanks. -/
theorem exists_of_commentChars? (h : commentChars? cs = some text) :
    ∃ before between after, (∀ c ∈ before, Text.isBlank c = true) ∧
      (∀ c ∈ between, Text.isBlank c = true) ∧
      ∃ marker ∈ commentMarkers, cs = before ++ marker ++ between ++ text ++ after := by
  obtain ⟨marker, hmem, rest, htrim, rfl, -⟩ := commentChars?_eq_some_iff.1 h
  obtain ⟨before, after, hbefore, -, hcs⟩ := Text.exists_trim cs
  obtain ⟨between, after', hbetween, -, hbody⟩ := Text.exists_trim rest
  refine ⟨before, between, after' ++ after, hbefore, hbetween, marker, hmem, ?_⟩
  calc cs = before ++ (marker ++ rest) ++ after := by rw [← htrim, ← hcs]
    _ = before ++ (marker ++ (between ++ Text.trim rest ++ after')) ++ after := by rw [← hbody]
    _ = _ := by simp

/-- **A line is a comment** exactly if it starts with two slashes once it is trimmed. -/
theorem isSome_commentText?_iff :
    (commentText? line).isSome = true ↔ ['/', '/'] <+: Text.trim line.toList := by
  simp only [commentText?, commentChars?, Option.isSome_map, Option.isSome_or, Bool.or_eq_true,
    Text.isSome_after?_iff]
  constructor
  · rintro ((h | h) | h)
    · exact (show ['/', '/'] <+: ['/', '/', '/'] by decide).trans h
    · exact (show ['/', '/'] <+: ['/', '/', '!'] by decide).trans h
    · exact h
  · exact Or.inr

end Scan
end DocExamples
