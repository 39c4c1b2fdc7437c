/-
# Columns

The column of a declaration counts the characters before its name (`exists_name_of_matchLine?`): the
name is what a group of the pattern has captured, and is not empty. The column of an example counts
the bytes before its marker (`exists_marker`). Both are one and the same count exactly if no
character before the marker takes more than one byte (`Text.width_eq_length_iff`), so an example
behind a wide blank has a column that is too large (`marker_before_its_column`).
-/

import DocExamples.Proofs.Pattern.Match
import DocExamples.Proofs.Scan.Association
import DocExamples.Proofs.Scan.CommentLine
import DocExamples.Proofs.Text.Utf8

namespace DocExamples
namespace Scan

variable {line : String} {m : LineMatch} {r : Reached}

/-! ### Names -/

/-- Every pattern captures a name, and names are not empty. -/
theorem passes_nameGroup : ∀ entry ∈ declarationPatterns, entry.1.passes nameGroup = true ∧
    ∀ g ∈ entry.1.groupsIn, g.1 = nameGroup → g.2.nullable = false := by
  decide

/-- What is captured last under a number has been captured under it. -/
theorem exists_capture? {index : ℕ} (h : ∃ span, (index, span) ∈ r.groups) :
    ∃ span, r.capture? index = some span ∧ (index, span) ∈ r.groups := by
  obtain ⟨span, hspan⟩ := h
  cases hfind : r.groups.find? (·.1 == index) with
  | none => exact absurd (List.find?_eq_none.1 hfind _ hspan) (by simp)
  | some g =>
      obtain rfl : g.1 = index := by simpa using List.find?_some hfind
      exact ⟨g.2, by rw [Reached.capture?, hfind, Option.map_some], List.mem_of_find?_eq_some hfind⟩

/-- The name that a pattern captures is a part of the line and is not empty. -/
theorem exists_name_of_match? {text : Array Char} {entry : Pattern × DeclarationKind}
    (hentry : entry ∈ declarationPatterns) (h : entry.1.match? text = some r) :
    ∃ lo hi, r.capture? nameGroup = some (lo, hi) ∧ lo < hi ∧ hi ≤ text.size := by
  obtain ⟨i, hi, hmatch⟩ := Pattern.exists_match_of_match? h
  obtain ⟨hpasses, hnames⟩ := passes_nameGroup entry hentry
  obtain ⟨⟨lo, hi⟩, hcapture, hmem⟩ := exists_capture? (hmatch.exists_captured hpasses)
  have hspans := hmatch.forall_groups (P := fun g => g.1 = nameGroup → g.2.1 < g.2.2 ∧
    g.2.2 ≤ text.size) (fun g hg r e hr hmatch hname =>
      ⟨hmatch.place_lt (hnames g hg hname), hmatch.place_le_size hr⟩) ‹_›
    (fun g hg => nomatch hg)
  exact ⟨lo, hi, hcapture, hspans _ hmem rfl⟩

/-- What a line declares comes from a match of one of the patterns. -/
theorem exists_match?_of_matchLine? (h : matchLine? line = some m) :
    ∃ entry ∈ declarationPatterns, ∃ r, entry.1.match? line.toList.toArray = some r ∧
      m.name = groupText line.toList.toArray r nameGroup ∧
      m.column = .ofNat (((r.capture? nameGroup).map (·.1)).getD 0 + 1) := by
  rw [matchLine?] at h
  dsimp only at h
  split at h
  · cases h
  · next r kind hfound =>
    obtain ⟨entry, hentry, hr⟩ := List.exists_of_findSome?_eq_some hfound
    obtain ⟨r', hmatch, heq⟩ := Option.map_eq_some_iff.1 hr
    obtain ⟨rfl, -⟩ := Prod.mk.inj heq
    split at h
    · cases h
    · obtain rfl := Option.some.inj h
      exact ⟨entry, hentry, r', hmatch, rfl, rfl⟩

/-- **The column of a declaration** counts the characters before its name, which is not empty. -/
theorem exists_name_of_matchLine? (h : matchLine? line = some m) :
    ∃ k < line.length, m.column = .ofNat (k + 1) ∧ m.name ≠ "" ∧
      m.name.toList <+: line.toList.drop k := by
  obtain ⟨entry, hentry, r, hmatch, hname, hcolumn⟩ := exists_match?_of_matchLine? h
  obtain ⟨lo, hi, hcapture, hlt, hsize⟩ := exists_name_of_match? hentry hmatch
  rw [List.size_toArray, String.length_toList] at hsize
  have htext : m.name.toList = (line.toList.drop lo).take (hi - lo) := by
    simp [hname, groupText, hcapture]
  refine ⟨lo, by omega, by rw [hcolumn, hcapture]; rfl, ?_, htext ▸ List.take_prefix _ _⟩
  rintro hempty
  have hlength : m.name.toList.length = hi - lo := by
    rw [htext, List.length_take, List.length_drop, String.length_toList]
    omega
  rw [hempty, String.toList_empty, List.length_nil] at hlength
  omega

/-! ### Markers -/

/-- **The column of an example** counts the bytes before its marker, which is the first one in the
line. -/
theorem exists_marker (h : isMarker line = true) :
    ∃ k, openMarker <+: line.toList.drop k ∧ '>' ∉ line.toList.take k ∧
      markerColumn line = .ofNat (Text.width (line.toList.take k) + 1) := by
  unfold isMarker at h
  cases htext : commentChars? line.toList with
  | none =>
      rw [htext] at h
      cases h
  | some text =>
      rw [htext] at h
      obtain ⟨code, rfl⟩ : openMarker <+: text := List.isPrefixOf_iff_prefix.1 h
      obtain ⟨before, between, after, hbefore, hbetween, marker, hmarker, hline⟩ :=
        exists_of_commentChars? htext
      have hblank : Text.isBlank '>' = false := by decide
      have hmarkers : ∀ marker ∈ commentMarkers, '>' ∉ marker := by decide
      have hnone : '>' ∉ before ++ marker ++ between := by
        simp only [List.mem_append, not_or]
        refine ⟨⟨fun hmem => ?_, hmarkers marker hmarker⟩, fun hmem => ?_⟩
        · rw [hbefore _ hmem] at hblank
          cases hblank
        · rw [hbetween _ hmem] at hblank
          cases hblank
      have hsplit : line.toList = before ++ marker ++ between ++ openMarker ++ (code ++ after) := by
        rw [hline]
        simp
      generalize before ++ marker ++ between = start at hnone hsplit
      have hdrop : line.toList.drop start.length = openMarker ++ (code ++ after) := by
        rw [hsplit, List.append_assoc, List.drop_left]
      have htake : line.toList.take start.length = start := by
        rw [hsplit, List.append_assoc, List.take_left]
      refine ⟨start.length, hdrop ▸ List.prefix_append _ _, by rwa [htake], ?_⟩
      have hindex : Text.indexOf? openMarker line.toList = some start.length := by
        rw [hsplit]
        exact Text.indexOf?_append hnone _ _
      rw [markerColumn, hindex, Option.getD_some]

/-- The column of a marker behind `k` characters is `k + 1` exactly if none of them takes more than
one byte. -/
theorem toNat_byteColumn_iff {s : List Char} {k : ℕ} (hopen : openMarker <+: s.drop k)
    (hwidth : Text.width s < 2 ^ 32) :
    (UInt32.ofNat (Text.width (s.take k) + 1)).toNat = k + 1 ↔ ∀ c ∈ s.take k, c.toNat < 128 := by
  have hsplit : Text.width (s.take k) + Text.width (s.drop k) = Text.width s := by
    rw [← Text.width_append, List.take_append_drop]
  have hmarker : 3 ≤ (s.drop k).length := hopen.length_le
  have hrest := Text.length_le_width (s.drop k)
  have hlength : (s.take k).length = k := by
    rw [List.length_drop] at hmarker
    rw [List.length_take]
    omega
  rw [toNat_number (by omega), Nat.add_right_cancel_iff, ← Text.width_eq_length_iff, hlength]

/-! ### Scans -/

/-- **Where columns point.** A declaration of a scan with the built-in provider is on a line that
has its name, which is not empty, behind as many characters as the column tells. An example is on a
line that has its marker behind as many bytes as the column tells, and these are as many as the
characters there exactly if none of them takes more than one byte. -/
theorem columns_ofText (file text : String) :
    let scan := Scan.ofText heuristic file text
    let lines := Text.linesOf text
    (∀ d ∈ scan.declarations, ∃ i line k, lines[i]? = some line ∧
      d.location = ⟨file, .ofNat (i + 1), .ofNat (k + 1)⟩ ∧
      k < line.length ∧ d.name ≠ "" ∧ d.name.toList <+: line.toList.drop k ∧
      (line.length < 2 ^ 32 → d.location.column.toNat = k + 1)) ∧
    ∀ e ∈ scan.examples, ∃ i line k, lines[i]? = some line ∧ isMarker line = true ∧
      e.location = ⟨file, .ofNat (i + 1), .ofNat (Text.width (line.toList.take k) + 1)⟩ ∧
      openMarker <+: line.toList.drop k ∧ '>' ∉ line.toList.take k ∧
      (Text.width line.toList < 2 ^ 32 →
        (e.location.column.toNat = k + 1 ↔ ∀ c ∈ line.toList.take k, c.toNat < 128)) := by
  refine ⟨fun d hd => ?_, fun e he => ?_⟩
  · obtain ⟨⟨line, i⟩, hi, hd⟩ := List.mem_filterMap.1 hd
    obtain ⟨m, hm, rfl⟩ := Option.map_eq_some_iff.1 hd
    obtain ⟨k, hk, hcolumn, hne, hname⟩ := exists_name_of_matchLine? hm
    refine ⟨i, line, k, List.mem_zipIdx_iff_getElem?.1 hi, by rw [hcolumn], hk, hne, hname,
      fun hlength => ?_⟩
    show m.column.toNat = k + 1
    rw [hcolumn, toNat_number (by omega)]
  · obtain ⟨block, hblock, rfl⟩ := List.mem_map.1 he
    rw [exampleBlocks_eq_map] at hblock
    obtain ⟨⟨line, i⟩, hmem, rfl⟩ := List.mem_map.1 hblock
    obtain ⟨hi, hmark⟩ := List.mem_filter.1 hmem
    have hmark : isMarker line = true := hmark
    obtain ⟨k, hopen, hfirst, hcolumn⟩ := exists_marker hmark
    refine ⟨i, line, k, List.mem_zipIdx_iff_getElem?.1 hi, hmark, ?_, hopen, hfirst,
      fun hwidth => ?_⟩
    · show Location.mk file _ (markerColumn line) = _
      rw [hcolumn]
    · show (markerColumn line).toNat = k + 1 ↔ _
      rw [hcolumn]
      exact toNat_byteColumn_iff hopen hwidth

/-- The column of an example is not that of its marker behind a blank of two bytes. -/
theorem marker_before_its_column :
    let line := "\u00a0// >>> f()"
    (Text.linesOf line)[0]? = some line ∧
      ∃ e ∈ (Scan.ofText heuristic "a.cpp" line).examples, e.location = ⟨"a.cpp", 1, 6⟩ ∧
        ¬ openMarker <+: line.toList.drop (e.location.column.toNat - 1) ∧
        openMarker <+: line.toList.drop 4 := by
  refine ⟨by decide, _, List.mem_map_of_mem (a := ⟨"f()", none, ⟨"a.cpp", 1, 6⟩, none⟩) ?_, rfl,
    by decide, by decide⟩
  decide

end Scan
end DocExamples
