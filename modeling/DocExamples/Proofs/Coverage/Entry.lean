/-
# The lines of a tracefile

Each record of a tracefile has a text (`Entry.text`), and a line with that text is read as the
record again (`entryOf_text`): no prefix of a record is a prefix of another one, a number ends
before the first comma, and everything after the comma is a name, with the commas in it. Texts and
names on a line are one line each, whichever way they are read (`oneLine_text`, `named_entryOf`).
-/

import DocExamples.Coverage.Tracefile
import DocExamples.Proofs.Decimal.Whole
import DocExamples.Proofs.Text.Fields
import DocExamples.Proofs.Text.Lines

namespace DocExamples

namespace Text

/-- The digits of a number are one line. -/
theorem OneLine.toString (n : ℕ) : OneLine (toString n).toList :=
  .of_forall fun c hc => by
    have hdigit := Decimal.isDigit_of_mem_toString hc
    constructor <;> (rintro rfl; cases hdigit)

end Text

open Text

namespace Tracefile

/-- The text of a record. -/
def Entry.text : Entry → String
  | .file path => "SF:" ++ path
  | .line n hits => "DA:" ++ toString n.toNat ++ "," ++ toString hits.toNat
  | .calls hits name => "FNDA:" ++ toString hits.toNat ++ "," ++ name
  | .function n name => "FN:" ++ toString n.toNat ++ "," ++ name
  | .branch id taken =>
    "BRDA:" ++ toString id.line.toNat ++ "," ++ toString id.block.toNat ++ "," ++
      toString id.branch.toNat ++ "," ++ toString taken.toNat
  | .other => "end_of_record"

/-- Whether the name in a record, if it has one, is one line. -/
def Entry.Named : Entry → Prop
  | .file name | .calls _ name | .function _ name => OneLine name.toList
  | .line .. | .branch .. | .other => True

variable {e : Entry} {line : List Char} {n : ℕ}

theorem number_toString (h : n < UInt64.size) : number (toString n).toList = n := by
  rw [number, Decimal.trim_toString, Decimal.bounded?_toString h]
  rfl

theorem number_line (n : UInt32) : UInt32.ofNat (number (toString n.toNat).toList) = n := by
  rw [number_toString (Nat.lt_trans n.toNat_lt (by decide)), UInt32.ofNat_toNat]

theorem number_hits (n : UInt64) : UInt64.ofNat (number (toString n.toNat).toList) = n := by
  rw [number_toString n.toNat_lt, UInt64.ofNat_toNat]

/-- What stands before the first comma of a number and a name. -/
theorem cut?_number (n : ℕ) (name : List Char) :
    cut? ',' ((toString n).toList ++ ',' :: name) = some ((toString n).toList, name) :=
  cut?_eq_some_iff.2 ⟨rfl, Decimal.not_mem_toString (by decide) n⟩

/-- **The text of a record is read as the record.** -/
theorem entryOf_text (e : Entry) : entryOf e.text.toList = e := by
  have hcomma : ∀ n : ℕ, ',' ∉ (toString n).toList := Decimal.not_mem_toString (by decide)
  cases e with
  | file path => simp [Entry.text, entryOf, after?]
  | line n hits =>
      simp [Entry.text, entryOf, after?, splitOn_append, splitOn_of_not_mem, hcomma, field,
        number_line, number_hits, -Nat.toString_eq_repr]
  | calls hits name =>
      simp [Entry.text, entryOf, after?, cut?_number, number_hits, -Nat.toString_eq_repr]
  | function n name =>
      simp [Entry.text, entryOf, after?, cut?_number, number_line, -Nat.toString_eq_repr]
  | branch id taken =>
      simp [Entry.text, entryOf, after?, splitOn_append, splitOn_of_not_mem, hcomma, field,
        number_line, number_hits, -Nat.toString_eq_repr]
  | other => simp [Entry.text, entryOf, after?]

/-- The text of a record with a one-line name is one line. -/
theorem oneLine_text (h : e.Named) : OneLine e.text.toList := by
  have hprefix : ∀ s ∈ ["SF:", "DA:", "FN:", "FNDA:", "BRDA:", ","], OneLine s.toList := by decide
  simp only [List.forall_mem_cons] at hprefix
  obtain ⟨hfile, hline, hfunction, hcalls, hbranch, hcomma, -⟩ := hprefix
  cases e with
  | file path => exact String.toList_append ▸ hfile.append h
  | line n hits =>
      simp only [Entry.text, String.toList_append]
      exact ((hline.append (.toString _)).append hcomma).append (.toString _)
  | calls hits name =>
      simp only [Entry.text, String.toList_append]
      exact ((hcalls.append (.toString _)).append hcomma).append h
  | function n name =>
      simp only [Entry.text, String.toList_append]
      exact ((hfunction.append (.toString _)).append hcomma).append h
  | branch id taken =>
      simp only [Entry.text, String.toList_append]
      exact ((((((hbranch.append (.toString _)).append hcomma).append (.toString _)).append
        hcomma).append (.toString _)).append hcomma).append (.toString _)
  | other => decide

/-- What is named on one line is one line. -/
theorem named_entryOf (h : OneLine line) : (entryOf line).Named := by
  have hafter : ∀ {p rest}, after? p line = some rest → OneLine rest := fun hp =>
    (after?_eq_some_iff.1 hp ▸ h).of_append
  have hcut : ∀ {p rest number name}, after? p line = some rest →
      cut? ',' rest = some (number, name) → OneLine (String.ofList name).toList := by
    intro p rest number name hp hc
    have hrest := hafter hp
    rw [(cut?_eq_some_iff.1 hc).1] at hrest
    rw [String.toList_ofList]
    exact hrest.of_append.of_append (a := [','])
  unfold entryOf
  split
  · next hp =>
    rw [Entry.Named, String.toList_ofList]
    exact hafter hp
  split
  · trivial
  split
  · next hp =>
    split
    · next hc => exact hcut hp hc
    · trivial
  split
  · next hp =>
    split
    · next hc => exact hcut hp hc
    · trivial
  split <;> trivial

end Tracefile
end DocExamples
