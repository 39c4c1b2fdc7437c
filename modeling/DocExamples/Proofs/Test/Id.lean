/-
# Test ids

The id of a test is the file, the line and the number of its example with colons between them. A
file name may have colons and digits in it too, but the line and the number have no colon: the last
colon of an id is the one before the number, and the last one before that is the one before the
line. So an id tells the file, the line and the number of the example (`id_ofExample_inj`), and the
file is what stands before the last two colons (`fileOfId_append`).
-/

import DocExamples.Proofs.Decimal.Whole
import DocExamples.Proofs.Text.Fields
import DocExamples.Test.Basic

namespace DocExamples

namespace Text

/-- The last colon is the one behind which there is none. -/
theorem cutLast?_colon (before : String) {after : String} (h : ':' ∉ after.toList) :
    cutLast? ':' (before ++ ":" ++ after).toList = some (before.toList, after.toList) :=
  cutLast?_eq_some_iff.2 ⟨by simp, h⟩

end Text

section FileOfId

variable {id line number : String}

/-- **The file of an id** is what stands before its last two colons. -/
theorem fileOfId_append (file : String) (hline : ':' ∉ line.toList)
    (hnumber : ':' ∉ number.toList) : fileOfId (file ++ ":" ++ line ++ ":" ++ number) = file := by
  rw [fileOfId, Text.cutLast?_colon _ hnumber, Option.bind_some]
  dsimp only
  rw [Text.cutLast?_colon _ hline]
  exact String.ofList_toList

/-- A text with fewer than two colons is its own file. -/
theorem fileOfId_of_count_lt (h : id.toList.count ':' < 2) : fileOfId id = id := by
  unfold fileOfId
  split
  · next heq =>
      -- cutting twice takes two colons
      obtain ⟨cut, hlast, hsecond⟩ := Option.bind_eq_some_iff.1 heq
      have hcount := Text.count_of_cutLast? hlast
      have hbefore := Text.count_of_cutLast? hsecond
      omega
  · rfl

end FileOfId

namespace Test

variable {e e₁ e₂ : Example} {p p₁ p₂ : Option Declaration} {i i₁ i₂ : ℕ} {d d₁ d₂ : Duration}

theorem id_ofExample (e : Example) (p : Option Declaration) (i : ℕ) (d : Duration) :
    (ofExample e p i d).id =
      e.location.file ++ ":" ++ toString e.line.toNat ++ ":" ++ toString i := rfl

/-- A written number has no colon. -/
theorem colon_not_mem_toString (n : ℕ) : ':' ∉ (toString n).toList :=
  Decimal.not_mem_toString (by decide) n

/-- A number behind a colon can be cut off. -/
theorem append_toString_inj {a b : String} {m n : ℕ}
    (h : a ++ ":" ++ toString m = b ++ ":" ++ toString n) : a = b ∧ m = n := by
  have hcut := congrArg (fun id => Text.cutLast? ':' id.toList) h
  simp only [Text.cutLast?_colon _ (colon_not_mem_toString _), Option.some.injEq, Prod.mk.injEq,
    String.toList_inj, Decimal.toString_inj] at hcut
  exact hcut

/-- The file of the id is the file of the example. -/
theorem fileOfId_ofExample (e : Example) (p : Option Declaration) (i : ℕ) (d : Duration) :
    fileOfId (ofExample e p i d).id = e.location.file :=
  fileOfId_append _ (colon_not_mem_toString _) (colon_not_mem_toString _)

/-- **An id tells the place**: the file, the line and the number of the example. -/
theorem id_ofExample_inj : (ofExample e₁ p₁ i₁ d₁).id = (ofExample e₂ p₂ i₂ d₂).id ↔
    e₁.location.file = e₂.location.file ∧ e₁.line = e₂.line ∧ i₁ = i₂ := by
  refine ⟨fun h => ?_, fun ⟨hfile, hline, hnumber⟩ => ?_⟩
  · -- the numbers are cut off at the end of both ids, and then the lines
    rw [id_ofExample, id_ofExample] at h
    obtain ⟨hplace, hnumber⟩ := append_toString_inj h
    obtain ⟨hfile, hline⟩ := append_toString_inj hplace
    exact ⟨hfile, UInt32.toNat_inj.1 hline, hnumber⟩
  · rw [id_ofExample, id_ofExample, hfile, hline, hnumber]

/-- A test is made for every number that has a successor of 64 bits. -/
theorem ofNumbered?_eq_some_iff {i : UInt64} {t : Test} : ofNumbered? e p i d = some t ↔
    i.toNat + 1 < UInt64.size ∧ t = ofExample e p i.toNat d := by
  rw [ofNumbered?, Option.ite_none_right_eq_some, Option.some.injEq, eq_comm (a := t)]

/-- **A test id is a place, without loss.** Whatever the file name, two examples have one id if and
only if they have the same file, line and number; the file of an id is the file of the example, so
this is the source file of the test. With numbers of 64 bits every number but the largest makes this
test. A text with fewer than two colons is its own file. -/
theorem id_tells_place :
    (∀ (e₁ e₂ : Example) (p₁ p₂ : Option Declaration) (i₁ i₂ : ℕ) (d₁ d₂ : Duration),
      (ofExample e₁ p₁ i₁ d₁).id = (ofExample e₂ p₂ i₂ d₂).id ↔
        e₁.location.file = e₂.location.file ∧ e₁.line = e₂.line ∧ i₁ = i₂) ∧
      (∀ (e : Example) (p : Option Declaration) (i : ℕ) (d : Duration),
        fileOfId (ofExample e p i d).id = e.location.file ∧
          (ofExample e p i d).sourceFile = e.location.file) ∧
      (∀ (e : Example) (p : Option Declaration) (i : UInt64) (d : Duration) (t : Test),
        ofNumbered? e p i d = some t ↔
          i.toNat + 1 < UInt64.size ∧ t = ofExample e p i.toNat d) ∧
      ∀ id : String, id.toList.count ':' < 2 → fileOfId id = id :=
  ⟨fun _ _ _ _ _ _ _ _ => id_ofExample_inj,
    fun e p i d => ⟨fileOfId_ofExample e p i d, fileOfId_ofExample e p i d⟩,
    fun _ _ _ _ _ => ofNumbered?_eq_some_iff, fun _ => fileOfId_of_count_lt⟩

/-- The hypothesis of `id_tells_place` is satisfiable: a text with one colon and a digit. -/
theorem id_tells_place_one_colon : "a:1".toList.count ':' < 2 ∧ fileOfId "a:1" = "a:1" :=
  ⟨by decide, id_tells_place.2.2.2 "a:1" (by decide)⟩

end Test
end DocExamples
