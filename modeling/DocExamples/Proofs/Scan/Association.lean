/-
# Scans are in order

What is found in a file is numbered by its lines, so it is in their order (`pairwise_numbered`).
The lines of the declarations increase, hence the parent of an example is the last declaration above
it, and parents never go back (`Ascending.nearestPreceding_mono`). Together these say what a scan
with the built-in provider is (`ofText_heuristic`).
-/

import DocExamples.Proofs.Scan.Grammar
import DocExamples.Proofs.Scan.Nearest
import DocExamples.Scan.Basic

namespace DocExamples
namespace Scan

variable {α : Type} {lines : List String} {ds : List Declaration} {es : List Example}
  {e : Example} {d : Declaration} {file : String} {i : ℕ}

/-! ### The numbers of lines -/

theorem toNat_number {n : ℕ} (h : n < 2 ^ 32 - 1) : (UInt32.ofNat (n + 1)).toNat = n + 1 :=
  UInt32.toNat_ofNat_of_lt' (Nat.add_lt_of_lt_sub h)

/-- **The items of a list** are numbered in their order, if there are not too many. -/
theorem pairwise_numbered {l : List α} (h : l.length < 2 ^ 32) :
    l.zipIdx.Pairwise fun a b => UInt32.ofNat (a.2 + 1) < UInt32.ofNat (b.2 + 1) := by
  have horder : l.zipIdx.Pairwise fun a b => a.2 < b.2 := by
    refine List.pairwise_map.1 ?_
    rw [List.zipIdx_map_snd]
    exact List.pairwise_lt_range'
  refine horder.imp_of_mem fun {a b} ha hb hab => ?_
  have hlast := List.snd_lt_of_mem_zipIdx hb
  rw [UInt32.lt_iff_toNat_lt, toNat_number (by omega), toNat_number (by omega)]
  omega

/-- A declaration of the built-in provider is on a line of the file, counted from one. -/
theorem exists_number_of_mem_heuristic (h : lines.length < 2 ^ 32)
    (hd : d ∈ heuristic file lines) : ∃ n < lines.length, d.line.toNat = n + 1 := by
  obtain ⟨a, ha, hd⟩ := List.mem_filterMap.1 hd
  obtain ⟨m, -, rfl⟩ := Option.map_eq_some_iff.1 hd
  have hlast : a.2 < lines.length := by simpa using List.snd_lt_of_mem_zipIdx ha
  exact ⟨a.2, hlast, toNat_number (by omega)⟩

/-- The declarations of the built-in provider are on increasing lines. -/
theorem ascending_heuristic (file : String) (h : lines.length < 2 ^ 32) :
    Ascending (heuristic file lines) where
  increasing := by
    refine (pairwise_numbered h).filterMap _ fun a b hab d hd e he => ?_
    obtain ⟨m, -, rfl⟩ := Option.map_eq_some_iff.1 hd
    obtain ⟨m', -, rfl⟩ := Option.map_eq_some_iff.1 he
    exact hab
  positive d hd := by
    obtain ⟨n, -, hn⟩ := exists_number_of_mem_heuristic h hd
    rw [UInt32.lt_iff_toNat_lt, hn]
    exact Nat.succ_pos n

/-- The examples of a file are on increasing lines. -/
theorem pairwise_exampleBlocks (file : String) (h : lines.length < 2 ^ 32) :
    (exampleBlocks file lines).Pairwise fun a b => a.line < b.line := by
  rw [exampleBlocks_eq_map]
  exact List.pairwise_map.2 ((pairwise_numbered h).filter _)

/-! ### Parents -/

theorem parent_of_mem_attach (he : e ∈ attach ds es) : e.parent = nearestPreceding e.line ds := by
  obtain ⟨block, -, rfl⟩ := List.mem_map.1 he
  rfl

/-- **Further down** the declaration that is found is no earlier one. -/
theorem Ascending.nearestPreceding_mono (h : Ascending ds) {line line' : UInt32}
    (hle : line ≤ line') (hi : nearestPreceding line ds = some i) :
    ∃ j, nearestPreceding line' ds = some j ∧ i ≤ j := by
  obtain ⟨⟨d, hd, hline⟩, -⟩ := h.nearestPreceding_eq_some_iff.1 hi
  have hline' : d.line < line' := UInt32.lt_of_lt_of_le hline hle
  cases hj : nearestPreceding line' ds with
  | none => exact absurd hline' (h.nearestPreceding_eq_none_iff.1 hj d (List.mem_of_getElem? hd))
  | some j =>
      refine ⟨j, rfl, Nat.le_of_not_lt fun hji => ?_⟩
      exact (h.nearestPreceding_eq_some_iff.1 hj).2 i d hji hd hline'

/-- **The examples of all declarations** are those whose parent is one of them. -/
theorem exists_mem_examplesFor_iff :
    (∃ d ∈ ds, e ∈ examplesFor d ds es) ↔ e ∈ es ∧ (parentOf? ds e).isSome = true := by
  simp only [examplesFor, List.mem_filter]
  constructor
  · rintro ⟨d, -, he, hparent⟩
    refine ⟨he, ?_⟩
    cases hp : parentOf? ds e with
    | none => rw [hp] at hparent; cases hparent
    | some parent => rfl
  · rintro ⟨he, hparent⟩
    obtain ⟨parent, hp⟩ := Option.isSome_iff_exists.1 hparent
    obtain ⟨i, -, hget⟩ := Option.bind_eq_some_iff.1 hp
    refine ⟨parent, List.mem_of_getElem? hget, he, ?_⟩
    rw [hp]
    simp [Declaration.sameAs]

/-- **A scan with the built-in provider is in order**, if the file has fewer than 2³² lines. The
declarations are on increasing lines of the file, and so are the examples. The parent of an example
is the last declaration above it, and it has none if there is no declaration above. So parents are
there, they do not go back from one example to the next, and the examples with a parent are those of
all declarations. -/
theorem ofText_heuristic (file text : String) (h : (Text.linesOf text).length < 2 ^ 32) :
    let scan := Scan.ofText heuristic file text
    let ds := scan.declarations
    ds.Pairwise (fun a b => a.line < b.line) ∧
      (∀ d ∈ ds, 1 ≤ d.line.toNat ∧ d.line.toNat ≤ (Text.linesOf text).length) ∧
      scan.examples.Pairwise (fun a b => a.line < b.line) ∧
      (∀ e ∈ scan.examples,
        (∀ i, e.parent = some i ↔ (∃ d, ds[i]? = some d ∧ d.line < e.line) ∧
          ∀ j d, i < j → ds[j]? = some d → ¬ d.line < e.line) ∧
        (e.parent = none ↔ ∀ d ∈ ds, ¬ d.line < e.line) ∧
        ∀ i, e.parent = some i → i < ds.length) ∧
      scan.examples.Pairwise (fun a b => ∀ i, a.parent = some i → ∃ j, b.parent = some j ∧ i ≤ j) ∧
      ∀ e, (∃ d ∈ ds, e ∈ examplesFor d ds scan.examples) ↔
        e ∈ scan.examples ∧ e.parent.isSome = true := by
  intro scan ds
  have hds : Ascending ds := ascending_heuristic file h
  have hparent : ∀ e ∈ scan.examples, e.parent = nearestPreceding e.line ds := fun e he =>
    parent_of_mem_attach he
  have horder : scan.examples.Pairwise fun a b => a.line < b.line :=
    List.pairwise_map.2 (pairwise_exampleBlocks file h)
  have hlast : ∀ e ∈ scan.examples, ∀ i, e.parent = some i ↔
      (∃ d, ds[i]? = some d ∧ d.line < e.line) ∧
        ∀ j d, i < j → ds[j]? = some d → ¬ d.line < e.line := by
    intro e he i
    rw [hparent e he, hds.nearestPreceding_eq_some_iff]
  have hthere : ∀ e ∈ scan.examples, ∀ i, e.parent = some i → i < ds.length := by
    intro e he i hi
    obtain ⟨⟨d, hd, -⟩, -⟩ := (hlast e he i).1 hi
    exact (List.getElem?_eq_some_iff.1 hd).1
  refine ⟨hds.increasing, fun d hd => ?_, horder, fun e he => ⟨hlast e he, ?_, hthere e he⟩, ?_,
    fun e => ?_⟩
  · obtain ⟨n, hn, hline⟩ := exists_number_of_mem_heuristic h hd
    omega
  · rw [hparent e he, hds.nearestPreceding_eq_none_iff]
  · refine horder.imp_of_mem fun {a b} ha hb hab i hi => ?_
    rw [hparent a ha] at hi
    rw [hparent b hb]
    exact hds.nearestPreceding_mono (UInt32.le_of_lt hab) hi
  · rw [exists_mem_examplesFor_iff]
    refine and_congr_right fun he => ?_
    cases hi : e.parent with
    | none => simp [parentOf?, hi]
    | some i => simp [parentOf?, hi, hthere e he i hi]

/-- The hypothesis of `ofText_heuristic` is satisfiable: one example is above all declarations, and
one is below two of them. -/
theorem ofText_heuristic_two_declarations :
    let text := "// >>> 1\nclass A;\nunion B;\n// >>> B()\n"
    let scan := Scan.ofText heuristic "a.h" text
    (Text.linesOf text).length < 2 ^ 32 ∧ scan.declarations.map (·.name) = ["A", "B"] ∧
      scan.examples.map (·.parent) = [none, some 1] ∧
      scan.declarations.Pairwise (fun a b => a.line < b.line) ∧
      scan.examples.Pairwise (fun a b => a.line < b.line) ∧
      ∀ e ∈ scan.examples, e.parent = none ↔ ∀ d ∈ scan.declarations, ¬ d.line < e.line := by
  intro text scan
  have hlength : (Text.linesOf text).length < 2 ^ 32 := by decide
  have hscan : (scan.declarations.map (·.name), scan.examples.map (·.parent)) =
      (["A", "B"], [none, some 1]) := by
    decide +kernel
  obtain ⟨hnames, hparents⟩ := Prod.mk.inj hscan
  obtain ⟨hdeclarations, -, hexamples, hparent, -⟩ := ofText_heuristic "a.h" text hlength
  exact ⟨hlength, hnames, hparents, hdeclarations, hexamples, fun e he => (hparent e he).2.1⟩

end Scan
end DocExamples
