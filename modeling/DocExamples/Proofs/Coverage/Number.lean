/-
# Numbers that are too large

Numbers are read with 64 bits, and those of lines and branches are cut down to 32 bits afterwards.
So a row about the line `4294967297` is one about line 1, and not one with a number that cannot be
read (`Says`, `read_narrowed`).
-/

import DocExamples.Proofs.Coverage.Records
import DocExamples.Proofs.Decimal.Numeral

namespace DocExamples
namespace Tracefile

open Text

variable {row : List Char} {m : ℕ} {name : String}

/-- A field has a number other than zero exactly if it holds one of at most 64 bits. -/
theorem number_eq_iff {field : List Char} (hm : 0 < m) :
    number field = m ↔ Decimal.Numeral field m ∧ m < UInt64.size := by
  rw [← Decimal.bounded?_trim_iff, number, Option.getD_eq_iff]
  constructor
  · rintro (h | ⟨-, rfl⟩)
    · exact h
    · exact absurd hm (Nat.lt_irrefl 0)
  · exact .inl

/-! ### The numbers on a row -/

/-- The number of the line on a row that says how often it was run, and how often. -/
def lineOn? (row : List Char) : Option (ℕ × UInt64) :=
  (after? ['D', 'A', ':'] row).map fun rest =>
    let fields := splitOn ',' rest
    (field fields 0, UInt64.ofNat (field fields 1))

/-- The numbers of the branch on a row that says how often it was taken, and how often. -/
def branchOn? (row : List Char) : Option ((ℕ × ℕ × ℕ) × UInt64) :=
  (after? ['B', 'R', 'D', 'A', ':'] row).map fun rest =>
    let fields := splitOn ',' rest
    ((field fields 0, field fields 1, field fields 2), UInt64.ofNat (field fields 3))

/-- The function that a row is about and the number of its line, which is zero if the row is about
the calls of the function. -/
def functionOn? (row : List Char) : Option (String × ℕ) :=
  match after? ['F', 'N', 'D', 'A', ':'] row with
  | some rest => (cut? ',' rest).map fun (_, name) => (String.ofList name, 0)
  | none => (after? ['F', 'N', ':'] row).bind fun rest =>
    (cut? ',' rest).map fun (n, name) => (String.ofList name, number n)

/-- The number of the line on a row about a given function. -/
def startOn? (name : String) (row : List Char) : Option ℕ :=
  (functionOn? row).bind fun s => if s.1 = name then some s.2 else none

/-- The numbers of lines and branches on a row. -/
def numbersOn (row : List Char) : List ℕ :=
  (lineOn? row).toList.map (·.1) ++
  (branchOn? row).toList.flatMap (fun s => [s.1.1, s.1.2.1, s.1.2.2]) ++
  (functionOn? row).toList.map (·.2)

theorem entryOf_of_lineOn? {hits : UInt64} (h : lineOn? row = some (m, hits)) :
    entryOf row = .line (UInt32.ofNat m) hits := by
  obtain ⟨rest, hrest, heq⟩ := Option.map_eq_some_iff.1 h
  obtain ⟨rfl, rfl⟩ := Prod.mk.inj heq
  obtain rfl := after?_eq_some_iff.1 hrest
  simp [entryOf, after?]

theorem entryOf_ne_line (h : lineOn? row = none) (n : UInt32) (hits : UInt64) :
    entryOf row ≠ .line n hits := by
  simp only [entryOf, Option.map_eq_none_iff.1 h]
  repeat' split
  all_goals simp

theorem entryOf_of_branchOn? {id : ℕ × ℕ × ℕ} {taken : UInt64}
    (h : branchOn? row = some (id, taken)) :
    entryOf row = .branch ⟨.ofNat id.1, .ofNat id.2.1, .ofNat id.2.2⟩ taken := by
  obtain ⟨rest, hrest, heq⟩ := Option.map_eq_some_iff.1 h
  obtain ⟨rfl, rfl⟩ := Prod.mk.inj heq
  obtain rfl := after?_eq_some_iff.1 hrest
  simp [entryOf, after?]

theorem entryOf_ne_branch (h : branchOn? row = none) (id : BranchId) (taken : UInt64) :
    entryOf row ≠ .branch id taken := by
  simp only [entryOf, Option.map_eq_none_iff.1 h]
  repeat' split
  all_goals simp

theorem count?_hits_entryOf (n : UInt32) (row : List Char) : (entryOf row).count? (.hits n) =
    (lineOn? row).bind fun s => if s.1 % 2 ^ 32 = n.toNat then some s.2 else none := by
  cases hline : lineOn? row with
  | none =>
      cases he : entryOf row with
      | line m hits => exact absurd he (entryOf_ne_line hline m hits)
      | _ => simp [Entry.count?, Entry.topic?]
  | some s =>
      rw [entryOf_of_lineOn? hline, Option.bind_some]
      simp only [← UInt32.ofNat_eq_iff_mod_eq_toNat]
      simp [Entry.count?, Entry.topic?, Entry.count]

theorem count?_taken_entryOf (id : BranchId) (row : List Char) : (entryOf row).count? (.taken id) =
    (branchOn? row).bind fun s => if s.1.1 % 2 ^ 32 = id.line.toNat ∧
      s.1.2.1 % 2 ^ 32 = id.block.toNat ∧ s.1.2.2 % 2 ^ 32 = id.branch.toNat
        then some s.2 else none := by
  cases hbranch : branchOn? row with
  | none =>
      cases he : entryOf row with
      | branch id taken => exact absurd he (entryOf_ne_branch hbranch id taken)
      | _ => simp [Entry.count?, Entry.topic?]
  | some s =>
      rw [entryOf_of_branchOn? hbranch, Option.bind_some]
      simp only [← UInt32.ofNat_eq_iff_mod_eq_toNat]
      obtain ⟨line, block, branch⟩ := id
      simp [Entry.count?, Entry.topic?, Entry.count]

theorem start?_entryOf (name : String) (row : List Char) :
    (entryOf row).start? name = (startOn? name row).map .ofNat := by
  unfold startOn? functionOn?
  split
  · next rest hcalls =>
    obtain rfl := after?_eq_some_iff.1 hcalls
    cases hcut : cut? ',' rest with
    | none => simp [entryOf, after?, hcut, Entry.start?]
    | some cut =>
        by_cases h : String.ofList cut.2 = name <;> simp [entryOf, after?, hcut, Entry.start?, h]
  · next hcalls =>
    cases hplace : after? ['F', 'N', ':'] row with
    | none =>
        simp only [entryOf, hcalls, hplace]
        repeat' split
        all_goals rfl
    | some rest =>
        obtain rfl := after?_eq_some_iff.1 hplace
        cases hcut : cut? ',' rest with
        | none => simp [entryOf, after?, hcut, Entry.start?]
        | some cut =>
            by_cases h : String.ofList cut.2 = name <;>
              simp [entryOf, after?, hcut, Entry.start?, h]

/-- Only what is found at the entries of a list matters for the first of them. -/
theorem findSome?_congr {α β : Type} {l : List α} {g g' : α → Option β}
    (h : ∀ a ∈ l, g a = g' a) : l.findSome? g = l.findSome? g' := by
  induction l with
  | nil => rfl
  | cons a l ih =>
      obtain ⟨ha, hl⟩ := List.forall_mem_cons.1 h
      rw [List.findSome?_cons, List.findSome?_cons, ha, ih hl]

/-! ### Files and the numbers on their rows -/

namespace Block

/-- The count on the last row of a block whose numbers have a property. -/
def last? {κ : Type} (b : Block) (on? : List Char → Option (κ × UInt64)) (p : κ → Prop)
    [DecidablePred p] : Option UInt64 :=
  b.rows.findSomeRev? fun row => (on? row).bind fun s => if p s.1 then some s.2 else none

/-- The number of the line on the first row of a block about a function. -/
def start? (b : Block) (name : String) : Option ℕ := b.rows.findSome? (startOn? name)

/-- Whether a file has what the rows of a block say of its lines and branches and of the lines of
its functions, where the numbers of lines and branches are changed in some way first. -/
structure Says (narrow : ℕ → ℕ) (b : Block) (f : FileCoverage) : Prop where
  lines : ∀ n : UInt32, f.lines[n]? = b.last? lineOn? fun m => narrow m = n.toNat
  branches : ∀ id : BranchId, f.branches[id]? = (b.last? branchOn? fun m =>
    narrow m.1 = id.line.toNat ∧ narrow m.2.1 = id.block.toNat ∧
      narrow m.2.2 = id.branch.toNat).map fun taken => ⟨taken, 1⟩
  functions : ∀ name : String,
    (f.functions[name]?).map (·.line.toNat) = (b.start? name).map narrow

variable {b : Block} {narrow narrow' : ℕ → ℕ} {f : FileCoverage}

theorem findSomeRev?_entries {α : Type} (b : Block) (g : Entry → Option α) :
    b.entries.findSomeRev? g = b.rows.findSomeRev? fun row => g (entryOf row) := by
  rw [entries, List.findSomeRev?_eq_findSome?_reverse, List.findSomeRev?_eq_findSome?_reverse,
    ← List.map_reverse, List.findSome?_map]
  rfl

/-- **A file has what its rows say** of the numbers modulo `2 ^ 32`. -/
theorem says_coverage (b : Block) : b.Says (· % 2 ^ 32) b.coverage where
  lines n := by
    rw [lines_coverage, findSomeRev?_entries, last?]
    simp only [count?_hits_entryOf]
  branches id := by
    rw [branches_coverage, findSomeRev?_entries, last?]
    simp only [count?_taken_entryOf]
  functions name := by
    have hstart : Entry.start? name ∘ entryOf = Option.map UInt32.ofNat ∘ startOn? name :=
      funext (start?_entryOf name)
    rw [functions_coverage, entries, List.findSome?_map, hstart, ← List.map_findSome?, start?,
      Option.map_map, Option.map_map]
    refine congrArg (Option.map · _) (funext fun m => ?_)
    exact UInt32.toNat_ofNat'

/-- A number that has a property in one way of changing numbers has it in any other one that does
the same to the numbers of the block. -/
theorem last?_congr {κ : Type} {on? : List Char → Option (κ × UInt64)} {p q : κ → Prop}
    [DecidablePred p] [DecidablePred q]
    (h : ∀ row ∈ b.rows, ∀ s, on? row = some s → (p s.1 ↔ q s.1)) :
    b.last? on? p = b.last? on? q := by
  rw [last?, last?, List.findSomeRev?_eq_findSome?_reverse, List.findSomeRev?_eq_findSome?_reverse]
  refine findSome?_congr fun row hrow => Option.bind_congr fun s hs => ?_
  exact if_congr (h row (List.mem_reverse.1 hrow) s hs) rfl rfl

/-- **Ways of changing numbers** that do the same to the numbers of a block make no difference. -/
theorem Says.congr (h : b.Says narrow f)
    (heq : ∀ row ∈ b.rows, ∀ m ∈ numbersOn row, narrow m = narrow' m) : b.Says narrow' f where
  lines n := by
    rw [h.lines]
    refine last?_congr fun row hrow s hs => ?_
    rw [heq row hrow s.1 (by simp [numbersOn, hs])]
  branches id := by
    rw [h.branches]
    refine congrArg _ (last?_congr fun row hrow s hs => ?_)
    rw [heq row hrow s.1.1 (by simp [numbersOn, hs]),
      heq row hrow s.1.2.1 (by simp [numbersOn, hs]),
      heq row hrow s.1.2.2 (by simp [numbersOn, hs])]
  functions name := by
    rw [h.functions, start?, List.map_findSome?, List.map_findSome?]
    refine findSome?_congr fun row hrow => ?_
    refine Option.map_congr fun m hm => heq row hrow m ?_
    obtain ⟨s, hs, hname⟩ := Option.bind_eq_some_iff.1 hm
    split_ifs at hname
    obtain rfl := Option.some.inj hname
    simp [numbersOn, hs]

end Block

/-- A number of a line or a branch as it should count: zero if it does not fit in 32 bits. -/
def fitting (m : ℕ) : ℕ := if m < 2 ^ 32 then m else 0

/-- **Numbers of lines and branches are cut down to 32 bits.** A number other than zero stands in a
field with blanks around it and perhaps a plus sign before it, and has at most 64 bits; any other
field has the number zero. A file has what the rows of its last block say of these numbers modulo
`2 ^ 32`: the last row about a line or a branch counts, and the first one about a function. So the
record of a line is that of the last row with its number unless the number of another row is too
large and leaves the same remainder, and the whole file is right if all numbers fit or leave no
remainder. -/
theorem read_narrowed {t path : String} {f : FileCoverage} (hf : (read t)[path]? = some f) :
    (∀ field m, 0 < m → (number field = m ↔ Decimal.Numeral field m ∧ m < 2 ^ 64)) ∧
      ∃ b, lastBlock? t path = some b ∧ b.Says (· % 2 ^ 32) f ∧
        (∀ n : UInt32,
          (∀ row ∈ b.rows, ∀ s, lineOn? row = some s → s.1 % 2 ^ 32 = n.toNat → s.1 < 2 ^ 32) →
            f.lines[n]? = b.last? lineOn? fun m => m = n.toNat) ∧
        ((∀ row ∈ b.rows, ∀ m ∈ numbersOn row, m < 2 ^ 32 ∨ m % 2 ^ 32 = 0) →
          b.Says fitting f) := by
  rw [getElem?_read] at hf
  obtain ⟨b, hb, rfl⟩ := Option.map_eq_some_iff.1 hf
  have hfile := b.says_coverage
  refine ⟨fun field m => number_eq_iff, b, hb, hfile, fun n hfits => ?_, fun hfits => ?_⟩
  · rw [hfile.lines]
    refine Block.last?_congr fun row hrow s hs => ⟨fun h => ?_, fun h => ?_⟩
    · rwa [Nat.mod_eq_of_lt (hfits row hrow s hs h)] at h
    · rw [h, Nat.mod_eq_of_lt n.toNat_lt]
  · refine hfile.congr fun row hrow m hm => ?_
    unfold fitting
    split_ifs with hlt
    · exact Nat.mod_eq_of_lt hlt
    · exact (hfits row hrow m hm).resolve_left hlt

/-- The line of a function and that of a branch are too large and lose a bit, the number of a line
is too large to be read. -/
theorem read_narrowed_one_bit :
    let t := "SF:a.c\nFN:4294967299,f\nBRDA: +4294967298 ,0,1,5\nDA:18446744073709551617,2\n"
    ∃ f, (read t)["a.c"]? = some f ∧ (f.functions["f"]?).map (·.line.toNat) = some 3 ∧
      f.branches[(⟨2, 0, 1⟩ : BranchId)]? = some ⟨5, 1⟩ ∧ f.lines[(0 : UInt32)]? = some 2 ∧
      f.lines[(1 : UInt32)]? = none := by
  intro t
  have hsome : ((read t)["a.c"]?).isSome := by
    rw [getElem?_read, Option.isSome_map]
    decide +kernel
  obtain ⟨f, hf⟩ := Option.isSome_iff_exists.1 hsome
  obtain ⟨-, b, hb, hfile, -, -⟩ := read_narrowed hf
  have hblock : lastBlock? t "a.c" = some ⟨"a.c", ["FN:4294967299,f".toList,
      "BRDA: +4294967298 ,0,1,5".toList, "DA:18446744073709551617,2".toList]⟩ := by decide +kernel
  obtain rfl := Option.some.inj (hb.symm.trans hblock)
  refine ⟨f, hf, ?_, ?_, ?_, ?_⟩
  · rw [hfile.functions]
    decide +kernel
  · rw [hfile.branches]
    decide +kernel
  · rw [hfile.lines]
    decide +kernel
  · rw [hfile.lines]
    decide +kernel

/-- **A number that does not fit** is taken for that of another line, whose hits are lost. -/
theorem not_says_fitting_large :
    let t := "SF:a.c\nDA:1,7\nDA:4294967297,3\n"
    ∃ f b, (read t)["a.c"]? = some f ∧ lastBlock? t "a.c" = some b ∧
      f.lines[(1 : UInt32)]? = some 3 ∧ b.last? lineOn? (fun m => m = 1) = some 7 ∧
      ¬ b.Says fitting f := by
  intro t
  let b : Block := ⟨"a.c", ["DA:1,7".toList, "DA:4294967297,3".toList]⟩
  have hb : lastBlock? t "a.c" = some b := by decide +kernel
  have hline : b.coverage.lines[(1 : UInt32)]? = some 3 := by decide +kernel
  refine ⟨b.coverage, b, by rw [getElem?_read, hb, Option.map_some], hb, hline, by decide +kernel,
    fun hfile => ?_⟩
  have hfitting : b.last? lineOn? (fun m => fitting m = (1 : UInt32).toNat) = some 7 := by
    decide +kernel
  rw [hfile.lines, hfitting] at hline
  cases hline

end Tracefile
end DocExamples
