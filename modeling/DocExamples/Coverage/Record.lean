/-
# Coverage of one file

How often the lines, branches and functions of a source file were reached. Merging adds the
counts up, and is refused if a sum does not fit in 64 bits.
-/

import Std.Data.ExtTreeMap

namespace DocExamples

/-- A branch: its line, its block and its number in the block. -/
structure BranchId where
  line : UInt32
  block : UInt32
  branch : UInt32
deriving DecidableEq, Repr, Inhabited

namespace BranchId

/-- Lines first, then blocks, then branches. -/
instance : Ord BranchId where
  compare := compareLex (compareOn line) (compareLex (compareOn block) (compareOn branch))

instance : Std.TransOrd BranchId :=
  inferInstanceAs (Std.TransCmp
    (compareLex (compareOn line) (compareLex (compareOn block) (compareOn branch))))

instance : Std.LawfulEqOrd BranchId where
  eq_of_compare {a b} h := by
    have h : compareLex (compareOn line) (compareLex (compareOn block) (compareOn branch)) a b
        = .eq := h
    rw [compareLex_eq_eq, compareLex_eq_eq] at h
    obtain ⟨h₁, h₂, h₃⟩ := h
    have e₁ : a.line = b.line := Std.LawfulEqCmp.eq_of_compare h₁
    have e₂ : a.block = b.block := Std.LawfulEqCmp.eq_of_compare h₂
    have e₃ : a.branch = b.branch := Std.LawfulEqCmp.eq_of_compare h₃
    cases a; cases b; simp_all

/-- The three numbers as one name. -/
def display (b : BranchId) : String :=
  toString b.line.toNat ++ "_" ++ toString b.block.toNat ++ "_" ++ toString b.branch.toNat

end BranchId

/-- How often a branch was taken, and how many outcomes it has. -/
structure BranchHits where
  taken : UInt64 := 0
  total : UInt64 := 0
deriving DecidableEq, Repr, Inhabited

/-- How often a function was called. -/
structure FunctionHits where
  /-- The line of its declaration, 0 if that is unknown. -/
  line : UInt32 := 0
  executed : Bool := false
  hits : UInt64 := 0
deriving DecidableEq, Repr, Inhabited

/-- A function on a line that was called a number of times. -/
def FunctionHits.ofHits (line : UInt32) (hits : UInt64) : FunctionHits :=
  ⟨line, hits > 0, hits⟩

/-- The coverage of a source file. -/
structure FileCoverage where
  path : String
  lines : Std.ExtTreeMap UInt32 UInt64 := {}
  branches : Std.ExtTreeMap BranchId BranchHits := {}
  functions : Std.ExtTreeMap String FunctionHits := {}

namespace FileCoverage

def coveredLines (f : FileCoverage) : Nat := f.lines.toList.countP fun e => e.2 > 0

def coveredBranches (f : FileCoverage) : Nat := f.branches.toList.countP fun e => e.2.taken > 0

def coveredFunctions (f : FileCoverage) : Nat := f.functions.toList.countP fun e => e.2.executed

/-- The sum of two counts, if it fits in 64 bits. -/
def addCounts? (a b : UInt64) : Option UInt64 :=
  if a.toNat + b.toNat < UInt64.size then some (a + b) else none

/-- The hits of two records of a branch: what was taken adds up. -/
def mergeBranch? (a b : BranchHits) : Option BranchHits :=
  (addCounts? a.taken b.taken).map fun taken => ⟨taken, max a.total b.total⟩

/-- The hits of two records of a function: the first known line stays. -/
def mergeFunction? (a b : FunctionHits) : Option FunctionHits :=
  (addCounts? a.hits b.hits).map fun hits =>
    ⟨if a.line = 0 then b.line else a.line, a.executed || b.executed, hits⟩

/-- Joins the entries of `b` into `a`, an entry that `a` lacks counting as `zero` there. -/
def joinEntries? {α β : Type} [Ord α] [Std.TransOrd α] (zero : β) (join : β → β → Option β)
    (a b : Std.ExtTreeMap α β) : Option (Std.ExtTreeMap α β) :=
  b.toList.foldlM
    (fun m (k, v) => (join (m.getD k zero) v).map fun w => m.insert k w) a

/-- The counts of two records of one file added up. -/
def merge? (a b : FileCoverage) : Option FileCoverage := do
  return {
    path := a.path
    lines := ← joinEntries? 0 addCounts? a.lines b.lines
    branches := ← joinEntries? {} mergeBranch? a.branches b.branches
    functions := ← joinEntries? {} mergeFunction? a.functions b.functions }

end FileCoverage
end DocExamples
