/-
# What the records of a block say

Of the records that count the same thing the last one is right (`lines_coverage`,
`branches_coverage`). The calls of a function are those of the last `FNDA:` of it, but its line is
taken from the first record of it, and only an `FN:` knows the line (`functions_coverage`).
-/

import DocExamples.Proofs.Coverage.Block
import Mathlib.Data.List.Induction

namespace DocExamples

namespace Tracefile

/-- What a record can be about: the hits of a line, how often a branch was taken, and the line and
the calls of a function. -/
inductive Topic where
  | hits (line : UInt32)
  | taken (branch : BranchId)
  | place (function : String)
  | calls (function : String)
deriving DecidableEq

namespace Entry

/-- What a record is about. -/
def topic? : Entry → Option Topic
  | .line n _ => some (.hits n)
  | .branch id _ => some (.taken id)
  | .function _ name => some (.place name)
  | .calls _ name => some (.calls name)
  | .file _ | .other => none

/-- How often something was reached according to a record. -/
def count : Entry → UInt64
  | .line _ hits | .calls hits _ => hits
  | .branch _ taken => taken
  | .function .. | .file _ | .other => 0

/-- The count of a record about a topic. -/
def count? (t : Topic) (e : Entry) : Option UInt64 :=
  if e.topic? = some t then some e.count else none

/-- The line of a function if a record is the first one of it; zero if the record has none. -/
def start? (name : String) : Entry → Option UInt32
  | .function n name' => if name' = name then some n else none
  | .calls _ name' => if name' = name then some 0 else none
  | _ => none

variable {e : Entry} {t : Topic} {name : String} {v : UInt64} {n : UInt32}

theorem topic?_of_count? (h : e.count? t = some v) : e.topic? = some t := by
  unfold count? at h
  split_ifs at h with ht
  exact ht

theorem eq_of_start? (h : e.start? name = some n) :
    (∃ n, e = .function n name) ∨ ∃ hits, e = .calls hits name := by
  cases e with
  | function m name' =>
      obtain ⟨rfl, -⟩ : name' = name ∧ m = n := by simpa [start?] using h
      exact .inl ⟨m, rfl⟩
  | calls hits name' =>
      obtain ⟨rfl, -⟩ : name' = name ∧ 0 = n := by simpa [start?] using h
      exact .inr ⟨hits, rfl⟩
  | file | line | branch | other => cases h

end Entry

variable {es : List Entry} {name : String}

theorem findSomeRev?_concat {α β : Type} (l : List α) (a : α) (g : α → Option β) :
    (l ++ [a]).findSomeRev? g = (g a).or (l.findSomeRev? g) := by
  rw [List.findSomeRev?_eq_findSome?_reverse, List.findSomeRev?_eq_findSome?_reverse,
    List.reverse_append, List.findSome?_append, List.reverse_singleton, List.findSome?_singleton]

theorem lines_foldl (path : String) (es : List Entry) (n : UInt32) :
    (es.foldl record { path }).lines[n]? = es.findSomeRev? (Entry.count? (.hits n)) := by
  induction es using List.reverseRecOn with
  | nil => simp
  | append_singleton es e ih =>
      rw [List.foldl_append, List.foldl_cons, List.foldl_nil, findSomeRev?_concat, ← ih]
      cases e with
      | line m hits =>
          rw [record, Std.ExtTreeMap.getElem?_insert]
          by_cases h : m = n <;> simp [h, Entry.count?, Entry.topic?, Entry.count]
      | _ => simp [record, Entry.count?, Entry.topic?]

theorem branches_foldl (path : String) (es : List Entry) (id : BranchId) :
    (es.foldl record { path }).branches[id]? =
      (es.findSomeRev? (Entry.count? (.taken id))).map fun taken => ⟨taken, 1⟩ := by
  induction es using List.reverseRecOn with
  | nil => simp
  | append_singleton es e ih =>
      rw [List.foldl_append, List.foldl_cons, List.foldl_nil, findSomeRev?_concat, Option.map_or,
        ← ih]
      cases e with
      | branch id' taken =>
          rw [record, Std.ExtTreeMap.getElem?_insert]
          by_cases h : id' = id <;> simp [h, Entry.count?, Entry.topic?, Entry.count]
      | _ => simp [record, Entry.count?, Entry.topic?]

/-- A function that no record is about was not called. -/
theorem findSomeRev?_calls_eq_none (h : es.findSome? (Entry.start? name) = none) :
    es.findSomeRev? (Entry.count? (.calls name)) = none := by
  rw [List.findSomeRev?_eq_findSome?_reverse, List.findSome?_eq_none_iff]
  intro e he
  have hstart := List.findSome?_eq_none_iff.1 h e (List.mem_reverse.1 he)
  cases e with
  | calls hits name' => simpa [Entry.start?, Entry.count?, Entry.topic?] using hstart
  | _ => simp [Entry.count?, Entry.topic?]

theorem functions_foldl (path : String) (es : List Entry) (name : String) :
    (es.foldl record { path }).functions[name]? = (es.findSome? (Entry.start? name)).map fun line =>
      .ofHits line ((es.findSomeRev? (Entry.count? (.calls name))).getD 0) := by
  induction es using List.reverseRecOn with
  | nil => simp
  | append_singleton es e ih =>
      rw [List.foldl_append, List.foldl_cons, List.foldl_nil, findSomeRev?_concat,
        List.findSome?_append, List.findSome?_singleton]
      cases e with
      | calls hits name' =>
          rw [record, Std.ExtTreeMap.getElem?_insert]
          by_cases h : name' = name
          · subst h
            rw [Std.ExtTreeMap.getD_eq_getD_getElem?, ih]
            cases es.findSome? (Entry.start? name') <;>
              simp [FunctionHits.ofHits, Entry.start?, Entry.count?, Entry.topic?, Entry.count]
          · simp [h, ih, Entry.start?, Entry.count?, Entry.topic?]
      | function n name' =>
          have hcount : (Entry.function n name').count? (.calls name) = none := by
            simp [Entry.count?, Entry.topic?]
          rw [record, Keyed.getElem?_insertIfNew, ih, hcount, Option.none_or, Entry.start?]
          by_cases h : name' = name
          · cases hstart : es.findSome? (Entry.start? name) with
            | none =>
                rw [findSomeRev?_calls_eq_none hstart, if_pos h, if_pos h]
                rfl
            | some start => rfl
          · simp [h]
      | file | line | branch | other =>
          simp only [Entry.start?, Entry.count?, Entry.topic?, Option.or_none]
          simpa [record] using ih

namespace Block

/-- **The last record about a line** gives its hits. -/
theorem lines_coverage (b : Block) (n : UInt32) :
    b.coverage.lines[n]? = b.entries.findSomeRev? (Entry.count? (.hits n)) :=
  lines_foldl b.path b.entries n

/-- **The last record about a branch** says how often it was taken. -/
theorem branches_coverage (b : Block) (id : BranchId) : b.coverage.branches[id]? =
    (b.entries.findSomeRev? (Entry.count? (.taken id))).map fun taken => ⟨taken, 1⟩ :=
  branches_foldl b.path b.entries id

/-- **The first record about a function** gives its line, and the last one about its calls how
often it was called. -/
theorem functions_coverage (b : Block) (name : String) : b.coverage.functions[name]? =
    (b.entries.findSome? (Entry.start? name)).map fun line =>
      .ofHits line ((b.entries.findSomeRev? (Entry.count? (.calls name))).getD 0) :=
  functions_foldl b.path b.entries name

end Block

end Tracefile
end DocExamples
