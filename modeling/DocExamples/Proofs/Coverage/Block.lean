/-
# A tracefile is its blocks

A row that begins with `SF:` opens a block, and the rows after it, up to the next one that opens a
block, are the rows of the block (`blocks`). Rows before the first block belong to no file, and
nothing else closes a block. So a tracefile is read as its blocks one after the other
(`read_eq`), and a file has what the last block under its path says (`getElem?_read`). A text that
begins with a block has nothing to do with the rows before it, if they end in a line feed. So
putting it behind another text is the same as reading the other text first (`ingest_append`).
-/

import DocExamples.Proofs.Coverage.Store
import DocExamples.Proofs.Text.Lines

namespace DocExamples

open Text

namespace Tracefile

/-! ### Blocks -/

/-- The rows of a text: its lines, without carriage returns at their ends. -/
def rows (text : String) : List (List Char) :=
  (lines text.toList).map fun line => line.rdropWhile (· == '\r')

/-- The path on a row that opens a block. -/
def opened? (row : List Char) : Option String := (after? ['S', 'F', ':'] row).map String.ofList

/-- The rows before the first one that opens a block. -/
def head (rs : List (List Char)) : List (List Char) := rs.takeWhile fun row => (opened? row).isNone

/-- The path of a file and rows about it. -/
structure Block where
  path : String
  rows : List (List Char)
deriving DecidableEq

namespace Block

/-- The records on the rows of a block. -/
def entries (b : Block) : List Entry := b.rows.map entryOf

/-- What a block says about its file. -/
def coverage (b : Block) : FileCoverage := b.entries.foldl record { path := b.path }

end Block

/-- The blocks that some rows make up. -/
def blocksOf : List (List Char) → List Block
  | [] => []
  | row :: rest =>
    match opened? row with
    | some path => ⟨path, head rest⟩ :: blocksOf rest
    | none => blocksOf rest

/-- The blocks of a text. -/
def blocks (text : String) : List Block := blocksOf (rows text)

/-- The last block of a text under a path. -/
def lastBlock? (text path : String) : Option Block := (blocks text).findRev? fun b => b.path = path

variable {row : List Char} {rs rs' : List (List Char)} {path : String} {a b : String}

theorem entries_eq (text : String) : entries text = (rows text).map entryOf := by
  rw [entries, rows, List.map_map]
  rfl

theorem entryOf_of_opened? (h : opened? row = some path) : entryOf row = .file path := by
  obtain ⟨rest, hrest, rfl⟩ := Option.map_eq_some_iff.1 h
  simp only [entryOf, hrest]

theorem entryOf_ne_file (h : opened? row = none) (path : String) : entryOf row ≠ .file path := by
  simp only [entryOf, Option.map_eq_none_iff.1 h]
  repeat' split
  all_goals simp

theorem path_record (f : FileCoverage) (e : Entry) : (record f e).path = f.path := by
  cases e <;> rfl

theorem Block.path_coverage (b : Block) : b.coverage.path = b.path :=
  List.foldlRecOn (motive := fun f => f.path = b.path) b.entries record rfl
    fun f hf e _ => (path_record f e).trans hf

/-! ### Reading blocks -/

namespace Progress

/-- More records for the current file. -/
def extend (p : Progress) (es : List Entry) : Progress :=
  { p with current := p.current.map fun f => es.foldl record f }

theorem extend_nil (p : Progress) : p.extend [] = p := by
  cases p with
  | mk files current => cases current <;> rfl

theorem extend_step (h : opened? row = none) (p : Progress) (es : List Entry) :
    (p.step (entryOf row)).extend es = p.extend (entryOf row :: es) := by
  have hstep : p.step (entryOf row) = p.extend [entryOf row] := by
    unfold step
    split
    · next path heq => exact absurd heq (entryOf_ne_file h path)
    · rfl
  rw [hstep, extend, extend, extend, Option.map_map]
  rfl

/-- **Reading rows** adds those before the first block to the current file and then puts in what
each block says. -/
theorem finish_foldl_step (p : Progress) (rs : List (List Char)) :
    ((rs.map entryOf).foldl step p).finish =
      (p.extend ((head rs).map entryOf)).finish.insertMany
        ((blocksOf rs).map fun b => (b.path, b.coverage)) := by
  induction rs generalizing p with
  | nil => exact congrArg finish p.extend_nil.symm
  | cons row rs ih =>
      rw [List.map_cons, List.foldl_cons, ih, blocksOf]
      cases hopen : opened? row with
      | none =>
          have hhead : head (row :: rs) = row :: head rs := by simp [head, hopen]
          rw [hhead, List.map_cons, extend_step hopen]
      | some path =>
          let b : Block := ⟨path, head rs⟩
          have hhead : head (row :: rs) = [] := by simp [head, hopen]
          have hfinish : ((p.step (.file path)).extend b.entries).finish =
              p.finish.insert b.coverage.path b.coverage := rfl
          rw [entryOf_of_opened? hopen, hhead, List.map_nil, extend_nil, List.map_cons,
            Std.ExtTreeMap.insertMany_cons, ← b.path_coverage, ← hfinish]
          rfl

end Progress

/-- **A tracefile is read as its blocks**, each in place of those before it under the same path. -/
theorem read_eq (text : String) :
    read text = ({} : Files).insertMany ((blocks text).map fun b => (b.path, b.coverage)) := by
  rw [read, entries_eq]
  exact Progress.finish_foldl_step {} (rows text)

/-- **A file has what the last block under its path says.** -/
theorem getElem?_read (text path : String) :
    (read text)[path]? = (lastBlock? text path).map Block.coverage := by
  rw [read_eq, lastBlock?, List.findRev?_eq_find?_reverse, Std.ExtTreeMap.getElem?_insertMany_list,
    List.findSomeRev?_eq_findSome?_reverse, ← List.map_reverse, List.findSome?_map]
  induction (blocks text).reverse with
  | nil => simp
  | cons b bs ih =>
      by_cases h : b.path = path
      · simp [h]
      · simpa [h] using ih

theorem path_of_lastBlock? {text : String} {b : Block} (h : lastBlock? text path = some b) :
    b.path = path := by
  rw [lastBlock?, List.findRev?_eq_find?_reverse] at h
  simpa using List.find?_some h

/-! ### One text after another -/

/-- Whether a text is empty or ends its last line. -/
def Ended (text : String) : Prop := text = "" ∨ ∃ s, text = s ++ "\n"

/-- Whether a text begins with a block. -/
def Opens (text : String) : Prop := ∃ s, text = "SF:" ++ s

theorem rows_append (ha : Ended a) (b : String) : rows (a ++ b) = rows a ++ rows b := by
  obtain rfl | ⟨s, rfl⟩ := ha
  · simp [rows, lines]
  · have hfeed : (s ++ "\n" ++ b).toList = s.toList ++ '\n' :: b.toList := by simp
    rw [rows, hfeed, lines_append_lineFeed, List.map_append]
    simp [rows]

theorem exists_rows_of_opens (hb : Opens b) :
    ∃ row rs path, rows b = row :: rs ∧ opened? row = some path := by
  obtain ⟨s, rfl⟩ := hb
  obtain ⟨l, ls, hlines⟩ :=
    exists_lines_append (a := ['S', 'F', ':']) (by simp) (by simp) s.toList
  have hrows : rows ("SF:" ++ s) = (lines (['S', 'F', ':'] ++ s.toList)).map fun line =>
      line.rdropWhile (· == '\r') := by
    rw [rows, String.toList_append]
    rfl
  rw [hlines, List.map_cons] at hrows
  refine ⟨_, _, String.ofList (l.rdropWhile (· == '\r')), hrows, ?_⟩
  simp [opened?, rdropWhile_cons_of_neg, after?]

theorem blocksOf_append (h : opened? row = some path) :
    blocksOf (rs ++ row :: rs') = blocksOf rs ++ blocksOf (row :: rs') := by
  induction rs with
  | nil => rfl
  | cons first rs ih =>
      have hhead : head (rs ++ row :: rs') = head rs := by
        rw [head, head, List.takeWhile_append]
        split_ifs with hall
        · simp [h, (List.takeWhile_prefix _).eq_of_length hall]
        · rfl
      rw [List.cons_append, blocksOf, blocksOf, hhead, ih]
      split <;> rfl

theorem lastBlock?_append (ha : Ended a) (hb : Opens b) (path : String) :
    lastBlock? (a ++ b) path = (lastBlock? b path).or (lastBlock? a path) := by
  obtain ⟨row, rs, path', hrows, hopen⟩ := exists_rows_of_opens hb
  have hblocks : blocks (a ++ b) = blocks a ++ blocks b := by
    rw [blocks, blocks, blocks, rows_append ha, hrows, blocksOf_append hopen]
  simp only [lastBlock?, List.findRev?_eq_find?_reverse, hblocks, List.reverse_append,
    List.find?_append]

end Tracefile

namespace Coverage

open Tracefile

/-- **Putting tracefiles one behind the other** is reading them one after the other. If the first
text ends its last line and the second one begins with a block, then the files of both together are
those of the second one, and those of the first one that the second one does not have. So a store
takes both in as it takes in the first one and then the second one, and it takes in nothing new if
the second one comes once more. -/
theorem ingest_append {a b : String} (ha : Ended a) (hb : Opens b) :
    (∀ path : String, (read (a ++ b))[path]? = ((read b)[path]?).or (read a)[path]?) ∧
      ∀ c : Coverage, c.ingest (a ++ b) = (c.ingest a).ingest b ∧
        (c.ingest b).ingest b = c.ingest b := by
  have hread (path : String) :
      (read (a ++ b))[path]? = ((read b)[path]?).or (read a)[path]? := by
    rw [getElem?_read, getElem?_read, getElem?_read, lastBlock?_append ha hb, Option.map_or]
  refine ⟨hread, fun c => ⟨?_, ?_⟩⟩
  · refine (c.sound_ingest _).ext ((c.ingest a).sound_ingest b) ?_ rfl
    refine Std.ExtTreeMap.ext_getElem? fun path => ?_
    rw [files_ingest, files_ingest, files_ingest, hread, Option.or_assoc]
  · refine ((c.ingest b).sound_ingest b).ext (c.sound_ingest b) ?_ rfl
    refine Std.ExtTreeMap.ext_getElem? fun path => ?_
    rw [files_ingest, files_ingest, ← Option.or_assoc, Option.or_self]

/-- The first text has records before its first block, after the end of a record and with a number
that is none. The second one starts a file of the first one over and does not end its last line. -/
theorem ingest_append_start_over :
    let a := "DA:7,7\nSF:a.c\nDA:1,1\nend_of_record\nDA:2,x\nSF:b.c\nDA:3,1\r\n"
    let b := "SF:a.c\nDA:1,0"
    Ended a ∧ Opens b ∧
      ((read (a ++ b))["a.c"]?).map (fun f => f.lines.toList) = some [(1, 0)] ∧
      ((read (a ++ b))["b.c"]?).map (fun f => f.lines.toList) = some [(3, 1)] ∧
      ({} : Coverage).ingest (a ++ b) = (({} : Coverage).ingest a).ingest b := by
  intro a b
  have ha : Ended a :=
    .inr ⟨"DA:7,7\nSF:a.c\nDA:1,1\nend_of_record\nDA:2,x\nSF:b.c\nDA:3,1\r", rfl⟩
  have hb : Opens b := ⟨"a.c\nDA:1,0", rfl⟩
  obtain ⟨hread, hingest⟩ := ingest_append ha hb
  refine ⟨ha, hb, ?_, ?_, (hingest {}).1⟩
  · rw [hread]
    decide +kernel
  · rw [hread]
    decide +kernel

end Coverage
end DocExamples
