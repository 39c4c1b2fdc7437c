/-
# Tracefiles

A tracefile lists records line by line. `SF:` names the file that the records after it belong to,
until the next `SF:`; a second `SF:` of a file starts it over. `DA:` gives the hits of a line,
`FN:` the line of a function, `FNDA:` its hits and `BRDA:` the hits of a branch. Everything else
is skipped, and a number that cannot be read counts as zero.
-/

import DocExamples.Coverage.Record
import DocExamples.Decimal.Read
import DocExamples.Text.Blank
import DocExamples.Text.Lines
import DocExamples.Text.Search

namespace DocExamples
namespace Tracefile

/-- One record of a tracefile. -/
inductive Entry where
  | file (path : String)
  | line (number : UInt32) (hits : UInt64)
  | calls (hits : UInt64) (name : String)
  | function (line : UInt32) (name : String)
  | branch (id : BranchId) (taken : UInt64)
  | other
deriving DecidableEq, Repr

/-- A number of at most 64 bits, blanks around it allowed; zero if it is none. -/
def number (field : List Char) : Nat := (Decimal.bounded? UInt64.size (Text.trim field)).getD 0

/-- The number in a field, zero if the field is missing. -/
def field (fields : List (List Char)) (i : Nat) : Nat := ((fields[i]?).map number).getD 0

/-- The record on a line. -/
def entryOf (line : List Char) : Entry :=
  match Text.after? ['S', 'F', ':'] line with
  | some path => .file (String.ofList path)
  | none =>
  match Text.after? ['D', 'A', ':'] line with
  | some rest =>
    let fields := Text.splitOn ',' rest
    .line (UInt32.ofNat (field fields 0)) (UInt64.ofNat (field fields 1))
  | none =>
  match Text.after? ['F', 'N', 'D', 'A', ':'] line with
  | some rest =>
    match Text.cut? ',' rest with
    | some (hits, name) => .calls (UInt64.ofNat (number hits)) (String.ofList name)
    | none => .other
  | none =>
  match Text.after? ['F', 'N', ':'] line with
  | some rest =>
    match Text.cut? ',' rest with
    | some (line, name) => .function (UInt32.ofNat (number line)) (String.ofList name)
    | none => .other
  | none =>
  match Text.after? ['B', 'R', 'D', 'A', ':'] line with
  | some rest =>
    let fields := Text.splitOn ',' rest
    .branch
      ⟨UInt32.ofNat (field fields 0), UInt32.ofNat (field fields 1), UInt32.ofNat (field fields 2)⟩
      (UInt64.ofNat (field fields 3))
  | none => .other

/-- The records of a text. -/
def entries (text : String) : List Entry :=
  (Text.lines text.toList).map fun line =>
    entryOf (line.reverse.dropWhile (· == '\r')).reverse

/-- Adds a record to the file it belongs to. -/
def record (f : FileCoverage) : Entry → FileCoverage
  | .line n hits => { f with lines := f.lines.insert n hits }
  | .calls hits name =>
    let known := f.functions.getD name {}
    { f with functions :=
        f.functions.insert name { known with hits := hits, executed := hits > 0 } }
  | .function line name =>
    { f with functions := f.functions.insertIfNew name { line } }
  | .branch id taken => { f with branches := f.branches.insert id ⟨taken, 1⟩ }
  | .file _ | .other => f

/-- The files of a tracefile by path. -/
abbrev Files := Std.ExtTreeMap String FileCoverage

/-- What has been read: the finished files and the file that records belong to. -/
structure Progress where
  files : Files := {}
  current : Option FileCoverage := none

namespace Progress

/-- The finished files, the current one included. -/
def finish (p : Progress) : Files :=
  match p.current with
  | some f => p.files.insert f.path f
  | none => p.files

/-- Takes one more record. -/
def step (p : Progress) (e : Entry) : Progress :=
  match e with
  | .file path => ⟨p.finish, some { path }⟩
  | e => { p with current := p.current.map fun f => record f e }

end Progress

/-- The files of a tracefile. -/
def read (text : String) : Files := ((entries text).foldl Progress.step {}).finish

/-- The lines of a tracefile for one file. -/
def fileLines (f : FileCoverage) : List String :=
  ["SF:" ++ f.path] ++
  f.functions.toList.flatMap (fun (name, fn) => [
    "FN:" ++ toString fn.line.toNat ++ "," ++ name,
    "FNDA:" ++ toString fn.hits.toNat ++ "," ++ name]) ++
  f.lines.toList.map (fun (n, hits) => "DA:" ++ toString n.toNat ++ "," ++ toString hits.toNat) ++
  f.branches.toList.map (fun (id, b) =>
    "BRDA:" ++ toString id.line.toNat ++ "," ++ toString id.block.toNat ++ "," ++
      toString id.branch.toNat ++ "," ++ toString b.taken.toNat) ++
  ["end_of_record"]

/-- Files written as a tracefile. -/
def write (files : List FileCoverage) : String :=
  String.join ((files.flatMap fileLines).map (· ++ "\n"))

end Tracefile
end DocExamples
