/-
# Tools on texts

Tools that show texts as a whole or in part, count them or turn them round, and the names of all
tools that work on texts.
-/

import DocExamples.Shell.Characters
import DocExamples.Shell.Column
import DocExamples.Shell.Editor
import DocExamples.Shell.Selection
import DocExamples.Shell.Sequence
import DocExamples.Shell.Sorting

namespace DocExamples
namespace Shell
namespace TextTool

open Tool (Options Run str usage withOptions)

/-! ## Whole texts -/

/-- A byte in a visible form, line ends and tabs being left as they are. -/
def visible (c : Char) : Bytes :=
  let plain (c : Char) : Bytes :=
    if c < ' ' then ['^', Char.ofNat (c.toNat + 64)]
    else if c == '\x7f' then ['^', '?']
    else [c]
  if c == '\t' || c == '\n' then [c]
  else if c.toNat < 128 then plain c
  else 'M' :: '-' :: plain (Char.ofNat (c.toNat - 128))

/-- Lines without empty ones that follow an empty one. -/
def withoutGaps : List Bytes → List Bytes
  | [] :: [] :: rest => withoutGaps ([] :: rest)
  | l :: rest => l :: withoutGaps rest
  | [] => []

/-- A text with line numbers and with what is not visible made visible. -/
def decorated (o : Options) (text : Bytes) : Bytes :=
  let all := o.has 'A'
  let (lines, complete) := linesOf text
  let lines := if o.has 's' then withoutGaps lines else lines
  let (shown, _) := lines.foldl (fun (out, n) (l : Bytes) =>
    let seen := if all || o.has 'v' || o.has 'e' || o.has 't' then l.flatMap visible
      else if o.has 'E' && l.getLast? == some '\r' then l.dropLast ++ ['^', 'M']
      else l
    let seen := if all || o.has 'T' || o.has 't' then seen.flatMap fun c =>
        if c == '\t' then ['^', 'I'] else [c]
      else seen
    if o.has 'b' && !l.isEmpty || o.has 'n' && !o.has 'b' then
      (out ++ [Printing.padded false false 6 (State.decimal n) ++ '\t' :: seen], n + 1)
    else (out ++ [seen], n)) ([], 1)
  if all || o.has 'E' || o.has 'e' then ['$', '\n'].intercalate shown ++
    (if complete && !shown.isEmpty then ['$', '\n'] else [])
  else rejoined shown complete

def cat : Run := withOptions "cat" "nbETAsvetu" "" 1 fun o s =>
  if o.chosen.all (·.1 == 'u') then
    Tool.each (if o.operands.isEmpty then [['-']] else o.operands) (fun f s =>
      let (texts, s) := Tool.inputs "cat" [f] s
      s.print (texts.flatMap (·.2))) s
  else
    let (texts, s) := Tool.inputs "cat" o.operands s
    s.print (decorated o (texts.flatMap (·.2)))

/-- Turns the lines of files round; one without its end keeps that. -/
def tac : Run := withOptions "tac" "br" "s" 1 fun o s =>
  let complaint (f : Bytes) (s : State) : State :=
    if s.files.isDirectory (str f) then
      s.complain ("tac: " ++ str f ++ ": read error: Invalid argument") 1
    else
      s.complain ("tac: failed to open '" ++ str f ++ "' for reading: No such file or directory") 1
  let (texts, s) := Tool.inputsOr complaint o.operands s
  s.print (texts.flatMap fun t =>
    let (lines, complete) := linesOf t.2
    match lines.reverse with
    | [] => []
    | last :: rest => last ++ (if complete then ['\n'] else []) ++ withEnds rest)

/-- Turns each line round. -/
def rev : Run := withOptions "rev" "" "" 1 fun o s =>
  let complaint (f : Bytes) (s : State) : State :=
    s.complain ("rev: cannot open " ++ str f ++ ": " ++ Tool.unreadable f s) 1
  let (texts, s) := Tool.inputsOr complaint o.operands s
  s.print (texts.flatMap fun t =>
    let (lines, complete) := linesOf t.2
    rejoined (lines.map List.reverse) complete)

/-! ## Parts -/

/-- The factor that the letters behind a number stand for. -/
def factor? (cs : Bytes) : Option Nat :=
  match str cs with
  | "" => some 1
  | "b" => some 512
  | "k" | "K" | "KiB" => some 1024
  | "kB" | "KB" => some 1000
  | "m" | "M" | "MiB" => some 1048576
  | "MB" => some 1000000
  | _ => none

/-- How much of a text is meant. -/
structure Amount where
  bytes : Bool
  /-- The sign in front of the number. -/
  sign : Option Char
  count : Nat

/-- The amount that a text gives. -/
def Amount.read? (bytes : Bool) (cs : Bytes) : Option Amount := do
  let (sign, rest) := match cs with
    | '+' :: rest => (some '+', rest)
    | '-' :: rest => (some '-', rest)
    | rest => (none, rest)
  let ds := rest.takeWhile Char.isDigit
  if ds.isEmpty then none
  return ⟨bytes, sign, Decimal.ofDigits ds * (← factor? (rest.drop ds.length))⟩

/-- The amount that options ask for, ten lines if they do not. -/
def Amount.ofOptions (o : Options) : Except String Amount :=
  match (o.chosen.filter fun c => c.1 == 'n' || c.1 == 'c').getLast? with
  | none => .ok ⟨false, none, 10⟩
  | some (letter, v) =>
    match Amount.read? (letter == 'c') v with
    | some a => .ok a
    | none => .error ("invalid number of " ++ (if letter == 'c' then "bytes" else "lines") ++
      ": '" ++ str v ++ "'")

/-- A text in the units that are counted. -/
def units (bytes : Bool) (text : Bytes) : List Bytes :=
  if bytes then text.map fun c => [c]
  else
    let (lines, complete) := linesOf text
    lines.zipIdx.map fun (l, i) => if !complete && i + 1 = lines.length then l else l ++ ['\n']

/-- The beginning of a text: so much of it, or all but so much. -/
def Amount.first (a : Amount) (text : Bytes) : Bytes :=
  let us := units a.bytes text
  (us.take (if a.sign == some '-' then us.length - a.count else a.count)).flatten

/-- The end of a text: so much of it, or all from some place on. -/
def Amount.last (a : Amount) (text : Bytes) : Bytes :=
  let us := units a.bytes text
  (us.drop (if a.sign == some '+' then a.count - 1 else us.length - a.count)).flatten

/-- Shows parts of files, under their names if there are several. -/
def showParts (tool : String) (part : Bytes → Bytes) (o : Options) (s : State) : State :=
  let files := if o.operands.isEmpty then [['-']] else o.operands
  let titled := (1 < files.length || o.has 'v') && !o.has 'q'
  let title (f : Bytes) (first : Bool) : Bytes :=
    if !titled then []
    else
      let name := if f == ['-'] then "standard input" else str f
      State.bytesOf ((if first then "" else "\n") ++ "==> " ++ name ++ " <==\n")
  (files.foldl (fun ((s, first) : State × Bool) f =>
    if s.files.isDirectory (str f) then
      ((s.print (title f first)).complain
        (tool ++ ": error reading '" ++ str f ++ "': Is a directory") 1, false)
    else
      let complaint (f : Bytes) (s : State) : State :=
        s.complain (tool ++ ": cannot open '" ++ str f ++
          "' for reading: No such file or directory") 1
      match Tool.inputsOr complaint [f] s with
      | ([(_, text)], s) => (s.print (title f first ++ part text), false)
      | (_, s) => (s, first)) (s, true)).1

/-- The options that a number of its own stands for: a number and letters behind a sign. -/
def amountOptions (arg : Bytes) : Option (List Bytes) :=
  match arg with
  | sign :: rest =>
    let ds := rest.takeWhile Char.isDigit
    let letters := rest.drop ds.length
    if ds.isEmpty || !(sign == '-' || sign == '+') then none
    else
      let number := (if sign == '+' then ['+'] else []) ++ ds ++
        letters.filter fun c => c == 'b' || c == 'k' || c == 'm'
      let flags := letters.filter fun c => c == 'q' || c == 'v'
      some ((if letters.contains 'c' then [['-', 'c'], number] else [['-', 'n'], number]) ++
        flags.map fun c => ['-', c])
  | [] => none

/-- The arguments with a number in front spelled out. -/
def spelledOut (signs : List Char) (args : List Bytes) : List Bytes :=
  match args with
  | a :: rest =>
    if (a.head?.any signs.contains) then ((amountOptions a).getD [a]) ++ rest else args
  | [] => []

def head : Run := fun args => withOptions "head" "qvz" "nc" 1 (fun o s =>
  match Amount.ofOptions o with
  | .ok a => showParts "head" a.first o s
  | .error message => s.complain ("head: " ++ message) 1) (spelledOut ['-'] args)

def tail : Run := fun args => withOptions "tail" "qvzfF" "ncs" 1 (fun o s =>
  match Amount.ofOptions o with
  | .ok a => showParts "tail" a.last o s
  | .error message => s.complain ("tail: " ++ message) 1)
  (spelledOut (if args.length ≤ 2 then ['-', '+'] else ['-']) args)

/-! ## Counting -/

/-- The words of a text between blanks. -/
def wordCount (text : Bytes) : Nat :=
  (text.foldl (fun (n, inside) c =>
    let word := !Numeral.isSpace c
    (if word && !inside then n + 1 else n, word)) (0, false)).1

/-- The length of the longest line, tabs being filled up to columns of eight. -/
def longestLine (text : Bytes) : Nat :=
  (linesOf text).1.foldl (fun n l => max n (l.foldl (fun column c =>
    if c == '\t' then column + 8 - column % 8
    else if ' ' ≤ c && c ≤ '~' then column + 1
    else column) 0)) 0

/-- What is counted in a text, each count under the letter that asks for it. -/
def counts (text : Bytes) : List (Char × Nat) :=
  [('l', text.count '\n'), ('w', wordCount text), ('m', text.length), ('c', text.length),
    ('L', longestLine text)]

def wc : Run := withOptions "wc" "lwcmL" "" 1 fun o s =>
  let letters := "lwmcL".toList.filter fun c =>
    if o.chosen.isEmpty then c == 'l' || c == 'w' || c == 'c' else o.has c
  let files := if o.operands.isEmpty then [['-']] else o.operands
  let regular := files.filter fun f => s.files.isFile (str f)
  let size := regular.foldl (fun n f => n + ((s.readFile? f).getD []).length) 0
  let other := files.any fun f => f == ['-'] || s.files.isDirectory (str f)
  let digits := (State.decimal size).length
  let width := if files.length = 1 && letters.length = 1 then 1
    else if other then max digits 7 else digits
  let line (found : List Nat) (name : Bytes) : Bytes :=
    let columns := found.map fun n => Printing.padded false false width (State.decimal n)
    [' '].intercalate (columns ++ if name.isEmpty then [] else [name]) ++ ['\n']
  let chosen (found : List (Char × Nat)) : List Nat :=
    letters.filterMap fun c => found.lookup c
  let (s, total) := files.foldl (fun ((s, total) : State × List Nat) f =>
    let shown := if o.operands.isEmpty then [] else f
    match Tool.inputs "wc" [f] s with
    | ([(_, text)], s) =>
      let found := chosen (counts text)
      let total := (letters.zip (total.zip found)).map fun (c, a, b) =>
        if c == 'L' then max a b else a + b
      (s.print (line found shown), total)
    | (_, after) =>
      if s.files.isDirectory (str f) then (after.print (line (letters.map fun _ => 0) f), total)
      else (after, total)) (s, letters.map fun _ => 0)
  if 1 < files.length then s.print (line total "total".toList) else s

/-- The tool of a name. -/
def named? (name : String) : Option Run :=
  match name with
  | "cat" => some cat
  | "tac" => some tac
  | "rev" => some rev
  | "head" => some head
  | "tail" => some tail
  | "wc" => some wc
  | "sort" => some Sorting.sort
  | "uniq" => some Sorting.uniq
  | "cut" => some Column.cut
  | "paste" => some Column.paste
  | "fold" => some Column.fold
  | "nl" => some Column.nl
  | "od" => some Column.od
  | "tr" => some Characters.tr
  | "seq" => some Sequence.seq
  | "yes" => some Sequence.yes
  | "grep" => some (Selection.run false false)
  | "egrep" => some (Selection.run true false)
  | "fgrep" => some (Selection.run false true)
  | "sed" => some Editor.runTool
  | _ => none

end TextTool
end Shell
end DocExamples
