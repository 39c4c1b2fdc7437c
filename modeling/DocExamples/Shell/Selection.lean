/-
# Selecting lines

What `grep` shows of its input: the lines that match one of some patterns, or their parts, numbers
or count, with lines around them if that is asked for.
-/

import DocExamples.Shell.Regex
import DocExamples.Shell.Tool

namespace DocExamples
namespace Shell

/-- What is selected, and what is shown of it. -/
structure Selection where
  pattern : Pattern
  options : Tool.Options
  /-- The number of lines shown before and after a selected one. -/
  before : Nat := 0
  after : Nat := 0
  /-- The greatest number of selected lines. -/
  limit : Option Nat := none
  /-- Whether lines are preceded by the name of their file. -/
  named : Bool := false

namespace Selection

open Tool (Options str)

/-! ## Matches -/

/-- The pattern of several lines of text, each of which is an alternative. -/
def joint (fixed : Bool) (style : RegexStyle) (texts : List Bytes) :
    Except RegexFault Pattern :=
  (texts.flatMap (Text.splitOn '\n')).foldlM (fun p text => do
    let q ← if fixed then
        pure (text.foldl (fun p c => .seq p (Regex.oneOf style (.single c))) .empty)
      else Regex.read style text
    return .alt p q) (.chars .empty)

/-- Whether nothing next to a part of a line makes its words longer. -/
def standsAlone (text : Array Char) (start stop : Nat) : Bool :=
  let word (c : Option Char) : Bool := c.any CharSet.asciiWord.mem
  !(start > 0 && word text[start - 1]?) && !word text[stop]?

/-- The longest part of a line from `start` on that matches, at the first place with one. -/
def find? (o : Selection) (line : Array Char) (start : Nat) : Option (Nat × Nat) :=
  (List.range' start (line.size + 1 - start)).findSome? fun i =>
    let found := (o.pattern.ends line { place := i }).filter fun r =>
      (!o.options.has 'w' || standsAlone line i r.place) &&
        (!o.options.has 'x' || i = 0 && r.place = line.size)
    (Regex.longest found).map fun r => (i, r.place)

def selects (o : Selection) (line : Bytes) : Bool :=
  (o.find? line.toArray 0).isSome != o.options.has 'v'

/-- The parts of a line that match, one after the other. -/
def parts (o : Selection) (line : Array Char) : (fuel start : Nat) → List Bytes
  | 0, _ => []
  | fuel + 1, start =>
    match o.find? line start with
    | none => []
    | some (i, j) =>
      if j ≤ i then o.parts line fuel (i + 1)
      else (line.extract i j).toList :: o.parts line fuel j

/-! ## Output -/

/-- A line with its number, and whether it is selected. -/
abbrev Marking := Bytes × Nat × Bool

/-- The lines of a text, no more of them being selected than the limit allows. -/
def markings (o : Selection) (text : Bytes) : List Marking :=
  let found := ((linesOf text).1.zipIdx 1).map fun (l, n) => (l, n, o.selects l)
  (found.foldl (fun (acc : List Marking × Nat) (l, n, yes) =>
    let yes := yes && o.limit.all (acc.2 < ·)
    ((l, n, yes) :: acc.1, if yes then acc.2 + 1 else acc.2)) ([], 0)).1.reverse

/-- What is shown of a line. -/
def shown (o : Selection) (name : Bytes) : Marking → List Bytes
  | (l, n, yes) =>
    let mark := if yes then ':' else '-'
    let lead := (if o.named then name ++ [mark] else []) ++
      (if o.options.has 'n' then State.decimal n ++ [mark] else [])
    if !o.options.has 'o' then [lead ++ l]
    else if o.options.has 'v' || !yes then []
    else (o.parts l.toArray (l.length + 1) 0).map (lead ++ ·)

/-- The lines shown, groups that do not touch being apart. -/
def listing (o : Selection) (name : Bytes) (marked : List Marking) : List Bytes :=
  let chosen := marked.filter (·.2.2)
  let near := marked.filter fun m => chosen.any fun c =>
    c.2.1 ≤ m.2.1 + o.before && m.2.1 ≤ c.2.1 + o.after
  let apart := o.before + o.after > 0
  (near.foldl (fun (acc : List Bytes × Nat) m =>
    let gap := apart && acc.2 > 0 && acc.2 + 1 < m.2.1
    (acc.1 ++ (if gap then ["--".toList] else []) ++ o.shown name m, m.2.1)) ([], 0)).1

/-- What is shown of a file, and whether a line of it is selected. -/
def onFile (o : Selection) (name text : Bytes) : Bytes × Bool :=
  let marked := o.markings text
  let count := (marked.filter (·.2.2)).length
  let any := count > 0
  let title := if name == ['-'] then "(standard input)".toList else name
  let lines :=
    if o.options.has 'q' then []
    else if o.options.has 'l' || o.options.has 'L' then
      if any == o.options.has 'l' then [title] else []
    else if o.options.has 'c' then
      [(if o.named then title ++ [':'] else []) ++ State.decimal count]
    else o.listing title marked
  (withEnds lines, any)

/-! ## The tool -/

def usage (message : Option String) (s : State) : State :=
  s.complain ((message.elim "" fun m => "grep: " ++ m ++ "\n") ++
    "Usage: grep [OPTION]... PATTERNS [FILE]...\nTry 'grep --help' for more information.") 2

/-- A number given as the value of an option. -/
def bound? (o : Options) (letter : Char) : Except Bytes (Option Nat) :=
  match o.value? letter with
  | none => .ok none
  | some v => match Decimal.nat? v with
    | some n => .ok (some n)
    | none => .error v

/-- The files that are searched and the selection, if the options are right. -/
def ofOptions (o : Options) (patterns files : List Bytes) : Except String Selection := do
  let context (letter : Char) : Except String (Option Nat) :=
    (bound? o letter).mapError fun v => str v ++ ": invalid context length argument"
  let around ← context 'C'
  let before ← context 'B'
  let after ← context 'A'
  let limit ← (bound? o 'm').mapError fun _ => "invalid max count"
  let style : RegexStyle :=
    { extended := o.has 'E' || o.has 'P', foldCase := o.has 'i' || o.has 'y' }
  let p ← (joint (o.has 'F') style patterns).mapError RegexFault.message
  return {
    pattern := p, options := o, limit
    before := (before.or around).getD 0, after := (after.or around).getD 0
    named := o.has 'H' || (files.length > 1 && !o.has 'h') }

/-- Searches files one after the other; a quiet search ends with the first match. -/
def search (o : Selection) : List Bytes → (found failed : Bool) → State → State
  | [], found, failed, s =>
    s.finish (if failed && !(o.options.has 'q' && found) then 2 else if found then 0 else 1)
  | f :: rest, found, failed, s =>
    if o.options.has 'q' && found then s.finish 0
    else
      let text? := if f == ['-'] then some s.input else s.readFile? f
      match text? with
      | some text =>
        let s := if f == ['-'] then { s with input := [] } else s
        let (out, any) := o.onFile f text
        search o rest (found || any) failed (s.print out)
      | none =>
        let message := "grep: " ++ str f ++ ": " ++ Tool.unreadable f s
        search o rest found true (if o.options.has 's' then s else s.complain message 2)

/-- An argument without what has no meaning here, such as colours; a number of lines may be an
option of its own. -/
def spelledOut (arg : Bytes) : List Bytes :=
  if (Text.after? "--color".toList arg).isSome then []
  else match arg with
  | '-' :: d :: ds => if (d :: ds).all Char.isDigit then [['-', 'C'], d :: ds] else [arg]
  | _ => [arg]

def run (alwaysExtended alwaysFixed : Bool) : Tool.Run := fun args s =>
  match Options.read "grep" "vcnolLhHxwFEGPiyqsaIbzrRTU" "efmABC" (args.flatMap spelledOut) with
  | .error message => usage (some message) s
  | .ok o =>
    let o := if alwaysExtended then o.choose 'E' [] else o
    let o := if alwaysFixed then o.choose 'F' [] else o
    let missing := (o.values 'f').find? fun f => (s.readFile? f).isNone
    let fromFiles := (o.values 'f').flatMap fun f => (linesOf ((s.readFile? f).getD [])).1
    let given := o.values 'e' ++ fromFiles
    let implied := !o.has 'e' && !o.has 'f'
    let patterns := if implied then o.operands.take 1 else given
    let files := if implied then o.operands.drop 1 else o.operands
    match missing with
    | some f => s.complain ("grep: " ++ str f ++ ": " ++ Tool.unreadable f s) 2
    | none =>
      if implied && patterns.isEmpty then usage none s
      else match ofOptions o patterns files with
        | .error message => s.complain ("grep: " ++ message) 2
        | .ok selection =>
          (if files.isEmpty then [['-']] else files) |> fun files =>
            search selection files false false s

end Selection
end Shell
end DocExamples
