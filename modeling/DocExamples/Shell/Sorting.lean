/-
# Sorting lines

The order that `sort` brings lines into: by keys cut out of them, each compared as text, number or
version, and then by their bytes. `uniq` works on runs of lines that are alike.
-/

import DocExamples.Shell.Tool

namespace DocExamples
namespace Shell

/-- The order of bytes. -/
def compareBytes (a b : Bytes) : Ordering := compareOfLessAndEq (String.ofList a) (String.ofList b)

/-! ## Values -/

/-- A decimal number: its sign, the digits before the point and those after it. -/
structure Quantity where
  negative : Bool
  whole : Bytes
  decimals : Bytes

namespace Quantity

/-- The number at the front of a text; nothing at all is zero. -/
def ofBytes (cs : Bytes) : Quantity :=
  let (negative, rest) := match cs with
    | '-' :: rest => (true, rest)
    | rest => (false, rest)
  let whole := rest.takeWhile Char.isDigit
  let decimals := match rest.drop whole.length with
    | '.' :: more => more.takeWhile Char.isDigit
    | _ => []
  { negative, whole, decimals }

/-- The number in units of its last one of so many places. -/
def inUnits (q : Quantity) (places : Nat) : Int :=
  let zeros := List.replicate (places - q.decimals.length) '0'
  let n := Int.ofNat (Decimal.ofDigits (q.whole ++ q.decimals ++ zeros))
  if q.negative then -n else n

def compareWith (a b : Quantity) : Ordering :=
  let places := max a.decimals.length b.decimals.length
  Ord.compare (a.inUnits places) (b.inUnits places)

end Quantity

/-- The parts of a name between which digits begin or end. -/
def chunks (cs : Bytes) : List Bytes :=
  cs.foldr (fun c parts =>
    match parts with
    | (d :: ds) :: more =>
      if c.isDigit == d.isDigit then (c :: d :: ds) :: more else [c] :: (d :: ds) :: more
    | parts => [c] :: parts) []

/-- The order of versions, in which numbers count as a whole. -/
def compareVersions : List Bytes → List Bytes → Ordering
  | [], [] => .eq
  | [], _ => .lt
  | _, [] => .gt
  | a :: as, b :: bs =>
    let numbers := (a.all Char.isDigit && b.all Char.isDigit)
    let first := if numbers then Ord.compare (Decimal.ofDigits a) (Decimal.ofDigits b)
      else compareBytes a b
    first.then (compareVersions as bs)

/-! ## Keys -/

/-- One end of a key: a field, and a character in it. -/
structure KeyEnd where
  field : Nat
  place : Nat
  letters : Bytes

/-- A part of a line that lines are compared by. -/
structure SortKey where
  start : KeyEnd
  stop : Option KeyEnd := none

namespace SortKey

/-- A number of fields or characters, counted from one. -/
def count (position : String) (cs : Bytes) : Except String (Nat × Bytes) :=
  let ds := cs.takeWhile Char.isDigit
  if ds.isEmpty then
    .error ("invalid number " ++ position ++ ": invalid count at start of '" ++
      State.textOf cs ++ "'")
  else .ok (Decimal.ofDigits ds, cs.drop ds.length)

/-- Complains about the text of a key. -/
def invalid {α : Type} (why : String) (text : Bytes) : Except String α :=
  .error (why ++ ": invalid field specification '" ++ State.textOf text ++ "'")

/-- The letters of an order. -/
def orderLetters : Bytes := "bdfghiMnrRV".toList

/-- Reads one end. The second end may lack its character. -/
def readEnd (last : Bool) (text cs : Bytes) : Except String (KeyEnd × Bytes) := do
  let (field, rest) ← count (if last then "after ','" else "at field start") cs
  if field = 0 then invalid "field number is zero" text
  let (place, rest) ← match rest with
    | '.' :: more => do
      let (place, rest) ← count "after '.'" more
      if place = 0 && !last then invalid "character offset is zero" text
      pure (place, rest)
    | rest => pure (if last then 0 else 1, rest)
  let letters := rest.takeWhile orderLetters.contains
  return ({ field, place, letters }, rest.drop letters.length)

def read (text : Bytes) : Except String SortKey := do
  let (start, rest) ← readEnd false text text
  match rest with
  | [] => return { start }
  | ',' :: rest =>
    let (stop, rest) ← readEnd true text rest
    if !rest.isEmpty then invalid "stray character in field spec" text
    return { start, stop := some stop }
  | _ => invalid "stray character in field spec" text

def isGap (c : Char) : Bool := c == ' ' || c == '\t'

/-- What is left of a line after so many fields. -/
def afterFields (mark : Option Char) : Nat → Bytes → Bytes
  | 0, cs => cs
  | n + 1, cs =>
    match mark with
    | some m => afterFields mark n ((cs.dropWhile (· != m)).drop 1)
    | none => afterFields mark n ((cs.dropWhile isGap).dropWhile (!isGap ·))

/-- The number of bytes of a line before a key ends. -/
def stopPlace (mark : Option Char) (skipsGaps : Bool) (e : KeyEnd) (line : Bytes) : Nat :=
  if e.place = 0 then
    let rest := afterFields mark (e.field - 1) line
    let rest := match mark with
      | some m => rest.dropWhile (· != m)
      | none => (rest.dropWhile isGap).dropWhile (!isGap ·)
    line.length - rest.length
  else
    let rest := afterFields mark (e.field - 1) line
    let rest := if skipsGaps then rest.dropWhile isGap else rest
    min line.length (line.length - rest.length + e.place)

/-- The part of a line that is a key. -/
def part (mark : Option Char) (skipsStart skipsStop : Bool) (k : SortKey) (line : Bytes) :
    Bytes :=
  let rest := afterFields mark (k.start.field - 1) line
  let rest := if skipsStart then rest.dropWhile isGap else rest
  let rest := rest.drop (k.start.place - 1)
  match k.stop with
  | none => rest
  | some e => rest.take (stopPlace mark skipsStop e line - (line.length - rest.length))

/-- The order of two texts under the letters of an order. -/
def compareBy (letters : Bytes) (a b : Bytes) : Ordering :=
  let trimmed (cs : Bytes) : Bytes := cs.dropWhile isGap
  let kept (cs : Bytes) : Bytes :=
    let cs := if letters.contains 'd' then cs.filter fun c => c.isAlphanum || isGap c else cs
    let cs := if letters.contains 'i' then cs.filter fun c => ' ' ≤ c && c ≤ '~' else cs
    if letters.contains 'f' then cs.map Char.toUpper else cs
  let found :=
    if letters.contains 'n' || letters.contains 'h' then
      (Quantity.ofBytes (trimmed a)).compareWith (Quantity.ofBytes (trimmed b))
    else if letters.contains 'g' then
      match Numeral.fraction? (trimmed a), Numeral.fraction? (trimmed b) with
      | some (x, _), some (y, _) => if x < y then .lt else if x == y then .eq else .gt
      | none, none => .eq
      | none, some _ => .lt
      | some _, none => .gt
    else if letters.contains 'V' then compareVersions (chunks (kept a)) (chunks (kept b))
    else compareBytes (kept a) (kept b)
  if letters.contains 'r' then found.swap else found

/-- The order of two lines by a key, `overall` holding the letters that count where a key has none
of its own. -/
def compare (mark : Option Char) (overall : Bytes) (k : SortKey) (a b : Bytes) : Ordering :=
  let own := k.start.letters ++ (k.stop.elim [] fun e => e.letters)
  let letters := if own.isEmpty then overall else own
  let skipsStart := if own.isEmpty then overall.contains 'b' else k.start.letters.contains 'b'
  let skipsStop := if own.isEmpty then overall.contains 'b'
    else k.stop.any fun e => e.letters.contains 'b'
  compareBy letters (part mark skipsStart skipsStop k a) (part mark skipsStart skipsStop k b)

end SortKey

/-! ## Sorting -/

namespace Sorting

open Tool (Options Run str usage withOptions)

/-- How lines are put in order. -/
structure Rule where
  keys : List SortKey
  letters : Bytes
  mark : Option Char
  /-- Whether lines with equal keys count as equal. -/
  byKeys : Bool

/-- The order of two lines by the keys alone, and then by their bytes. -/
def Rule.compare (r : Rule) (a b : Bytes) : Ordering :=
  let byKeys := r.keys.foldl (fun o k => o.then (k.compare r.mark r.letters a b)) .eq
  if r.byKeys then byKeys
  else byKeys.then (if r.letters.contains 'r' then compareBytes b a else compareBytes a b)

/-- The rule that options ask for. -/
def Rule.ofOptions (o : Options) : Except String Rule := do
  let letters := (o.chosen.map (·.1)).filter SortKey.orderLetters.contains
  let keys ← (o.values 'k').mapM SortKey.read
  let mark ← match o.value? 't' with
    | none => pure none
    | some [] => throw "empty tab"
    | some [c] => pure (some c)
    | some ['\x5c', '0'] => pure (some '\x00')
    | some cs => throw ("multi-character tab '" ++ str cs ++ "'")
  let whole : SortKey := { start := { field := 1, place := 1, letters := [] } }
  let needed := letters.any fun c => c != 'r'
  return {
    keys := if keys.isEmpty && needed then [whole] else keys
    letters, mark
    byKeys := !(keys.isEmpty && !needed) && (o.has 'u' || o.has 's') }

/-- Lines without those that are equal to the line before. -/
def distinct (r : Rule) : List Bytes → List Bytes
  | [] => []
  | a :: rest =>
    match distinct r rest with
    | b :: more => if r.compare a b == .eq then a :: more else a :: b :: more
    | [] => [a]

/-- The number of the first line that is not in order. -/
def disorder? (r : Rule) (strict : Bool) : (n : Nat) → List Bytes → Option (Nat × Bytes)
  | n, a :: b :: rest =>
    let o := r.compare a b
    if o == .gt || strict && o == .eq then some (n + 1, b)
    else disorder? r strict (n + 1) (b :: rest)
  | _, _ => none

def sort : Run := withOptions "sort" "nrufbdighVcCsmMRz" "kto" 2 fun o s =>
  match Rule.ofOptions o with
  | .error message => s.complain ("sort: " ++ message) 2
  | .ok r =>
    let files := if o.operands.isEmpty then [['-']] else o.operands
    let gone := files.find? fun f => f != ['-'] && !s.files.contains (str f)
    let directory := files.find? fun f => s.files.isDirectory (str f)
    match gone, directory with
    | some f, _ =>
      s.complain ("sort: cannot read: " ++ str f ++ ": No such file or directory") 2
    | none, some f => s.complain ("sort: read failed: " ++ str f ++ ": Is a directory") 2
    | none, none =>
      let (texts, s) := Tool.inputs "sort" files s
      let lines := texts.flatMap fun t => (linesOf t.2).1
      if o.has 'c' || o.has 'C' then
        match files, disorder? r (o.has 'u') 1 lines with
        | _ :: extra :: _, _ =>
          s.complain ("sort: extra operand '" ++ str extra ++ "' not allowed with -c") 2
        | _, none => s
        | f, some (n, line) =>
          if o.has 'C' then s.finish 1
          else s.complain ("sort: " ++ str (f.headD []) ++ ":" ++ toString n ++ ": disorder: " ++
            str line) 1
      else
        let sorted := lines.mergeSort fun a b => r.compare a b != .gt
        let out := withEnds (if o.has 'u' then distinct r sorted else sorted)
        match o.value? 'o' with
        | none => s.print out
        | some f =>
          (Tool.replaceFile f out s).getD
            (s.complain ("sort: open failed: " ++ str f ++ ": No such file or directory") 2)

/-! ## Runs of lines -/

/-- Runs of neighbours that are alike. -/
def runs (alike : Bytes → Bytes → Bool) : List Bytes → List (Bytes × List Bytes)
  | [] => []
  | a :: rest =>
    match runs alike rest with
    | (b, more) :: others =>
      if alike a b then (a, b :: more) :: others else (a, []) :: (b, more) :: others
    | [] => [(a, [])]

/-- The part of a line that counts when lines are compared. -/
def compared (fields places : Nat) (width : Option Nat) (foldCase : Bool) (line : Bytes) : Bytes :=
  let rest := (SortKey.afterFields none fields line).drop places
  let rest := width.elim rest rest.take
  if foldCase then rest.map Char.toLower else rest

def uniq : Run := withOptions "uniq" "cduiDz" "fsw" 1 fun o s =>
  let amount (letter : Char) (what : String) : Except String (Option Nat) :=
    match o.value? letter with
    | none => .ok none
    | some v => match Decimal.nat? v with
      | some n => .ok (some n)
      | none => .error (str v ++ ": invalid number of " ++ what)
  match amount 'f' "fields to skip", amount 's' "bytes to skip", amount 'w' "bytes to compare" with
  | .ok fields, .ok places, .ok width =>
    if o.has 'c' && o.has 'D' then
      usage "uniq" "printing all duplicated lines and repeat counts is meaningless" 1 s
    else if 2 < o.operands.length then
      usage "uniq" ("extra operand '" ++ str (o.operands.getD 2 []) ++ "'") 1 s
    else
      let source := o.operands.headD ['-']
      if s.files.isDirectory (str source) then
        s.complain ("uniq: error reading '" ++ str source ++ "': Is a directory") 1
      else
        let (texts, s) := Tool.inputs "uniq" [source] s
        let key := compared (fields.getD 0) (places.getD 0) width (o.has 'i')
        let found := runs (fun a b => key a == key b) (texts.flatMap fun t => (linesOf t.2).1)
        let shown := found.filter fun (_, more) =>
          !((o.has 'd' || o.has 'D') && more.isEmpty) && !(o.has 'u' && !more.isEmpty)
        let out := withEnds (shown.flatMap fun (line, more) =>
          if o.has 'D' then line :: more
          else if o.has 'c' then
            [Printing.padded false false 7 (State.decimal (more.length + 1)) ++ ' ' :: line]
          else [line])
        match o.operands with
        | [_, target] =>
          if target == ['-'] then s.print out
          else (Tool.replaceFile target out s).getD
            (s.complain ("uniq: " ++ str target ++ ": No such file or directory") 1)
        | _ => s.print out
  | .error e, _, _ | _, .error e, _ | _, _, .error e => s.complain ("uniq: " ++ e) 1

end Sorting
end Shell
end DocExamples
